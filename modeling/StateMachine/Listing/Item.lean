import StateMachine.Listing.Page

/-!
# Listing Items

A listing is a sequence of items: lines, empty lines, and blocks. A block has an opening
line that ends with a brace, items one level deeper, and a closing brace on a line of its
own. Items are the only way a listing reaches a page, so the braces of its blocks match and
its depth is that of its open blocks.
-/

namespace StateMachine.Listing

/-- A line, an empty line or a block of a listing. -/
inductive Item where
  | line (text : String)
  | blank
  | block (opening : String) (body : List Item)

mutual

/-- Writes an item on the page. -/
def Item.write : Item → Page → Page
  | .line text, page => page.line text
  | .blank, page => page.blank
  | .block opening body, page =>
    (Item.writeAll body (page.line opening).indent).outdent.line "\x7d"

/-- Writes items on the page, one after the other. -/
def Item.writeAll : List Item → Page → Page
  | [], page => page
  | item :: rest, page => Item.writeAll rest (item.write page)

end

/-- `opening {`, the body, and `}`; or `opening {}` if the body is empty. -/
def Item.braced (opening : String) (body : List Item) : Item :=
  if body.isEmpty then .line (opening ++ " \x7b\x7d") else .block (opening ++ " \x7b") body

end StateMachine.Listing
