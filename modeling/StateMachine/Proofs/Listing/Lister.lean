import StateMachine.Listing.Basic

/-!
# A Lister Carries Nothing Over

A lister is used for one machine after the other, valid or not. Between listings it keeps its
page, the start state of the machine before, and the remarks on unreachable states that were not
written. None of this gets into a later listing.

## Proof strategy

Taking up a machine sets every field but the level, so a listing depends on the level alone
(`emit_eq`). A listing does not change the level, and a machine that fails validation changes
nothing (`level_after`). So, by induction on the machines before, each listing is that of a lister
that was never used.

## Main results

* `Lister.emit_eq`: what a lister hands over, and what it keeps.
* `Lister.after_eq`: a lister that was used is as the **last valid machine** left it.
* `lister_carries_nothing_over`: in **every sequence of machines** each valid one has the listing
  that a fresh lister makes of it.
-/

namespace StateMachine.Listing

namespace Lister

/-- **A listing depends on the level alone.** What is kept is the start state and, unless they were
written, the remarks; the page is handed over. -/
theorem emit_eq (l : Lister) (v : Validated) :
    l.emit v = (render l.level v,
      { level := l.level
        page := {}
        start := startText v
        unreachable := if l.level = .full then [] else v.unreachable.map Place.text }) :=
  rfl

/-- The lister after machines were put through it. -/
def after (l : Lister) : List Machine → Lister
  | [] => l
  | m :: rest =>
    match m.validate with
    | .error _ => l.after rest
    | .ok v => (l.emit v).2.after rest

/-- **A lister that was used is as the last valid machine left it**, and untouched if there was
none. -/
theorem after_eq (l : Lister) (ms : List Machine) :
    l.after ms = ((ms.filterMap fun m => m.validate.toOption).getLast?).elim l
      fun v => (l.emit v).2 := by
  induction ms generalizing l with
  | nil => rfl
  | cons m rest ih =>
      rw [after, List.filterMap_cons]
      cases m.validate with
      | error defect => exact ih l
      | ok v =>
          show (l.emit v).2.after rest = (v :: rest.filterMap _).getLast?.elim l _
          rw [ih, List.getLast?_cons]
          cases (rest.filterMap fun m => m.validate.toOption).getLast? <;> rfl

/-- Only the level is certain to be kept. -/
theorem level_after (l : Lister) (ms : List Machine) : (l.after ms).level = l.level := by
  rw [after_eq]
  cases (ms.filterMap fun m => m.validate.toOption).getLast? <;> rfl

end Lister

/-- **Nothing is carried over.** Whatever a lister was used for, and whatever is left on its page,
the machines that are put through it are reported, or listed as by a fresh lister of its level,
each on its own. So is a machine that it lists after them. -/
theorem lister_carries_nothing_over (l : Lister) (ms : List Machine) :
    (l.emitAll ms =
      ms.map fun m => m.validate.map fun v => (Lister.emit { level := l.level } v).1) ∧
    ∀ v, ((l.after ms).emit v).1 = (Lister.emit { level := l.level } v).1 := by
  constructor
  · induction ms generalizing l with
    | nil => rfl
    | cons m rest ih =>
        rw [Lister.emitAll, List.map_cons]
        cases m.validate with
        | error defect => exact congrArg (.error defect :: ·) (ih l)
        | ok v => exact congrArg (.ok (l.emit v).1 :: ·) (ih (l.emit v).2)
  · intro v
    rw [Lister.emit_eq, Lister.emit_eq, Lister.level_after]

end StateMachine.Listing
