import Mathlib.Data.Option.Basic
import StateMachine.Program.Rendering
import StateMachine.Proofs.Program.Methods
import StateMachine.Proofs.Rust.Word

/-!
# The Names of a Program

The names of a program are made by joining names of the machine with `_` and reading the
result as an identifier, which skips blank ends and comments and takes `r#x` for `x`. That
names of the machine differ does not make the joined names differ. Nor does it keep them
apart from the names that every context has, since only transition names are compared with
those, and only as they were written.

Each function of the context has a `Role`, and `Machine.roles` lists the roles in the order
in which the functions are written, so that a function is known by its role and its name is
the reading of a text of the machine. What is left is a question about these readings.

## Main results

* `context_names_nodup_iff`: the variants of the states are distinct, and so are the functions
  of the context, **exactly when** no two places and no two roles are read as one identifier.
* `Machine.SimplyNamed.namesApart`: names of letters and digits **never collide**.
* `spaced_new_collides`, `passage_variants_collide`: other names may.
-/

namespace StateMachine

open Program

/-! ### Readings -/

/-- The name that a text is read as, if it is an identifier. -/
def Rust.Ident.reading? (text : String) : Option String :=
  (Rust.Ident.read "name" text 0).toOption.map Rust.Ident.text

/-- What a text is for, and where it stands, does not matter to its reading. -/
theorem Rust.Ident.reading?_of_read {what text : String} {line : Nat} {i : Rust.Ident}
    (h : Rust.Ident.read what text line = .ok i) : reading? text = some i.text := by
  have hread : Rust.Ident.read "name" text 0 = .ok i := readBy_eq_ok_of_readBy h
  rw [reading?, hread]
  rfl

/-- The text from which the variant of a place is read. -/
def Place.variantText (p : Place) : String :=
  p.map ++ "_" ++ p.state

/-- The text from which the name of a handler is read. -/
def Program.HandlerKey.text (k : HandlerKey) : String :=
  k.map ++ "_" ++ k.stateClass ++ "_" ++ k.transition

/-- The identifier of a variant is read from its place. -/
theorem Program.Variant.reading?_of_ofState {map : Map} {s : State} {line : Nat} {v : Variant}
    (h : Variant.ofState map s line = .ok v) :
    Rust.Ident.reading? v.place.variantText = some v.ident.text := by
  rw [Variant.place_of_ofState h]
  simp only [Variant.ofState, bind_eq_ok_iff, mapError_eq_ok_iff, pure, Except.pure,
    Except.ok.injEq] at h
  obtain ⟨ident, hident, rfl⟩ := h
  exact Rust.Ident.reading?_of_read hident

/-- The identifier of a handler is read from its key. -/
theorem Program.HandlerName.reading?_of_make {map stateClass transition : String} {line : Nat}
    {n : HandlerName} (h : HandlerName.make map stateClass transition line = .ok n) :
    Rust.Ident.reading? n.key.text = some n.ident.text := by
  obtain ⟨hkey, hident⟩ := HandlerName.make_eq_ok_iff.mp h
  rw [hkey]
  exact Rust.Ident.reading?_of_read hident

/-- The identifier of a method is read from the name of its transition. -/
theorem Program.Method.reading?_of_ofTransition {m : Machine} {t : Transition}
    {method : Method} (h : Method.ofTransition m t = .ok method) :
    Rust.Ident.reading? method.transition = some method.ident.text := by
  obtain ⟨htransition, hident, -⟩ := Method.ofTransition_eq_ok_iff.mp h
  rw [htransition]
  exact Rust.Ident.reading?_of_read (mapError_eq_ok_iff.mp hident)

/-! ### Roles -/

namespace Program

/-- What a function of the context is for. -/
inductive Role where
  /-- It is there in every context, or in every serial one. -/
  | fixed (name : String)
  /-- It issues a transition. -/
  | method (transition : String)
  | handler (key : HandlerKey)
  deriving DecidableEq, Repr

/-- The name of a function with the role, if it has one. -/
def Role.reading? : Role → Option String
  | .fixed name => some name
  | .method transition => Rust.Ident.reading? transition
  | .handler key => Rust.Ident.reading? key.text

/-- The text from which the name of a function with the role is read. -/
def Role.text : Role → String
  | .fixed name => name
  | .method transition => transition
  | .handler key => key.text

/-- The names of the functions before the methods. -/
def openingNames (serial : Bool) : List String :=
  ["new", "enter_start_state", "state", "fsm", "fsm_mut"] ++
    if serial then ["snapshot", "restore"] else []

/-- The names of the functions behind the handlers. -/
def closingNames : List String :=
  ["on_entry", "on_exit", "default_transition", "unhandled_transition"]

/-- The names of the functions of the context. A raw name counts as the name itself. -/
def functionNames (p : Program) : List String :=
  p.contextFunctions.map (·.ident.text)

/-- The functions of the context, by name. -/
theorem functionNames_eq (p : Program) :
    p.functionNames = openingNames p.isSerial ++ p.methods.map (·.ident.text) ++
      p.handlers.map (·.name.ident.text) ++ closingNames := by
  cases hserial : p.isSerial <;>
    simp [functionNames, contextFunctions, basicFunctions, serialFunctions, dispatchFunctions,
      methodFunction, handlerFunction, actionDispatcher, defaultDispatcher, unhandledFunction,
      openingNames, closingNames, hserial, Function.comp_def]

end Program

/-- The names of the transitions with a method. -/
def Machine.methodNames (m : Machine) : List String :=
  (m.transitions.filter fun t => t.name ≠ State.defaultTransition).map Transition.name

/-- The names of the transitions with a method, if they can have one. -/
theorem Machine.methodNames_eq {m : Machine} {ts : List Transition}
    (h : publicTransitions m = .ok ts) : m.methodNames = ts.map Transition.name := by
  rw [(publicTransitions_eq_ok_iff.mp h).1, Machine.methodNames]

/-- The roles of the functions of the context, in the order in which they are written. -/
def Machine.roles (m : Machine) (serial : Bool) : List Role :=
  (openingNames serial).map .fixed ++ m.methodNames.map .method ++ m.handlerKeys.map .handler ++
    closingNames.map .fixed

/-- What the roles of a machine are. -/
theorem Machine.mem_roles_iff {m : Machine} {serial : Bool} {r : Role} :
    r ∈ m.roles serial ↔
      (∃ name ∈ openingNames serial ++ closingNames, r = .fixed name) ∨
        (∃ name ∈ m.methodNames, r = .method name) ∨ ∃ key ∈ m.handlerKeys, r = .handler key := by
  simp only [Machine.roles, List.mem_append, List.mem_map, @eq_comm _ r]
  constructor
  · rintro (((⟨name, hname, h⟩ | hmethod) | hhandler) | ⟨name, hname, h⟩)
    · exact .inl ⟨name, .inl hname, h⟩
    · exact .inr (.inl hmethod)
    · exact .inr (.inr hhandler)
    · exact .inl ⟨name, .inr hname, h⟩
  · rintro (⟨name, hname | hname, h⟩ | hmethod | hhandler)
    · exact .inl (.inl (.inl ⟨name, hname, h⟩))
    · exact .inr ⟨name, hname, h⟩
    · exact .inl (.inl (.inr hmethod))
    · exact .inl (.inr hhandler)

/-- No two places and no two roles are read as one identifier. -/
structure Machine.NamesApart (m : Machine) (serial : Bool) : Prop where
  variants : ∀ a ∈ m.places, ∀ b ∈ m.places, ∀ name,
    Rust.Ident.reading? a.variantText = some name →
      Rust.Ident.reading? b.variantText = some name → a = b
  functions : ∀ r ∈ m.roles serial, ∀ r' ∈ m.roles serial, ∀ name,
    r.reading? = some name → r'.reading? = some name → r = r'

/-! ### Distinct names -/

/-- Names that are read from distinct keys are distinct exactly when no two keys are read as
one name. -/
theorem nodup_iff_of_readings {α : Type} {keys : List α} {names : List String}
    {reading? : α → Option String} (hkeys : keys.Nodup)
    (h : names.map some = keys.map reading?) :
    names.Nodup ↔ ∀ a ∈ keys, ∀ b ∈ keys, ∀ name,
      reading? a = some name → reading? b = some name → a = b := by
  rw [← List.nodup_map_iff (Option.some_injective String), h,
    List.nodup_map_iff_inj_on hkeys]
  constructor
  · intro hinj a ha b hb name hname hname'
    exact hinj a ha b hb (hname.trans hname'.symm)
  · intro hapart a ha b hb heq
    -- every key is read as some name, so equal readings are one name
    have hmem : reading? a ∈ names.map some := h ▸ List.mem_map_of_mem ha
    obtain ⟨name, -, hname⟩ := List.mem_map.mp hmem
    exact hapart a ha b hb name hname.symm (heq ▸ hname.symm)

/-- **The roles of a machine are distinct.** -/
theorem Machine.WellFormed.nodup_roles {m : Machine} (hm : m.WellFormed)
    (hmethods : m.methodNames.Nodup) (serial : Bool) : (m.roles serial).Nodup := by
  have hfixed : (openingNames serial ++ closingNames).Nodup := by cases serial <;> decide
  obtain ⟨hopening, hclosing, hapart⟩ := List.nodup_append.mp hfixed
  have hopening : ((openingNames serial).map Role.fixed).Nodup :=
    hopening.map fun _ _ => Role.fixed.inj
  have hclosing : (closingNames.map Role.fixed).Nodup := hclosing.map fun _ _ => Role.fixed.inj
  have hmethods : (m.methodNames.map Role.method).Nodup := hmethods.map fun _ _ => Role.method.inj
  have hhandlers : (m.handlerKeys.map Role.handler).Nodup :=
    hm.nodup_handlerKeys.map fun _ _ => Role.handler.inj
  refine ((hopening.append hmethods ?_).append hhandlers ?_).append hclosing ?_
  · simp [List.disjoint_left]
  · simp [List.disjoint_left, or_imp, forall_and]
  · simp only [List.disjoint_left, List.mem_append, List.mem_map]
    rintro _ ((⟨a, ha, rfl⟩ | ⟨a, -, rfl⟩) | ⟨a, -, rfl⟩) ⟨b, hb, heq⟩
    · exact hapart a ha b hb (Role.fixed.inj heq).symm
    · cases heq
    · cases heq

namespace Validated.Makes

variable {v : Validated} {o : OutputOptions} {p : Program}

/-- The variants are read from the places of the machine. -/
theorem map_reading_variants (h : v.Makes o p) :
    (p.variants.map (·.ident.text)).map some =
      v.machine.places.map fun a => Rust.Ident.reading? a.variantText := by
  rw [← h.map_place_variants]
  simp only [List.map_map, Function.comp_def]
  refine List.map_congr_left fun w hmem => ?_
  obtain ⟨⟨map, s⟩, -, hw⟩ := (mem_of_mapM_eq_ok h.variants).mp hmem
  exact (Variant.reading?_of_ofState hw).symm

/-- The methods have the names of the transitions with a method. -/
theorem map_transition_methods (h : v.Makes o p) :
    p.methods.map Method.transition = v.machine.methodNames := by
  obtain ⟨ts, hts, hmethods⟩ := Method.ofMachine_eq_ok_iff.mp h.methods
  rw [Method.map_transition_of_mapM hmethods, Machine.methodNames_eq hts]

/-- **The functions of the context are read from their roles.** -/
theorem map_reading_functionNames (h : v.Makes o p) :
    p.functionNames.map some = (v.machine.roles o.serial).map Role.reading? := by
  have hmethods : p.methods.map (fun method => some method.ident.text) =
      v.machine.methodNames.map Rust.Ident.reading? := by
    rw [← h.map_transition_methods]
    simp only [List.map_map, Function.comp_def]
    refine List.map_congr_left fun method hmem => ?_
    obtain ⟨ts, -, hok⟩ := Method.ofMachine_eq_ok_iff.mp h.methods
    obtain ⟨t, -, hmethod⟩ := (mem_of_mapM_eq_ok hok).mp hmem
    exact (Method.reading?_of_ofTransition hmethod).symm
  have hhandlers : p.handlers.map (fun handler => some handler.name.ident.text) =
      v.machine.handlerKeys.map fun key => Rust.Ident.reading? key.text := by
    rw [← h.map_key_handlers]
    simp only [List.map_map, Function.comp_def]
    refine List.map_congr_left fun handler hmem => ?_
    obtain ⟨map, -, ⟨s, -, t, -, hh⟩ | ⟨t, -, hh⟩⟩ := h.mem_handlers_iff.mp hmem
    · exact (HandlerName.reading?_of_make (Handler.ofTransition_eq_ok_iff.mp hh).1).symm
    · exact (HandlerName.reading?_of_make (Handler.forwarding_eq_ok_iff.mp hh).1).symm
  rw [functionNames_eq, h.isSerial, Machine.roles]
  simp only [List.map_append, List.map_map, Function.comp_def, hmethods, hhandlers,
    Role.reading?]

/-- The transitions with a method have distinct names. -/
theorem nodup_methodNames (h : v.Makes o p) : v.machine.methodNames.Nodup := by
  rw [← h.map_transition_methods]
  exact Method.nodup_map_transition h.methods

end Validated.Makes

/-- **When the names of a program are distinct.** The variants of the states are distinct,
and so are the functions of the context, exactly when no two places and no two roles of the
machine are read as one identifier. -/
theorem context_names_nodup_iff {m : Machine} {v : Validated} {o : OutputOptions} {p : Program}
    (hm : m.Built) (hv : m.validate = .ok v) (hp : v.program o = .ok p) :
    (p.variants.map (·.ident.text)).Nodup ∧ p.functionNames.Nodup ↔ m.NamesApart o.serial := by
  obtain rfl := Machine.machine_of_validate hv
  have hmakes := Validated.makes_of_program hp
  have hroles := hm.wellFormed.nodup_roles hmakes.nodup_methodNames o.serial
  rw [nodup_iff_of_readings hm.wellFormed.nodup_places hmakes.map_reading_variants,
    nodup_iff_of_readings hroles hmakes.map_reading_functionNames]
  constructor
  · rintro ⟨hvariants, hfunctions⟩
    exact ⟨hvariants, hfunctions⟩
  · rintro ⟨hvariants, hfunctions⟩
    exact ⟨hvariants, hfunctions⟩

/-! ### Simple names -/

/-- A text of ASCII letters and digits. -/
def IsSimple (text : String) : Prop :=
  ∀ c ∈ text.toList, c.isAlphanum = true

instance (text : String) : Decidable (IsSimple text) :=
  List.decidableBAll (fun c : Char => c.isAlphanum = true) text.toList

/-- All names are letters and digits. -/
structure Machine.SimplyNamed (m : Machine) : Prop where
  maps : ∀ map ∈ m.maps, IsSimple map.name
  states : ∀ map ∈ m.maps, ∀ s ∈ map.allStates, IsSimple s.className
  transitions : ∀ map ∈ m.maps, ∀ s ∈ map.allStates, ∀ t ∈ s.transitions, IsSimple t.name

/-- A simple text has no underscore. -/
theorem IsSimple.underscore_notMem {text : String} (h : IsSimple text) : '_' ∉ text.toList :=
  fun hmem => absurd (h '_' hmem) (by decide)

/-- A simple text is a word. -/
theorem IsSimple.isWord {text : String} (h : IsSimple text) : Rust.IsWord text :=
  fun c hc => .inl (h c hc)

/-- Words are joined to a word. -/
theorem Rust.IsWord.join {a b : String} (ha : IsWord a) (hb : IsWord b) :
    IsWord (a ++ "_" ++ b) := by
  intro c hc
  rw [String.toList_append, String.toList_append, List.mem_append, List.mem_append] at hc
  rcases hc with (hc | hc) | hc
  · exact ha c hc
  · exact .inr (List.mem_singleton.mp hc)
  · exact hb c hc

/-- A word is read as itself. -/
theorem Rust.Ident.eq_of_reading? {text name : String} (hword : IsWord text)
    (h : reading? text = some name) : name = text := by
  obtain ⟨i, hi, rfl⟩ := Option.map_eq_some_iff.mp h
  rw [eq_of_read_of_isWord hword (toOption_eq_some_iff.mp hi)]

/-- Texts joined behind texts without underscores can be told apart. -/
theorem join_inj {a a' b b' : String} (ha : '_' ∉ a.toList) (ha' : '_' ∉ a'.toList)
    (h : a ++ "_" ++ b = a' ++ "_" ++ b') : a = a' ∧ b = b' := by
  have hchars : a.toList ++ '_' :: b.toList = a'.toList ++ '_' :: b'.toList := by
    have hlist := congrArg String.toList h
    simpa [String.toList_append] using hlist
  rcases List.append_eq_append_iff.mp hchars with ⟨ds, hds, hrest⟩ | ⟨ds, hds, hrest⟩
  · cases ds with
    | nil =>
        rw [List.append_nil] at hds
        exact ⟨(String.toList_inj.mp hds).symm, String.toList_inj.mp (List.cons.inj hrest).2⟩
    | cons d ds =>
        obtain ⟨rfl, -⟩ := List.cons.inj hrest
        exact absurd (hds ▸ List.mem_append_right _ List.mem_cons_self) ha'
  · cases ds with
    | nil =>
        rw [List.append_nil] at hds
        exact ⟨String.toList_inj.mp hds, (String.toList_inj.mp (List.cons.inj hrest).2).symm⟩
    | cons d ds =>
        obtain ⟨rfl, -⟩ := List.cons.inj hrest
        exact absurd (hds ▸ List.mem_append_right _ List.mem_cons_self) ha

/-- The text of a key, with the map in front. -/
theorem Program.HandlerKey.text_eq (k : HandlerKey) :
    k.text = k.map ++ "_" ++ (k.stateClass ++ "_" ++ k.transition) := by
  simp only [HandlerKey.text, String.append_assoc]

/-- The transition in a key does not have a reserved name. -/
theorem Machine.key_notMem_reservedNames {m : Machine} {ts : List Transition}
    (hts : publicTransitions m = .ok ts) {k : HandlerKey} (hk : k ∈ m.handlerKeys) :
    k.transition ∉ reservedNames := by
  obtain ⟨map, hmap, -, -, s, hs, t, ht, htransition⟩ := Machine.exists_of_mem_handlerKeys hk
  rw [← htransition]
  by_cases hdefault : t.name = State.defaultTransition
  · rw [hdefault]
    decide
  · obtain ⟨u, hu, hname, -⟩ := exists_mem_publicTransitions hts hmap hs ht hdefault
    rw [← hname]
    exact (publicTransitions_eq_ok_iff.mp hts).2.2.2 u hu

namespace Machine.SimplyNamed

variable {m : Machine}

/-- The names of a place are simple. -/
theorem place (h : m.SimplyNamed) (hm : m.WellFormed) {a : Place} (ha : a ∈ m.places) :
    IsSimple a.map ∧ IsSimple a.state := by
  rw [Machine.places_eq_flatMap] at ha
  obtain ⟨map, hmap, ha⟩ := List.mem_flatMap.mp ha
  obtain ⟨s, hs, rfl⟩ := List.mem_map.mp ha
  have hinstance : s.instanceName = s.className :=
    State.instanceName_of_ordinary ((hm.maps map hmap).ordinary s hs)
  refine ⟨h.maps map hmap, ?_⟩
  show IsSimple s.instanceName
  rw [hinstance]
  exact h.states map hmap s (List.mem_append_right _ hs)

/-- The names in a key are simple. -/
theorem key (h : m.SimplyNamed) {k : HandlerKey} (hk : k ∈ m.handlerKeys) :
    IsSimple k.map ∧ IsSimple k.stateClass ∧ IsSimple k.transition := by
  obtain ⟨map, hmap, hname, hclass, s, hs, t, ht, htransition⟩ :=
    Machine.exists_of_mem_handlerKeys hk
  refine ⟨hname ▸ h.maps map hmap, ?_, htransition ▸ h.transitions map hmap s hs t ht⟩
  rcases hclass with hclass | ⟨s', hs', hclass⟩
  · rw [hclass]
    decide
  · exact hclass ▸ h.states map hmap s' hs'

/-- The name of a transition with a method is simple and not reserved. -/
theorem method (h : m.SimplyNamed) {ts : List Transition} (hts : publicTransitions m = .ok ts)
    {name : String} (hname : name ∈ m.methodNames) : IsSimple name ∧ name ∉ reservedNames := by
  rw [Machine.methodNames_eq hts] at hname
  obtain ⟨t, ht, rfl⟩ := List.mem_map.mp hname
  obtain ⟨-, map, hmap, s, hs, htmem⟩ := exists_of_mem_publicTransitions hts ht
  exact ⟨h.transitions map hmap s hs t htmem, (publicTransitions_eq_ok_iff.mp hts).2.2.2 t ht⟩

/-- No handler has the name of a function that is always there: the only such name with two
underscores ends with a reserved name. -/
theorem key_ne_fixed (h : m.SimplyNamed) {ts : List Transition}
    (hts : publicTransitions m = .ok ts) {k : HandlerKey} (hk : k ∈ m.handlerKeys)
    {serial : Bool} {name : String} (hname : name ∈ openingNames serial ++ closingNames) :
    k.text ≠ name := by
  intro heq
  obtain ⟨hmap, hclass, htransition⟩ := h.key hk
  have hcount : name.toList.count '_' = 2 := by
    rw [← heq, HandlerKey.text]
    simp [String.toList_append, List.count_append,
      List.count_eq_zero.mpr hmap.underscore_notMem,
      List.count_eq_zero.mpr hclass.underscore_notMem,
      List.count_eq_zero.mpr htransition.underscore_notMem]
  have honly : ∀ n ∈ openingNames serial ++ closingNames, n.toList.count '_' = 2 →
      n = "enter" ++ "_" ++ ("start" ++ "_" ++ "state") := by
    cases serial <;> decide
  have hlast := honly name hname hcount
  rw [← heq, HandlerKey.text_eq] at hlast
  obtain ⟨-, hlast⟩ := join_inj hmap.underscore_notMem (by decide) hlast
  obtain ⟨-, hlast⟩ := join_inj hclass.underscore_notMem (by decide) hlast
  exact key_notMem_reservedNames hts hk (hlast ▸ by decide)

/-- The text of a key is read as itself. -/
theorem key_isWord (h : m.SimplyNamed) {k : HandlerKey} (hk : k ∈ m.handlerKeys) :
    Rust.IsWord k.text := by
  obtain ⟨hmap, hclass, htransition⟩ := h.key hk
  exact (hmap.isWord.join hclass.isWord).join htransition.isWord

/-- Keys that give one text are one. -/
theorem key_inj (h : m.SimplyNamed) {k k' : HandlerKey} (hk : k ∈ m.handlerKeys)
    (hk' : k' ∈ m.handlerKeys) (heq : k.text = k'.text) : k = k' := by
  obtain ⟨hmap, hclass, -⟩ := h.key hk
  obtain ⟨hmap', hclass', -⟩ := h.key hk'
  rw [HandlerKey.text_eq, HandlerKey.text_eq] at heq
  obtain ⟨hm, hrest⟩ := join_inj hmap.underscore_notMem hmap'.underscore_notMem heq
  obtain ⟨hc, ht⟩ := join_inj hclass.underscore_notMem hclass'.underscore_notMem hrest
  obtain ⟨map, stateClass, transition⟩ := k
  obtain ⟨map', stateClass', transition'⟩ := k'
  cases hm
  cases hc
  cases ht
  rfl

/-- No method has the name of a function that is always there. -/
theorem method_ne_fixed (h : m.SimplyNamed) {ts : List Transition}
    (hts : publicTransitions m = .ok ts) {transition : String}
    (ht : transition ∈ m.methodNames) {serial : Bool} {name : String}
    (hname : name ∈ openingNames serial ++ closingNames) : transition ≠ name := by
  have hreserved : openingNames serial ++ closingNames ⊆ reservedNames := by
    cases serial <;> decide
  intro heq
  exact (h.method hts ht).2 (heq ▸ hreserved hname)

/-- No handler has the name of a method, which has no underscore. -/
theorem key_ne_method (h : m.SimplyNamed) {ts : List Transition}
    (hts : publicTransitions m = .ok ts) {k : HandlerKey} {transition : String}
    (ht : transition ∈ m.methodNames) : k.text ≠ transition := by
  intro heq
  refine (h.method hts ht).1.underscore_notMem ?_
  rw [← heq, HandlerKey.text_eq]
  simp [String.toList_append]

/-- Places that give one text are one. -/
theorem place_inj (h : m.SimplyNamed) (hm : m.WellFormed) {a b : Place} (ha : a ∈ m.places)
    (hb : b ∈ m.places) (heq : a.variantText = b.variantText) : a = b := by
  obtain ⟨hmap, -⟩ := h.place hm ha
  obtain ⟨hmap', -⟩ := h.place hm hb
  obtain ⟨hm, hs⟩ := join_inj hmap.underscore_notMem hmap'.underscore_notMem heq
  obtain ⟨map, state⟩ := a
  obtain ⟨map', state'⟩ := b
  cases hm
  cases hs
  rfl

/-- Roles that give one text are one. -/
theorem role_inj (h : m.SimplyNamed) {ts : List Transition}
    (hts : publicTransitions m = .ok ts) {serial : Bool} {r r' : Role} (hr : r ∈ m.roles serial)
    (hr' : r' ∈ m.roles serial) (heq : r.text = r'.text) : r = r' := by
  rcases Machine.mem_roles_iff.mp hr with ⟨n, hn, rfl⟩ | ⟨t, ht, rfl⟩ | ⟨k, hk, rfl⟩ <;>
    rcases Machine.mem_roles_iff.mp hr' with ⟨n', hn', rfl⟩ | ⟨t', ht', rfl⟩ | ⟨k', hk', rfl⟩
  · exact congrArg Role.fixed heq
  · exact absurd heq.symm (h.method_ne_fixed hts ht' hn)
  · exact absurd heq.symm (h.key_ne_fixed hts hk' hn)
  · exact absurd heq (h.method_ne_fixed hts ht hn')
  · exact congrArg Role.method heq
  · exact absurd heq.symm (h.key_ne_method hts ht)
  · exact absurd heq (h.key_ne_fixed hts hk hn')
  · exact absurd heq (h.key_ne_method hts ht')
  · exact congrArg Role.handler (h.key_inj hk hk' heq)

/-- A role is read as its text. -/
theorem text_eq_of_reading? (h : m.SimplyNamed) {ts : List Transition}
    (hts : publicTransitions m = .ok ts) {serial : Bool} {r : Role} (hr : r ∈ m.roles serial)
    {name : String} (hname : r.reading? = some name) : r.text = name := by
  rcases Machine.mem_roles_iff.mp hr with ⟨n, -, rfl⟩ | ⟨t, ht, rfl⟩ | ⟨k, hk, rfl⟩
  · exact Option.some.inj hname
  · exact (Rust.Ident.eq_of_reading? (h.method hts ht).1.isWord hname).symm
  · exact (Rust.Ident.eq_of_reading? (h.key_isWord hk) hname).symm

/-- **Simple names never collide.** -/
theorem namesApart {v : Validated} {o : OutputOptions} {p : Program} (h : m.SimplyNamed)
    (hm : m.Built) (hv : m.validate = .ok v) (hp : v.program o = .ok p) :
    m.NamesApart o.serial := by
  obtain rfl := Machine.machine_of_validate hv
  obtain ⟨ts, hts, -⟩ := Method.ofMachine_eq_ok_iff.mp (Validated.makes_of_program hp).methods
  have hread : ∀ a ∈ v.machine.places, ∀ name,
      Rust.Ident.reading? a.variantText = some name → name = a.variantText := by
    intro a ha name hname
    obtain ⟨hmap, hstate⟩ := h.place hm.wellFormed ha
    exact Rust.Ident.eq_of_reading? (hmap.isWord.join hstate.isWord) hname
  constructor
  · intro a ha b hb name hname hname'
    exact h.place_inj hm.wellFormed ha hb
      ((hread a ha name hname).symm.trans (hread b hb name hname'))
  · intro r hr r' hr' name hname hname'
    exact h.role_inj hts hr hr'
      ((h.text_eq_of_reading? hts hr hname).trans (h.text_eq_of_reading? hts hr' hname').symm)

end Machine.SimplyNamed

/-! ### A door -/

/-- The transition of a door, which is always taken. -/
def doorTransition (name : String) : Transition :=
  { name, line := 3, guards := [.make "" (.set .nil) 0 []] }

/-- The map of a door. -/
def doorMap (name : String) : Map :=
  { name := "M", states := [{ className := "A", transitions := [doorTransition name] }] }

/-- A door with one state and one transition of the given name. -/
def door (name : String) : Machine :=
  Machine.setStart { context := "Door", maps := [doorMap name] } "M::A" 1

/-- A door can be put together, whatever the name is. -/
theorem door_built (name : String) : (door name).Built := by
  have htransition : (doorTransition name).Built :=
    .addGuard (.new name 3) (.make "" _ 0 _) rfl
  have hstate : (State.mk "A" 0 [] [] [doorTransition name]).Built :=
    .addTransition (.new "A" 0) htransition rfl
  have hmap : (doorMap name).Built :=
    .addState (.new "M" 0) hstate (Map.addState_eq_ok_iff.mpr (.inr ⟨rfl, rfl, rfl⟩))
  exact .setStart "M::A" 1 (.addMap (.new "Door") hmap rfl)

/-- The names of the variants and of the functions of the context that are generated for a
machine without options. -/
def Machine.generatedNames? (m : Machine) : Option (List String × List String) :=
  m.validate.toOption.bind fun v =>
    (v.program {}).toOption.map fun p => (p.variants.map (·.ident.text), p.functionNames)

/-- Names come from a program. -/
theorem Machine.exists_of_generatedNames? {m : Machine} {variants functions : List String}
    (h : m.generatedNames? = some (variants, functions)) :
    ∃ v p, m.validate = .ok v ∧ v.program {} = .ok p ∧
      p.variants.map (·.ident.text) = variants ∧ p.functionNames = functions := by
  obtain ⟨v, hv, h⟩ := Option.bind_eq_some_iff.mp h
  obtain ⟨p, hp, hnames⟩ := Option.map_eq_some_iff.mp h
  obtain ⟨hvariants, hfunctions⟩ := Prod.mk.inj hnames
  exact ⟨v, p, toOption_eq_some_iff.mp hv, toOption_eq_some_iff.mp hp, hvariants, hfunctions⟩

/-- The names of a door with a transition `close` are distinct. -/
theorem close_door_namesApart :
    ∃ v p, (door "close").Built ∧ (door "close").validate = .ok v ∧ v.program {} = .ok p ∧
      (door "close").NamesApart false := by
  have hnames : (door "close").generatedNames? = some (["M_A"],
      ["new", "enter_start_state", "state", "fsm", "fsm_mut", "close", "M_Default_close",
       "M_A_close", "on_entry", "on_exit", "default_transition", "unhandled_transition"]) := by
    decide +kernel
  obtain ⟨v, p, hv, hp, hvariants, hfunctions⟩ := Machine.exists_of_generatedNames? hnames
  refine ⟨v, p, door_built "close", hv, hp, ?_⟩
  refine (context_names_nodup_iff (door_built "close") hv hp).mp ⟨?_, ?_⟩
  · rw [hvariants]
    decide
  · rw [hfunctions]
    decide

/-- **Functions can collide**: a transition named `new` with a blank behind it is no reserved
name as written, but its method is a second function `new`. -/
theorem spaced_new_collides :
    ∃ v p, (door "new ").Built ∧ (door "new ").validate = .ok v ∧ v.program {} = .ok p ∧
      ¬ p.functionNames.Nodup := by
  have hnames : (door "new ").generatedNames? = some (["M_A"],
      ["new", "enter_start_state", "state", "fsm", "fsm_mut", "new", "M_Default_new",
       "M_A_new", "on_entry", "on_exit", "default_transition", "unhandled_transition"]) := by
    decide +kernel
  obtain ⟨v, p, hv, hp, -, hfunctions⟩ := Machine.exists_of_generatedNames? hnames
  refine ⟨v, p, door_built "new ", hv, hp, ?_⟩
  rw [hfunctions]
  decide

/-- A passage whose two states have different names that are joined to the same. -/
def passage : Machine :=
  Machine.setStart
    { context := "Door"
      maps := [
        { name := "A", states := [{ className := "B_C" }] },
        { name := "A_B", states := [{ className := "C" }] }] }
    "A::B_C" 1

/-- The passage can be put together. -/
theorem passage_built : passage.Built := by
  have hfirst : (Map.mk "A" 0 [{ className := "B_C" }] none).Built :=
    .addState (.new "A" 0) (.new "B_C" 0) (Map.addState_eq_ok_iff.mpr (.inr ⟨rfl, rfl, rfl⟩))
  have hsecond : (Map.mk "A_B" 0 [{ className := "C" }] none).Built :=
    .addState (.new "A_B" 0) (.new "C" 0) (Map.addState_eq_ok_iff.mpr (.inr ⟨rfl, rfl, rfl⟩))
  have hone : (Machine.mk "Door" none none none none none [] [] []
      [Map.mk "A" 0 [{ className := "B_C" }] none]).Built :=
    .addMap (.new "Door") hfirst rfl
  exact .setStart "A::B_C" 1
    (.addMap hone hsecond (Machine.addMap_eq_ok_iff.mpr ⟨by decide, rfl⟩))

/-- **Variants can collide**, though their states are in different maps and have different
names. -/
theorem passage_variants_collide :
    ∃ v p, passage.Built ∧ passage.validate = .ok v ∧ v.program {} = .ok p ∧
      ¬ (p.variants.map (·.ident.text)).Nodup := by
  have hnames : passage.generatedNames? = some (["A_B_C", "A_B_C"],
      ["new", "enter_start_state", "state", "fsm", "fsm_mut", "on_entry", "on_exit",
       "default_transition", "unhandled_transition"]) := by
    decide +kernel
  obtain ⟨v, p, hv, hp, hvariants, -⟩ := Machine.exists_of_generatedNames? hnames
  refine ⟨v, p, passage_built, hv, hp, ?_⟩
  rw [hvariants]
  decide

end StateMachine
