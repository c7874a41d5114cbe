import StateMachine.Proofs.Program.Methods

/-!
# Where a Call Ends Up

A method calls the handler of the current state. A handler takes a branch or forwards the
call, and so do the handlers behind it, until a branch is taken or the call is unhandled.
`Lands` follows a call to its landing through the functions of a program, and `Executes`
does so from the method of a transition on. Names are read in the frame of the function
they stand in, and arguments are handed over by position.

## Conventions

* What is followed are the tables of a program. That they are what is written is said by
  `Validated.Makes.standsIn`.
* Conditions are pure: whether a condition holds is given by a truth assignment `truth`,
  which may tell apart equal conditions at different sites.
* A handler is called by its key. Nothing here says that keys are distinct; if two handlers
  share one, a call may go to either.
* `passed place args` are the values that every handler is called with: the owner, the
  state, and the arguments of the transition.

## Main results

* `lands_handler_iff`, `lands_defaultTransition_iff`, `lands_unhandled_iff`: one step of a
  call, given that keys and places are distinct.
* `executes_iff`: the first step of a method.
* `call?_handler_of_passed`, `call?_handler_nil`: forwards hand on what was passed.
-/

namespace StateMachine.Program

variable {V : Type}

/-! ### Frames -/

/-- Where a guard stands: in a handler, behind `index` others. -/
structure Site where
  handler : HandlerKey
  index : Nat
  deriving DecidableEq, Repr

/-- Which conditions hold where they stand. -/
abbrev Truth := Site → Rust.Fragment → Bool

/-- What a name in a function stands for. -/
inductive Value (V : Type) where
  | owner
  | state (place : Place)
  /-- An argument of the transition. -/
  | argument (v : V)

/-- The names of a function with what they stand for; inner names come first. -/
abbrev Frame (V : Type) := List (String × Value V)

/-- The frame of a function with the parameters `names` that is called with `values`. There
is none unless the numbers agree. -/
def Frame.enter (names : List String) (values : List (Value V)) : Option (Frame V) :=
  if names.length = values.length then some (names.zip values) else none

/-- What names stand for. -/
def Frame.read (frame : Frame V) (names : List String) : Option (List (Value V)) :=
  names.mapM fun name => frame.lookup name

/-- The name of the owner in every function. -/
def ownerName : String := "ctxt"

/-- The name of the state in every handler and dispatcher. -/
def stateName : String := "state"

/-- The names of the parameters of a handler. -/
def Binding.handlerNames (bs : List Binding) : List String :=
  ownerName :: stateName :: bs.map (·.name.text)

/-- The names of the parameters of a method. -/
def Binding.methodNames (bs : List Binding) : List String :=
  ownerName :: bs.map (·.name.text)

/-! ### Calls -/

/-- A call of a handler, of the dispatcher of `Default` transitions, or of the end of all
forwards. -/
inductive Call (V : Type) where
  | handler (key : HandlerKey) (values : List (Value V))
  | defaultTransition (values : List (Value V))
  | unhandled (values : List (Value V))

/-- The call that a forward makes. -/
def Forward.call? (frame : Frame V) : Forward → Option (Call V)
  | .handler target arguments =>
    (frame.read (ownerName :: stateName :: arguments.map Rust.Ident.text)).map
      (.handler target.key)
  | .defaultTransition => (frame.read [ownerName, stateName]).map .defaultTransition
  | .unhandled => (frame.read [stateName]).map .unhandled

/-- What a handler chooses to do. -/
inductive Choice where
  /-- To take its branch number `index`. -/
  | take (index : Nat) (branch : Branch)
  | forward (f : Forward)
  /-- To end without having done anything. -/
  | finish

/-- A handler takes the first branch without a condition or with one that holds. -/
def Handler.choice (truth : Truth) (h : Handler) : Choice :=
  match h.body with
  | .forward f => .forward f
  | .branches bs otherwise =>
    match bs.zipIdx.find? fun (b, i) => b.condition.all (truth ⟨h.name.key, i⟩) with
    | some (b, i) => .take i b
    | none => otherwise.elim .finish .forward

/-- How a call ends. -/
inductive Landing (V : Type) where
  /-- The statements of one branch run in the frame of its handler. -/
  | body (site : Site) (frame : Frame V) (statements : List Statement)
  | unhandled (place : Place)
  /-- A handler ends without having done anything. -/
  | finished

/-- How a call lands in a program. -/
inductive Lands (p : Program) (truth : Truth) : Call V → Landing V → Prop
  | take {h : Handler} {values : List (Value V)} {frame : Frame V} {i : Nat} {b : Branch} :
      h ∈ p.handlers → Frame.enter (Binding.handlerNames h.parameters) values = some frame →
      h.choice truth = .take i b →
      Lands p truth (.handler h.name.key values) (.body ⟨h.name.key, i⟩ frame b.statements)
  | forward {h : Handler} {values : List (Value V)} {frame : Frame V} {f : Forward}
      {call : Call V} {l : Landing V} :
      h ∈ p.handlers → Frame.enter (Binding.handlerNames h.parameters) values = some frame →
      h.choice truth = .forward f → f.call? frame = some call → Lands p truth call l →
      Lands p truth (.handler h.name.key values) l
  | finish {h : Handler} {values : List (Value V)} {frame : Frame V} :
      h ∈ p.handlers → Frame.enter (Binding.handlerNames h.parameters) values = some frame →
      h.choice truth = .finish → Lands p truth (.handler h.name.key values) .finished
  | dispatch {d : Dispatch} {values : List (Value V)} {frame : Frame V} {call : Call V}
      {l : Landing V} :
      d ∈ p.dispatch → Frame.enter [ownerName, stateName] values = some frame →
      frame.lookup stateName = some (.state d.variant.place) →
      d.fallback.call? frame = some call → Lands p truth call l →
      Lands p truth (.defaultTransition values) l
  | unhandled {place : Place} : Lands p truth (.unhandled [.state place]) (.unhandled place)

/-- The method of the transition `name` is called with `args` while the state at `place` is
current, and its call lands at `l`. The state is bound inside the parameters. -/
def Executes (p : Program) (truth : Truth) (name : String) (place : Place)
    (args : List V) (l : Landing V) : Prop :=
  ∃ method ∈ p.methods, method.transition = name ∧
    ∃ arm ∈ method.arms, arm.variant.place = place ∧
      ∃ frame call,
        Frame.enter (Binding.methodNames method.parameters)
          (.owner :: args.map .argument) = some frame ∧
        arm.forward.call? ((stateName, .state place) :: frame) = some call ∧
        Lands p truth call l

/-- The values that a handler is called with. -/
def passed (place : Place) (args : List V) : List (Value V) :=
  .owner :: .state place :: args.map .argument

/-- The frame of a handler with the parameters `bs`. -/
def frameOf (bs : List Binding) (place : Place) (args : List V) : Frame V :=
  (Binding.handlerNames bs).zip (passed place args)

/-- The frame of a method with the parameters `bs`, inside of which the state is bound. -/
def methodFrame (bs : List Binding) (place : Place) (args : List V) : Frame V :=
  (stateName, .state place) :: (Binding.methodNames bs).zip (.owner :: args.map .argument)

/-! ### Reading names -/

/-- Reading names in turn. -/
theorem Frame.read_cons {frame : Frame V} {name : String} {names : List String} :
    frame.read (name :: names) =
      (frame.lookup name).bind fun value => (frame.read names).map (value :: ·) := by
  unfold Frame.read
  rw [List.mapM_cons]
  cases frame.lookup name with
  | none => rfl
  | some value => cases names.mapM fun name => frame.lookup name <;> rfl

/-- A name is read without regard to names that are not asked for. -/
theorem Frame.read_cons_of_notMem {frame : Frame V} {name : String} {value : Value V}
    {names : List String} (h : name ∉ names) :
    Frame.read ((name, value) :: frame) names = frame.read names := by
  induction names with
  | nil => rfl
  | cons other rest ih =>
      obtain ⟨hne, hrest⟩ := not_or.mp (mt List.mem_cons.mpr h)
      have hlookup : List.lookup other ((name, value) :: frame) = frame.lookup other := by
        rw [List.lookup_cons, beq_false_of_ne (Ne.symm hne)]
      rw [Frame.read_cons, Frame.read_cons, hlookup, ih hrest]

/-- Distinct names read back the values they were given. -/
theorem Frame.read_zip {names : List String} {values : List (Value V)} (hnodup : names.Nodup)
    (hlength : names.length = values.length) :
    Frame.read (names.zip values) names = some values := by
  induction names generalizing values with
  | nil =>
      obtain rfl := List.length_eq_zero_iff.mp hlength.symm
      rfl
  | cons name rest ih =>
      obtain ⟨hname, hrest⟩ := List.nodup_cons.mp hnodup
      cases values with
      | nil => cases hlength
      | cons value others =>
          rw [List.zip_cons_cons, Frame.read_cons, List.lookup_cons_self,
            Frame.read_cons_of_notMem hname, ih hrest (Nat.succ.inj hlength)]
          rfl

/-! ### Handing on what was passed -/

section

variable {bs : List Binding} {place : Place} {args : List V}

/-- A handler is entered with as many arguments as it has parameters. -/
theorem enter_passed (hlength : bs.length = args.length) :
    Frame.enter (Binding.handlerNames bs) (passed place args) =
      some (frameOf bs place args) := by
  unfold Frame.enter
  rw [if_pos (by simp [Binding.handlerNames, passed, hlength])]
  rfl

/-- The owner is the owner. -/
@[simp] theorem lookup_ownerName_frameOf :
    (frameOf bs place args).lookup ownerName = some .owner :=
  List.lookup_cons_self

/-- The state is the state. -/
@[simp] theorem lookup_stateName_frameOf :
    (frameOf bs place args).lookup stateName = some (.state place) := by
  have hne : (stateName == ownerName) = false := by decide
  rw [frameOf, Binding.handlerNames, passed, List.zip_cons_cons, List.zip_cons_cons,
    List.lookup_cons, hne]
  exact List.lookup_cons_self

/-- A handler that forwards its parameters hands on all that was passed. -/
theorem call?_handler_of_passed (hnodup : (Binding.handlerNames bs).Nodup)
    (hlength : bs.length = args.length) (target : HandlerName) :
    (Forward.handler target (bs.map Binding.name)).call? (frameOf bs place args) =
      some (.handler target.key (passed place args)) := by
  have hnames : ownerName :: stateName :: (bs.map Binding.name).map Rust.Ident.text =
      Binding.handlerNames bs := by
    rw [List.map_map]
    rfl
  have hread : (frameOf bs place args).read (Binding.handlerNames bs) =
      some (passed place args) :=
    Frame.read_zip hnodup (by simp [Binding.handlerNames, passed, hlength])
  simp only [Forward.call?]
  rw [hnames, hread]
  rfl

/-- A forward without arguments hands on the owner and the state. -/
@[simp] theorem call?_handler_nil (target : HandlerName) :
    (Forward.handler target []).call? (frameOf bs place args) =
      some (.handler target.key (passed place [])) := by
  simp [Forward.call?, passed, Frame.read]

/-- So does a forward to the dispatcher of `Default` transitions. -/
@[simp] theorem call?_defaultTransition :
    Forward.defaultTransition.call? (frameOf bs place args) =
      some (.defaultTransition (passed place [])) := by
  simp [Forward.call?, passed, Frame.read]

/-- An unhandled transition is given the state. -/
@[simp] theorem call?_unhandled :
    Forward.unhandled.call? (frameOf bs place args) = some (.unhandled [.state place]) := by
  simp [Forward.call?, Frame.read]

/-- In the frame of a method, all that is to be passed can be read. -/
theorem read_methodFrame (hnodup : (Binding.handlerNames bs).Nodup)
    (hlength : bs.length = args.length) :
    (methodFrame bs place args).read (Binding.handlerNames bs) = some (passed place args) := by
  obtain ⟨howner, hrest⟩ := List.nodup_cons.mp hnodup
  obtain ⟨hstate, hnames⟩ := List.nodup_cons.mp hrest
  have hne : (ownerName == stateName) = false := by decide
  have hread : Frame.read ((bs.map (·.name.text)).zip (args.map Value.argument))
      (bs.map (·.name.text)) = some (args.map Value.argument) :=
    Frame.read_zip hnames (by simp [hlength])
  rw [methodFrame, Binding.handlerNames, Binding.methodNames, List.zip_cons_cons,
    Frame.read_cons, Frame.read_cons, List.lookup_cons_self, List.lookup_cons, hne,
    List.lookup_cons_self, Frame.read_cons_of_notMem hstate,
    Frame.read_cons_of_notMem (fun hmem => howner (List.mem_cons_of_mem _ hmem)), hread]
  rfl

/-- A method that forwards its parameters hands on all that is to be passed. -/
theorem call?_handler_methodFrame (hnodup : (Binding.handlerNames bs).Nodup)
    (hlength : bs.length = args.length) (target : HandlerName) :
    (Forward.handler target (bs.map Binding.name)).call? (methodFrame bs place args) =
      some (.handler target.key (passed place args)) := by
  have hnames : ownerName :: stateName :: (bs.map Binding.name).map Rust.Ident.text =
      Binding.handlerNames bs := by
    rw [List.map_map]
    rfl
  simp only [Forward.call?]
  rw [hnames, read_methodFrame hnodup hlength]
  rfl

/-- A method can forward to the dispatcher of `Default` transitions as well. -/
@[simp] theorem call?_defaultTransition_methodFrame :
    Forward.defaultTransition.call? (methodFrame bs place args) =
      some (.defaultTransition (passed place [])) := by
  have hne : (ownerName == stateName) = false := by decide
  simp [Forward.call?, Frame.read, methodFrame, Binding.methodNames, passed, List.lookup_cons, hne]

end

/-! ### One step of a call -/

section

variable {p : Program} {truth : Truth} {l : Landing V}

/-- What a handler does when it is called, if no other has its key. -/
theorem lands_handler_iff (hkeys : (p.handlers.map (·.name.key)).Nodup) {h : Handler}
    (hmem : h ∈ p.handlers) {values : List (Value V)} {frame : Frame V}
    (henter : Frame.enter (Binding.handlerNames h.parameters) values = some frame) :
    Lands p truth (.handler h.name.key values) l ↔
      match h.choice truth with
      | .take i b => l = .body ⟨h.name.key, i⟩ frame b.statements
      | .forward f => ∃ call, f.call? frame = some call ∧ Lands p truth call l
      | .finish => l = .finished := by
  constructor
  · generalize hcall : Call.handler h.name.key values = called
    intro hlands
    cases hlands with
    | @take h' _ _ i b hmem' henter' hchoice =>
        obtain ⟨hkey, rfl⟩ := Call.handler.inj hcall
        obtain rfl : h' = h := List.inj_on_of_nodup_map hkeys hmem' hmem hkey.symm
        obtain rfl := Option.some.inj (henter.symm.trans henter')
        rw [hchoice]
    | @forward h' _ _ f call _ hmem' henter' hchoice hf hrest =>
        obtain ⟨hkey, rfl⟩ := Call.handler.inj hcall
        obtain rfl : h' = h := List.inj_on_of_nodup_map hkeys hmem' hmem hkey.symm
        obtain rfl := Option.some.inj (henter.symm.trans henter')
        rw [hchoice]
        exact ⟨call, hf, hrest⟩
    | @finish h' _ _ hmem' henter' hchoice =>
        obtain ⟨hkey, rfl⟩ := Call.handler.inj hcall
        obtain rfl : h' = h := List.inj_on_of_nodup_map hkeys hmem' hmem hkey.symm
        rw [hchoice]
    | dispatch => cases hcall
    | unhandled => cases hcall
  · cases hchoice : h.choice truth with
    | take i b =>
        rintro rfl
        exact .take hmem henter hchoice
    | forward f =>
        rintro ⟨call, hf, hrest⟩
        exact .forward hmem henter hchoice hf hrest
    | finish =>
        rintro rfl
        exact .finish hmem henter hchoice

/-- What the dispatcher of `Default` transitions does in the state at `place`, if the places
of its arms are distinct. -/
theorem lands_defaultTransition_iff (hplaces : (p.dispatch.map (·.variant.place)).Nodup)
    {d : Dispatch} (hmem : d ∈ p.dispatch) {place : Place} (hplace : d.variant.place = place) :
    Lands p truth (.defaultTransition (passed place [])) l ↔
      ∃ call, d.fallback.call? (frameOf [] place ([] : List V)) = some call ∧
        Lands p truth call l := by
  subst hplace
  have henter : Frame.enter [ownerName, stateName] (passed d.variant.place ([] : List V)) =
      some (frameOf [] d.variant.place []) := rfl
  constructor
  · generalize hcall : Call.defaultTransition (passed d.variant.place []) = called
    intro hlands
    cases hlands with
    | @dispatch d' _ _ call _ hmem' henter' hstate hfallback hrest =>
        obtain rfl := Call.defaultTransition.inj hcall
        obtain rfl := Option.some.inj (henter.symm.trans henter')
        have hplace : d.variant.place = d'.variant.place :=
          Value.state.inj (Option.some.inj (lookup_stateName_frameOf.symm.trans hstate))
        obtain rfl : d' = d := List.inj_on_of_nodup_map hplaces hmem' hmem hplace.symm
        exact ⟨call, hfallback, hrest⟩
    | take => cases hcall
    | forward => cases hcall
    | finish => cases hcall
    | unhandled => cases hcall
  · rintro ⟨call, hfallback, hrest⟩
    exact .dispatch hmem henter lookup_stateName_frameOf hfallback hrest

/-- An unhandled call lands where it is. -/
theorem lands_unhandled_iff {place : Place} :
    Lands p truth (.unhandled [.state place]) l ↔ l = .unhandled place := by
  constructor
  · rintro ⟨⟩
    rfl
  · rintro rfl
    exact .unhandled

/-- What a method does in the state of one of its arms, if no other method has its name and
no other arm the place of its state. -/
theorem executes_iff (hnames : (p.methods.map Method.transition).Nodup) {method : Method}
    (hmethod : method ∈ p.methods) (hplaces : (method.arms.map (·.variant.place)).Nodup)
    {arm : Arm} (harm : arm ∈ method.arms) {place : Place} (hplace : arm.variant.place = place)
    {args : List V} (hlength : method.parameters.length = args.length) :
    Executes p truth method.transition place args l ↔
      ∃ call, arm.forward.call? (methodFrame method.parameters place args) = some call ∧
        Lands p truth call l := by
  have henter : Frame.enter (Binding.methodNames method.parameters)
      (.owner :: args.map .argument) =
      some ((Binding.methodNames method.parameters).zip (.owner :: args.map .argument)) := by
    rw [Frame.enter, if_pos (by simp [Binding.methodNames, hlength])]
  constructor
  · rintro ⟨method', hmethod', hname, arm', harm', hplace', frame, call, hframe, hcall, hlands⟩
    obtain rfl : method' = method := List.inj_on_of_nodup_map hnames hmethod' hmethod hname
    obtain rfl : arm' = arm :=
      List.inj_on_of_nodup_map hplaces harm' harm (hplace'.trans hplace.symm)
    obtain rfl := Option.some.inj (henter.symm.trans hframe)
    exact ⟨call, hcall, hlands⟩
  · rintro ⟨call, hcall, hlands⟩
    exact ⟨method, hmethod, rfl, arm, harm, hplace, _, call, henter, hcall, hlands⟩

end

end StateMachine.Program
