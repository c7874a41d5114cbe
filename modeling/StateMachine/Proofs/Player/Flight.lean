import StateMachine.Proofs.Player.Balance
import StateMachine.Proofs.Program.Flight

/-!
# The Player's Transitions in Flight

Hiding a jammed menu panics. The player returns from the menu even so, but `Back` stays in flight,
though no transition is running. No other call of the player leaves a name behind.

## Proof strategy

Each event issues the transition of its name, so that no name is left unless it panics
(`Run.transition_issue`). Which event panics is read off the table of positions.

## Main results

* `Controller.panics_iff`: an event panics exactly if it is `Back`, in a menu that is jammed.
* `in_flight_iff_panicked`: **when a call is over, a name is left exactly if the call panicked**,
  for every program and for the player.
-/

namespace StateMachine

open Execution

namespace Player

/-! ### Events that panic -/

namespace Position

variable {x : Position}

/-- `Stop` never panics. -/
theorem stop_ne_panic (x : Position) : x.stop.1 ≠ .error .panic := by
  cases hmode : x.mode <;> simp [stop, hmode, refuse]

/-- Nor does `Quit`, which may stop what it returns to. -/
theorem quit_ne_panic (x : Position) : x.quit.1 ≠ .error .panic := by
  cases hmode : x.mode with
  | stopped => simp [quit, hmode, ignore]
  | playing => simp [quit, hmode, ignore]
  | browsing =>
      simp only [quit, hmode]
      generalize x.pop = popped
      obtain ⟨result, y⟩ := popped
      cases result with
      | ok _ => exact y.stop_ne_panic
      | error f => simp

/-- `Back` panics in a menu that is jammed. -/
theorem back_eq_panic_iff :
    x.back.1 = .error .panic ↔ x.mode = .browsing ∧ x.owner.jamMenu = true := by
  cases hmode : x.mode with
  | stopped => simp [back, hmode, ignore]
  | playing => simp [back, hmode, ignore]
  | browsing =>
      by_cases hjam : x.owner.jamMenu = true
      · simp [back, hmode, hjam]
      · have hhidden : x.back.1 = (x.record .hideMenu).pop.1.mapError .fault := by
          simp [back, hmode, hjam]
        rw [hhidden]
        cases (x.record .hideMenu).pop.1 <;> simp [Except.mapError, hjam]

/-- **Which events panic.** -/
theorem step_eq_panic_iff (e : Controller.Event) :
    (x.step e).1 = .error .panic ↔
      e = .back ∧ x.mode = .browsing ∧ x.owner.jamMenu = true := by
  cases e with
  | back => simpa [step] using x.back_eq_panic_iff
  | menu => cases hmode : x.mode <;> simp [step, menu, hmode, ignore, refuse]
  | play track =>
      cases hmode : x.mode with
      | stopped => by_cases htrack : track > 0 <;> simp [step, play, hmode, htrack]
      | playing => simp [step, play, hmode, ignore]
      | browsing => simp [step, play, hmode, refuse]
  | quit => simpa [step] using x.quit_ne_panic
  | stop => simpa [step] using x.stop_ne_panic

end Position

namespace Controller

open Run

/-- An event issues the transition of its name. -/
theorem Event.exists_handler (e : Event) : ∃ handler, e.run = Run.issue e.transition handler := by
  cases e with
  | back => exact ⟨_, rfl⟩
  | menu => exact ⟨_, rfl⟩
  | play track => exact ⟨_, rfl⟩
  | quit => exact ⟨_, rfl⟩
  | stop => exact ⟨_, rfl⟩

/-- It has a name. -/
theorem Event.transition_ne_empty (e : Event) : e.transition ≠ "" := by
  cases e <;> simp [transition]

/-- **An event panics exactly if it is `Back`, in a menu that is jammed**, whatever the player
has been through. -/
theorem panics_iff (w : Running Mode Owner) (e : Event) :
    (e.run.run.run w).1 = .error .panic ↔
      e = .back ∧ w.session.context.state? = some .browsing ∧ w.owner.jamMenu = true := by
  cases hstate : w.session.context.state? with
  | none =>
      obtain ⟨handler, hissue⟩ := e.exists_handler
      have hrefused : Ends (Run.issue e.transition handler) w.session.context w.owner _ _ _ :=
        Ends.issue_none hstate
      obtain ⟨w', -, -, hrun⟩ := hrefused w rfl rfl
      rw [hissue, hrun]
      simp
  | some mode =>
      let x : Position := ⟨mode, w.session.context.stack, w.owner⟩
      obtain ⟨hresult, -⟩ := run_step (x := x) ⟨hstate, rfl⟩ rfl e
      rw [hresult, x.step_eq_panic_iff]
      simp [x]

/-! ### Names -/

/-- The menu is hidden under the name of the transition in flight. -/
theorem exists_ends_popState (c : Context Mode) (o : Owner) :
    ∃ popped c', Ends (Run.popState Mode.roster) c o (Except.mapError .fault popped) c' o ∧
      c'.transition = c.transition := by
  cases htop : c.stack.getLast? with
  | none => exact ⟨.error .emptyStack, c, ends_popState_empty htop, rfl⟩
  | some mode => exact ⟨.ok (), _, ends_popState htop, rfl⟩

/-- **`Back` stays in flight when it panics.** -/
theorem transition_of_back_panics {w : Running Mode Owner}
    (hstate : w.session.context.state? = some .browsing) (hjam : w.owner.jamMenu = true) :
    (Event.back.run.run.run w).2.session.context.transition = Event.back.transition := by
  let c := w.session.context.setTransition "Back"
  obtain ⟨popped, c', hpop, htransition⟩ :=
    exists_ends_popState (c.clearState.setState .browsing) w.owner
  have hhide := ends_hideMenu (c := c.clearState) (o := w.owner)
  simp only [if_pos hjam] at hhide
  have hback : Ends back w.session.context w.owner (.error .panic) c' w.owner :=
    (ends_browsingBack hhide hpop).issue hstate
  obtain ⟨w', hcontext, -, hrun⟩ := hback w rfl rfl
  have hleft : Event.back.run.run.run w = (.error .panic, w') := hrun
  rw [hleft]
  show w'.session.context.transition = _
  rw [hcontext]
  exact htransition

/-- **When an event is over, a name is left exactly if it panicked**, and then it is that of the
event. -/
theorem transition_after (w : Running Mode Owner) (e : Event) :
    ((e.run.run.run w).2.session.context.transition = "" ↔
      (e.run.run.run w).1 ≠ .error .panic) ∧
    ((e.run.run.run w).1 = .error .panic →
      (e.run.run.run w).2.session.context.transition = e.transition) := by
  have hleft : (e.run.run.run w).1 = .error .panic →
      (e.run.run.run w).2.session.context.transition = e.transition := by
    intro hpanic
    obtain ⟨rfl, hstate, hjam⟩ := (panics_iff w e).mp hpanic
    exact transition_of_back_panics hstate hjam
  refine ⟨⟨?_, ?_⟩, hleft⟩
  · intro hempty hpanic
    exact e.transition_ne_empty ((hleft hpanic).symm.trans hempty)
  · obtain ⟨handler, hissue⟩ := e.exists_handler
    rw [hissue]
    exact transition_issue e.transition handler w

end Controller

end Player

/-! ### Names that are left -/

open Program Player in
/-- **When a call is over, a name is left exactly if the call panicked.** Take any host of a program
and any run of calls from the start, with whatever panics in its actions, conditions and arguments
or for want of a handler. Between two calls no transition is in flight, unless the last one ended in
a panic. After any call of a method none is in flight if it was handled or refused, whether or not
it issued others. If it panicked, the name is that of a method that was called on the way, or of
the call itself, and that panicked.

So it is with the player. It panics only on `Back`, in a menu that is jammed, and `Back` is the name
that is left then. -/
theorem in_flight_iff_panicked {m : Machine} {v : Validated} {o : OutputOptions} {p : Program}
    (hbuilt : m.Built) (hvalid : m.validate = .ok v) (hprogram : v.program o = .ok p) :
    (∀ (O V : Type) (H : Host O V) (last : Except Interrupt Unit) (c : Context Place),
      H.Runs p last c →
        (c.transition = "" ↔ last ≠ .error .panic) ∧
        ∀ (name : String) (args : List V) (x x' : Observed O) (result : Except Interrupt Unit)
          (c' : Context Place), p.HasMethod name → H.Invokes p name args c x result c' x' →
          (c'.transition = "" ↔ result ≠ .error .panic) ∧
          (result = .error .panic → ∃ n k, H.Replayed p n ⟨name, args, c, x⟩ k ∧
            H.Invokes p k.name k.args k.context k.seen result c' x' ∧
            p.HasMethod k.name ∧ c'.transition = k.name)) ∧
    ∀ (w : Running Mode Owner) (e : Controller.Event),
      let (result, after) := e.run.run.run w
      (after.session.context.transition = "" ↔ result ≠ .error .panic) ∧
      (result = .error .panic ↔
        e = .back ∧ w.session.context.state? = some .browsing ∧ w.owner.jamMenu = true) ∧
      (result = .error .panic → after.session.context.transition = e.transition) := by
  have hconsistent : m.Consistent :=
    Machine.consistent_iff.mpr (hbuilt.wellFormed.exists_validate_eq_ok_iff.mp ⟨v, hvalid⟩)
  obtain rfl := Machine.machine_of_validate hvalid
  have hmakes := Validated.makes_of_program hprogram
  refine ⟨fun O V H last c hruns => ⟨hruns.transition_eq_empty_iff hmakes hconsistent, ?_⟩, ?_⟩
  · intro name args x x' result c' hmethod hinvokes
    refine ⟨hinvokes.transition_eq_empty_iff hmakes hconsistent hmethod, ?_⟩
    rintro rfl
    obtain ⟨n, k, hreplayed, hpanicked, htransition⟩ := hinvokes.exists_panicked hmakes
    exact ⟨n, k, hreplayed, hpanicked, hreplayed.hasMethod hmakes hconsistent hmethod,
      htransition⟩
  · intro w e
    have hpanics := Controller.panics_iff w e
    have hnames := Controller.transition_after w e
    exact ⟨hnames.1, hpanics, hnames.2⟩

open Program in
/-- The gate is closed at first. -/
theorem gate_start {v : Validated} {p : Program} (hv : gate.validate = .ok v)
    (hp : v.program {} = .ok p) : p.start.place = .ofState gateMap gateClosed := by
  have hstart : (gate.validate.toOption.bind fun v =>
      (v.program {}).toOption.map fun p => p.start.place) = some (.ofState gateMap gateClosed) := by
    decide +kernel
  rw [hv] at hstart
  simp only [Except.toOption, Option.bind_some, hp, Option.map_some, Option.some.injEq] at hstart
  exact hstart

open Program in
/-- At first the gate bears no name. A gate that counts with a jammed owner bears the name of the
transition that it did not answer. -/
theorem gate_open_left_in_flight :
    ∃ v p, gate.Built ∧ gate.validate = .ok v ∧ v.program {} = .ok p ∧
      jammed.Runs p (.ok ()) (.start p.start.place) ∧
      (Context.start p.start.place).transition = "" ∧
      ∃ c', jammed.Runs p (.error .panic) c' ∧ c'.transition = gateUnlock.name := by
  obtain ⟨v, p, hv, hp⟩ := gate_program
  obtain ⟨hruns, -⟩ := in_flight_iff_panicked gate_built hv hp
  have hmachine := Machine.machine_of_validate hv
  have hmakes := Validated.makes_of_program hp
  have hmethod : p.HasMethod gateUnlock.name := by
    rw [hmakes.hasMethod_iff, hmachine]
    decide +kernel
  obtain ⟨c', x', hinvokes⟩ := jammed_invokes hv hp
  rw [← gate_start hv hp] at hinvokes
  have hnew : jammed.Runs p (.ok ()) (.start p.start.place) := .new
  obtain ⟨hempty, hcalls⟩ := hruns Unit Nat jammed (.ok ()) (.start p.start.place) hnew
  obtain ⟨-, hpanicked⟩ := hcalls gateUnlock.name [8] _ x' _ c' hmethod hinvokes
  obtain ⟨n, k, hreplayed, -, -, hname⟩ := hpanicked rfl
  refine ⟨v, p, gate_built, hv, hp, hnew, hempty.mpr (by rintro ⟨⟩), c',
    .transition hnew hmethod hinvokes, ?_⟩
  -- nothing is on the stack at first, so that no other call was made on the way
  have hdepth : n = 0 := Nat.le_zero.mp (hreplayed.le_depth hmakes)
  subst hdepth
  cases hreplayed
  exact hname

open Player in
/-- **The player's `Back` stays in flight**: a track is played, the menu is shown, and it is jammed
when it is to be hidden. -/
theorem jammed_back_left_in_flight :
    ¬ ∀ (script : Script) (jamMenu : Bool) (e : Controller.Event),
      let w := Controller.reached script
      (e.run.run.run { w with owner := w.owner.jam jamMenu }).2.session.context.transition = "" := by
  intro hnone
  have hback := hnone [(false, .play 7), (false, .menu)] true .back
  revert hback
  decide +kernel

end StateMachine
