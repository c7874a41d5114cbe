import Mathlib.Logic.Function.Basic
import StateMachine.Player.Shared

/-!
# The Shared Player Is the Plain Player

Callers with players of their own share one machine behind a lock. Whoever takes the lock issues an
event for its own player, and may panic while it holds the lock. A `Turn` is one such call, and the
turns come in the order in which the lock is taken. Nobody can tell the shared machine from a plain
one that is issued the same events in the same order.

## Proof strategy

The lock answers with the machine that was put back last, in an error or not (`Shared.lock_eq`), and
what is put back after a call is what the call made of the machine, whether it panicked or not. So a
turn keeps the machine behind the lock the same as the plain one (`Agree.turn`), and a run of turns
does, by induction (`Agree.turns`). Whether the lock is poisoned is the one difference: it is
poisoned by the first panic, and stays so.

## Conventions

* Callers go by anything that can be told apart. Their players are arbitrary, jammed or not.
* What a caller does to its player between two calls is part of its next turn (`Turn.prepare`). It
  does not need the lock for this.
* Each call takes the lock as one step. A machine that issues an event to itself does so within the
  call, and does not take the lock again.

## Main results

* `Shared.serve_eq`: a call behind the lock does what the call does to the machine alone, and
  poisons the lock if it panics.
* `shared_player_is_plain`: in **every order of calls**, whoever panics, all replies and all players
  are those of the plain machine, and so is the machine that is taken out in the end.
-/

namespace StateMachine.Player

open Execution

/-! ### Calls -/

/-- What a call answers, the caller's player after it, and what is left of the machine. -/
abbrev Served (M : Type) := Except Interrupt Unit × Owner × M

/-- A machine that events are issued to, for the player of whoever calls. -/
abbrev Service (M : Type) := M → Owner → Controller.Event → Served M

/-- A call to a plain machine. -/
def Controller.serve : Service Controller := fun c owner e =>
  let (result, after) := e.run.run.run { session := c, owner }
  (result, after.owner, after.session)

/-- A call to a machine behind a lock. -/
def Shared.serve : Service Shared := fun s owner e =>
  s.run owner e.run

namespace Shared

variable (s : Shared)

/-- **The lock gives the machine**, poisoned or not. -/
@[simp] theorem lock_eq : s.lock = s.inner := by
  rw [lock, acquire]
  cases s.poisoned <;> rfl

/-- So does taking the lock apart. -/
@[simp] theorem intoInner_eq : s.intoInner = s.inner :=
  s.lock_eq

/-- **A call behind the lock** does what it does to the machine alone, and poisons the lock if it
panics. -/
theorem serve_eq (owner : Owner) (e : Controller.Event) :
    s.serve owner e =
      ((Controller.serve s.inner owner e).1, (Controller.serve s.inner owner e).2.1,
        { inner := (Controller.serve s.inner owner e).2.2
          poisoned := s.poisoned || panicked (Controller.serve s.inner owner e).1 }) := by
  rw [serve, run, lock_eq]
  rfl

end Shared

/-! ### Turns -/

/-- A call by one of the callers. -/
structure Turn (ι : Type) where
  caller : ι
  event : Controller.Event
  /-- What the caller did to its player since its last call. -/
  prepare : Owner → Owner := id

/-- A machine, and the players of its callers. -/
structure Scene (M ι : Type) where
  machine : M
  players : ι → Owner

/-- What a caller gets from a call: how it ended, and what it made of the player. -/
structure Reply where
  result : Except Interrupt Unit
  player : Owner

variable {M ι : Type} [DecidableEq ι]

/-- One turn: a call to the machine for the player of the caller. -/
def Scene.turn (serve : Service M) (x : Scene M ι) (t : Turn ι) : Reply × Scene M ι :=
  let (result, player, machine) := serve x.machine (t.prepare (x.players t.caller)) t.event
  ({ result, player }, { machine, players := Function.update x.players t.caller player })

/-- Turns, one after the other, with all replies. -/
def Scene.turns (serve : Service M) : Scene M ι → List (Turn ι) → List Reply × Scene M ι
  | x, [] => ([], x)
  | x, t :: rest =>
    let (reply, x) := x.turn serve t
    let (replies, x) := turns serve x rest
    (reply :: replies, x)

/-! ### Both machines agree -/

/-- The machine behind the lock is the plain one, and the players are the same. -/
structure Agree (x : Scene Shared ι) (y : Scene Controller ι) : Prop where
  machine : x.machine.inner = y.machine
  players : x.players = y.players

namespace Agree

variable {x : Scene Shared ι} {y : Scene Controller ι}

/-- **One turn** has the same reply and keeps the agreement; the lock is poisoned after it if it
was before, or if the turn ended in a panic. -/
theorem turn (h : Agree x y) (t : Turn ι) :
    (x.turn Shared.serve t).1 = (y.turn Controller.serve t).1 ∧
      Agree (x.turn Shared.serve t).2 (y.turn Controller.serve t).2 ∧
      (x.turn Shared.serve t).2.machine.poisoned =
        (x.machine.poisoned || panicked (y.turn Controller.serve t).1.result) := by
  obtain ⟨⟨inner, poisoned⟩, players⟩ := x
  obtain ⟨machine, players'⟩ := y
  obtain ⟨rfl, rfl⟩ : inner = machine ∧ players = players' := ⟨h.machine, h.players⟩
  have hserve := Shared.serve_eq ⟨inner, poisoned⟩ (t.prepare (players t.caller)) t.event
  rw [Scene.turn, Scene.turn, hserve]
  exact ⟨rfl, ⟨rfl, rfl⟩, rfl⟩

/-- **A run of turns** does. The lock is poisoned after it if it was before, or if any turn ended
in a panic. -/
theorem turns (h : Agree x y) (ts : List (Turn ι)) :
    (x.turns Shared.serve ts).1 = (y.turns Controller.serve ts).1 ∧
      Agree (x.turns Shared.serve ts).2 (y.turns Controller.serve ts).2 ∧
      (x.turns Shared.serve ts).2.machine.poisoned =
        (x.machine.poisoned || (y.turns Controller.serve ts).1.any (panicked ·.result)) := by
  induction ts generalizing x y with
  | nil => exact ⟨rfl, h, (Bool.or_false _).symm⟩
  | cons t rest ih =>
      obtain ⟨hreply, hafter, hpoisoned⟩ := h.turn t
      obtain ⟨hreplies, hagree, hall⟩ := ih hafter
      refine ⟨congrArg₂ List.cons hreply hreplies, hagree, ?_⟩
      rw [hpoisoned, Bool.or_assoc] at hall
      exact hall

end Agree

/-- **The shared player is the plain player.** Whatever the machine is at first, and whether its
lock is poisoned already, and in whatever order the callers take the lock: all calls end as those
of a plain machine that gets them in this order, in a result, an error or a panic, and make the
same of the players. The machine that is taken out in the end is the plain one. The lock is
poisoned if and only if it was at first, or a call panicked. -/
theorem shared_player_is_plain (c : Controller) (poisoned : Bool) (players : ι → Owner)
    (ts : List (Turn ι)) :
    let shared := Scene.turns Shared.serve ⟨{ inner := c, poisoned }, players⟩ ts
    let plain := Scene.turns Controller.serve ⟨c, players⟩ ts
    shared.1 = plain.1 ∧ shared.2.players = plain.2.players ∧
      shared.2.machine.intoInner = plain.2.machine ∧
      (shared.2.machine.poisoned = true ↔
        poisoned = true ∨ ∃ r ∈ plain.1, r.result = .error .panic) := by
  have hpanicked : ∀ result, panicked result = true ↔ result = .error .panic := fun result => by
    rcases result with (f | -) | - <;> simp [panicked]
  obtain ⟨hreplies, hagree, hpoisoned⟩ :=
    Agree.turns (x := ⟨{ inner := c, poisoned }, players⟩) (y := ⟨c, players⟩) ⟨rfl, rfl⟩ ts
  refine ⟨hreplies, hagree.players, ?_, ?_⟩
  · rw [Shared.intoInner_eq]
    exact hagree.machine
  · rw [hpoisoned, Bool.or_eq_true, List.any_eq_true]
    simp only [hpanicked]

/-- A caller whose menu is jammed panics in the lock, and the next caller goes on from there. -/
example :
    let x := Scene.turns Shared.serve ⟨{}, fun caller : Bool => { jamMenu := caller }⟩
      [⟨false, .play 7, id⟩, ⟨true, .menu, id⟩, ⟨true, .back, id⟩, ⟨false, .stop, id⟩]
    x.1.map Reply.result = [.ok (), .ok (), .error .panic, .ok ()] ∧
      x.2.machine.poisoned = true ∧ x.2.machine.intoInner.context.state? = some .stopped :=
  ⟨rfl, rfl, rfl⟩

end StateMachine.Player
