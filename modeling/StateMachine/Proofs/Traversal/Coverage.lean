import StateMachine.Generation
import StateMachine.Proofs.Graph
import StateMachine.Proofs.Program.Names
import StateMachine.Proofs.Program.Refusals
import StateMachine.Proofs.Traversal.Listing
import StateMachine.Proofs.Traversal.Program

/-!
# No Fault of Its Own

There are errors that no description is to blame for: a look-up in an index that finds nothing, a
cursor that is asked for a node it was not entered under, a reference that means nothing after
validation has found that it means something. They cannot happen. Validation, listing and
generation look up only what is there, and whoever visits a guard visits it at its own place.

## Conventions

* The position of a guard is a machine word. It is the index of the guard wherever a chain is
  shorter than there are words.
* A guard is visited even if its branch is refused then.

## Main results

* `generation_blames_description`: for **every machine that can be put together**, with any
  options, validation has an answer, a listing is refused only by validation, and a program only
  for the description; both are made by visits of guards at their own places.
* `new_door_guard_not_visited`: the visits need not come to every guard.
-/

namespace StateMachine

open Listing (startText)

variable {m : Machine} {v : Validated}

/-! ### Listings -/

/-- A listing is refused only by validation. -/
theorem Machine.exists_listing_iff (o : OutputOptions) :
    (∃ out, m.generate .listing o = .ok out) ↔ ∃ v, m.validate = .ok v := by
  unfold Machine.generate
  cases m.validate with
  | error defect => simp
  | ok v => simp [Validated.generate]

/-- The visits for a listing make its items. -/
theorem Listing.outcome_visitMachine (level : Detail) (m : Machine) (start : String)
    (unreachable : List String) :
    (visitMachine level m start unreachable).outcome =
      (.ok (items level m start unreachable), shown level m.guardVisits) := by
  obtain ⟨seen, hrun, -, hall⟩ := meets_visitMachine level m start unreachable []
  rw [← hall _ rfl]
  exact hrun

/-! ### Valid machines -/

/-- **Generation never fails for a reference** if the machine is valid. -/
theorem Validated.ofDescription_of_program (hvalid : m.validate = .ok v) {o : OutputOptions}
    {e : GenerationError} (he : v.program o = .error e) : e.OfDescription := by
  have hmachine := Machine.machine_of_validate hvalid
  refine Validated.failsOnly_program o (fun map hmap s hs g hg r hr => ?_) e he
  rw [hmachine] at hmap ⊢
  exact Machine.isSome_resolve?_of_mem hvalid hmap hs hg hr

/-- **Nothing but the description is ever to blame.** Take any machine that can be put together,
and any options. Validation finds all it looks up in its index, and a listing is made if and only
if validation succeeds. If so:

* each guard of the machine is listed in `guardVisits` with a cursor that is in the map, the state
  and the transition that the guard belongs to, and at the guard's index among all guards of this
  transition; and each reference of the guard means a state for its map;
* the items of the listing are made by visiting these guards in order, or none of them if the
  listing shows names only;
* the program is made by visiting them in order: all of them if it can be made, and otherwise a
  first part of them. No visit fails for its cursor;
* if the program cannot be made, a text of the description is not what it has to be, or one of its
  transitions can have no method. -/
theorem generation_blames_description (hbuilt : m.Built) (o : OutputOptions) :
    m.validate? = some m.validate ∧
    ((∃ out, m.generate .listing o = .ok out) ↔ ∃ v, m.validate = .ok v) ∧
    ∀ v, m.validate = .ok v →
      (∀ map ∈ m.maps, ∀ s ∈ map.allStates, ∀ t ∈ s.transitions, ∀ i g, t.guards[i]? = some g →
        ⟨.atGuard m map s t i, g⟩ ∈ m.guardVisits ∧
          ∀ r ∈ g.references, (m.resolve? r map.name).isSome) ∧
      (∃ items,
        (Listing.visitMachine o.detail m (startText v) (v.unreachable.map Place.text)).outcome =
          (.ok items, if o.detail = .names then [] else m.guardVisits) ∧
        m.generate .listing o = .ok (.listing (Listing.Item.writeAll items {}).text)) ∧
      (∃ seen, (v.visitProgram o).outcome = ((v.program o).mapError .refused, seen) ∧
        seen <+: m.guardVisits ∧ ((∃ p, v.program o = .ok p) → seen = m.guardVisits)) ∧
      ∀ e, v.program o = .error e → e.OfDescription := by
  refine ⟨hbuilt.wellFormed.validate?_eq_some, Machine.exists_listing_iff o, fun v hvalid => ?_⟩
  have hmachine := Machine.machine_of_validate hvalid
  refine ⟨fun map hmap s hs t ht i g hg => ⟨?_, fun r hr => ?_⟩, ?_, ?_,
    fun e he => Validated.ofDescription_of_program hvalid he⟩
  · exact Machine.mem_guardVisits_iff.mpr ⟨map, hmap, s, hs, t, ht, i, g, hg, rfl⟩
  · have hguard : g ∈ s.guards := List.mem_flatMap.mpr ⟨t, ht, List.mem_of_getElem? hg⟩
    exact Machine.isSome_resolve?_of_mem hvalid hmap hs hguard hr
  · refine ⟨_, Listing.outcome_visitMachine .., ?_⟩
    simp only [Machine.generate, hvalid, Validated.generate, Listing.render, hmachine]
  · obtain ⟨seen, hrun, hseen, hall⟩ := v.meets_visitProgram o []
    rw [hmachine] at hseen hall
    exact ⟨seen, hrun, hseen, fun ⟨p, hp⟩ => hall p hp⟩

/-- The guards of a gate are visited for its program and for a listing that shows them. -/
theorem gate_guards_visited :
    ∃ v p, gate.Built ∧ gate.validate = .ok v ∧ v.program { detail := .guards } = .ok p ∧
      gate.validate? = some (.ok v) ∧
      gate.guardVisits.map (fun visit => (visit.guard.condition, visit.cursor.guard?)) =
        [("", some ⟨0, 1⟩), ("key == 7", some ⟨0, 1⟩)] ∧
      (Listing.visitMachine .guards gate (startText v) (v.unreachable.map Place.text)).outcome.2 =
        gate.guardVisits ∧
      (v.visitProgram { detail := .guards }).outcome = (.ok p, gate.guardVisits) := by
  obtain ⟨v, p, hv, hp⟩ :=
    Machine.exists_program (m := gate) (o := { detail := .guards }) (by decide +kernel)
  obtain ⟨hsearch, -, hvisits⟩ := generation_blames_description gate_built { detail := .guards }
  obtain ⟨-, ⟨items, hlisting, -⟩, ⟨seen, hprogram, -, hall⟩, -⟩ := hvisits v hv
  refine ⟨v, p, gate_built, hv, hp, hsearch.trans (congrArg some hv), by decide,
    congrArg Prod.snd hlisting, ?_⟩
  rw [hprogram, hp, hall ⟨p, hp⟩]
  rfl

/-- **Not every guard is visited.** A valid door has a transition `new` with one guard. A listing
that shows names only does not come to the guard, by design. Nor does generation, which finds
before that `new` can have no method. -/
theorem new_door_guard_not_visited :
    (∃ v, (door "new").Built ∧ (door "new").validate = .ok v ∧
      (door "new").guardVisits.length = 1 ∧
      (Listing.visitMachine .names (door "new") (startText v)
        (v.unreachable.map Place.text)).outcome.2 = [] ∧
      (v.visitProgram {}).outcome.2 = []) ∧
    ¬ ∀ (m : Machine) (o : OutputOptions) (v : Validated), m.Built → m.validate = .ok v →
      ∀ visit ∈ m.guardVisits,
        visit ∈ (Listing.visitMachine o.detail m (startText v)
          (v.unreachable.map Place.text)).outcome.2 ∧ visit ∈ (v.visitProgram o).outcome.2 := by
  have hnone : ((door "new").validate.toOption.map fun v => (v.visitProgram {}).outcome.2) =
      some [] := by
    decide +kernel
  obtain ⟨v, hv, hprogram⟩ := Option.map_eq_some_iff.mp hnone
  have hvalid := toOption_eq_some_iff.mp hv
  have hlisting := congrArg Prod.snd (Listing.outcome_visitMachine .names (door "new")
    (startText v) (v.unreachable.map Place.text))
  refine ⟨⟨v, door_built "new", hvalid, rfl, hlisting, hprogram⟩, fun hall => ?_⟩
  have hguard := (hall (door "new") {} v (door_built "new") hvalid _ List.mem_cons_self).2
  rw [hprogram] at hguard
  cases hguard

end StateMachine
