import StateMachine.Proofs.Machine.Merge
import StateMachine.Proofs.Program.Methods

/-!
# Machines Whose Transitions Can Be Methods

A method has one list of parameters, so the transitions of one name have to agree in their
parameter types, wherever they are declared. `Default` is no method but what is left to do without
one, so it takes no parameters, and the methods that every context has leave their names to no
transition.

## Proof strategy

The search for overloads compares neighbours only. As the transitions of a machine are increasing,
those of one name stand next to each other: no two neighbours have one name if and only if no two
transitions have. Each declared signature is among the transitions of the
machine, so two declarations that disagree are two transitions of one name.

## Main results

* `exists_publicTransitions_iff`: a machine has methods **if and only if it is callable**.
* `public_transitions_exact`: it has one for each declared name then, in order.
-/

namespace StateMachine

/-- Each transition that is declared can be a method, or is a `Default` transition without
parameters. -/
structure Machine.Callable (m : Machine) : Prop where
  /-- No `Default` transition takes parameters. -/
  unparameterized : ∀ t, m.Declares t → t.name = State.defaultTransition → t.parameters = []
  /-- Transitions of one name have the same parameter types. -/
  agree : ∀ t u, m.Declares t → m.Declares u → t.name ≠ State.defaultTransition →
    t.name = u.name → t.parameterTypes = u.parameterTypes
  /-- No transition has the name of a method that every context has. -/
  unreserved : ∀ t, m.Declares t → t.name ≠ State.defaultTransition →
    t.name ∉ Program.reservedNames

namespace Program

/-- Where names are distinct, neighbours have different names. -/
theorem overloads_of_nodup {ts : List Transition} (h : (ts.map Transition.name).Nodup) :
    overloads ts = [] := by
  induction ts with
  | nil => rfl
  | cons t rest ih =>
      cases rest with
      | nil => rfl
      | cons u rest =>
          obtain ⟨ht, hrest⟩ := List.nodup_cons.mp h
          have hne : t.name ≠ u.name := fun hname => ht (by simp [hname])
          rw [overloads, if_neg hne, ih hrest]

variable {m : Machine} {ts : List Transition}

/-- The transitions that may be methods are increasing. -/
theorem pairwise_named (m : Machine) :
    (m.transitions.filter fun t => t.name ≠ State.defaultTransition).Pairwise
      fun a b => a.compareSignature b = .lt :=
  (pairwise_mergeTransitions _).filter _

/-- Where a machine is callable, the transitions that may be methods have distinct names. -/
theorem nodup_map_name_named (h : m.Callable) :
    ((m.transitions.filter fun t => t.name ≠ State.defaultTransition).map
      Transition.name).Nodup := by
  refine List.pairwise_map.mpr ((pairwise_named m).imp_of_mem fun {t u} ht hu hlt hname => ?_)
  obtain ⟨ht, hpublic⟩ := List.mem_filter.mp ht
  have htypes := h.agree t u (Machine.exists_of_mem_transitions ht)
    (Machine.exists_of_mem_transitions (List.mem_filter.mp hu).1) (by simpa using hpublic) hname
  exact Transition.signature_ne_of_lt hlt (Transition.signature_eq_iff.mpr ⟨hname, htypes⟩)

/-- **A machine has methods if and only if it is callable.** -/
theorem exists_publicTransitions_iff : (∃ ts, publicTransitions m = .ok ts) ↔ m.Callable := by
  constructor
  · rintro ⟨ts, hts⟩
    refine ⟨fun t ⟨map, hmap, s, hs, ht⟩ => parameters_eq_nil_of_default hts hmap hs ht,
      ?_, ?_⟩
    · rintro t u ⟨map, hmap, s, hs, ht⟩ ⟨map', hmap', s', hs', hu⟩ hpublic hname
      obtain ⟨w, hw, hwname, hwtypes⟩ := exists_mem_publicTransitions hts hmap hs ht hpublic
      rw [← hwtypes]
      exact (parameterTypes_of_mem_publicTransitions hts hw hmap' hs' hu
        (hname.symm.trans hwname.symm)).symm
    · rintro t ⟨map, hmap, s, hs, ht⟩ hpublic
      obtain ⟨w, hw, hwname, -⟩ := exists_mem_publicTransitions hts hmap hs ht hpublic
      rw [← hwname]
      exact (publicTransitions_eq_ok_iff.mp hts).2.2.2 w hw
  · intro h
    refine ⟨_, publicTransitions_eq_ok_iff.mpr ⟨rfl, ?_, ?_, ?_⟩⟩
    · intro map hmap s hs t ht
      exact h.unparameterized t ⟨map, hmap, s, hs, ht⟩
    · exact overloads_of_nodup (nodup_map_name_named h)
    · intro t ht
      obtain ⟨ht, hpublic⟩ := List.mem_filter.mp ht
      exact h.unreserved t (Machine.exists_of_mem_transitions ht) (by simpa using hpublic)

/-- The names of methods are those that are declared, without `Default`. -/
theorem mem_map_name_publicTransitions_iff (h : publicTransitions m = .ok ts) {name : String} :
    name ∈ ts.map Transition.name ↔
      name ≠ State.defaultTransition ∧ ∃ t, m.Declares t ∧ t.name = name := by
  constructor
  · intro hname
    obtain ⟨t, ht, rfl⟩ := List.mem_map.mp hname
    obtain ⟨hpublic, hdeclared⟩ := exists_of_mem_publicTransitions h ht
    exact ⟨hpublic, t, hdeclared, rfl⟩
  · rintro ⟨hpublic, t, ⟨map, hmap, s, hs, ht⟩, rfl⟩
    obtain ⟨u, hu, hname, -⟩ := exists_mem_publicTransitions h hmap hs ht hpublic
    exact List.mem_map.mpr ⟨u, hu, hname⟩

/-- **The check of signatures is exact.** A machine has methods if and only if no `Default`
transition takes parameters, all other transitions of one name have the same parameter types, and
none has the name of a method that every context has. Then there is one method for each declared
name but `Default`, and their names are strictly increasing. -/
theorem public_transitions_exact (m : Machine) :
    ((∃ ts, publicTransitions m = .ok ts) ↔ m.Callable) ∧
      ∀ ts, publicTransitions m = .ok ts →
        (ts.map Transition.name).Pairwise (· < ·) ∧
          ∀ name, name ∈ ts.map Transition.name ↔
            name ≠ State.defaultTransition ∧ ∃ t, m.Declares t ∧ t.name = name := by
  refine ⟨exists_publicTransitions_iff, fun ts hts => ⟨?_, fun name =>
    mem_map_name_publicTransitions_iff hts⟩⟩
  have hdistinct := nodup_map_name_publicTransitions hts
  obtain ⟨rfl, -⟩ := publicTransitions_eq_ok_iff.mp hts
  exact pairwise_map_name (pairwise_named m) hdistinct

/-! ### Bells as methods -/

/-- Two maps whose bells ring alike. -/
def chimes : Machine :=
  { context := "Porter", maps := [deskYard, { name := "Tower", states := [deskNight] }] }

/-- The bells of both maps are one method. Those of the desk are none, as only some of them are
given a number of strokes. -/
theorem chimes_ring_by_one_method :
    (∃ ts, publicTransitions chimes = .ok ts ∧ ts.map Transition.name = ["ring"] ∧
      ("ring" ∈ ts.map Transition.name ↔
        "ring" ≠ State.defaultTransition ∧ ∃ t, chimes.Declares t ∧ t.name = "ring")) ∧
      chimes.Callable ∧ ¬ desk.Callable := by
  obtain ⟨hcallable, hnames⟩ := public_transitions_exact chimes
  have hring : (publicTransitions chimes).toOption.map (List.map Transition.name) =
      some ["ring"] := by
    decide +kernel
  obtain ⟨ts, hts, htsnames⟩ := Option.map_eq_some_iff.mp hring
  have hok : publicTransitions chimes = .ok ts := toOption_eq_some_iff.mp hts
  refine ⟨⟨ts, hok, htsnames, (hnames ts hok).2 "ring"⟩, hcallable.mp ⟨ts, hok⟩, fun h => ?_⟩
  have hstrokes : desk.Declares (ringStrokes "count" 2) :=
    ⟨deskHall, List.mem_cons_self, deskDay, by decide, List.mem_cons_self⟩
  have honce : desk.Declares (ringOnce 4) :=
    ⟨deskHall, List.mem_cons_self, deskNight, by decide, List.mem_cons_self⟩
  exact absurd (h.agree _ _ hstrokes honce (by decide) rfl) (by decide)

end Program

end StateMachine
