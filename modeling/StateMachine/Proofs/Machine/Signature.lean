import Mathlib.Data.List.Nodup
import StateMachine.Machine.Map
import StateMachine.Proofs.Construction

/-!
# Merged Transitions

`mergeTransitions` sorts transitions by signature and keeps one of each. Nothing is lost and
nothing is added: what is kept was there, and every transition has a kept one of its own
signature. `firstOfEachName` does the same for names.

## Main results

* `Transition.compareSignature_eq_iff`: the order of signatures tells apart exactly the
  transitions that differ in name or parameter types.
* `mem_of_mem_mergeTransitions`, `exists_mem_mergeTransitions`: a merged list has the
  signatures of the list that was merged.
* `pairwise_mergeTransitions`: a merged list is strictly increasing.
* `Map.mem_undefinedDefaultTransitions`, `Map.exists_mem_undefinedDefaultTransitions`: the
  derived transitions of a map have the names that an ordinary state declares and the
  default state does not, each once.
-/

namespace StateMachine

/-! ### The order of signatures -/

namespace Transition

/-- The order of signatures is lexicographic. -/
theorem compareSignature_eq_compareLex :
    compareSignature =
      compareLex
        (compareLex (compareOn name) (compareOn fun t => t.parameters.length))
        (compareOn parameterTypes) :=
  rfl

/-- Signatures are linearly preordered. -/
instance transCmp_compareSignature : Std.TransCmp compareSignature := by
  rw [compareSignature_eq_compareLex]
  infer_instance

/-- Two transitions compare equal exactly when they agree in name and parameter types. -/
theorem compareSignature_eq_iff {a b : Transition} :
    a.compareSignature b = .eq ↔ a.name = b.name ∧ a.parameterTypes = b.parameterTypes := by
  simp only [compareSignature, Ordering.then_eq_eq, Std.compare_eq_iff_eq]
  constructor
  · rintro ⟨⟨hname, -⟩, htypes⟩
    exact ⟨hname, htypes⟩
  · rintro ⟨hname, htypes⟩
    have hlength := congrArg List.length htypes
    simp only [parameterTypes, List.length_map] at hlength
    exact ⟨⟨hname, hlength⟩, htypes⟩

/-- Transitions in the order of their signatures are in the order of their names. -/
theorem name_le_of_signatureLe {a b : Transition} (h : a.signatureLe b = true) :
    (compare a.name b.name).isLE = true := by
  unfold signatureLe compareSignature at h
  exact (Ordering.isLE_then_iff_and.mp (Ordering.isLE_then_iff_and.mp h).1).1

/-- Of two transitions, the one comes before the other or the other before it. -/
theorem signatureLe_of_not {a b : Transition} (h : ¬ a.signatureLe b = true) :
    b.signatureLe a = true := by
  have hswap : b.compareSignature a = (a.compareSignature b).swap := Std.OrientedCmp.eq_swap
  unfold signatureLe at h ⊢
  rw [hswap]
  cases hcmp : a.compareSignature b with
  | lt => simp [hcmp] at h
  | eq => simp [hcmp] at h
  | gt => rfl

/-- The order of signatures is transitive. -/
theorem signatureLe_trans {a b c : Transition} (hab : a.signatureLe b = true)
    (hbc : b.signatureLe c = true) : a.signatureLe c = true :=
  Std.TransCmp.isLE_trans hab hbc

end Transition

/-! ### Sorting -/

/-- An insertion adds one transition. -/
theorem mem_insertBySignature {t u : Transition} {ts : List Transition} :
    u ∈ insertBySignature t ts ↔ u = t ∨ u ∈ ts := by
  induction ts with
  | nil => simp [insertBySignature]
  | cons v rest ih =>
      unfold insertBySignature
      split_ifs
      · exact List.mem_cons
      · rw [List.mem_cons, ih, List.mem_cons]
        exact or_left_comm

/-- An insertion keeps a list sorted. -/
theorem pairwise_insertBySignature {t : Transition} {ts : List Transition}
    (h : ts.Pairwise fun a b => a.signatureLe b = true) :
    (insertBySignature t ts).Pairwise fun a b => a.signatureLe b = true := by
  induction ts with
  | nil => exact List.pairwise_singleton _ _
  | cons u rest ih =>
      obtain ⟨hu, hrest⟩ := List.pairwise_cons.mp h
      unfold insertBySignature
      split_ifs with ht
      · refine List.pairwise_cons.mpr ⟨fun w hw => ?_, h⟩
        rcases List.mem_cons.mp hw with rfl | hmem
        · exact ht
        · exact Transition.signatureLe_trans ht (hu w hmem)
      · refine List.pairwise_cons.mpr ⟨fun w hw => ?_, ih hrest⟩
        rcases mem_insertBySignature.mp hw with rfl | hmem
        · exact Transition.signatureLe_of_not ht
        · exact hu w hmem

/-- Sorting neither adds nor loses a transition. -/
theorem mem_sortBySignature {t : Transition} {ts : List Transition} :
    t ∈ sortBySignature ts ↔ t ∈ ts := by
  induction ts with
  | nil => exact Iff.rfl
  | cons u rest ih => rw [sortBySignature, mem_insertBySignature, ih, List.mem_cons]

/-- A sorted list is sorted. -/
theorem pairwise_sortBySignature (ts : List Transition) :
    (sortBySignature ts).Pairwise fun a b => a.signatureLe b = true := by
  induction ts with
  | nil => exact .nil
  | cons t rest ih => exact pairwise_insertBySignature ih

/-! ### Merging -/

/-- What is left after repeats are dropped was there. -/
theorem mem_of_mem_dropRepeats {last t : Transition} {ts : List Transition}
    (h : t ∈ dropRepeats last ts) : t ∈ ts := by
  induction ts generalizing last with
  | nil => exact h
  | cons u rest ih =>
      unfold dropRepeats at h
      split_ifs at h
      · exact List.mem_cons_of_mem u (ih h)
      · rcases List.mem_cons.mp h with rfl | hrest
        · exact List.mem_cons_self
        · exact List.mem_cons_of_mem u (ih hrest)

/-- A dropped transition has the signature of one that is left. -/
theorem exists_mem_dropRepeats {last t : Transition} {ts : List Transition} (h : t ∈ ts) :
    ∃ u ∈ last :: dropRepeats last ts, u.compareSignature t = .eq := by
  induction ts generalizing last with
  | nil => cases h
  | cons v rest ih =>
      unfold dropRepeats
      split_ifs with hv
      · rcases List.mem_cons.mp h with rfl | hrest
        · exact ⟨last, List.mem_cons_self, Std.OrientedCmp.eq_symm (by
            simpa [Transition.sameSignature] using hv)⟩
        · exact ih hrest
      · rcases List.mem_cons.mp h with rfl | hrest
        · exact ⟨t, List.mem_cons_of_mem _ List.mem_cons_self, Std.ReflCmp.compare_self⟩
        · obtain ⟨u, hu, heq⟩ : ∃ u ∈ v :: dropRepeats v rest, u.compareSignature t = .eq :=
            ih hrest
          exact ⟨u, List.mem_cons_of_mem _ hu, heq⟩

/-- Dropping repeats makes a sorted list strictly increasing. -/
theorem pairwise_dropRepeats {last : Transition} {ts : List Transition}
    (h : (last :: ts).Pairwise fun a b => a.signatureLe b = true) :
    (last :: dropRepeats last ts).Pairwise fun a b => a.compareSignature b = .lt := by
  induction ts generalizing last with
  | nil => exact List.pairwise_singleton _ _
  | cons t rest ih =>
      obtain ⟨hlast, hsorted⟩ := List.pairwise_cons.mp h
      unfold dropRepeats
      split_ifs with ht
      · refine ih (List.pairwise_cons.mpr ⟨fun u hu => ?_, (List.pairwise_cons.mp hsorted).2⟩)
        exact hlast u (List.mem_cons_of_mem t hu)
      · have htail := ih hsorted
        have hlt : last.compareSignature t = .lt := by
          have hle := hlast t List.mem_cons_self
          have hne : last.compareSignature t ≠ .eq := fun heq =>
            ht (by simpa [Transition.sameSignature] using Std.OrientedCmp.eq_symm heq)
          unfold Transition.signatureLe at hle
          cases hcmp : last.compareSignature t <;> simp_all
        refine List.pairwise_cons.mpr ⟨fun u hu => ?_, htail⟩
        rcases List.mem_cons.mp hu with rfl | hrest
        · exact hlt
        · exact Std.TransCmp.lt_trans hlt ((List.pairwise_cons.mp htail).1 u hrest)

/-- What a merge keeps was there. -/
theorem mem_of_mem_mergeTransitions {t : Transition} {ts : List Transition}
    (h : t ∈ mergeTransitions ts) : t ∈ ts := by
  rw [← mem_sortBySignature]
  unfold mergeTransitions at h
  cases hsort : sortBySignature ts with
  | nil => rw [hsort] at h; cases h
  | cons u rest =>
      rw [hsort] at h
      exact (List.mem_cons.mp h).elim (· ▸ List.mem_cons_self) fun hrest =>
        List.mem_cons_of_mem u (mem_of_mem_dropRepeats hrest)

/-- **A merge keeps every signature.** -/
theorem exists_mem_mergeTransitions {t : Transition} {ts : List Transition} (h : t ∈ ts) :
    ∃ u ∈ mergeTransitions ts, u.name = t.name ∧ u.parameterTypes = t.parameterTypes := by
  suffices hkept : ∃ u ∈ mergeTransitions ts, u.compareSignature t = .eq by
    obtain ⟨u, hu, heq⟩ := hkept
    exact ⟨u, hu, Transition.compareSignature_eq_iff.mp heq⟩
  rw [← mem_sortBySignature] at h
  unfold mergeTransitions
  cases hsort : sortBySignature ts with
  | nil => rw [hsort] at h; cases h
  | cons v rest =>
      rw [hsort] at h
      rcases List.mem_cons.mp h with rfl | hrest
      · exact ⟨t, List.mem_cons_self, Std.ReflCmp.compare_self⟩
      · exact exists_mem_dropRepeats hrest

/-- **A merged list is strictly increasing.** -/
theorem pairwise_mergeTransitions (ts : List Transition) :
    (mergeTransitions ts).Pairwise fun a b => a.compareSignature b = .lt := by
  have hsorted := pairwise_sortBySignature ts
  unfold mergeTransitions
  cases hsort : sortBySignature ts with
  | nil => exact .nil
  | cons t rest =>
      rw [hsort] at hsorted
      exact pairwise_dropRepeats hsorted

/-! ### One transition of each name -/

/-- What is kept for a name was there, under a name that is new. -/
theorem mem_of_mem_firstOfNamesBut {seen : List String} {t : Transition}
    {ts : List Transition} (h : t ∈ firstOfNamesBut seen ts) : t ∈ ts ∧ t.name ∉ seen := by
  induction ts generalizing seen with
  | nil => cases h
  | cons u rest ih =>
      unfold firstOfNamesBut at h
      split_ifs at h with hu
      · exact (ih h).imp_left (List.mem_cons_of_mem u)
      · rcases List.mem_cons.mp h with rfl | hrest
        · exact ⟨List.mem_cons_self, hu⟩
        · obtain ⟨hmem, hnew⟩ := ih hrest
          exact ⟨List.mem_cons_of_mem u hmem, fun hseen => hnew (List.mem_cons_of_mem _ hseen)⟩

/-- Every new name is kept. -/
theorem exists_mem_firstOfNamesBut {seen : List String} {t : Transition}
    {ts : List Transition} (h : t ∈ ts) (hnew : t.name ∉ seen) :
    ∃ u ∈ firstOfNamesBut seen ts, u.name = t.name := by
  induction ts generalizing seen with
  | nil => cases h
  | cons v rest ih =>
      unfold firstOfNamesBut
      rcases List.mem_cons.mp h with rfl | hrest
      · rw [if_neg hnew]
        exact ⟨t, List.mem_cons_self, rfl⟩
      · split_ifs with hv
        · exact ih hrest hnew
        · by_cases hname : t.name = v.name
          · exact ⟨v, List.mem_cons_self, hname.symm⟩
          · have hnew' : t.name ∉ v.name :: seen := by simp [hname, hnew]
            obtain ⟨u, hu, huname⟩ := ih hrest hnew'
            exact ⟨u, List.mem_cons_of_mem v hu, huname⟩

/-- No name is kept twice. -/
theorem nodup_map_name_firstOfNamesBut (seen : List String) (ts : List Transition) :
    ((firstOfNamesBut seen ts).map Transition.name).Nodup := by
  induction ts generalizing seen with
  | nil => exact .nil
  | cons t rest ih =>
      unfold firstOfNamesBut
      split_ifs
      · exact ih seen
      · refine List.nodup_cons.mpr ⟨fun hmem => ?_, ih _⟩
        obtain ⟨u, hu, hname⟩ := List.mem_map.mp hmem
        exact (mem_of_mem_firstOfNamesBut hu).2 (hname ▸ List.mem_cons_self)

/-! ### Changing what is not in a signature -/

section

variable {f : Transition → Transition}

/-- An insertion looks at signatures only. -/
theorem map_insertBySignature
    (hf : ∀ a b, (f a).compareSignature (f b) = a.compareSignature b) (t : Transition)
    (ts : List Transition) :
    (insertBySignature t ts).map f = insertBySignature (f t) (ts.map f) := by
  induction ts with
  | nil => rfl
  | cons u rest ih =>
      have hle : (f t).signatureLe (f u) = t.signatureLe u := by
        rw [Transition.signatureLe, hf, Transition.signatureLe]
      rw [List.map_cons, insertBySignature, insertBySignature, hle, apply_ite (List.map f),
        List.map_cons, List.map_cons, List.map_cons, ih]

/-- So does sorting. -/
theorem map_sortBySignature
    (hf : ∀ a b, (f a).compareSignature (f b) = a.compareSignature b) (ts : List Transition) :
    (sortBySignature ts).map f = sortBySignature (ts.map f) := by
  induction ts with
  | nil => rfl
  | cons t rest ih => rw [sortBySignature, map_insertBySignature hf, ih, List.map_cons,
      sortBySignature]

/-- So does dropping repeats. -/
theorem map_dropRepeats
    (hf : ∀ a b, (f a).compareSignature (f b) = a.compareSignature b) (last : Transition)
    (ts : List Transition) :
    (dropRepeats last ts).map f = dropRepeats (f last) (ts.map f) := by
  induction ts generalizing last with
  | nil => rfl
  | cons t rest ih =>
      have hsame : (f t).sameSignature (f last) = t.sameSignature last := by
        rw [Transition.sameSignature, hf, Transition.sameSignature]
      rw [List.map_cons, dropRepeats, dropRepeats, hsame, apply_ite (List.map f), List.map_cons,
        ih, ih]

/-- **A merge looks at signatures only.** -/
theorem map_mergeTransitions
    (hf : ∀ a b, (f a).compareSignature (f b) = a.compareSignature b) (ts : List Transition) :
    (mergeTransitions ts).map f = mergeTransitions (ts.map f) := by
  unfold mergeTransitions
  rw [← map_sortBySignature hf]
  cases sortBySignature ts with
  | nil => rfl
  | cons t rest => rw [keepFirstOfRuns, List.map_cons, map_dropRepeats hf, List.map_cons,
      keepFirstOfRuns]

/-- One transition is kept for each name, whatever the transitions are. -/
theorem map_firstOfNamesBut (hf : ∀ t, (f t).name = t.name) (seen : List String)
    (ts : List Transition) :
    (firstOfNamesBut seen ts).map f = firstOfNamesBut seen (ts.map f) := by
  induction ts generalizing seen with
  | nil => rfl
  | cons t rest ih =>
      rw [List.map_cons, firstOfNamesBut, firstOfNamesBut, hf, apply_ite (List.map f),
        List.map_cons, ih, ih]

end

/-! ### The transitions of maps and machines -/

/-- The transitions of a map are declared in it. -/
theorem Map.exists_of_mem_transitions {m : Map} {t : Transition} (h : t ∈ m.transitions) :
    ∃ s ∈ m.allStates, t ∈ s.transitions :=
  List.mem_flatMap.mp (mem_of_mem_mergeTransitions h)

/-- A transition that is declared in a map has its signature among those of the map. -/
theorem Map.exists_mem_transitions {m : Map} {s : State} {t : Transition}
    (hs : s ∈ m.allStates) (ht : t ∈ s.transitions) :
    ∃ u ∈ m.transitions, u.name = t.name ∧ u.parameterTypes = t.parameterTypes :=
  exists_mem_mergeTransitions (List.mem_flatMap.mpr ⟨s, hs, ht⟩)

/-- The transition is declared in the machine. -/
def Machine.Declares (m : Machine) (t : Transition) : Prop :=
  ∃ map ∈ m.maps, ∃ s ∈ map.allStates, t ∈ s.transitions

/-- The transitions of a machine are declared in it. -/
theorem Machine.exists_of_mem_transitions {m : Machine} {t : Transition}
    (h : t ∈ m.transitions) :
    ∃ map ∈ m.maps, ∃ s ∈ map.allStates, t ∈ s.transitions := by
  obtain ⟨map, hmap, ht⟩ := List.mem_flatMap.mp (mem_of_mem_mergeTransitions h)
  exact ⟨map, hmap, map.exists_of_mem_transitions ht⟩

/-- A transition that is declared in a machine has its signature among those of the
machine. -/
theorem Machine.exists_mem_transitions {m : Machine} {map : Map} {s : State}
    {t : Transition} (hmap : map ∈ m.maps) (hs : s ∈ map.allStates)
    (ht : t ∈ s.transitions) :
    ∃ u ∈ m.transitions, u.name = t.name ∧ u.parameterTypes = t.parameterTypes := by
  obtain ⟨u, hu, hname, htypes⟩ := map.exists_mem_transitions hs ht
  obtain ⟨v, hv, hname', htypes'⟩ :=
    exists_mem_mergeTransitions (List.mem_flatMap.mpr ⟨map, hmap, hu⟩)
  exact ⟨v, hv, hname'.trans hname, htypes'.trans htypes⟩

/-- The default state of a map declares what its transitions are named. -/
theorem Map.defaultDefines_iff {m : Map} {name : String} :
    m.defaultDefines name = true ↔ ∃ s, m.defaultState = some s ∧ s.defines name = true := by
  simp [Map.defaultDefines, Option.any_eq_true]

/-- A derived transition is declared by an ordinary state and not by the default state. -/
theorem Map.mem_undefinedDefaultTransitions {m : Map} {t : Transition}
    (h : t ∈ m.undefinedDefaultTransitions) :
    m.defaultDefines t.name = false ∧ ∃ s ∈ m.states, t ∈ s.transitions := by
  obtain ⟨hmem, hfilter⟩ := List.mem_filter.mp (mem_of_mem_firstOfNamesBut h).1
  have hundefined : m.defaultDefines t.name = false := by simpa using hfilter
  obtain ⟨s, hs, ht⟩ := m.exists_of_mem_transitions hmem
  rcases List.mem_append.mp hs with hdefault | hordinary
  · have hdefines : m.defaultDefines t.name = true :=
      Map.defaultDefines_iff.mpr
        ⟨s, Option.mem_toList.mp hdefault, State.defines_iff.mpr ⟨t, ht, rfl⟩⟩
    rw [hundefined] at hdefines
    cases hdefines
  · exact ⟨hundefined, s, hordinary, ht⟩

/-- What an ordinary state declares and the default state does not has a derived transition
of its name. -/
theorem Map.exists_mem_undefinedDefaultTransitions {m : Map} {s : State} {t : Transition}
    (hs : s ∈ m.states) (ht : t ∈ s.transitions)
    (hundefined : m.defaultDefines t.name = false) :
    ∃ u ∈ m.undefinedDefaultTransitions, u.name = t.name := by
  obtain ⟨u, hu, hname, -⟩ := m.exists_mem_transitions (List.mem_append_right _ hs) ht
  have hfilter : u ∈ m.transitions.filter fun t => !m.defaultDefines t.name :=
    List.mem_filter.mpr ⟨hu, by rw [hname, hundefined]; rfl⟩
  obtain ⟨v, hv, hvname⟩ := exists_mem_firstOfNamesBut hfilter (List.not_mem_nil)
  exact ⟨v, hv, hvname.trans hname⟩

/-- The derived transitions of a map have distinct names. -/
theorem Map.nodup_map_name_undefinedDefaultTransitions (m : Map) :
    (m.undefinedDefaultTransitions.map Transition.name).Nodup :=
  nodup_map_name_firstOfNamesBut [] _

/-- A map has a default handler for what one of its states declares. -/
theorem Map.hasDefaultHandler_iff {m : Map} {name : String} :
    m.hasDefaultHandler name = true ↔ ∃ s ∈ m.allStates, s.defines name = true := by
  simp [Map.hasDefaultHandler]

/-- A default handler that the default state does not declare is derived. -/
theorem Map.exists_derived {m : Map} {name : String} (hdeclared : m.hasDefaultHandler name = true)
    (hundefined : m.defaultDefines name = false) :
    ∃ u ∈ m.undefinedDefaultTransitions, u.name = name := by
  obtain ⟨s, hs, hdefines⟩ := Map.hasDefaultHandler_iff.mp hdeclared
  obtain ⟨t, ht, htname⟩ := State.defines_iff.mp hdefines
  rcases List.mem_append.mp hs with hdefault | hordinary
  · have hdefault : m.defaultDefines name = true :=
      Map.defaultDefines_iff.mpr ⟨s, Option.mem_toList.mp hdefault, hdefines⟩
    rw [hundefined] at hdefault
    cases hdefault
  · obtain ⟨u, hu, huname⟩ :=
      Map.exists_mem_undefinedDefaultTransitions hordinary ht (htname ▸ hundefined)
    exact ⟨u, hu, huname.trans htname⟩

/-- Without a default handler, no state of the map declares the transition. -/
theorem Map.defaultDefines_of_hasDefaultHandler {m : Map} {name : String}
    (h : m.hasDefaultHandler name = false) : m.defaultDefines name = false := by
  refine eq_false_of_ne_true fun hdefines => ?_
  obtain ⟨d, hd, hdefines⟩ := Map.defaultDefines_iff.mp hdefines
  rw [Map.hasDefaultHandler_iff.mpr
    ⟨d, List.mem_append_left _ (Option.mem_toList.mpr hd), hdefines⟩] at h
  cases h

end StateMachine
