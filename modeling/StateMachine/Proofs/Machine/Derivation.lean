import StateMachine.Proofs.Machine.Merge

/-!
# Derived Default Transitions

What an ordinary state of a map declares has a default handler in the map. If the default state
does not declare it, the handler is derived: there is one for each name, whatever the parameters
are, and it is made from the first transition of that name in the order of signatures.

## Proof strategy

As for merges of signatures, to keep the first transition of each name changes nothing about which
transition is the first of a name (`find?_firstOfNamesBut`). So a derived transition is the first of
its name among the transitions of the map, and as these are increasing it is the least one.

## Main results

* `Map.find?_undefinedDefaultTransitions`: the derived transition of a name is the **first of that
  name** among the transitions of the map.
* `default_handlers_are_declared_or_derived`: which transitions are derived, and that a default
  handler is either declared or derived.
-/

namespace StateMachine

/-! ### The first transition of a name -/

/-- What is kept for names stays in order. -/
theorem sublist_firstOfNamesBut (seen : List String) (ts : List Transition) :
    (firstOfNamesBut seen ts).Sublist ts := by
  induction ts generalizing seen with
  | nil => exact .refl _
  | cons t rest ih =>
      unfold firstOfNamesBut
      split_ifs
      · exact (ih seen).cons t
      · exact (ih (t.name :: seen)).cons_cons t

/-- **The first transition of a name is kept**, if the name is new. -/
theorem find?_firstOfNamesBut {seen : List String} {name : String} (hnew : name ∉ seen)
    (ts : List Transition) :
    (firstOfNamesBut seen ts).find? (fun t => t.name = name) =
      ts.find? fun t => t.name = name := by
  induction ts generalizing seen with
  | nil => rfl
  | cons t rest ih =>
      unfold firstOfNamesBut
      by_cases ht : t.name = name
      · rw [if_neg (ht ▸ hnew), List.find?_cons_of_pos (by simpa using ht),
          List.find?_cons_of_pos (by simpa using ht)]
      · rw [List.find?_cons_of_neg (by simpa using ht)]
        split_ifs
        · exact ih hnew
        · have hnew' : name ∉ t.name :: seen := by simp [hnew, Ne.symm ht]
          rw [List.find?_cons_of_neg (by simpa using ht), ih hnew']

namespace Map

variable {m : Map} {name : String}

/-! ### Derived transitions -/

/-- The transitions of a map are strictly increasing. -/
theorem pairwise_transitions (m : Map) :
    m.transitions.Pairwise fun a b => a.compareSignature b = .lt :=
  pairwise_mergeTransitions _

/-- Derived transitions are in the order of the transitions of the map. -/
theorem sublist_undefinedDefaultTransitions (m : Map) :
    m.undefinedDefaultTransitions.Sublist m.transitions :=
  (sublist_firstOfNamesBut [] _).trans List.filter_sublist

/-- **The derived transition of a name is the first of that name** among those of the map. -/
theorem find?_undefinedDefaultTransitions (hundefined : m.defaultDefines name = false) :
    m.undefinedDefaultTransitions.find? (fun t => t.name = name) =
      m.transitions.find? fun t => t.name = name := by
  rw [undefinedDefaultTransitions, firstOfEachName, find?_firstOfNamesBut List.not_mem_nil,
    List.find?_filter]
  congr 1
  funext t
  by_cases ht : t.name = name
  · simp [ht, hundefined]
  · simp [ht]

/-- A name is derived if an ordinary state declares it and the default state does not. -/
theorem mem_map_name_undefinedDefaultTransitions :
    name ∈ m.undefinedDefaultTransitions.map Transition.name ↔
      (∃ s ∈ m.states, s.defines name = true) ∧ m.defaultDefines name = false := by
  constructor
  · intro hname
    obtain ⟨t, ht, rfl⟩ := List.mem_map.mp hname
    obtain ⟨hundefined, s, hs, hdeclared⟩ := mem_undefinedDefaultTransitions ht
    exact ⟨⟨s, hs, State.defines_iff.mpr ⟨t, hdeclared, rfl⟩⟩, hundefined⟩
  · rintro ⟨⟨s, hs, hdefines⟩, hundefined⟩
    obtain ⟨t, ht, rfl⟩ := State.defines_iff.mp hdefines
    obtain ⟨u, hu, huname⟩ := exists_mem_undefinedDefaultTransitions hs ht hundefined
    exact List.mem_map.mpr ⟨u, hu, huname⟩

/-- **A derived transition is the least of its name.** -/
theorem eq_or_lt_of_mem_undefinedDefaultTransitions {t u : Transition}
    (ht : t ∈ m.undefinedDefaultTransitions) (hu : u ∈ m.transitions) (hname : u.name = t.name) :
    u = t ∨ t.compareSignature u = .lt := by
  obtain ⟨w, hw⟩ : ∃ w, m.undefinedDefaultTransitions.find? (fun u => u.name = t.name) = some w :=
    Option.isSome_iff_exists.mp (List.find?_isSome.mpr ⟨t, ht, by simp⟩)
  have hwname : w.name = t.name := by simpa using List.find?_some hw
  obtain rfl : w = t := List.inj_on_of_nodup_map (nodup_map_name_undefinedDefaultTransitions m)
    (List.mem_of_find?_eq_some hw) ht hwname
  rw [find?_undefinedDefaultTransitions (mem_undefinedDefaultTransitions ht).1] at hw
  exact eq_or_lt_of_find? m.pairwise_transitions hw hu (by simpa using hname)

/-! ### Default handlers -/

/-- A map has a default handler for the names of its transitions. -/
theorem hasDefaultHandler_eq (m : Map) (name : String) :
    m.hasDefaultHandler name = m.transitions.any fun t => t.name = name := by
  rw [Bool.eq_iff_iff, hasDefaultHandler_iff, List.any_eq_true]
  constructor
  · rintro ⟨s, hs, hdefines⟩
    obtain ⟨t, ht, rfl⟩ := State.defines_iff.mp hdefines
    obtain ⟨u, hu, huname, -⟩ := m.exists_mem_transitions hs ht
    exact ⟨u, hu, by simpa using huname⟩
  · rintro ⟨t, ht, hname⟩
    obtain ⟨s, hs, hdeclared⟩ := m.exists_of_mem_transitions ht
    exact ⟨s, hs, State.defines_iff.mpr ⟨t, hdeclared, by simpa using hname⟩⟩

end Map

/-- **Default handlers are declared or derived.** The derived transitions of a map have strictly
increasing names: those that an ordinary state declares and the default state does not. Each of
them is the least transition of its name in the map. A map has a default handler for the names of
its transitions, and these are declared by the default state or derived, but never both. -/
theorem default_handlers_are_declared_or_derived (m : Map) :
    (m.undefinedDefaultTransitions.map Transition.name).Pairwise (· < ·) ∧
      (∀ name, name ∈ m.undefinedDefaultTransitions.map Transition.name ↔
        (∃ s ∈ m.states, s.defines name = true) ∧ m.defaultDefines name = false) ∧
      (∀ t ∈ m.undefinedDefaultTransitions, t ∈ m.transitions ∧
        ∀ u ∈ m.transitions, u.name = t.name → u = t ∨ t.compareSignature u = .lt) ∧
      (∀ name, m.hasDefaultHandler name = m.transitions.any fun t => t.name = name) ∧
      (∀ name, m.hasDefaultHandler name = true ↔
        m.defaultDefines name = true ∨
          name ∈ m.undefinedDefaultTransitions.map Transition.name) ∧
      ∀ name, ¬ (m.defaultDefines name = true ∧
        name ∈ m.undefinedDefaultTransitions.map Transition.name) := by
  have hincreasing : m.undefinedDefaultTransitions.Pairwise
      fun a b => a.compareSignature b = .lt :=
    m.pairwise_transitions.sublist m.sublist_undefinedDefaultTransitions
  refine ⟨pairwise_map_name hincreasing m.nodup_map_name_undefinedDefaultTransitions,
    fun name => Map.mem_map_name_undefinedDefaultTransitions, fun t ht => ?_,
    m.hasDefaultHandler_eq, fun name => ?_, ?_⟩
  · exact ⟨m.sublist_undefinedDefaultTransitions.subset ht,
      fun u hu => Map.eq_or_lt_of_mem_undefinedDefaultTransitions ht hu⟩
  · constructor
    · intro hhandler
      cases hdefault : m.defaultDefines name with
      | true => exact .inl rfl
      | false =>
          obtain ⟨t, ht, rfl⟩ := Map.exists_derived hhandler hdefault
          exact .inr (List.mem_map_of_mem ht)
    · rintro (hdefault | hderived)
      · by_contra hnone
        rw [Map.defaultDefines_of_hasDefaultHandler (eq_false_of_ne_true hnone)] at hdefault
        cases hdefault
      · obtain ⟨⟨s, hs, hdefines⟩, -⟩ :=
          Map.mem_map_name_undefinedDefaultTransitions.mp hderived
        exact Map.hasDefaultHandler_iff.mpr ⟨s, List.mem_append_right _ hs, hdefines⟩
  · rintro name ⟨hdefault, hderived⟩
    rw [(Map.mem_map_name_undefinedDefaultTransitions.mp hderived).2] at hdefault
    cases hdefault

/-! ### A lobby -/

/-- A lobby with one bell, which is given a number of strokes by day only. One bows by default. -/
def lobby : Map :=
  { name := "Lobby"
    states := [deskDay, deskNight]
    defaultState := some { className := "Default", transitions := [{ name := "bow", line := 9 }] } }

/-- The bell has one derived transition. It is made from the one by night, which is declared later
but takes fewer parameters. -/
theorem lobby_derives_one_bell :
    lobby.undefinedDefaultTransitions = [ringOnce 4] ∧
      ringOnce 4 ∈ lobby.undefinedDefaultTransitions ∧
      ringStrokes "count" 2 ∈ lobby.transitions ∧
      (ringOnce 4).compareSignature (ringStrokes "count" 2) = .lt ∧
      (lobby.hasDefaultHandler "bow" = true ∧
        "bow" ∉ lobby.undefinedDefaultTransitions.map Transition.name) := by
  obtain ⟨-, -, hleast, -, hhandler, hexclusive⟩ := default_handlers_are_declared_or_derived lobby
  have hderived : lobby.undefinedDefaultTransitions = [ringOnce 4] := by
    decide +kernel
  have hring : ringOnce 4 ∈ lobby.undefinedDefaultTransitions := by
    rw [hderived]
    exact List.mem_singleton_self _
  have hstrokes : ringStrokes "count" 2 ∈ lobby.transitions := by
    decide +kernel
  have hbow : lobby.defaultDefines "bow" = true := by
    decide
  refine ⟨hderived, hring, hstrokes, ?_, (hhandler "bow").mpr (.inl hbow),
    fun hmem => hexclusive "bow" ⟨hbow, hmem⟩⟩
  exact ((hleast _ hring).2 _ hstrokes rfl).resolve_left (by decide)

end StateMachine
