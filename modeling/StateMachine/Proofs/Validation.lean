import Mathlib.Data.List.TakeWhile
import StateMachine.Proofs.Program.Closure
import StateMachine.Proofs.Reachability

/-!
# What Validation Accepts and What it Reports

A machine is consistent if it is complete, if its start state can be told, if its guards lead to
ordinary states that are there, and if its pops issue transitions that are declared. Validation
goes through the machine once and stops at the first thing that is wrong. `Machine.checks` lists
what it has to look at, in order, each check with the rule that it checks (`Check.Holds`) and the
defect that it reports (`Check.defect`).

## Proof strategy

Where names are distinct, a reference means a state exactly when the state is there, so that
looking a name up and asking for a place come to the same (`resolve?_eq_some_iff`). With this,
each of the three passes of validation is a search for the first check that does not hold: the
one for missing parts, the one for the start state, and the one through the guards, whose list
of defects is the list of checks without those that hold.

## Conventions

* A start state is meant by a reference in one of two ways (`Machine.Starts`): with its map it
  is the state of that map, and without it is the only state of its name in all maps.
* The default state of a map comes before its other states, and within a guard the end state
  comes before the pushed state.

## Main results

* `Machine.consistent_iff`: a machine is consistent if and only if all checks hold.
* `Machine.WellFormed.validate_eq_error_iff`: what is reported is the defect of the first check
  that does not hold.
* `validate_reports_first_violation`: validation accepts **exactly the consistent machines**,
  and of any other it reports the **first violation**.
-/

namespace StateMachine

/-! ### Rules -/

namespace Machine

/-- The start reference `r` means the ordinary state `x`: the one of that name in the map that
is named, or the only one of that name in all maps. -/
def Starts (m : Machine) (r : Reference) (x : Location) : Prop :=
  match r.map with
  | some map => x ∈ m.states ∧ x.place = ⟨map, r.state⟩
  | none =>
    (x ∈ m.states ∧ x.2.instanceName = r.state) ∧
      ∀ y ∈ m.states, y.2.instanceName = r.state → y = x

/-- A start state is an ordinary state of the machine. -/
theorem Starts.mem_states {m : Machine} {r : Reference} {x : Location} (h : m.Starts r x) :
    x ∈ m.states := by
  unfold Starts at h
  split at h
  · exact h.1
  · exact h.1.1

instance (m : Machine) (r : Reference) (x : Location) : Decidable (m.Starts r x) :=
  match hmap : r.map with
  | some map => decidable_of_iff (x ∈ m.states ∧ x.place = ⟨map, r.state⟩)
      (by rw [Starts, hmap])
  | none => decidable_of_iff ((x ∈ m.states ∧ x.2.instanceName = r.state) ∧
        ∀ y ∈ m.states, y.2.instanceName = r.state → y = x)
      (by rw [Starts, hmap])

/-- A guard of the map `map` may lead to `r`: to an ordinary state that is there. -/
def IsTarget (m : Machine) (map : Map) (r : Reference) : Prop :=
  r.state ≠ State.defaultName ∧ ⟨r.mapOr map.name, r.state⟩ ∈ m.places

/-- A pop may issue the transition `name`: one that is declared somewhere, other than
`Default`. -/
def IsIssuable (m : Machine) (name : String) : Prop :=
  name ≠ State.defaultTransition ∧ ∃ t, m.Declares t ∧ t.name = name

instance (m : Machine) (map : Map) (r : Reference) : Decidable (m.IsTarget map r) :=
  inferInstanceAs (Decidable (_ ∧ _))

instance (m : Machine) (name : String) : Decidable (m.IsIssuable name) :=
  decidable_of_iff (name ≠ State.defaultTransition ∧
      ∃ map ∈ m.maps, ∃ s ∈ map.allStates, ∃ t ∈ s.transitions, t.name = name)
    (and_congr_right fun _ =>
      ⟨fun ⟨map, hmap, s, hs, t, ht, hname⟩ => ⟨t, ⟨map, hmap, s, hs, ht⟩, hname⟩,
        fun ⟨t, ⟨map, hmap, s, hs, ht⟩, hname⟩ => ⟨map, hmap, s, hs, t, ht, hname⟩⟩)

/-- Nothing is missing, and nothing is named that is not there. -/
structure Consistent (m : Machine) : Prop where
  context : Text.trim m.context ≠ ""
  start : ∃ r, m.startReference? = some r ∧ ∃ x, m.Starts r x
  maps : m.maps ≠ []
  targets : ∀ map ∈ m.maps, ∀ s ∈ map.allStates, ∀ t ∈ s.transitions, ∀ g ∈ t.guards,
    ∀ r ∈ g.references, m.IsTarget map r
  issues : ∀ map ∈ m.maps, ∀ s ∈ map.allStates, ∀ t ∈ s.transitions, ∀ g ∈ t.guards,
    ∀ name ∈ g.popTransition?, m.IsIssuable name

end Machine

/-! ### Checks -/

/-- One thing that validation looks at. -/
inductive Check where
  | context
  | start
  | maps
  /-- The start state is the one that the reference means. -/
  | startState (start : Reference)
  /-- A guard in a map leads to a state. -/
  | target (map : Map) (line : Nat) (target : Reference)
  /-- A guard pops to a transition. -/
  | issue (line : Nat) (transition : String)

namespace Check

/-- The rule that is checked. -/
def Holds (m : Machine) : Check → Prop
  | .context => Text.trim m.context ≠ ""
  | .start => m.startReference?.isSome
  | .maps => m.maps ≠ []
  | .startState r => ∃ x, m.Starts r x
  | .target map _ r => m.IsTarget map r
  | .issue _ name => m.IsIssuable name

instance (m : Machine) : DecidablePred (Holds m)
  | .context => inferInstanceAs (Decidable (Text.trim m.context ≠ ""))
  | .start => inferInstanceAs (Decidable (m.startReference?.isSome = true))
  | .maps => inferInstanceAs (Decidable (m.maps ≠ []))
  | .startState r => decidable_of_iff (∃ x ∈ m.states, m.Starts r x)
      ⟨fun ⟨x, _, hx⟩ => ⟨x, hx⟩, fun ⟨x, hx⟩ => ⟨x, hx.mem_states, hx⟩⟩
  | .target map _ r => inferInstanceAs (Decidable (m.IsTarget map r))
  | .issue _ name => inferInstanceAs (Decidable (m.IsIssuable name))

/-- What is reported if the rule does not hold. -/
def defect (m : Machine) : Check → Defect
  | .context => .incomplete .context m.startLine
  | .start => .incomplete .start m.startLine
  | .maps => .incomplete .maps m.startLine
  | .startState r =>
    if r.map = none ∧ ∃ x ∈ m.states, x.2.instanceName = r.state then
      .ambiguousStartState r m.startLine
    else .unknownStartState r m.startLine
  | .target map line r =>
    if r.state = State.defaultName then .defaultTarget line
    else .unknownState (r.mapOr map.name) r.state line
  | .issue line name => .unknownPopTransition name line

/-- What a check reports, if it reports anything. -/
def defect? (m : Machine) (k : Check) : Option Defect :=
  if k.Holds m then none else some (k.defect m)

/-- A check reports nothing if and only if its rule holds. -/
theorem defect?_eq_none_iff {m : Machine} {k : Check} : k.defect? m = none ↔ k.Holds m := by
  by_cases h : k.Holds m <;> simp [defect?, h]

/-- Otherwise it reports its defect. -/
theorem defect?_eq_some_iff {m : Machine} {k : Check} {d : Defect} :
    k.defect? m = some d ↔ ¬ k.Holds m ∧ d = k.defect m := by
  by_cases h : k.Holds m <;> simp [defect?, h, eq_comm]

end Check

/-- The checks of a guard in a map: its end state, its pushed state, its transition. -/
def Guard.checks (map : Map) (g : Guard) : List Check :=
  (g.endReference?.toList.map (.target map g.line) ++
    g.pushed?.toList.map (.target map g.line)) ++ g.popTransition?.toList.map (.issue g.line)

namespace Machine

/-- The checks of all guards: map by map, the default state first, then as declared. -/
def guardChecks (m : Machine) : List Check :=
  m.maps.flatMap fun map =>
    map.allStates.flatMap fun s =>
      s.transitions.flatMap fun t =>
        t.guards.flatMap (Guard.checks map)

/-- All checks of a machine, in order. -/
def checks (m : Machine) : List Check :=
  [.context, .start, .maps] ++ (m.startReference?.toList.map .startState ++ m.guardChecks)

/-! ### Names that are looked up -/

variable {m : Machine}

/-- **A reference means the ordinary state at its place.** -/
theorem WellFormed.resolve?_eq_some_iff (hm : m.WellFormed) {r : Reference} {current : String}
    {x : Location} :
    m.resolve? r current = some x ↔ x ∈ m.states ∧ x.place = ⟨r.mapOr current, r.state⟩ := by
  constructor
  · intro h
    refine ⟨mem_states_of_resolve? h, ?_⟩
    obtain ⟨map, hmap, h⟩ := Option.bind_eq_some_iff.mp h
    obtain ⟨s, hs, rfl⟩ := Option.map_eq_some_iff.mp h
    have hname : map.name = r.mapOr current := by simpa using List.find?_some hmap
    have hstate : s.instanceName = r.state := by simpa using List.find?_some hs
    rw [Location.place, Place.ofState, hname, hstate]
  · rintro ⟨hx, hplace⟩
    have hresolve := hm.resolve?_place hx
    rw [hplace] at hresolve
    exact hresolve

/-- A reference means something if and only if its place is one of the machine. -/
theorem WellFormed.isSome_resolve?_iff (hm : m.WellFormed) {r : Reference} {current : String} :
    (m.resolve? r current).isSome ↔ ⟨r.mapOr current, r.state⟩ ∈ m.places := by
  rw [Option.isSome_iff_exists, places, List.mem_map]
  constructor
  · rintro ⟨x, hx⟩
    exact ⟨x, hm.resolve?_eq_some_iff.mp hx⟩
  · rintro ⟨x, hx⟩
    exact ⟨x, hm.resolve?_eq_some_iff.mpr hx⟩

/-- The names that a pop can issue are those of the declared transitions, without
`Default`. -/
theorem mem_issuableNames_iff {name : String} : name ∈ m.issuableNames ↔ m.IsIssuable name := by
  rw [issuableNames, List.mem_filter, List.mem_map]
  constructor
  · rintro ⟨⟨t, ht, rfl⟩, hname⟩
    exact ⟨by simpa using hname, t, exists_of_mem_transitions ht, rfl⟩
  · rintro ⟨hname, t, ⟨map, hmap, s, hs, ht⟩, rfl⟩
    obtain ⟨u, hu, huname, -⟩ := exists_mem_transitions hmap hs ht
    exact ⟨⟨u, hu, huname⟩, by simpa using hname⟩

/-! ### Guards -/

/-- A target is reported as its check says. -/
theorem WellFormed.targetDefect?_eq (hm : m.WellFormed) (map : Map) (line : Nat)
    (r : Reference) : m.targetDefect? map line r = (Check.target map line r).defect? m := by
  have hresolve : (m.resolve? r map.name).isSome ↔ ⟨r.mapOr map.name, r.state⟩ ∈ m.places :=
    hm.isSome_resolve?_iff
  by_cases htarget : m.IsTarget map r
  · have hnone : (Check.target map line r).defect? m = none :=
      Check.defect?_eq_none_iff.mpr htarget
    rw [hnone, targetDefect?, if_neg htarget.1, if_pos (hresolve.mpr htarget.2)]
  · have hsome : (Check.target map line r).defect? m = some ((Check.target map line r).defect m) :=
      Check.defect?_eq_some_iff.mpr ⟨htarget, rfl⟩
    rw [hsome, targetDefect?, Check.defect]
    by_cases hdefault : r.state = State.defaultName
    · rw [if_pos hdefault, if_pos hdefault]
    · have hunresolved : ¬ (m.resolve? r map.name).isSome :=
        fun h => htarget ⟨hdefault, hresolve.mp h⟩
      rw [if_neg hdefault, if_neg hdefault, if_neg hunresolved]

/-- So is the transition of a pop. -/
theorem popDefect?_eq (line : Nat) (name : String) :
    popDefect? m.issuableNames line name = (Check.issue line name).defect? m := by
  by_cases hissue : m.IsIssuable name
  · have hnone : (Check.issue line name).defect? m = none :=
      Check.defect?_eq_none_iff.mpr hissue
    rw [hnone, popDefect?, if_pos (mem_issuableNames_iff.mpr hissue)]
  · have hsome : (Check.issue line name).defect? m = some ((Check.issue line name).defect m) :=
      Check.defect?_eq_some_iff.mpr ⟨hissue, rfl⟩
    rw [hsome, popDefect?, if_neg fun h => hissue (mem_issuableNames_iff.mp h), Check.defect]

/-- What is wrong with a guard is what its checks report. -/
theorem WellFormed.guardDefects_eq (hm : m.WellFormed) (map : Map) (g : Guard) :
    m.guardDefects m.issuableNames map g = (g.checks map).filterMap (Check.defect? m) := by
  have htarget : m.targetDefect? map g.line = Check.defect? m ∘ Check.target map g.line :=
    funext fun r => hm.targetDefect?_eq map g.line r
  have hissue : popDefect? m.issuableNames g.line = Check.defect? m ∘ Check.issue g.line :=
    funext fun name => popDefect?_eq g.line name
  rw [guardDefects, Guard.references, Guard.checks, htarget, hissue]
  simp only [List.filterMap_append, List.filterMap_map]

/-- **What is wrong with the guards is what their checks report, in order.** -/
theorem WellFormed.allGuardDefects_eq (hm : m.WellFormed) :
    m.allGuardDefects = m.guardChecks.filterMap (Check.defect? m) := by
  have hguards : ∀ (map : Map) (s : State),
      s.guards.flatMap (m.guardDefects m.issuableNames map) =
        (s.transitions.flatMap fun t => t.guards.flatMap (Guard.checks map)).filterMap
          (Check.defect? m) := by
    intro map s
    rw [State.guards, List.flatMap_assoc, List.filterMap_flatMap]
    refine List.flatMap_congr fun t _ => ?_
    rw [List.filterMap_flatMap]
    exact List.flatMap_congr fun g _ => hm.guardDefects_eq map g
  rw [allGuardDefects, guardChecks, List.filterMap_flatMap]
  refine List.flatMap_congr fun map _ => ?_
  rw [List.filterMap_flatMap]
  exact List.flatMap_congr fun s _ => hguards map s

/-! ### Missing parts -/

end Machine

/-- A text is blank if and only if nothing is left of it without its blank ends. -/
theorem Text.isBlankText_iff {s : String} : isBlankText s = true ↔ trim s = "" := by
  have hend : ∀ cs, dropBlankEnd cs = [] ↔ ∀ c ∈ cs, isBlank c = true := by
    intro cs
    rw [dropBlankEnd, List.reverse_eq_nil_iff, List.dropWhile_eq_nil_iff]
    simp
  have hempty : trim s = "" ↔ dropBlankEnd (s.toList.dropWhile isBlank) = [] := by
    rw [trim, ← String.toList_inj, String.toList_ofList]
    rfl
  have hsplit : s.toList.takeWhile isBlank ++ s.toList.dropWhile isBlank = s.toList :=
    List.takeWhile_append_dropWhile
  rw [hempty, hend, isBlankText, List.all_eq_true]
  constructor
  · intro hall c hc
    exact hall c ((List.dropWhile_sublist isBlank).subset hc)
  · intro hrest c hc
    rw [← hsplit] at hc
    rcases List.mem_append.mp hc with htake | hdrop
    · exact List.mem_takeWhile_imp htake
    · exact hrest c hdrop

namespace Machine

variable {m : Machine} {d : Defect}

/-- The first missing part is what the first checks report. -/
theorem findSome?_missing (m : Machine) :
    [Check.context, Check.start, Check.maps].findSome? (Check.defect? m) =
      m.missing?.map fun part => .incomplete part m.startLine := by
  have hcontext := Text.isBlankText_iff (s := m.context)
  by_cases hblank : Text.trim m.context = ""
  · simp [Check.defect?, Check.Holds, Check.defect, missing?, hcontext, hblank]
  · cases hstart : m.start with
    | none =>
        simp [Check.defect?, Check.Holds, Check.defect, missing?, hcontext, hblank,
          startReference?, hstart]
    | some start =>
        by_cases hmaps : m.maps = []
          <;> simp [Check.defect?, Check.Holds, Check.defect, missing?, hcontext, hblank,
            startReference?, hstart, hmaps]

/-- Where nothing is missing, there is a start state. -/
theorem exists_startReference? (h : m.missing? = none) : ∃ r, m.startReference? = some r := by
  cases hstart : m.start with
  | none =>
      rw [missing?, hstart, Option.isNone_none, if_pos rfl] at h
      split_ifs at h
  | some start => exact ⟨start.1, by simp [startReference?, hstart]⟩

/-! ### The start state -/

/-- The states of a well-formed machine are listed once each. -/
theorem WellFormed.nodup_states (hm : m.WellFormed) : m.states.Nodup :=
  hm.nodup_places.of_map

/-- A state is among those of its name, and those are states. -/
theorem mem_statesNamed_iff {name : String} {x : Location} :
    x ∈ m.statesNamed name ↔ x ∈ m.states ∧ x.2.instanceName = name := by
  simp [statesNamed]

/-- One state is listed under a name if and only if it is the only one of that name. -/
theorem WellFormed.statesNamed_eq_singleton_iff (hm : m.WellFormed) {name : String}
    {x : Location} :
    m.statesNamed name = [x] ↔
      (x ∈ m.states ∧ x.2.instanceName = name) ∧
        ∀ y ∈ m.states, y.2.instanceName = name → y = x := by
  have hnodup : (m.statesNamed name).Nodup := hm.nodup_states.filter _
  constructor
  · intro h
    refine ⟨mem_statesNamed_iff.mp (by rw [h]; exact List.mem_singleton_self x), ?_⟩
    intro y hy hname
    have hmem : y ∈ m.statesNamed name := mem_statesNamed_iff.mpr ⟨hy, hname⟩
    rw [h] at hmem
    exact List.mem_singleton.mp hmem
  · rintro ⟨hx, honly⟩
    have hperm : (m.statesNamed name).Perm [x] := by
      rw [List.perm_ext_iff_of_nodup hnodup (List.nodup_singleton x)]
      intro y
      rw [mem_statesNamed_iff, List.mem_singleton]
      exact ⟨fun ⟨hy, hname⟩ => honly y hy hname, fun hy => hy ▸ hx⟩
    exact List.perm_singleton.mp hperm

/-- **The start state is the one that its reference means.** -/
theorem WellFormed.resolveStart_eq_ok_iff (hm : m.WellFormed) {r : Reference} {x : Location} :
    m.resolveStart r = .ok x ↔ m.Starts r x := by
  cases hmap : r.map with
  | some map =>
      have hmapOr : r.mapOr map = map := by rw [Reference.mapOr, hmap, Option.getD_some]
      have hresolve : m.resolve? r map = some x ↔
          x ∈ m.states ∧ x.place = ⟨r.mapOr map, r.state⟩ :=
        hm.resolve?_eq_some_iff
      rw [hmapOr] at hresolve
      simp only [resolveStart, Starts, hmap, ← hresolve]
      cases m.resolve? r map <;> simp
  | none =>
      have honly : m.statesNamed r.state = [x] ↔ _ := hm.statesNamed_eq_singleton_iff
      simp only [resolveStart, Starts, hmap, ← honly]
      cases m.statesNamed r.state with
      | nil => simp
      | cons y rest => cases rest <;> simp

/-- Otherwise its check says what is wrong. -/
theorem defect_of_resolveStart {r : Reference} (h : m.resolveStart r = .error d) :
    d = (Check.startState r).defect m := by
  cases hmap : r.map with
  | some map =>
      simp only [resolveStart, hmap] at h
      split at h
      · cases h
      · cases h
        simp [Check.defect, hmap]
  | none =>
      have hnamed : m.statesNamed r.state = [] ↔ ¬ ∃ x ∈ m.states, x.2.instanceName = r.state := by
        simp [statesNamed]
      simp only [resolveStart, hmap] at h
      split at h
      case h_1 hnil =>
        cases h
        rw [Check.defect, if_neg fun hex => hnamed.mp hnil hex.2]
      case h_2 => cases h
      case h_3 hmany =>
        cases h
        have hex : ∃ x ∈ m.states, x.2.instanceName = r.state := by
          by_contra hnone
          rw [hnamed.mpr hnone] at hmany
          cases hmany
        rw [Check.defect, if_pos ⟨hmap, hex⟩]

/-- **The check of the start state reports what looking it up reports.** -/
theorem WellFormed.startDefect?_eq (hm : m.WellFormed) (r : Reference) :
    (Check.startState r).defect? m =
      match m.resolveStart r with
      | .ok _ => none
      | .error d => some d := by
  cases hresolve : m.resolveStart r with
  | ok x => exact Check.defect?_eq_none_iff.mpr ⟨x, hm.resolveStart_eq_ok_iff.mp hresolve⟩
  | error e =>
      refine Check.defect?_eq_some_iff.mpr ⟨?_, defect_of_resolveStart hresolve⟩
      rintro ⟨x, hx⟩
      rw [hm.resolveStart_eq_ok_iff.mpr hx] at hresolve
      cases hresolve

/-! ### Validation -/

/-- What the first checks report comes first, then the start state, then the guards. -/
theorem WellFormed.findSome?_checks (hm : m.WellFormed) :
    m.checks.findSome? (Check.defect? m) =
      (m.missing?.map fun part => .incomplete part m.startLine).or
        ((m.startReference?.bind fun r => (Check.startState r).defect? m).or
          m.allGuardDefects.head?) := by
  have hstart : (m.startReference?.toList.map .startState).findSome? (Check.defect? m) =
      m.startReference?.bind fun r => (Check.startState r).defect? m := by
    cases m.startReference? with
    | none => rfl
    | some r => simp
  rw [checks, List.findSome?_append, List.findSome?_append, findSome?_missing, hstart,
    hm.allGuardDefects_eq, List.head?_filterMap]

/-- **What validation reports is the defect of the first check that does not hold.** -/
theorem WellFormed.validate_eq_error_iff (hm : m.WellFormed) :
    m.validate = .error d ↔ m.checks.findSome? (Check.defect? m) = some d := by
  rw [hm.findSome?_checks, validate]
  cases hmissing : m.missing? with
  | some part => simp
  | none =>
      obtain ⟨r, hr⟩ := exists_startReference? hmissing
      rw [hr, Option.bind_some, hm.startDefect?_eq]
      cases hresolve : m.resolveStart r with
      | error e => simp [hresolve]
      | ok x => cases m.allGuardDefects <;> simp [hresolve]

/-- A valid machine is one all of whose checks hold. -/
theorem WellFormed.exists_validate_eq_ok_iff (hm : m.WellFormed) :
    (∃ v, m.validate = .ok v) ↔ ∀ k ∈ m.checks, k.Holds m := by
  have hnone : m.checks.findSome? (Check.defect? m) = none ↔ ∀ k ∈ m.checks, k.Holds m := by
    rw [List.findSome?_eq_none_iff]
    simp only [Check.defect?_eq_none_iff]
  rw [← hnone]
  cases hvalidate : m.validate with
  | ok v =>
      refine iff_of_true ⟨v, rfl⟩ (Option.eq_none_iff_forall_ne_some.mpr fun d hd => ?_)
      rw [hm.validate_eq_error_iff.mpr hd] at hvalidate
      cases hvalidate
  | error d => simp [hm.validate_eq_error_iff.mp hvalidate]

/-- A check of a guard is that of a reference or that of a transition. -/
theorem Guard.forall_mem_checks_iff {map : Map} {g : Guard} :
    (∀ k ∈ g.checks map, k.Holds m) ↔
      (∀ r ∈ g.references, m.IsTarget map r) ∧ ∀ name ∈ g.popTransition?, m.IsIssuable name := by
  simp only [Guard.checks, Guard.references, List.forall_mem_append, List.forall_mem_map,
    Check.Holds, Option.mem_toList, Option.mem_def]

/-- **A machine is consistent if and only if all checks hold.** -/
theorem consistent_iff : m.Consistent ↔ ∀ k ∈ m.checks, k.Holds m := by
  have hguards : (∀ k ∈ m.guardChecks, k.Holds m) ↔
      ∀ map ∈ m.maps, ∀ s ∈ map.allStates, ∀ t ∈ s.transitions, ∀ g ∈ t.guards,
        (∀ r ∈ g.references, m.IsTarget map r) ∧
          ∀ name ∈ g.popTransition?, m.IsIssuable name := by
    simp only [guardChecks, List.forall_mem_flatMap, Guard.forall_mem_checks_iff]
  rw [checks, List.forall_mem_append, List.forall_mem_append, hguards]
  constructor
  · intro h
    obtain ⟨r, hr, hstart⟩ := h.start
    refine ⟨?_, ?_, fun map hmap s hs t ht g hg =>
      ⟨h.targets map hmap s hs t ht g hg, h.issues map hmap s hs t ht g hg⟩⟩
    · simpa [Check.Holds, hr] using ⟨h.context, h.maps⟩
    · simpa [Check.Holds, hr] using hstart
  · rintro ⟨hparts, hstart, hguards⟩
    obtain ⟨r, hr⟩ := Option.isSome_iff_exists.mp (hparts .start (by simp))
    refine ⟨hparts .context (by simp), ⟨r, hr, ?_⟩, hparts .maps (by simp),
      fun map hmap s hs t ht g hg => (hguards map hmap s hs t ht g hg).1,
      fun map hmap s hs t ht g hg => (hguards map hmap s hs t ht g hg).2⟩
    exact hstart (.startState r) (by simp [hr])

/-- **A valid machine starts in the state that its start reference means.** -/
theorem WellFormed.starts_of_validate (hm : m.WellFormed) {v : Validated}
    (h : m.validate = .ok v) :
    v.machine = m ∧ ∃ r, m.startReference? = some r ∧ m.Starts r (v.startMap, v.startState) := by
  rw [validate] at h
  split at h
  · cases h
  · cases h
  · next r _ hr =>
      split at h
      · cases h
      · next map s hresolve =>
          split at h
          · cases h
          · obtain rfl := Except.ok.inj h
            exact ⟨rfl, r, hr, hm.resolveStart_eq_ok_iff.mp hresolve⟩

end Machine

variable {m : Machine}

/-- **Validation accepts exactly the consistent machines, and reports the first violation.** A
valid machine starts in the state that its start reference means, and what is reported of any
other is the defect of the first check that does not hold, where all checks before it hold. -/
theorem validate_reports_first_violation (hbuilt : m.Built) :
    ((∃ v, m.validate = .ok v) ↔ m.Consistent) ∧
      (∀ v, m.validate = .ok v →
        v.machine = m ∧
          ∃ r, m.startReference? = some r ∧ m.Starts r (v.startMap, v.startState)) ∧
      ∀ d, m.validate = .error d ↔
        ∃ before k after, m.checks = before ++ k :: after ∧
          (∀ j ∈ before, j.Holds m) ∧ ¬ k.Holds m ∧ d = k.defect m := by
  have hm := hbuilt.wellFormed
  have hfirst : ∀ d, m.validate = .error d ↔
      ∃ before k after, m.checks = before ++ k :: after ∧
        (∀ j ∈ before, j.Holds m) ∧ ¬ k.Holds m ∧ d = k.defect m := by
    intro d
    rw [hm.validate_eq_error_iff, List.findSome?_eq_some_iff]
    simp only [Check.defect?_eq_some_iff, Check.defect?_eq_none_iff]
    constructor
    · rintro ⟨before, k, after, hchecks, hk, hbefore⟩
      exact ⟨before, k, after, hchecks, hbefore, hk⟩
    · rintro ⟨before, k, after, hchecks, hbefore, hk⟩
      exact ⟨before, k, after, hchecks, hk, hbefore⟩
  refine ⟨?_, fun v hv => hm.starts_of_validate hv, hfirst⟩
  rw [hm.exists_validate_eq_ok_iff, Machine.consistent_iff]

/-! ### A hall with two faults -/

/-- Behind the door would be a default state. -/
def hallDoor : State :=
  { className := "Door"
    transitions := [{
      name := "knock", guards := [.make "" (.set (.named (.unqualified "Default"))) 2 []] }] }

/-- From anywhere, one returns to ring a bell that is not there. -/
def hallAnywhere : State :=
  { className := "Default"
    transitions := [{ name := "leave", guards := [.make "" (.pop (some "ring") []) 3 []] }] }

/-- The map of the hall. -/
def hallMap : Map :=
  { name := "Hall", states := [hallDoor], defaultState := some hallAnywhere }

/-- A hall with a door. -/
def hall : Machine :=
  Machine.setStart { context := "Porter", maps := [hallMap] } "Door" 1

/-- The hall can be put together. -/
theorem hall_built : hall.Built := by
  have hdoor : hallDoor.Built :=
    .addTransition (.new "Door" 0) (.addGuard (.new "knock" 0) (.make "" _ 2 _) rfl) rfl
  have hanywhere : hallAnywhere.Built :=
    .addTransition (.new "Default" 0) (.addGuard (.new "leave" 0) (.make "" _ 3 _) rfl) rfl
  have hone : (Map.mk "Hall" 0 [hallDoor] none).Built :=
    .addState (.new "Hall" 0) hdoor
      (Map.addState_eq_ok_iff.mpr (.inr ⟨by decide, by decide, rfl⟩))
  have hmap : hallMap.Built :=
    .addState hone hanywhere (Map.addState_eq_ok_iff.mpr (.inl ⟨by decide, rfl, rfl⟩))
  exact .setStart "Door" 1 (.addMap (.new "Porter") hmap rfl)

/-- The bell is reported, although the door stands on an earlier line: the default state is
looked at first. -/
theorem hall_reports_bell :
    hall.Built ∧ hall.validate = .error (.unknownPopTransition "ring" 3) ∧ ¬ hall.Consistent ∧
      ∃ before k after, hall.checks = before ++ k :: after ∧ (∀ j ∈ before, j.Holds hall) ∧
        ¬ k.Holds hall ∧ k.defect hall = .unknownPopTransition "ring" 3 := by
  obtain ⟨haccepts, -, hreports⟩ := validate_reports_first_violation hall_built
  have hvalidate : hall.validate = .error (.unknownPopTransition "ring" 3) := by
    have hdefect : (fun _ => ()) <$> hall.validate = .error (.unknownPopTransition "ring" 3) := by
      decide +kernel
    exact map_eq_error_iff.mp hdefect
  obtain ⟨before, k, after, hchecks, hbefore, hk, hd⟩ := (hreports _).mp hvalidate
  refine ⟨hall_built, hvalidate, ?_, before, k, after, hchecks, hbefore, hk, hd.symm⟩
  intro hconsistent
  obtain ⟨v, hv⟩ := haccepts.mpr hconsistent
  rw [hvalidate] at hv
  cases hv

end StateMachine
