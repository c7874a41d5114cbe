import Mathlib.Data.List.Perm.Basic
import Mathlib.Data.String.Basic
import StateMachine.Proofs.Machine.Signature

/-!
# First Declarations

A transition may be declared in many states under one signature. A machine keeps one declaration
of each signature: that of the first map that has one, and there the default state's before those
of the ordinary states in their order. The kept declaration decides how arguments are named and on
which line an error is reported.

## Proof strategy

A list is looked at through the questions "which transition is the first of this signature?". To
sort it and to drop repeats changes no answer, since neither moves a transition in front of another
of its signature (`find?_mergeTransitions`). A list that is strictly increasing is determined by
its answers (`eq_of_find?_eq`). So merges of merges need no proof about sorting: a merge of merged
lists and the merge of all lists are both increasing and give the same answers.

## Main results

* `find?_mergeTransitions`: a merge keeps the **first** transition of each signature.
* `mergeTransitions_flatMap`: lists that were merged before are merged **as if they were not**.
* `map_signature_mergeTransitions`: which signatures are kept does not depend on their order.
* `transitions_are_first_declarations`: what the order of signatures is, and which transitions a
  machine has.
-/

namespace StateMachine

/-! ### Signatures -/

/-- What tells the transitions of a machine apart. -/
structure Signature where
  name : String
  /-- The types of the parameters, in order. -/
  types : List String
  deriving DecidableEq, Repr

namespace Transition

/-- The signature of a transition. -/
def signature (t : Transition) : Signature :=
  ⟨t.name, t.parameterTypes⟩

variable {a b c : Transition}

/-- Transitions have one signature if they have the same name and parameter types. -/
theorem signature_eq_iff :
    a.signature = b.signature ↔ a.name = b.name ∧ a.parameterTypes = b.parameterTypes :=
  Signature.mk.injEq .. |>.to_iff

/-- Transitions have one signature exactly when they compare equal. -/
theorem compareSignature_eq_iff_signature :
    a.compareSignature b = .eq ↔ a.signature = b.signature := by
  rw [compareSignature_eq_iff, signature_eq_iff]

/-- The test for one signature decides it. -/
theorem sameSignature_iff : a.sameSignature b = true ↔ a.signature = b.signature := by
  rw [sameSignature, decide_eq_true_eq, compareSignature_eq_iff_signature]

/-- Transitions of one signature may stand in either order. -/
theorem signatureLe_of_signature_eq (h : a.signature = b.signature) : a.signatureLe b = true := by
  rw [signatureLe, compareSignature_eq_iff_signature.mpr h]
  rfl

/-- No transition comes before one that comes before it. -/
theorem not_lt_of_lt (hab : a.compareSignature b = .lt) : ¬ b.compareSignature a = .lt := by
  intro hba
  have hself : a.compareSignature a = .eq := Std.ReflCmp.compare_self
  rw [Std.TransCmp.lt_trans hab hba] at hself
  cases hself

/-- A transition that comes before another has another signature. -/
theorem signature_ne_of_lt (h : a.compareSignature b = .lt) : a.signature ≠ b.signature := by
  intro heq
  rw [compareSignature_eq_iff_signature.mpr heq] at h
  cases h

/-- Of two transitions in order, the names are in order unless they are the same. -/
theorem name_lt_of_lt (h : a.compareSignature b = .lt) (hname : a.name ≠ b.name) :
    a.name < b.name := by
  have hle : a.signatureLe b = true := by
    rw [signatureLe, h]
    rfl
  have hisLE := name_le_of_signatureLe hle
  rw [← compare_lt_iff_lt]
  cases hcompare : compare a.name b.name with
  | lt => rfl
  | eq => exact absurd (Std.compare_eq_iff_eq.mp hcompare) hname
  | gt => simp [hcompare] at hisLE

end Transition

/-! ### Increasing lists -/

section Increasing

variable {ts us : List Transition} (hts : ts.Pairwise fun a b => a.compareSignature b = .lt)
include hts

/-- An increasing list has each signature once. -/
theorem nodup_map_signature : (ts.map Transition.signature).Nodup :=
  List.pairwise_map.mpr (hts.imp Transition.signature_ne_of_lt)

/-- If its names are distinct, they are increasing, too. -/
theorem pairwise_map_name (hnames : (ts.map Transition.name).Nodup) :
    (ts.map Transition.name).Pairwise (· < ·) :=
  List.pairwise_map.mpr ((hts.and (List.pairwise_map.mp hnames)).imp
    fun h => Transition.name_lt_of_lt h.1 h.2)

/-- What is found first in an increasing list comes before all else that is looked for. -/
theorem eq_or_lt_of_find? {p : Transition → Bool} {t u : Transition} (ht : ts.find? p = some t)
    (hu : u ∈ ts) (hp : p u = true) : u = t ∨ t.compareSignature u = .lt := by
  obtain ⟨-, before, after, rfl, hbefore⟩ := List.find?_eq_some_iff_append.mp ht
  rcases List.mem_append.mp hu with hu | hu
  · have hskipped := hbefore u hu
    rw [hp] at hskipped
    cases hskipped
  · rcases List.mem_cons.mp hu with rfl | hu
    · exact .inl rfl
    · exact .inr ((List.pairwise_cons.mp (List.pairwise_append.mp hts).2.1).1 u hu)

/-- The transitions of an increasing list are the first of their signatures. -/
theorem mem_iff_find?_eq_some {t : Transition} :
    t ∈ ts ↔ ts.find? (fun u => u.signature = t.signature) = some t := by
  constructor
  · intro ht
    obtain ⟨u, hu⟩ : ∃ u, ts.find? (fun u => u.signature = t.signature) = some u :=
      Option.isSome_iff_exists.mp (List.find?_isSome.mpr ⟨t, ht, by simp⟩)
    have hsame : u.signature = t.signature := by simpa using List.find?_some hu
    rw [hu, List.inj_on_of_nodup_map (nodup_map_signature hts) (List.mem_of_find?_eq_some hu) ht
      hsame]
  · exact List.mem_of_find?_eq_some

/-- **Increasing lists are determined by their first transitions.** -/
theorem eq_of_find?_eq (hus : us.Pairwise fun a b => a.compareSignature b = .lt)
    (hfind : ∀ σ, ts.find? (fun t => t.signature = σ) = us.find? (fun t => t.signature = σ)) :
    ts = us := by
  have hperm : ts.Perm us :=
    (List.perm_ext_iff_of_nodup (nodup_map_signature hts).of_map
      (nodup_map_signature hus).of_map).mpr fun t => by
        rw [mem_iff_find?_eq_some hts, mem_iff_find?_eq_some hus, hfind]
  exact hperm.eq_of_pairwise
    (fun a b _ _ hab hba => absurd hba (Transition.not_lt_of_lt hab)) hts hus

/-- Increasing lists of the same signatures have them in the same order. -/
theorem map_signature_eq (hus : us.Pairwise fun a b => a.compareSignature b = .lt)
    (hmem : ∀ σ, σ ∈ ts.map Transition.signature ↔ σ ∈ us.map Transition.signature) :
    ts.map Transition.signature = us.map Transition.signature := by
  have hincreasing : ∀ {vs : List Transition},
      vs.Pairwise (fun a b => a.compareSignature b = .lt) →
      (vs.map Transition.signature).Pairwise fun σ τ =>
        ∀ a b : Transition, a.signature = σ → b.signature = τ → a.compareSignature b = .lt := by
    intro vs hvs
    refine List.pairwise_map.mpr (hvs.imp fun {a b} hlt a' b' ha hb => ?_)
    have hleft : a'.compareSignature a = .eq :=
      Transition.compareSignature_eq_iff_signature.mpr ha
    have hright : b.compareSignature b' = .eq :=
      Transition.compareSignature_eq_iff_signature.mpr hb.symm
    exact Std.TransCmp.lt_of_eq_of_lt hleft (Std.TransCmp.lt_of_lt_of_eq hlt hright)
  have hperm := (List.perm_ext_iff_of_nodup (nodup_map_signature hts)
    (nodup_map_signature hus)).mpr hmem
  refine hperm.eq_of_pairwise (fun σ τ hσ hτ hστ hτσ => ?_) (hincreasing hts) (hincreasing hus)
  obtain ⟨a, -, ha⟩ := List.mem_map.mp hσ
  obtain ⟨b, -, hb⟩ := List.mem_map.mp hτ
  exact absurd (hτσ b a hb ha) (Transition.not_lt_of_lt (hστ a b ha hb))

end Increasing

/-! ### The first transition of a signature -/

section First

variable (σ : Signature)

/-- An insertion puts a transition in front of those of its signature. -/
theorem find?_insertBySignature (t : Transition) (ts : List Transition) :
    (insertBySignature t ts).find? (fun u => u.signature = σ) =
      (t :: ts).find? fun u => u.signature = σ := by
  induction ts with
  | nil => rfl
  | cons u rest ih =>
      unfold insertBySignature
      split_ifs with hle
      · rfl
      · -- the insertion moves on, so `t` and `u` cannot both be of this signature
        have hne : t.signature ≠ u.signature := fun heq =>
          hle (Transition.signatureLe_of_signature_eq heq)
        rw [List.find?_cons, ih]
        by_cases hu : u.signature = σ
        · have ht : t.signature ≠ σ := hu ▸ hne
          simp [hu, ht]
        · simp [hu, List.find?_cons]

/-- Sorting keeps the order of transitions of one signature. -/
theorem find?_sortBySignature (ts : List Transition) :
    (sortBySignature ts).find? (fun t => t.signature = σ) =
      ts.find? fun t => t.signature = σ := by
  induction ts with
  | nil => rfl
  | cons t rest ih =>
      rw [sortBySignature, find?_insertBySignature, List.find?_cons, ih]
      rfl

/-- A repeat is never the first of its signature. -/
theorem find?_dropRepeats (last : Transition) (ts : List Transition) :
    (last :: dropRepeats last ts).find? (fun t => t.signature = σ) =
      (last :: ts).find? fun t => t.signature = σ := by
  induction ts generalizing last with
  | nil => rfl
  | cons t rest ih =>
      unfold dropRepeats
      split_ifs with hsame
      · rw [ih, List.find?_cons, List.find?_cons, List.find?_cons,
          Transition.sameSignature_iff.mp hsame]
        by_cases hlast : last.signature = σ <;> simp [hlast]
      · rw [List.find?_cons, ih]
        rfl

/-- **A merge keeps the first transition of each signature.** -/
theorem find?_mergeTransitions (ts : List Transition) :
    (mergeTransitions ts).find? (fun t => t.signature = σ) =
      ts.find? fun t => t.signature = σ := by
  rw [← find?_sortBySignature σ ts, mergeTransitions]
  cases sortBySignature ts with
  | nil => rfl
  | cons t rest => exact find?_dropRepeats σ t rest

end First

/-! ### Merges of merges -/

/-- **Merging in two steps is merging in one.** -/
theorem mergeTransitions_flatMap {α : Type} (f : α → List Transition) (l : List α) :
    mergeTransitions (l.flatMap fun a => mergeTransitions (f a)) =
      mergeTransitions (l.flatMap f) := by
  refine eq_of_find?_eq (pairwise_mergeTransitions _) (pairwise_mergeTransitions _) fun σ => ?_
  simp only [find?_mergeTransitions, List.find?_flatMap]

/-- A merge has the signatures of the list that was merged. -/
theorem mem_map_signature_mergeTransitions {σ : Signature} {ts : List Transition} :
    σ ∈ (mergeTransitions ts).map Transition.signature ↔ σ ∈ ts.map Transition.signature := by
  constructor
  · intro hσ
    obtain ⟨t, ht, rfl⟩ := List.mem_map.mp hσ
    exact List.mem_map_of_mem (mem_of_mem_mergeTransitions ht)
  · intro hσ
    obtain ⟨t, ht, rfl⟩ := List.mem_map.mp hσ
    obtain ⟨u, hu, hsame⟩ := exists_mem_mergeTransitions ht
    exact List.mem_map.mpr ⟨u, hu, Transition.signature_eq_iff.mpr hsame⟩

/-- **The order of the transitions does not matter** for the signatures of a merge. -/
theorem map_signature_mergeTransitions {ts us : List Transition} (h : ts.Perm us) :
    (mergeTransitions ts).map Transition.signature =
      (mergeTransitions us).map Transition.signature := by
  refine map_signature_eq (pairwise_mergeTransitions _) (pairwise_mergeTransitions _) fun σ => ?_
  rw [mem_map_signature_mergeTransitions, mem_map_signature_mergeTransitions]
  exact (h.map _).mem_iff

/-! ### Declarations -/

/-- The declaration of a signature in a state. -/
def State.declaration? (s : State) (σ : Signature) : Option Transition :=
  s.transitions.find? fun t => t.signature = σ

/-- The first declaration of a signature in a map: that of the default state, or else that of the
first ordinary state that has one. -/
def Map.declaration? (m : Map) (σ : Signature) : Option Transition :=
  (m.defaultState.bind fun s => s.declaration? σ).or
    (m.states.findSome? fun s => s.declaration? σ)

namespace Machine

/-- The first declaration of a signature in a machine: that of the first map that has one. -/
def declaration? (m : Machine) (σ : Signature) : Option Transition :=
  m.maps.findSome? fun map => map.declaration? σ

/-- All transitions that are declared, map by map and those of the default state first. -/
def declaredTransitions (m : Machine) : List Transition :=
  m.maps.flatMap fun map => map.allStates.flatMap State.transitions

/-- A machine has the merge of all transitions that are declared. -/
theorem transitions_eq (m : Machine) : m.transitions = mergeTransitions m.declaredTransitions :=
  mergeTransitions_flatMap (fun map : Map => map.allStates.flatMap State.transitions) m.maps

end Machine

/-- The first transition of a signature in a map is its first declaration. -/
theorem Map.find?_transitions (m : Map) (σ : Signature) :
    m.transitions.find? (fun t => t.signature = σ) = m.declaration? σ := by
  rw [transitions, find?_mergeTransitions, List.find?_flatMap, allStates, List.findSome?_append,
    declaration?]
  cases m.defaultState with
  | none => rfl
  | some s => simp [State.declaration?]

/-- **The first transition of a signature in a machine is its first declaration.** -/
theorem Machine.find?_transitions (m : Machine) (σ : Signature) :
    m.transitions.find? (fun t => t.signature = σ) = m.declaration? σ := by
  rw [transitions, find?_mergeTransitions, List.find?_flatMap, declaration?]
  simp only [Map.find?_transitions]

/-! ### Rearranged machines -/

/-- The second state declares the transitions of the first one in some order. -/
def State.Rearranged (s s' : State) : Prop :=
  s.transitions.Perm s'.transitions

/-- The second map has the states of the first one in some order, each of them rearranged. The
default state stays the default state. -/
structure Map.Rearranged (m m' : Map) : Prop where
  defaultState : Option.Rel State.Rearranged m.defaultState m'.defaultState
  states : ∃ states, m.states.Perm states ∧ List.Forall₂ State.Rearranged states m'.states

/-- The second machine has the maps of the first one in some order, each of them rearranged. -/
def Machine.Rearranged (m m' : Machine) : Prop :=
  ∃ maps, m.maps.Perm maps ∧ List.Forall₂ Map.Rearranged maps m'.maps

/-- Lists of rearranged lists are rearranged. -/
theorem perm_flatMap_of_forall₂ {α : Type} {R : α → α → Prop} {f : α → List Transition}
    (hf : ∀ a b, R a b → (f a).Perm (f b)) {l before after : List α} (hperm : before.Perm l)
    (hrel : List.Forall₂ R l after) : (before.flatMap f).Perm (after.flatMap f) := by
  refine (hperm.flatMap_right f).trans ?_
  rw [List.flatMap_def, List.flatMap_def]
  refine List.Perm.flatten_congr ?_
  rw [List.forall₂_map_left_iff, List.forall₂_map_right_iff]
  exact hrel.imp hf

/-- A rearranged map declares the same transitions. -/
theorem Map.Rearranged.perm {m m' : Map} (h : m.Rearranged m') :
    (m.allStates.flatMap State.transitions).Perm (m'.allStates.flatMap State.transitions) := by
  obtain ⟨states, hperm, hstates⟩ := h.states
  have hordinary := perm_flatMap_of_forall₂ (f := State.transitions) (fun _ _ h => h) hperm hstates
  have hdefault : ∀ {d d' : Option State}, Option.Rel State.Rearranged d d' →
      (d.toList.flatMap State.transitions).Perm (d'.toList.flatMap State.transitions) := by
    intro d d' hrel
    cases hrel with
    | none => exact .refl _
    | some hstate => simpa [State.Rearranged] using hstate
  rw [allStates, allStates, List.flatMap_append, List.flatMap_append]
  exact (hdefault h.defaultState).append hordinary

/-- So does a rearranged machine. -/
theorem Machine.Rearranged.perm {m m' : Machine} (h : m.Rearranged m') :
    m.declaredTransitions.Perm m'.declaredTransitions := by
  obtain ⟨maps, hperm, hmaps⟩ := h
  exact perm_flatMap_of_forall₂ (fun _ _ h => h.perm) hperm hmaps

/-! ### The transitions of a machine -/

/-- **A machine has the first declarations of its transitions.** Signatures are totally preordered,
and transitions are equal in this order if they agree in name and parameter types. The transitions
of a machine are strictly increasing; each declared signature has one of them, and there are no
others; they are the merge of all declarations; the one of a signature is its first declaration,
where a default state counts before the ordinary states of its map; and a rearranged machine has
transitions of the same signatures. -/
theorem transitions_are_first_declarations (m : Machine) :
    (∀ a b : Transition, a.signatureLe b = true ∨ b.signatureLe a = true) ∧
      (∀ a b c : Transition, a.signatureLe b = true → b.signatureLe c = true →
        a.signatureLe c = true) ∧
      (∀ a b : Transition, b.compareSignature a = (a.compareSignature b).swap) ∧
      (∀ a b : Transition, a.compareSignature b = .eq ↔
        a.name = b.name ∧ a.parameterTypes = b.parameterTypes) ∧
      (m.transitions.Pairwise fun a b => a.compareSignature b = .lt) ∧
      (∀ t, m.Declares t → ∃! u, u ∈ m.transitions ∧ u.signature = t.signature) ∧
      (∀ u ∈ m.transitions, m.Declares u) ∧
      m.transitions = mergeTransitions m.declaredTransitions ∧
      (∀ σ, m.transitions.find? (fun t => t.signature = σ) = m.declaration? σ) ∧
      ∀ m', m.Rearranged m' →
        m.transitions.map Transition.signature = m'.transitions.map Transition.signature := by
  have hincreasing : m.transitions.Pairwise fun a b => a.compareSignature b = .lt :=
    pairwise_mergeTransitions _
  refine ⟨fun a b => ?_, fun a b c => Transition.signatureLe_trans,
    fun a b => Std.OrientedCmp.eq_swap, fun a b => Transition.compareSignature_eq_iff, hincreasing,
    ?_, fun u hu => Machine.exists_of_mem_transitions hu, m.transitions_eq, m.find?_transitions,
    ?_⟩
  · exact or_iff_not_imp_left.mpr Transition.signatureLe_of_not
  · rintro t ⟨map, hmap, s, hs, ht⟩
    obtain ⟨u, hu, hsame⟩ := Machine.exists_mem_transitions hmap hs ht
    have hsignature : u.signature = t.signature := Transition.signature_eq_iff.mpr hsame
    refine ⟨u, ⟨hu, hsignature⟩, fun w ⟨hw, hwsignature⟩ => ?_⟩
    exact List.inj_on_of_nodup_map (nodup_map_signature hincreasing) hw hu
      (hwsignature.trans hsignature.symm)
  · intro m' hrearranged
    rw [m.transitions_eq, m'.transitions_eq]
    exact map_signature_mergeTransitions hrearranged.perm

/-! ### A desk with two bells -/

/-- A bell that is given a number of strokes. -/
def ringStrokes (strokes : String) (line : Nat) : Transition :=
  { name := "ring", line, parameters := [⟨strokes, "u8", line⟩] }

/-- A bell that rings once. -/
def ringOnce (line : Nat) : Transition :=
  { name := "ring", line }

/-- By day one bows, too. -/
def deskDay : State :=
  { className := "Day", transitions := [ringStrokes "count" 2, { name := "bow", line := 3 }] }

/-- By night the bell rings once. -/
def deskNight : State :=
  { className := "Night", transitions := [ringOnce 4] }

/-- The bell of the hall, which is rung in states before it is rung by default. -/
def deskHall : Map :=
  { name := "Hall"
    states := [deskDay, deskNight]
    defaultState := some { className := "Default", transitions := [ringStrokes "strokes" 5] } }

/-- The bell of the yard. -/
def deskYard : Map :=
  { name := "Yard", states := [{ className := "Gate", transitions := [ringOnce 7] }] }

/-- The desk from which both bells are rung. -/
def desk : Machine :=
  { context := "Porter", maps := [deskHall, deskYard] }

/-- The desk with its maps, the states of the hall and the transitions of the day turned round. -/
def deskTurned : Machine :=
  { context := "Porter"
    maps := [deskYard, { deskHall with
      states := [deskNight, { deskDay with transitions := deskDay.transitions.reverse }] }] }

/-- The default state's declaration is kept, though it is on a later line, and that of the first
map. The desk that is turned round keeps another one, of the same signature. -/
theorem desk_keeps_first_declarations :
    desk.transitions = [{ name := "bow", line := 3 }, ringOnce 4, ringStrokes "strokes" 5] ∧
      desk.Rearranged deskTurned ∧
      deskTurned.transitions ≠ desk.transitions ∧
      deskTurned.transitions.map Transition.signature =
        [⟨"bow", []⟩, ⟨"ring", []⟩, ⟨"ring", ["u8"]⟩] ∧
      desk.Declares (ringStrokes "count" 2) ∧
      ∃! u, u ∈ desk.transitions ∧ u.signature = (ringStrokes "count" 2).signature := by
  obtain ⟨-, -, -, -, -, hone, -, -, -, hsame⟩ := transitions_are_first_declarations desk
  have hkept : desk.transitions =
      [{ name := "bow", line := 3 }, ringOnce 4, ringStrokes "strokes" 5] := by
    decide +kernel
  have hday : desk.Declares (ringStrokes "count" 2) :=
    ⟨deskHall, List.mem_cons_self, deskDay, by decide, List.mem_cons_self⟩
  have hturned : desk.Rearranged deskTurned := by
    refine ⟨[deskYard, deskHall], .swap _ _ _, .cons ⟨.none, _, .refl _, ?_⟩
      (.cons ⟨.some (.refl _), [deskNight, deskDay], .swap _ _ _, ?_⟩ .nil)⟩
    · exact .cons (.refl _) .nil
    · exact .cons (.refl _) (.cons (List.reverse_perm _).symm .nil)
  refine ⟨hkept, hturned, by decide +kernel, ?_, hday, hone _ hday⟩
  rw [← hsame _ hturned, hkept]
  rfl

end StateMachine
