import Mathlib.Data.List.Forall2

/-!
# Computations That May Fail

What it takes for a computation in `Except` to succeed, step by step: a sequence succeeds
when both parts do, and a traversal when every element does. A traversal that does not succeed
fails at the first element that fails.

Two properties are passed on from steps to sequences and traversals: what a computation fails for
(`FailsOnly`), and that two computations do the same, but for some part of their errors (`Alike`).
-/

namespace StateMachine

variable {ε ε' α β : Type}

/-- A sequence succeeds exactly when its parts do. -/
theorem bind_eq_ok_iff {x : Except ε α} {f : α → Except ε β} {b : β} :
    (x >>= f) = .ok b ↔ ∃ a, x = .ok a ∧ f a = .ok b := by
  cases x with
  | error e => simp [bind, Except.bind]
  | ok a => simp [bind, Except.bind]

/-- With a state, the first part leaves the state to the second one, or where it failed. -/
theorem run_bind {σ : Type} (r : ExceptT ε (StateM σ) α) (k : α → ExceptT ε (StateM σ) β) (s : σ) :
    (r >>= k).run.run s =
      match r.run.run s with
      | (.ok a, s') => (k a).run.run s'
      | (.error e, s') => (.error e, s') := by
  rw [ExceptT.run_bind, StateT.run_bind]
  generalize r.run.run s = ran
  obtain ⟨result, s'⟩ := ran
  cases result with
  | ok a => rfl
  | error e => rfl

/-- Only a success can be mapped to a success. -/
theorem map_eq_ok_iff {x : Except ε α} {f : α → β} {b : β} :
    f <$> x = .ok b ↔ ∃ a, x = .ok a ∧ f a = b := by
  cases x with
  | error e => simp [Functor.map, Except.map]
  | ok a => simp [Functor.map, Except.map]

/-- Changing the results changes no error. -/
theorem map_eq_error_iff {x : Except ε α} {f : α → β} {e : ε} :
    f <$> x = .error e ↔ x = .error e := by
  cases x <;> simp [Functor.map, Except.map]

/-- Changing the errors changes no success. -/
@[simp] theorem mapError_eq_ok_iff {x : Except ε α} {f : ε → ε'} {a : α} :
    x.mapError f = .ok a ↔ x = .ok a := by
  cases x <;> simp [Except.mapError]

/-- A success is what is left as an option. -/
theorem toOption_eq_some_iff {x : Except ε α} {a : α} : x.toOption = some a ↔ x = .ok a := by
  cases x <;> simp [Except.toOption]

/-- **A traversal succeeds pointwise.** -/
theorem mapM_eq_ok_iff {f : α → Except ε β} {xs : List α} {ys : List β} :
    xs.mapM f = .ok ys ↔ List.Forall₂ (fun x y => f x = .ok y) xs ys := by
  induction xs generalizing ys with
  | nil => cases ys <;> simp [pure, Except.pure]
  | cons x xs ih =>
      simp only [List.mapM_cons, bind_eq_ok_iff, pure, Except.pure, Except.ok.injEq]
      constructor
      · rintro ⟨y, hy, ys, hys, rfl⟩
        exact .cons hy (ih.mp hys)
      · rintro (_ | ⟨hy, hys⟩)
        exact ⟨_, hy, _, ih.mpr hys, rfl⟩

/-- **A traversal fails at the first element that fails**, as this one does. -/
theorem mapM_eq_error_iff {f : α → Except ε β} {xs : List α} {e : ε} :
    xs.mapM f = .error e ↔
      ∃ before x after, xs = before ++ x :: after ∧ (∀ y ∈ before, ∃ b, f y = .ok b) ∧
        f x = .error e := by
  induction xs with
  | nil => simp [pure, Except.pure]
  | cons x xs ih =>
      cases hx : f x with
      | error e' =>
          have hfails : (x :: xs).mapM f = .error e' := by
            rw [List.mapM_cons, hx]
            rfl
          rw [hfails]
          constructor
          · rintro ⟨⟩
            exact ⟨[], x, xs, rfl, by simp, hx⟩
          · rintro ⟨_ | ⟨y, before⟩, z, after, hxs, hbefore, hz⟩
            · obtain ⟨rfl, rfl⟩ := List.cons.inj hxs
              rw [Except.error.inj (hx.symm.trans hz)]
            · obtain ⟨b, hb⟩ := hbefore x ((List.cons.inj hxs).1 ▸ List.mem_cons_self)
              rw [hx] at hb
              cases hb
      | ok b =>
          have hrest : (x :: xs).mapM f = .error e ↔ xs.mapM f = .error e := by
            rw [List.mapM_cons, hx]
            exact map_eq_error_iff
          rw [hrest, ih]
          constructor
          · rintro ⟨before, z, after, rfl, hbefore, hz⟩
            exact ⟨x :: before, z, after, rfl, List.forall_mem_cons.mpr ⟨⟨b, hx⟩, hbefore⟩, hz⟩
          · rintro ⟨_ | ⟨y, before⟩, z, after, hxs, hbefore, hz⟩
            · obtain ⟨rfl, rfl⟩ := List.cons.inj hxs
              cases hx.symm.trans hz
            · exact ⟨before, z, after, (List.cons.inj hxs).2,
                (List.forall_mem_cons.mp hbefore).2, hz⟩

/-- Steps that give the same for each element give the same, whether it fails or not. -/
theorem mapM_congr {f g : α → Except ε β} {xs : List α} (h : ∀ x ∈ xs, f x = g x) :
    xs.mapM f = xs.mapM g := by
  induction xs with
  | nil => rfl
  | cons x xs ih =>
      obtain ⟨hx, hxs⟩ := List.forall_mem_cons.mp h
      rw [List.mapM_cons, List.mapM_cons, hx, ih hxs]

/-- The results of a traversal can be changed one by one. -/
theorem map_mapM {γ : Type} {f : α → Except ε β} {f' : α → Except ε γ} {g : β → γ}
    (h : ∀ x, g <$> f x = f' x) (xs : List α) : List.map g <$> xs.mapM f = xs.mapM f' := by
  induction xs with
  | nil => rfl
  | cons x xs ih =>
      rw [List.mapM_cons, List.mapM_cons, ← ih, ← h x]
      cases f x with
      | error e => rfl
      | ok y => cases xs.mapM f <;> rfl

/-- What a traversal gives comes from its elements. -/
theorem mem_of_mapM_eq_ok {f : α → Except ε β} {xs : List α} {ys : List β}
    (h : xs.mapM f = .ok ys) {y : β} : y ∈ ys ↔ ∃ x ∈ xs, f x = .ok y := by
  induction mapM_eq_ok_iff.mp h with
  | nil => simp
  | @cons x y' xs ys hy hys ih =>
      have ih := ih (mapM_eq_ok_iff.mpr hys)
      rw [List.mem_cons, ih, List.exists_mem_cons_iff, hy, Except.ok.injEq, @eq_comm _ y' y]

/-- Every element of a traversal gives something. -/
theorem exists_of_mapM_eq_ok {f : α → Except ε β} {xs : List α} {ys : List β}
    (h : xs.mapM f = .ok ys) {x : α} (hx : x ∈ xs) : ∃ y ∈ ys, f x = .ok y := by
  induction mapM_eq_ok_iff.mp h with
  | nil => cases hx
  | @cons x' y xs ys hy hys ih =>
      rcases List.mem_cons.mp hx with rfl | hrest
      · exact ⟨y, List.mem_cons_self, hy⟩
      · obtain ⟨z, hz, hfz⟩ := ih (mapM_eq_ok_iff.mpr hys) hrest
        exact ⟨z, List.mem_cons_of_mem y hz, hfz⟩

/-- Each element gives the result at its own position. -/
theorem getElem?_of_mapM_eq_ok {f : α → Except ε β} {xs : List α} {ys : List β}
    (h : xs.mapM f = .ok ys) {i : Nat} {x : α} (hx : xs[i]? = some x) :
    ∃ y, ys[i]? = some y ∧ f x = .ok y := by
  induction mapM_eq_ok_iff.mp h generalizing i with
  | nil => cases hx
  | @cons x' y xs ys hy hys ih =>
      cases i with
      | zero =>
          obtain rfl := Option.some.inj hx
          exact ⟨y, rfl, hy⟩
      | succ i => exact ih (mapM_eq_ok_iff.mpr hys) hx

/-- What is known of the results, element by element, is known of all of them. -/
theorem map_eq_of_mapM_eq_ok {γ : Type} {f : α → Except ε β} {xs : List α} {ys : List β}
    {g : β → γ} {k : α → γ} (h : xs.mapM f = .ok ys)
    (hk : ∀ x ∈ xs, ∀ y, f x = .ok y → g y = k x) : ys.map g = xs.map k := by
  induction mapM_eq_ok_iff.mp h with
  | nil => rfl
  | @cons x y xs ys hy hys ih =>
      rw [List.map_cons, List.map_cons, hk x List.mem_cons_self y hy,
        ih (mapM_eq_ok_iff.mpr hys) fun x hx => hk x (List.mem_cons_of_mem _ hx)]

/-- An optional step succeeds when there is nothing to do or the step succeeds. -/
theorem optionMapM_eq_ok_iff {f : α → Except ε β} {x : Option α} {y : Option β} :
    x.mapM f = .ok y ↔
      (x = none ∧ y = none) ∨ ∃ a b, x = some a ∧ y = some b ∧ f a = .ok b := by
  cases x with
  | none => simp [pure, Except.pure, eq_comm]
  | some a =>
      cases hf : f a with
      | error e => simp [Functor.map, Except.map, hf]
      | ok b => simp [Functor.map, Except.map, hf, eq_comm]

/-! ### What a computation fails for -/

/-- The computation succeeds, or fails for something that `P` holds of. -/
def FailsOnly (P : ε → Prop) (x : Except ε α) : Prop :=
  ∀ e, x = .error e → P e

namespace FailsOnly

variable {P : ε → Prop} {x : Except ε α}

/-- A success does not fail. -/
theorem ok (a : α) : FailsOnly P (.ok a) :=
  fun _ h => by cases h

/-- A failure fails for itself. -/
theorem error {e : ε} (h : P e) : FailsOnly P (.error e : Except ε α) := by
  rintro _ ⟨⟩
  exact h

/-- A sequence fails for what its parts fail for. -/
theorem bind {k : α → Except ε β} (h : FailsOnly P x)
    (hk : ∀ a, x = .ok a → FailsOnly P (k a)) : FailsOnly P (x >>= k) := by
  cases hx : x with
  | error e => exact error (h e hx)
  | ok a => exact hk a hx

/-- Changing the results changes no error. -/
theorem map (h : FailsOnly P x) (f : α → β) : FailsOnly P (f <$> x) :=
  fun e he => h e (map_eq_error_iff.mp he)

/-- Changed errors are as the change makes them. -/
theorem mapError {f : ε' → ε} (h : ∀ e, P (f e)) (x : Except ε' α) :
    FailsOnly P (x.mapError f) := by
  cases x with
  | error e => exact error (h e)
  | ok a => exact ok a

/-- A traversal fails for what its elements fail for. -/
theorem mapM {f : α → Except ε β} {xs : List α} (h : ∀ a ∈ xs, FailsOnly P (f a)) :
    FailsOnly P (xs.mapM f) := by
  intro e he
  obtain ⟨before, a, after, rfl, -, ha⟩ := mapM_eq_error_iff.mp he
  exact h a (by simp) e ha

/-- So does an optional step. -/
theorem optionMapM {f : α → Except ε β} {y : Option α} (h : ∀ a ∈ y, FailsOnly P (f a)) :
    FailsOnly P (y.mapM f) := by
  cases y with
  | none => exact ok none
  | some a => exact (h a rfl).map some

end FailsOnly

/-! ### Computations that are alike -/

/-- Both computations succeed with the same result, or both fail, with errors that `f` does not
tell apart. -/
inductive Alike (f : ε → ε') : Except ε α → Except ε α → Prop
  | ok (a : α) : Alike f (.ok a) (.ok a)
  | error {e e' : ε} (h : f e = f e') : Alike f (.error e) (.error e')

namespace Alike

variable {f : ε → ε'} {x y z : Except ε α}

/-- A computation is like itself. -/
theorem refl (f : ε → ε') : ∀ x : Except ε α, Alike f x x
  | .ok a => .ok a
  | .error _ => .error rfl

/-- If one computation is like another, the other is like the one. -/
theorem symm (h : Alike f x y) : Alike f y x := by
  cases h with
  | ok a => exact .ok a
  | error he => exact .error he.symm

/-- Two computations that are like a third are alike. -/
theorem trans (hxy : Alike f x y) (hyz : Alike f y z) : Alike f x z := by
  cases hxy with
  | ok a => exact hyz
  | error he =>
      cases hyz with
      | error he' => exact .error (he.trans he')

/-- What is like a success succeeds with the same result. -/
theorem eq_ok {a : α} (h : Alike f (.ok a) y) : y = .ok a := by
  cases h with
  | ok => rfl

/-- **Sequences are alike** if their parts are. The first parts may give results that differ by
`g`, if what follows allows for it. -/
theorem bind_map {γ : Type} {g : α → β} {x : Except ε α} {y : Except ε β} {k : α → Except ε γ}
    {k' : β → Except ε γ} (h : Alike f (g <$> x) y) (hk : ∀ a, Alike f (k a) (k' (g a))) :
    Alike f (x >>= k) (y >>= k') := by
  cases x with
  | ok a =>
      cases h with
      | ok => exact hk a
  | error e =>
      cases h with
      | error he => exact .error he

/-- Sequences are alike if their parts are. -/
theorem bind {k k' : α → Except ε β} (h : Alike f x y) (hk : ∀ a, Alike f (k a) (k' a)) :
    Alike f (x >>= k) (y >>= k') :=
  bind_map (g := id) (by rwa [id_map]) hk

/-- Changing the results alike keeps computations alike. -/
theorem map (h : Alike f x y) (g : α → β) : Alike f (g <$> x) (g <$> y) := by
  cases h with
  | ok a => exact .ok (g a)
  | error he => exact .error he

/-- So does changing the errors alike. -/
theorem mapError {ε₁ ε₂ : Type} {f₁ : ε₁ → ε₂} {g : ε → ε₁} (h : Alike f x y)
    (hg : ∀ e e', f e = f e' → f₁ (g e) = f₁ (g e')) :
    Alike f₁ (x.mapError g) (y.mapError g) := by
  cases h with
  | ok a => exact .ok a
  | error he => exact .error (hg _ _ he)

/-- **Traversals are alike** if their steps are. The elements may differ by `g`. -/
theorem mapM_map {γ : Type} {g : α → γ} {k : α → Except ε β} {k' : γ → Except ε β}
    (h : ∀ a, Alike f (k a) (k' (g a))) (xs : List α) :
    Alike f (xs.mapM k) ((xs.map g).mapM k') := by
  induction xs with
  | nil => exact .ok []
  | cons a rest ih =>
      rw [List.map_cons, List.mapM_cons, List.mapM_cons]
      exact (h a).bind fun b => ih.bind fun bs => .ok (b :: bs)

/-- Traversals are alike if their steps are. -/
theorem mapM {k k' : α → Except ε β} (h : ∀ a, Alike f (k a) (k' a)) (xs : List α) :
    Alike f (xs.mapM k) (xs.mapM k') := by
  have hid := mapM_map (g := id) h xs
  rwa [List.map_id] at hid

/-- So are optional steps. -/
theorem optionMapM {k k' : α → Except ε β} (h : ∀ a, Alike f (k a) (k' a)) (o : Option α) :
    Alike f (o.mapM k) (o.mapM k') := by
  cases o with
  | none => exact .ok none
  | some a => exact (h a).map some

end Alike

end StateMachine
