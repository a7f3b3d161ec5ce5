import Mathlib.Data.List.Forall2
import LoraGateway.Bytes

/-!
# Computations that may fail

What the result of a computation in `Except` says about its steps. A decoder is a chain of reads and
guards; with these facts it opens into the conjunction of what its reads found and its guards asked.
-/

namespace LoraGateway.Result

variable {ε ε' α β : Type}

theorem throw_ne_ok {e : ε} {a : α} : (throw e : Except ε α) ≠ .ok a := by
  rintro ⟨⟩

theorem pure_eq_ok_iff {a b : α} : (pure a : Except ε α) = .ok b ↔ a = b := by
  constructor
  · rintro ⟨⟩
    rfl
  · rintro rfl
    rfl

/-- A chain succeeds if and only if each of its steps does. -/
theorem bind_eq_ok_iff {x : Except ε α} {f : α → Except ε β} {b : β} :
    x >>= f = .ok b ↔ ∃ a, x = .ok a ∧ f a = .ok b := by
  constructor
  · intro h
    cases x with
    | error e => exact absurd h throw_ne_ok
    | ok a => exact ⟨a, rfl, h⟩
  · rintro ⟨a, rfl, h⟩
    exact h

/-- A chain fails if and only if one of its steps does, after those before it succeeded. -/
theorem bind_eq_error_iff {x : Except ε α} {f : α → Except ε β} {e : ε} :
    x >>= f = .error e ↔ x = .error e ∨ ∃ a, x = .ok a ∧ f a = .error e := by
  cases x with
  | error e' =>
    have hbind : (Except.error e' >>= f : Except ε β) = .error e' := rfl
    simp [hbind]
  | ok a =>
    have hbind : (Except.ok a >>= f : Except ε β) = f a := rfl
    simp [hbind]

/-! ## Lists -/

theorem mapM_cons_eq_ok_iff {f : α → Except ε β} {x : α} {xs : List α} {ys : List β} :
    (x :: xs).mapM f = .ok ys ↔
      ∃ y, f x = .ok y ∧ ∃ rest, xs.mapM f = .ok rest ∧ y :: rest = ys := by
  simp only [List.mapM_cons, bind_eq_ok_iff, pure_eq_ok_iff]

/-- A list is made into a list, item by item. -/
theorem mapM_eq_ok_iff {f : α → Except ε β} {xs : List α} {ys : List β} :
    xs.mapM f = .ok ys ↔ List.Forall₂ (fun x y => f x = .ok y) xs ys := by
  induction xs generalizing ys with
  | nil => rw [List.mapM_nil, pure_eq_ok_iff, List.forall₂_nil_left_iff, eq_comm]
  | cons x xs ih =>
    simp only [mapM_cons_eq_ok_iff, ih, List.forall₂_cons_left_iff, eq_comm (b := ys),
      exists_and_left]

/-- What is made of a list is made of its items. -/
theorem mem_iff_of_mapM_eq_ok {f : α → Except ε β} {xs : List α} {ys : List β}
    (h : xs.mapM f = .ok ys) (y : β) : y ∈ ys ↔ ∃ x ∈ xs, f x = .ok y := by
  induction xs generalizing ys with
  | nil =>
    obtain rfl : [] = ys := pure_eq_ok_iff.1 h
    simp
  | cons x xs ih =>
    obtain ⟨z, hz, rest, hrest, rfl⟩ := mapM_cons_eq_ok_iff.1 h
    simp only [List.mem_cons, ih hrest, exists_eq_or_imp, hz, Except.ok.injEq, eq_comm (a := y)]

/-- Nothing is made of the empty list only. -/
theorem eq_nil_iff_of_mapM_eq_ok {f : α → Except ε β} {xs : List α} {ys : List β}
    (h : xs.mapM f = .ok ys) : ys = [] ↔ xs = [] := by
  cases xs with
  | nil =>
    obtain rfl : [] = ys := pure_eq_ok_iff.1 h
    simp
  | cons x xs =>
    obtain ⟨y, -, rest, -, rfl⟩ := mapM_cons_eq_ok_iff.1 h
    simp

/-- Nothing fails in a list in which no item does. -/
theorem exists_mapM_eq_ok {f : α → Except ε β} {xs : List α} (h : ∀ x ∈ xs, ∃ y, f x = .ok y) :
    ∃ ys, xs.mapM f = .ok ys ∧ ys.length = xs.length := by
  induction xs with
  | nil => exact ⟨[], rfl, rfl⟩
  | cons x xs ih =>
    rw [List.forall_mem_cons] at h
    obtain ⟨⟨y, hy⟩, hrest⟩ := h
    obtain ⟨ys, hys, hlength⟩ := ih hrest
    exact ⟨y :: ys, mapM_cons_eq_ok_iff.2 ⟨y, hy, ys, hys, rfl⟩, by simp [hlength]⟩

/-- A list fails for the first of its items that does. -/
theorem mapM_append_cons_eq_error {f : α → Except ε β} {before after : List α} {x : α} {e : ε}
    (hbefore : ∀ y ∈ before, ∃ z, f y = .ok z) (hx : f x = .error e) :
    (before ++ x :: after).mapM f = .error e := by
  induction before with
  | nil =>
    rw [List.nil_append, List.mapM_cons, hx]
    rfl
  | cons y before ih =>
    rw [List.forall_mem_cons] at hbefore
    obtain ⟨⟨z, hz⟩, hrest⟩ := hbefore
    rw [List.cons_append, List.mapM_cons, hz, ih hrest]
    rfl

/-! ## Faults -/

/-- What a computation fails for. -/
def fault? : Except ε α → Option ε
  | .ok _ => none
  | .error e => some e

theorem fault?_eq_some_iff {x : Except ε α} {e : ε} : fault? x = some e ↔ x = .error e := by
  cases x <;> simp [fault?]

theorem fault?_eq_none_iff {x : Except ε α} : fault? x = none ↔ ∃ a, x = .ok a := by
  cases x <;> simp [fault?]

/-- A step that cannot fail adds no fault. -/
theorem fault?_bind_pure (x : Except ε α) (f : α → β) :
    fault? (x >>= fun a => pure (f a)) = fault? x := by
  cases x with
  | error e => rfl
  | ok a => rfl

/-- Where the fault of the second step does not depend on the first one, the fault of the first step
    is reported before it. -/
theorem fault?_bind {x : Except ε α} {f : α → Except ε β} {next : Option ε}
    (hf : ∀ a, fault? (f a) = next) : fault? (x >>= f) = (fault? x).or next := by
  cases x with
  | error e => rfl
  | ok a => exact hf a

/-- If an item fails for the first of its parts that is bad, then a list fails for the first part of
    its items that is. -/
theorem fault?_mapM {f : α → Except ε β} {γ : Type} {parts : α → List γ} {bad : γ → Bool}
    {fault : γ → ε} (h : ∀ x, fault? (f x) = ((parts x).find? bad).map fault) (xs : List α) :
    fault? (xs.mapM f) = ((xs.flatMap parts).find? bad).map fault := by
  induction xs with
  | nil => rfl
  | cons x xs ih =>
    have hrest (y : β) : fault? (xs.mapM f >>= fun ys => pure (y :: ys)) =
        ((xs.flatMap parts).find? bad).map fault :=
      (fault?_bind_pure _ _).trans ih
    rw [List.mapM_cons, fault?_bind hrest, h, List.flatMap_cons, List.find?_append, Option.map_or]

/-! ## Changed results -/

theorem map_eq_ok_iff {x : Except ε α} {f : α → β} {b : β} :
    x.map f = .ok b ↔ ∃ a, x = .ok a ∧ f a = b := by
  cases x <;> simp [Except.map]

theorem mapError_eq_ok_iff {x : Except ε α} {f : ε → ε'} {a : α} :
    x.mapError f = .ok a ↔ x = .ok a := by
  cases x with
  | ok b => exact ⟨fun h => congrArg _ (Except.ok.inj h), fun h => congrArg _ (Except.ok.inj h)⟩
  | error e => exact ⟨nofun, nofun⟩

theorem map_eq_error_iff {x : Except ε α} {f : α → β} {e : ε} :
    x.map f = .error e ↔ x = .error e := by
  cases x <;> simp [Except.map]

theorem mapError_eq_error_iff {x : Except ε α} {f : ε → ε'} {e : ε'} :
    x.mapError f = .error e ↔ ∃ cause, x = .error cause ∧ f cause = e := by
  constructor
  · intro h
    cases x with
    | error cause => exact ⟨cause, rfl, Except.error.inj h⟩
    | ok a => cases h
  · rintro ⟨cause, rfl, rfl⟩
    rfl

/-- What is made of the result of a successful step is a result. -/
theorem exists_map_eq_ok {x : Except ε α} (f : α → β) (h : ∃ a, x = .ok a) :
    ∃ b, x.map f = .ok b := by
  obtain ⟨a, rfl⟩ := h
  exact ⟨f a, rfl⟩

/-! ## Guards -/

/-- What comes after a guard is reached if and only if the guard does not hold. -/
theorem ite_throw_eq_ok_iff {p : Prop} [Decidable p] {e : ε} {k : β → Except ε α}
    {x : Except ε α} {a : α} :
    (if p then throw e >>= k else x) = .ok a ↔ ¬p ∧ x = .ok a := by
  by_cases hp : p
  · simp only [hp, if_true, not_true, false_and, iff_false]
    exact throw_ne_ok
  · simp only [hp, if_false, not_false_iff, true_and]

/-- Where nothing behind a guard can fail, the guard is the only reason to fail. -/
theorem ite_throw_eq_error_iff {p : Prop} [Decidable p] {e e' : ε} {k : β → Except ε α}
    {x : Except ε α} (hx : ¬p → ∃ a, x = .ok a) :
    (if p then throw e >>= k else x) = .error e' ↔ p ∧ e = e' := by
  by_cases hp : p
  · have hthrow : (throw e >>= k : Except ε α) = .error e := rfl
    rw [if_pos hp, hthrow, Except.error.injEq, and_iff_right hp]
  · obtain ⟨a, rfl⟩ := hx hp
    rw [if_neg hp]
    exact iff_of_false (fun h => by cases h) fun h => hp h.1

/-- The same of a guard at the end of a computation. -/
theorem ite_throw_else_eq_ok_iff {p : Prop} [Decidable p] {e : ε} {x : Except ε α} {a : α} :
    (if p then throw e else x) = .ok a ↔ ¬p ∧ x = .ok a := by
  by_cases hp : p
  · simp only [hp, if_true, not_true, false_and, iff_false]
    exact throw_ne_ok
  · simp only [hp, if_false, not_false_iff, true_and]

/-- What comes after a condition is reached if and only if the condition holds. -/
theorem ite_else_throw_eq_ok_iff {p : Prop} [Decidable p] {e : ε} {k : β → Except ε α}
    {x : Except ε α} {a : α} :
    (if p then x else throw e >>= k) = .ok a ↔ p ∧ x = .ok a := by
  rw [← ite_not, ite_throw_eq_ok_iff, Decidable.not_not]

end LoraGateway.Result
