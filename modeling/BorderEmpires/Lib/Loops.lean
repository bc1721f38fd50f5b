/-
  BorderEmpires.Lib.Loops
  **LOOPS THAT ADD UP.**

  A loop whose body raises what is read of the state by an amount of the
  element in hand raises it by the sum over all elements; one that lowers it
  lowers it by that sum, zero being the floor.  A body that makes a fact true
  for some elements and else leaves it makes it true if one of those is met.
-/
import Mathlib.Algebra.Order.Ring.Nat

universe u v w

namespace Loops

variable {S : Type u} {A : Type v} {body : S → A → S}

theorem foldl_add {M : Type w} [AddMonoid M] {amount : A → M} {l : List A} {s : S} (read : S → M)
    (hbody : ∀ s a, read (body s a) = read s + amount a) :
    read (l.foldl body s) = read s + (l.map amount).sum := by
  induction l generalizing s with
  | nil => exact (add_zero _).symm
  | cons a l ih => rw [List.foldl_cons, ih, hbody, List.map_cons, List.sum_cons, add_assoc]

/-- Counted from anywhere, a loop adds what it counts from nothing. -/
theorem foldl_add_from {M : Type w} [AddMonoid M] {amount : A → M} {l : List A} {s o : S}
    (read : S → M) (ho : read o = 0) (hbody : ∀ s a, read (body s a) = read s + amount a) :
    read (l.foldl body s) = read s + read (l.foldl body o) := by
  rw [foldl_add read hbody, foldl_add read hbody, ho, zero_add]

theorem foldl_sub {amount : A → ℕ} {l : List A} {s : S} (read : S → ℕ)
    (hbody : ∀ s a, read (body s a) = read s - amount a) :
    read (l.foldl body s) = read s - (l.map amount).sum := by
  induction l generalizing s with
  | nil => rfl
  | cons a l ih => rw [List.foldl_cons, ih, hbody, List.map_cons, List.sum_cons, Nat.sub_sub]

theorem foldl_or {Q : A → Prop} {l : List A} {s : S} (P : S → Prop)
    (hbody : ∀ s a, P (body s a) ↔ P s ∨ Q a) : P (l.foldl body s) ↔ P s ∨ ∃ a ∈ l, Q a := by
  induction l generalizing s with
  | nil => simp
  | cons a l ih => simp only [List.foldl_cons, ih, hbody, List.mem_cons, exists_eq_or_imp, or_assoc]

theorem sum_indicator [DecidableEq A] (key : A) (l : List A) :
    (l.map (fun a => if a = key then 1 else 0)).sum = l.count key := by
  induction l with
  | nil => rfl
  | cons a l ih =>
      rw [List.map_cons, List.sum_cons, ih, List.count_cons, Nat.add_comm]
      simp

theorem sum_map_ite (p : Prop) [Decidable p] (f : A → ℕ) (l : List A) :
    (l.map (fun a => if p then f a else 0)).sum = if p then (l.map f).sum else 0 := by
  split
  · rfl
  · induction l with
    | nil => rfl
    | cons a l ih => rw [List.map_cons, List.sum_cons, ih]

end Loops
