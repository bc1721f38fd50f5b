/-
  BorderEmpires.Lib.Greedy
  **A DEBT COVERED ITEM BY ITEM.**

  What is owed is covered from one item after another, each giving as many
  whole units as it takes, or all it has.  Nothing more is taken once
  nothing is owed.
-/
import Mathlib.Algebra.BigOperators.Group.List.Basic
import Mathlib.Algebra.Order.Ring.Rat
import Mathlib.Data.Rat.Floor
import Mathlib.Tactic.Linarith

universe u v

namespace Greedy

variable {S : Type u} {R : Type v}

/-! ## §1. One item. -/

/-- Whole units of that value to cover what is owed, as far as there are any;
no number of worthless units covers a debt, so all are taken. -/
def units (available : ℕ) (owed value : ℚ) : ℕ :=
  if value = 0 then available else min available ⌈owed / value⌉₊

theorem units_le (available : ℕ) (owed value : ℚ) : units available owed value ≤ available := by
  unfold units
  split
  · exact Nat.le_refl _
  · exact Nat.min_le_left _ _

/-- **What is left owing has taken all there was.** -/
theorem units_of_owed (available : ℕ) (owed : ℚ) {value : ℚ} (hvalue : 0 ≤ value)
    (h : 0 < owed - units available owed value * value) :
    units available owed value = available := by
  unfold units at h ⊢
  by_cases hzero : value = 0
  · rw [if_pos hzero]
  · rw [if_neg hzero] at h ⊢
    have hpos : 0 < value := lt_of_le_of_ne hvalue (Ne.symm hzero)
    -- the rounded-up number of units would have covered it
    rcases Nat.le_total available ⌈owed / value⌉₊ with hle | hle
    · exact Nat.min_eq_left hle
    · rw [Nat.min_eq_right hle] at h
      have hceil : owed / value ≤ (⌈owed / value⌉₊ : ℚ) := Nat.le_ceil _
      have hcovered : owed ≤ (⌈owed / value⌉₊ : ℚ) * value := (div_le_iff₀ hpos).mp hceil
      linarith

/-! ## §2. A round over the items. -/

theorem foldl_keeps {step : S → R → S} {I : S → Prop} (hstep : ∀ s r, I s → I (step s r))
    (items : List R) : ∀ s, I s → I (items.foldl step s) := by
  induction items with
  | nil => exact fun _ hs => hs
  | cons r items ih => exact fun s hs => ih (step s r) (hstep s r hs)

/-- **A round that leaves something owing has exhausted every item**, when
each item does so alone and stays exhausted. -/
theorem foldl_exhausts {step : S → R → S} {owed : S → ℚ} {Exhausted : R → S → Prop}
    (hstop : ∀ s r, owed s ≤ 0 → owed (step s r) ≤ 0)
    (hone : ∀ s r, 0 < owed (step s r) → Exhausted r (step s r))
    (hkeep : ∀ s r r', Exhausted r s → Exhausted r (step s r')) (items : List R) :
    ∀ s, 0 < owed (items.foldl step s) → ∀ r ∈ items, Exhausted r (items.foldl step s) := by
  induction items with
  | nil => exact fun _ _ r hr => absurd hr List.not_mem_nil
  | cons a items ih =>
      intro s howed r hr
      rw [List.foldl_cons] at howed ⊢
      rcases List.mem_cons.mp hr with heq | hr
      · rw [heq]
        -- had the first item settled the debt, nothing would be owed at the end
        have howedNow : 0 < owed (step s a) := by
          by_contra hsettled
          have hend := foldl_keeps (I := fun s => owed s ≤ 0) hstop items (step s a)
            (not_lt.mp hsettled)
          exact absurd howed (not_lt.mpr hend)
        exact foldl_keeps (I := Exhausted a) (fun s r' hs => hkeep s a r' hs) items (step s a)
          (hone s a howedNow)
      · exact ih (step s a) howed r hr

/-! ## §3. Sums over the items. -/

theorem sum_update_of_notMem [DecidableEq R] {items : List R} {r : R} (h : r ∉ items) (f : R → ℚ)
    (x : ℚ) : (items.map (Function.update f r x)).sum = (items.map f).sum := by
  congr 1
  apply List.map_congr_left
  intro a ha
  refine Function.update_of_ne (fun heq => h ?_) _ _
  rw [← heq]
  exact ha

/-- **One item of a sum changes.** -/
theorem sum_update [DecidableEq R] {items : List R} (hnodup : items.Nodup) {r : R}
    (h : r ∈ items) (f : R → ℚ) (x : ℚ) :
    (items.map (Function.update f r x)).sum = (items.map f).sum + (x - f r) := by
  induction items with
  | nil => exact absurd h List.not_mem_nil
  | cons a items ih =>
      obtain ⟨hnot, hnodup⟩ := List.nodup_cons.mp hnodup
      rw [List.map_cons, List.sum_cons, List.map_cons, List.sum_cons]
      by_cases heq : r = a
      · rw [← heq] at hnot ⊢
        rw [Function.update_self, sum_update_of_notMem hnot]
        linarith
      · rw [Function.update_of_ne (Ne.symm heq), ih hnodup ((List.mem_cons.mp h).resolve_left heq)]
        linarith

end Greedy
