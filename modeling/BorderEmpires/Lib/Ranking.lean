/-
  BorderEmpires.Lib.Ranking
  **SORTING BY A COMPARISON THAT TELLS MEMBERS APART.**
-/
import Mathlib.Data.List.Forall2
import Mathlib.Data.List.Perm.Subperm
import Mathlib.Algebra.BigOperators.Group.List.Basic
import Mathlib.Algebra.Order.Ring.Nat

universe u v

namespace Ranking

variable {α : Type u}

/-- **A comparison that ranks a list**: total, transitive, and never equal
on two of its members. -/
structure Ranks (le : α → α → Bool) (l : List α) : Prop where
  total : ∀ a b, (le a b || le b a) = true
  trans : ∀ a b c, le a b = true → le b c = true → le a c = true
  apart : ∀ a ∈ l, ∀ b ∈ l, le a b = true → le b a = true → a = b

variable {le : α → α → Bool} {l l' : List α}

theorem Ranks.of_subset (h : Ranks le l) (hsub : ∀ a ∈ l', a ∈ l) : Ranks le l' :=
  ⟨h.total, h.trans, fun a ha b hb => h.apart a (hsub a ha) b (hsub b hb)⟩

theorem Ranks.sorted (h : Ranks le l) (k : List α) :
    (k.mergeSort le).Pairwise (fun a b => le a b = true) :=
  List.pairwise_mergeSort h.trans h.total k

theorem Ranks.eq_sort (h : Ranks le l) {k : List α} (hperm : k.Perm l)
    (hsorted : k.Pairwise (fun a b => le a b = true)) : k = l.mergeSort le := by
  have hboth : k.Perm (l.mergeSort le) := hperm.trans (List.mergeSort_perm l le).symm
  refine hboth.eq_of_pairwise (fun a b ha hb hab hba => ?_) hsorted (h.sorted l)
  exact h.apart a (hperm.mem_iff.mp ha) b ((List.mergeSort_perm l le).mem_iff.mp hb) hab hba

theorem sort_perm (h : Ranks le l) (hperm : l'.Perm l) : l'.mergeSort le = l.mergeSort le :=
  h.eq_sort ((List.mergeSort_perm l' le).trans hperm) (h.sorted l')

end Ranking
