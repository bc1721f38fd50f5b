/-
  BorderEmpires.Lib.Ledger
  **KEYED BALANCES, AND SUMS OVER THE ENTRIES OF A MAP.**

  A ledger keeps an amount under each key and forgets a key whose amount
  reaches zero.  Amounts live in any canonically ordered monoid with
  truncated subtraction, so a ledger over ℕ with steps of one is a
  refcount, and a ledger over ℚ≥0 is a table of reservations.
-/
import Mathlib.Algebra.BigOperators.Group.List.Lemmas
import Mathlib.Algebra.Order.Sub.Basic
import BorderEmpires.Lib.InsertionMap

universe u v w

/-! ## §1. Sums over the entries of a map. -/

namespace AssocEntries

variable {K : Type u} {V : Type v} {A : Type w} [DecidableEq K] [AddCommMonoid A]

/-- The summand of the first entry with key `k`, zero when there is none. -/
def share (f : K → V → A) (k : K) (l : List (K × V)) : A := ((lookup k l).map (f k)).getD 0

theorem sum_put (f : K → V → A) (k : K) (x : V) (l : List (K × V)) :
    ((put k x l).map (fun e => f e.1 e.2)).sum + share f k l
      = (l.map (fun e => f e.1 e.2)).sum + f k x := by
  induction l with
  | nil => simp [put, share, lookup]
  | cons e rest ih =>
      by_cases he : e.1 = k
      · -- the entry stands here: the rest is untouched
        simp only [put, share, lookup, if_pos he, List.map_cons, List.sum_cons,
          Option.map_some, Option.getD_some]
        rw [he]
        ac_rfl
      · have hshare : share f k (e :: rest) = share f k rest := by
          simp only [share, lookup, if_neg he]
        rw [hshare]
        simp only [put, if_neg he, List.map_cons, List.sum_cons]
        rw [add_assoc, ih, add_assoc]

theorem sum_drop (f : K → V → A) (k : K) {l : List (K × V)} (h : (l.map Prod.fst).Nodup) :
    ((drop k l).map (fun e => f e.1 e.2)).sum + share f k l = (l.map (fun e => f e.1 e.2)).sum := by
  induction l with
  | nil => simp [drop, share, lookup]
  | cons e rest ih =>
      rw [List.map_cons, List.nodup_cons] at h
      by_cases he : e.1 = k
      · -- no second entry of `k` is left in the rest
        have hrest : drop k rest = rest := by
          refine List.filter_eq_self.mpr (fun e' he' => ?_)
          have hne : e'.1 ≠ k := by
            intro hk
            apply h.1
            rw [he, ← hk]
            exact List.mem_map_of_mem he'
          simpa using hne
        have hdrop : drop k (e :: rest) = rest := by
          rw [← hrest]
          simp [drop, he]
        rw [hdrop]
        simp only [share, lookup, if_pos he, Option.map_some, Option.getD_some, List.map_cons,
          List.sum_cons]
        rw [he]
        ac_rfl
      · have hshare : share f k (e :: rest) = share f k rest := by
          simp only [share, lookup, if_neg he]
        have hdrop : drop k (e :: rest) = e :: drop k rest := by
          simp [drop, he]
        rw [hshare, hdrop, List.map_cons, List.sum_cons, List.map_cons, List.sum_cons, add_assoc,
          ih h.2]

end AssocEntries

namespace InsertionMap

variable {K : Type u} {V : Type v} {A : Type w} [DecidableEq K] [AddCommMonoid A]

/-- The sum of `f` over all entries. -/
def total (m : InsertionMap K V) (f : K → V → A) : A := (m.entries.map (fun e => f e.1 e.2)).sum

/-- The summand of the entry of `k`, zero when there is none. -/
def share (m : InsertionMap K V) (f : K → V → A) (k : K) : A := ((m.get k).map (f k)).getD 0

omit [DecidableEq K] in
@[simp] theorem total_empty (f : K → V → A) : (empty : InsertionMap K V).total f = 0 := rfl

/-- **What a write does to a sum.** -/
theorem total_set (m : InsertionMap K V) (k : K) (x : V) (f : K → V → A) :
    (m.set k x).total f + m.share f k = m.total f + f k x :=
  AssocEntries.sum_put f k x m.entries

/-- **What an erasure does to a sum.** -/
theorem total_erase (m : InsertionMap K V) (k : K) (f : K → V → A) :
    (m.erase k).total f + m.share f k = m.total f :=
  AssocEntries.sum_drop f k m.nodupKeys

omit [DecidableEq K] in
theorem total_congr (m : InsertionMap K V) {f g : K → V → A}
    (h : ∀ k x, (k, x) ∈ m.entries → f k x = g k x) : m.total f = m.total g := by
  unfold total
  congr 1
  exact List.map_congr_left (fun e he => h e.1 e.2 he)

omit [DecidableEq K] in
theorem total_add (m : InsertionMap K V) (f g : K → V → A) :
    m.total (fun k x => f k x + g k x) = m.total f + m.total g := by
  unfold total
  exact List.sum_map_add

end InsertionMap

/-! ## §2. Ledgers. -/

namespace Ledger

variable {K : Type u} {A : Type w} [DecidableEq K] [AddCommMonoid A]

/-- The amount under `k`, zero when the key is not there. -/
def balance (m : InsertionMap K A) (k : K) : A := (m.get k).getD 0

/-- Add an amount under `k`. -/
def credit (m : InsertionMap K A) (k : K) (a : A) : InsertionMap K A := m.set k (balance m k + a)

theorem balance_credit (m : InsertionMap K A) (k k' : K) (a : A) :
    balance (credit m k a) k' = balance m k' + if k = k' then a else 0 := by
  unfold balance credit
  rw [InsertionMap.get_set]
  by_cases h : k = k'
  · subst h
    simp [balance]
  · simp [if_neg h]

variable [Sub A] [DecidableEq A]

/-- Take an amount from `k`, down to zero at most, and forget the key
when nothing is left. -/
def debit (m : InsertionMap K A) (k : K) (a : A) : InsertionMap K A :=
  if balance m k - a = 0 then m.erase k else m.set k (balance m k - a)

theorem balance_debit (m : InsertionMap K A) (k k' : K) (a : A) :
    balance (debit m k a) k' = if k = k' then balance m k' - a else balance m k' := by
  unfold debit
  by_cases h0 : balance m k - a = 0
  · rw [if_pos h0]
    by_cases h : k = k'
    · subst h
      rw [if_pos rfl, h0, balance, InsertionMap.get_erase_self, Option.getD_none]
    · rw [if_neg h, balance, InsertionMap.get_erase_ne _ h, balance]
  · rw [if_neg h0]
    by_cases h : k = k'
    · subst h
      rw [if_pos rfl, balance, InsertionMap.get_set_self, Option.getD_some]
    · rw [if_neg h, balance, InsertionMap.get_set_ne _ h, balance]

end Ledger
