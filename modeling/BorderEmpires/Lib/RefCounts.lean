/-
  BorderEmpires.Lib.RefCounts
  **REFERENCE COUNTS PER OWNER.**

  For each owner a map from keys to counts.  A reference added is one
  more, a reference removed one less, and a key whose last reference goes
  is forgotten.
-/
import BorderEmpires.Lib.InsertionMap
import BorderEmpires.Lib.Loops
import Mathlib.Algebra.Order.Ring.Nat

universe u v

namespace RefCounts

variable {O : Type u} {K : Type v} [DecidableEq O] [DecidableEq K]

abbrev Counts (O : Type u) (K : Type v) [DecidableEq O] [DecidableEq K] :=
  InsertionMap O (InsertionMap K ℕ)

/-- The references of an owner to a key, zero where nothing is stored. -/
def count (m : Counts O K) (o : O) (k : K) : ℕ := ((m.get o).bind fun owned => owned.get k).getD 0

def addRef (m : Counts O K) (o : O) (k : K) : Counts O K :=
  m.set o (((m.get o).getD .empty).set k (count m o k + 1))

/-- One less; the last one takes the key along. -/
def removeRef (m : Counts O K) (o : O) (k : K) : Counts O K :=
  (m.get o).elim m fun owned =>
    m.set o (if count m o k ≤ 1 then owned.erase k else owned.set k (count m o k - 1))

/-! ## §1. One reference. -/

@[simp] theorem count_empty (o : O) (k : K) : count (.empty : Counts O K) o k = 0 := rfl

theorem count_set (m : Counts O K) (o o' : O) (owned : InsertionMap K ℕ) (k : K) :
    count (m.set o owned) o' k = if o = o' then (owned.get k).getD 0 else count m o' k := by
  unfold count
  rw [InsertionMap.get_set]
  by_cases h : o = o'
  · rw [if_pos h, if_pos h, Option.bind_some]
  · rw [if_neg h, if_neg h]

theorem getD_owned (m : Counts O K) (o : O) (k : K) :
    (((m.get o).getD .empty).get k).getD 0 = count m o k := by
  unfold count
  cases m.get o with
  | none => rfl
  | some owned => rfl

theorem count_addRef (m : Counts O K) (o o' : O) (k k' : K) :
    count (addRef m o k) o' k' = count m o' k' + if o = o' ∧ k = k' then 1 else 0 := by
  unfold addRef
  rw [count_set]
  by_cases ho : o = o'
  · subst ho
    rw [if_pos rfl, InsertionMap.get_set]
    by_cases hk : k = k'
    · subst hk
      simp
    · simp [hk, getD_owned]
  · simp [ho]

theorem count_removeRef (m : Counts O K) (o o' : O) (k k' : K) :
    count (removeRef m o k) o' k' = count m o' k' - if o = o' ∧ k = k' then 1 else 0 := by
  unfold removeRef
  cases hget : m.get o with
  | none =>
      show count m o' k' = _
      by_cases h : o = o' ∧ k = k'
      · have hzero : count m o' k' = 0 := by
          rw [← h.1]
          simp [count, hget]
        rw [hzero, Nat.zero_sub]
      · rw [if_neg h, Nat.sub_zero]
  | some owned =>
      show count (m.set o _) o' k' = _
      have howned : ∀ key, (owned.get key).getD 0 = count m o key := by
        intro key
        simp [count, hget]
      rw [count_set]
      by_cases ho : o = o'
      · subst ho
        rw [if_pos rfl]
        by_cases hk : k = k'
        · subst hk
          simp only [true_and, if_true]
          split
          · rw [InsertionMap.get_erase_self, Option.getD_none]
            omega
          · rw [InsertionMap.get_set_self, Option.getD_some]
        · simp only [hk, and_false, if_false, Nat.sub_zero]
          split
          · rw [InsertionMap.get_erase_ne _ hk, howned]
          · rw [InsertionMap.get_set_ne _ hk, howned]
      · simp [ho]

/-! ## §2. Several references. -/

/-- One reference to each key; the second part lists those that nothing
referred to. -/
def addRefs (m : Counts O K) (o : O) : List K → Counts O K × List K
  | [] => (m, [])
  | k :: keys =>
      let later := addRefs (addRef m o k) o keys
      (later.1, if count m o k = 0 then k :: later.2 else later.2)

theorem addRefs_fst (o : O) (keys : List K) :
    ∀ m : Counts O K, (addRefs m o keys).1 = keys.foldl (fun acc k => addRef acc o k) m := by
  induction keys with
  | nil => intro m; rfl
  | cons k keys ih => intro m; exact ih (addRef m o k)

def removeRefs (m : Counts O K) (o : O) (keys : List K) : Counts O K :=
  keys.foldl (fun acc k => removeRef acc o k) m

theorem sum_refs (o o' : O) (k' : K) {keys : List K} (hnodup : keys.Nodup) :
    (keys.map (fun k => if o = o' ∧ k = k' then 1 else 0)).sum
      = if o = o' ∧ k' ∈ keys then 1 else 0 := by
  by_cases ho : o = o'
  · simp only [ho, true_and, Loops.sum_indicator, hnodup.count]
  · simp [ho]

theorem count_addRefs (o o' : O) (k' : K) {keys : List K} (hnodup : keys.Nodup) (m : Counts O K) :
    count (addRefs m o keys).1 o' k' = count m o' k' + if o = o' ∧ k' ∈ keys then 1 else 0 := by
  rw [addRefs_fst, ← sum_refs o o' k' hnodup]
  exact Loops.foldl_add (fun m => count m o' k') (fun m k => count_addRef m o o' k k')

theorem count_removeRefs (o o' : O) (k' : K) {keys : List K} (hnodup : keys.Nodup)
    (m : Counts O K) :
    count (removeRefs m o keys) o' k' = count m o' k' - if o = o' ∧ k' ∈ keys then 1 else 0 := by
  rw [← sum_refs o o' k' hnodup]
  exact Loops.foldl_sub (fun m => count m o' k') (fun m k => count_removeRef m o o' k k')

/-- **What an addition reports** is what nothing referred to before it. -/
theorem mem_fresh_addRefs (o : O) (k' : K) {keys : List K} (hnodup : keys.Nodup) :
    ∀ m : Counts O K, k' ∈ (addRefs m o keys).2 ↔ k' ∈ keys ∧ count m o k' = 0 := by
  induction keys with
  | nil =>
      intro m
      simp [addRefs]
  | cons k keys ih =>
      intro m
      rw [List.nodup_cons] at hnodup
      have hstep : k' ∈ (addRefs m o (k :: keys)).2
          ↔ (k' = k ∧ count m o k = 0) ∨ k' ∈ (addRefs (addRef m o k) o keys).2 := by
        show k' ∈ (if count m o k = 0 then _ else _) ↔ _
        split
        next h => rw [List.mem_cons, and_iff_left h]
        next h => simp [h]
      rw [hstep, ih hnodup.2, count_addRef, List.mem_cons]
      by_cases hk : k = k'
      · subst hk
        simp [hnodup.1]
      · have hk' : k' ≠ k := fun h => hk h.symm
        simp [hk, hk']

end RefCounts
