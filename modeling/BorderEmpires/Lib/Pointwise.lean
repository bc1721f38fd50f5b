/-
  BorderEmpires.Lib.Pointwise
  **LOOPS THAT TOUCH ONE KEY AT A TIME.**

  A loop over keys whose body rewrites only the value at the key in hand
  computes a pointwise function, whatever the order of the keys: either
  the body is idempotent at a key, or no key is visited twice.
-/

universe u v w

namespace Pointwise

variable {S : Type u} {K : Type v} {V : Type w} [DecidableEq K]

/-- The body rewrites the value at its own key by `f` and no other. -/
def Touches (read : S → K → V) (body : S → K → S) (f : K → V → V) : Prop :=
  ∀ s k k', read (body s k) k' = if k = k' then f k (read s k) else read s k'

/-- **Such a loop is `f` at every key it visits.** -/
theorem foldl_read (read : S → K → V) {body : S → K → S} {f : K → V → V}
    (hbody : Touches read body f) (hidem : ∀ k v, f k (f k v) = f k v)
    (l : List K) (s : S) (k : K) :
    read (l.foldl body s) k = if k ∈ l then f k (read s k) else read s k := by
  induction l generalizing s with
  | nil => simp
  | cons a l ih =>
      rw [List.foldl_cons, ih, hbody]
      by_cases hak : a = k
      · subst hak
        rw [if_pos rfl, if_pos List.mem_cons_self, hidem]
        split <;> rfl
      · rw [if_neg hak]
        by_cases hk : k ∈ l
        · rw [if_pos hk, if_pos (List.mem_cons_of_mem _ hk)]
        · rw [if_neg hk, if_neg]
          intro hmem
          rcases List.mem_cons.mp hmem with h | h
          · exact hak h.symm
          · exact hk h

/-- **A loop that visits no key twice** needs no idempotence. -/
theorem foldl_read_nodup (read : S → K → V) {body : S → K → S} {f : K → V → V}
    (hbody : Touches read body f) {l : List K} (hl : l.Nodup) (s : S) (k : K) :
    read (l.foldl body s) k = if k ∈ l then f k (read s k) else read s k := by
  induction l generalizing s with
  | nil => simp
  | cons a l ih =>
      rw [List.nodup_cons] at hl
      rw [List.foldl_cons, ih hl.2, hbody]
      by_cases hak : a = k
      · -- the head is `k`: the tail does not visit it again
        subst hak
        rw [if_neg hl.1, if_pos rfl, if_pos List.mem_cons_self]
      · have hiff : k ∈ a :: l ↔ k ∈ l := by
          rw [List.mem_cons]
          exact ⟨fun h => h.resolve_left (fun he => hak he.symm), Or.inr⟩
        rw [if_neg hak]
        simp only [hiff]

end Pointwise
