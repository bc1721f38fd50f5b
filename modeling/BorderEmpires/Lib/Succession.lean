/-
  BorderEmpires.Lib.Succession
  **A SEAT TAKEN BY ONE CLAIMANT AFTER ANOTHER.**

  Claimants take a seat in turn; the holder after all of them is the last
  claimant (`List.getLastD`).  `losers` lists the holders that were
  displaced, in order.  Once the seat is back with its first holder, every
  claimant of another party has been displaced, and so has the holder.
-/
import Mathlib.Data.List.Basic

universe u

namespace Succession

variable {O : Type u} [DecidableEq O]

/-- The holders displaced while the claimants take the seat in turn. -/
def losers (holder : O) : List O → List O
  | [] => []
  | claimant :: rest =>
      if claimant = holder then losers holder rest else holder :: losers claimant rest

omit [DecidableEq O] in
theorem getLastD_append (xs ys : List O) :
    ∀ holder : O, (xs ++ ys).getLastD holder = ys.getLastD (xs.getLastD holder) := by
  induction xs with
  | nil =>
      intro holder
      rfl
  | cons x xs ih =>
      intro holder
      rw [List.cons_append, List.getLastD_cons, List.getLastD_cons, ih]

theorem losers_append (xs ys : List O) :
    ∀ holder : O, losers holder (xs ++ ys)
      = losers holder xs ++ losers (xs.getLastD holder) ys := by
  induction xs with
  | nil =>
      intro holder
      rfl
  | cons x xs ih =>
      intro holder
      rw [List.cons_append, losers, losers, List.getLastD_cons]
      by_cases hx : x = holder
      · rw [if_pos hx, if_pos hx, ih, hx]
      · rw [if_neg hx, if_neg hx, ih, List.cons_append]

theorem mem_of_mem_losers (claimants : List O) :
    ∀ (holder x : O), x ∈ losers holder claimants → x = holder ∨ x ∈ claimants := by
  induction claimants with
  | nil =>
      intro holder x hx
      cases hx
  | cons c rest ih =>
      intro holder x hx
      rw [losers] at hx
      split at hx
      next hc =>
        rcases ih holder x hx with h | h
        · exact Or.inl h
        · exact Or.inr (List.mem_cons_of_mem _ h)
      next hc =>
        rcases List.mem_cons.mp hx with h | h
        · exact Or.inl h
        · rcases ih c x h with h | h
          · exact Or.inr (h ▸ List.mem_cons_self)
          · exact Or.inr (List.mem_cons_of_mem _ h)

theorem losers_eq_nil {holder : O} {claimants : List O} (h : ∀ c ∈ claimants, c = holder) :
    losers holder claimants = [] := by
  induction claimants with
  | nil => rfl
  | cons c rest ih =>
      rw [losers, if_pos (h c List.mem_cons_self)]
      exact ih (fun c' hc' => h c' (List.mem_cons_of_mem _ hc'))

omit [DecidableEq O] in
theorem getLastD_eq_self {holder : O} {claimants : List O} (h : ∀ c ∈ claimants, c = holder) :
    claimants.getLastD holder = holder := by
  induction claimants with
  | nil => rfl
  | cons c rest ih =>
      rw [List.getLastD_cons, h c List.mem_cons_self]
      exact ih (fun c' hc' => h c' (List.mem_cons_of_mem _ hc'))

/-- **Whoever held the seat and does not hold it at the end was displaced.** -/
theorem mem_losers_of_ne_last (claimants : List O) :
    ∀ (holder x : O), (x = holder ∨ x ∈ claimants) → x ≠ claimants.getLastD holder →
      x ∈ losers holder claimants := by
  induction claimants with
  | nil =>
      intro holder x hx hne
      rcases hx with rfl | hx
      · exact absurd rfl hne
      · cases hx
  | cons c rest ih =>
      intro holder x hx hne
      rw [List.getLastD_cons] at hne
      rw [losers]
      by_cases hc : c = holder
      · subst hc
        rw [if_pos rfl]
        refine ih c x ?_ hne
        rcases hx with hx | hx
        · exact Or.inl hx
        · exact List.mem_cons.mp hx
      · rw [if_neg hc]
        rcases hx with hx | hx
        · exact hx ▸ List.mem_cons_self
        · exact List.mem_cons_of_mem _ (ih c x (List.mem_cons.mp hx) hne)

theorem holder_mem_losers {holder : O} {claimants : List O}
    (h : ∃ c ∈ claimants, c ≠ holder) : holder ∈ losers holder claimants := by
  induction claimants with
  | nil =>
      obtain ⟨c, hc, _⟩ := h
      cases hc
  | cons c rest ih =>
      rw [losers]
      by_cases hc : c = holder
      · rw [if_pos hc]
        apply ih
        obtain ⟨d, hd, hne⟩ := h
        rcases List.mem_cons.mp hd with hd | hd
        · exact absurd (hd.trans hc) hne
        · exact ⟨d, hd, hne⟩
      · rw [if_neg hc]
        exact List.mem_cons_self

/-- **The seat comes back and somebody else claimed it**: everybody who
ever held it was displaced. -/
theorem mem_losers_of_return {holder x : O} {claimants : List O}
    (hlast : claimants.getLastD holder = holder) (hother : ∃ c ∈ claimants, c ≠ holder)
    (hx : x ∈ claimants) : x ∈ losers holder claimants := by
  by_cases hxh : x = holder
  · rw [hxh]
    exact holder_mem_losers hother
  · exact mem_losers_of_ne_last claimants holder x (Or.inr hx) (by rw [hlast]; exact hxh)

end Succession
