/-
  BorderEmpires.Lib.SortedInsert
  **A SORTED LIST KEPT BY BINARY SEARCH.**

  New elements go where a binary search puts them: behind all that come
  strictly before them, in front of the rest.  Whatever the order of
  arrival, the list is then the sort of what has been put in.
-/
import BorderEmpires.Lib.Ranking

universe u v

namespace SortedInsert

open Ranking

variable {α : Type u} {β : Type v}

/-! ## §1. The search. -/

/-- The lower bound in `lo..hi`: `before` tells the elements that stay in
front. -/
def searchIndex (before : α → Bool) (l : List α) (lo hi : ℕ) : ℕ :=
  if _ : lo < hi then
    if (l[(lo + hi) / 2]?).any before then searchIndex before l ((lo + hi) / 2 + 1) hi
    else searchIndex before l lo ((lo + hi) / 2)
  else lo
termination_by hi - lo
decreasing_by all_goals omega

/-- `splice` the element in at the lower bound. -/
def insertSorted (before : α → α → Bool) (l : List α) (a : α) : List α :=
  let lo := searchIndex (fun m => before m a) l 0 l.length
  l.take lo ++ a :: l.drop lo

/-- **The search's invariant**: elements in front of `lo` stay in front,
elements from `hi` on do not. -/
def Bracketed (before : α → Bool) (l : List α) (lo hi : ℕ) : Prop :=
  (∀ (i : ℕ) (a : α), l[i]? = some a → i < lo → before a = true)
    ∧ (∀ (i : ℕ) (a : α), l[i]? = some a → hi ≤ i → before a = false)

/-- What stays in front stands in front of what does not. -/
def Parted (before : α → Bool) (l : List α) : Prop :=
  ∀ (i j : ℕ) (a b : α), l[i]? = some a → l[j]? = some b → i ≤ j → before b = true → before a = true

theorem searchIndex_spec {before : α → Bool} {l : List α} (hparted : Parted before l)
    (lo hi : ℕ) (hle : lo ≤ hi) (hhi : hi ≤ l.length) (hin : Bracketed before l lo hi) :
    Bracketed before l (searchIndex before l lo hi) (searchIndex before l lo hi) := by
  fun_induction searchIndex before l lo hi with
  | case1 lo hi hlt hbefore ih =>
      apply ih (by omega) hhi
      refine ⟨fun i a ha hi' => ?_, hin.2⟩
      -- the middle stays in front, so all up to it do
      have hmid : (lo + hi) / 2 < l.length := by omega
      rw [List.getElem?_eq_getElem hmid] at hbefore
      exact hparted i _ a _ ha (List.getElem?_eq_getElem hmid) (by omega) hbefore
  | case2 lo hi hlt hafter ih =>
      apply ih (by omega) (by omega)
      refine ⟨hin.1, fun i a ha hi' => ?_⟩
      have hmid : (lo + hi) / 2 < l.length := by omega
      rw [List.getElem?_eq_getElem hmid] at hafter
      cases hb : before a with
      | false => rfl
      | true => exact absurd (hparted _ i _ a (List.getElem?_eq_getElem hmid) ha hi' hb) hafter
  | case3 lo hi hge =>
      have heq : hi = lo := by omega
      rw [heq] at hin
      exact hin

/-! ## §2. Insertion is sorting. -/

theorem insertSorted_perm (before : α → α → Bool) (l : List α) (a : α) :
    (insertSorted before l a).Perm (a :: l) := by
  unfold insertSorted
  dsimp only
  generalize searchIndex (fun m => before m a) l 0 l.length = lo
  have hmid : (l.take lo ++ a :: l.drop lo).Perm (a :: (l.take lo ++ l.drop lo)) := List.perm_middle
  rwa [List.take_append_drop] at hmid

section Sorting

variable {le before : α → α → Bool}
  (total : ∀ a b, (le a b || le b a) = true)
  (trans : ∀ a b c, le a b = true → le b c = true → le a c = true)
  (hbefore : ∀ a b, before a b = !le b a)

include trans hbefore in
theorem parted_of_sorted {l : List α} (hl : l.Pairwise (fun a b => le a b = true)) (x : α) :
    Parted (fun m => before m x) l := by
  intro i j a b ha hb hij h
  rcases Nat.lt_or_eq_of_le hij with hlt | heq
  · rw [List.pairwise_iff_getElem] at hl
    obtain ⟨hi, rfl⟩ := List.getElem?_eq_some_iff.mp ha
    obtain ⟨hj, rfl⟩ := List.getElem?_eq_some_iff.mp hb
    have hab := hl i j hi hj hlt
    simp only [hbefore, Bool.not_eq_eq_eq_not, Bool.not_true] at h ⊢
    -- were the element at most `a`, it would be at most `b`
    cases hxa : le x l[i] with
    | false => rfl
    | true => rw [trans x _ _ hxa hab] at h; exact h
  · rw [heq, hb] at ha
    cases ha
    exact h

include total trans hbefore in
theorem insertSorted_sorted {l : List α} (hl : l.Pairwise (fun a b => le a b = true)) (x : α) :
    (insertSorted before l x).Pairwise (fun a b => le a b = true) := by
  have hspec := searchIndex_spec (parted_of_sorted trans hbefore hl x) 0 l.length
    (Nat.zero_le _) (Nat.le_refl _)
    ⟨fun i a _ hi => absurd hi (Nat.not_lt_zero i), fun i a ha hi => by
      rw [List.getElem?_eq_none hi] at ha
      cases ha⟩
  unfold insertSorted
  dsimp only
  generalize searchIndex (fun m => before m x) l 0 l.length = k at hspec ⊢
  have hfront : ∀ a ∈ l.take k, le a x = true := by
    intro a ha
    obtain ⟨i, hi, rfl⟩ := List.mem_iff_getElem.mp ha
    rw [List.getElem_take]
    rw [List.length_take] at hi
    have hb : before l[i] x = true := hspec.1 i _ (List.getElem?_eq_getElem (by omega)) (by omega)
    rw [hbefore] at hb
    have ht := total l[i] x
    simp only [Bool.not_eq_true', Bool.or_eq_true] at hb ht
    rcases ht with ht | ht
    · exact ht
    · rw [ht] at hb
      cases hb
  have hback : ∀ b ∈ l.drop k, le x b = true := by
    intro b hb
    obtain ⟨i, hi, rfl⟩ := List.mem_iff_getElem.mp hb
    rw [List.getElem_drop]
    rw [List.length_drop] at hi
    have hb' : before l[k + i] x = false := hspec.2 (k + i) _ (List.getElem?_eq_getElem (by omega)) (by omega)
    rw [hbefore] at hb'
    simpa using hb'
  rw [List.pairwise_append, List.pairwise_cons]
  refine ⟨hl.sublist (List.take_sublist k l), ⟨hback, hl.sublist (List.drop_sublist k l)⟩, ?_⟩
  intro a ha b hb
  rcases List.mem_cons.mp hb with rfl | hb
  · exact hfront a ha
  · exact trans a x b (hfront a ha) (hback b hb)

include total trans hbefore in
theorem foldl_insertSorted (l : List α) :
    ∀ acc : List α, acc.Pairwise (fun a b => le a b = true) →
      (l.foldl (insertSorted before) acc).Pairwise (fun a b => le a b = true)
        ∧ (l.foldl (insertSorted before) acc).Perm (acc ++ l) := by
  induction l with
  | nil =>
      intro acc hacc
      exact ⟨hacc, by rw [List.foldl_nil, List.append_nil]⟩
  | cons a l ih =>
      intro acc hacc
      obtain ⟨hsorted, hperm⟩ :=
        ih (insertSorted before acc a) (insertSorted_sorted total trans hbefore hacc a)
      refine ⟨hsorted, hperm.trans ?_⟩
      exact ((insertSorted_perm before acc a).append_right l).trans List.perm_middle.symm

end Sorting

/-- **Insertion one by one is sorting.** -/
theorem insertAll_eq_sort {le before : α → α → Bool} {l : List α} (h : Ranks le l)
    (hbefore : ∀ a b, before a b = !le b a) :
    l.foldl (insertSorted before) [] = l.mergeSort le := by
  obtain ⟨hsorted, hperm⟩ := foldl_insertSorted h.total h.trans hbefore l [] List.Pairwise.nil
  exact h.eq_sort hperm hsorted

/-- **A sorted list is narrowed as it stands.** -/
theorem sort_filter {le : α → α → Bool} {l : List α} (h : Ranks le l) (p : α → Bool) :
    (l.mergeSort le).filter p = (l.filter p).mergeSort le := by
  have hsub : Ranks le (l.filter p) := h.of_subset fun a ha => (List.mem_filter.mp ha).1
  apply hsub.eq_sort
  · exact (List.mergeSort_perm l le).filter p
  · exact (h.sorted l).filter p

/-! ## §3. Selections. -/

theorem groups_perm (f : α → ℤ) (l : List α) (n : ℕ) :
    ((List.range n).map fun r : ℕ => l.filter fun a => decide (f a = (r : ℤ) + 1)).flatten.Perm
      (l.filter fun a => decide (1 ≤ f a ∧ f a ≤ n)) := by
  induction n with
  | zero =>
      rw [List.filter_eq_nil_iff.mpr]
      · exact List.Perm.refl _
      · intro a _
        rw [decide_eq_true_eq]
        omega
  | succ n ih =>
      rw [List.range_succ, List.map_append, List.flatten_append]
      refine (ih.append_right _).trans ?_
      rw [List.map_singleton, List.flatten_singleton]
      -- what is at most `n`, then what is `n + 1`
      have hsplit := List.filter_append_perm (fun a => decide (f a ≤ n))
        (l.filter fun a => decide (1 ≤ f a ∧ f a ≤ (n + 1 : ℕ)))
      refine List.Perm.trans (List.Perm.of_eq ?_) hsplit
      rw [List.filter_filter, List.filter_filter]
      congr 1
      · apply List.filter_congr
        intro a _
        rw [← Bool.decide_and, decide_eq_decide]
        omega
      · apply List.filter_congr
        intro a _
        rw [← decide_not, ← Bool.decide_and, decide_eq_decide]
        omega

theorem groups_pairwise (f : α → ℤ) (l : List α) (n : ℕ) :
    ((List.range n).map fun r : ℕ =>
      l.filter fun a => decide (f a = (r : ℤ) + 1)).flatten.Pairwise fun a b => f a ≤ f b := by
  have hgroup : ∀ {r : ℕ} {a : α}, a ∈ (l.filter fun a => decide (f a = (r : ℤ) + 1)) →
      f a = (r : ℤ) + 1 := fun ha => of_decide_eq_true (List.mem_filter.mp ha).2
  rw [List.pairwise_flatten]
  constructor
  · intro group hmem
    obtain ⟨r, -, rfl⟩ := List.mem_map.mp hmem
    refine List.pairwise_of_forall_mem_list fun a ha b hb => ?_
    rw [hgroup ha, hgroup hb]
  · rw [List.pairwise_map]
    refine List.pairwise_lt_range.imp fun hlt a ha b hb => ?_
    rw [hgroup ha, hgroup hb]
    omega

theorem count_picked [DecidableEq α] (pick : β → Option α) (l : List β) (a : α) :
    (l.filterMap pick).count a = l.countP fun e => decide (pick e = some a) := by
  rw [List.count_eq_countP, List.countP_filterMap]
  apply List.countP_congr
  intro e _
  cases hpick : pick e with
  | none => simp
  | some b => simp

/-- **When two selections pick the same.**  `p` cannot tell apart what picks
the same element: then the two picks agree, in whatever order, exactly when
the two selections agree wherever there is something to pick. -/
theorem perm_picked_iff {l : List β} (pick : β → Option α) (p q : β → Bool)
    (hp : ∀ d ∈ l, ∀ e ∈ l, ∀ a, pick d = some a → pick e = some a → p d = p e) :
    ((l.filter p).filterMap pick).Perm ((l.filter q).filterMap pick)
      ↔ ∀ d ∈ l, (pick d).isSome = true → p d = q d := by
  constructor
  · intro hperm d hd hsome
    obtain ⟨a, ha⟩ := Option.isSome_iff_exists.mp hsome
    cases hpd : p d with
    | false =>
        -- nothing in `p`'s pick is `a`, so `d` is not in `q`'s
        cases hqd : q d with
        | false => rfl
        | true =>
            have hmem : a ∈ (l.filter q).filterMap pick :=
              List.mem_filterMap.mpr ⟨d, List.mem_filter.mpr ⟨hd, hqd⟩, ha⟩
            obtain ⟨e, he, hea⟩ := List.mem_filterMap.mp (hperm.mem_iff.mpr hmem)
            obtain ⟨hel, hpe⟩ := List.mem_filter.mp he
            rw [← hp d hd e hel a ha hea, hpd] at hpe
            exact hpe
    | true =>
        cases hqd : q d with
        | true => rfl
        | false =>
            classical
            -- `p` picks `a` as often as it can be picked, `q` leaves `d` out
            have heq := hperm.count_eq a
            rw [count_picked, count_picked] at heq
            have hp0 : (l.filter fun e => !p e).countP (fun e => decide (pick e = some a)) = 0 := by
              rw [List.countP_eq_zero]
              intro e he hea
              obtain ⟨hel, hpe⟩ := List.mem_filter.mp he
              rw [← hp d hd e hel a ha (of_decide_eq_true hea), hpd] at hpe
              cases hpe
            have hq0 : 0 < (l.filter fun e => !q e).countP (fun e => decide (pick e = some a)) := by
              rw [List.countP_pos_iff]
              exact ⟨d, List.mem_filter.mpr ⟨hd, by rw [hqd]; rfl⟩, decide_eq_true ha⟩
            have hsplitP := List.countP_eq_countP_filter_add l (fun e => decide (pick e = some a)) p
            have hsplitQ := List.countP_eq_countP_filter_add l (fun e => decide (pick e = some a)) q
            omega
  · intro h
    have hsame : (l.filter p).filterMap pick = (l.filter q).filterMap pick := by
      rw [List.filterMap_filter, List.filterMap_filter]
      apply List.filterMap_congr
      intro d hd
      cases hpick : pick d with
      | none => simp
      | some a => rw [h d hd (by rw [hpick]; rfl)]
    rw [hsame]

end SortedInsert
