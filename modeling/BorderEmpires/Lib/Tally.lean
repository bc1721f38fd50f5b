/-
  BorderEmpires.Lib.Tally
  **TALLIES OF A MAP, CARRIED ALONG WRITE BY WRITE.**

  A tally says something about the values of a map: a sum over them, the
  keys of those that pass a test, a map of one of their fields.  It can be
  counted anew from the whole map, or carried along: the entry that goes
  takes its share out, the entry that comes brings its share in.
-/
import Mathlib.Algebra.Order.BigOperators.Group.List
import Mathlib.Algebra.Order.Group.Defs
import BorderEmpires.Lib.Ledger

universe u v w

/-! ## §1. One entry of an association list. -/

namespace AssocEntries

variable {K : Type u} {V : Type v} {A : Type w} [DecidableEq K] [AddCommMonoid A]

theorem drop_of_not_mem {k : K} {l : List (K × V)} (h : k ∉ l.map Prod.fst) : drop k l = l := by
  refine List.filter_eq_self.mpr (fun e he => ?_)
  have hne : e.1 ≠ k := fun heq => h (heq ▸ List.mem_map_of_mem he)
  simpa using hne

theorem drop_cons_self {e : K × V} {l : List (K × V)} (h : ((e :: l).map Prod.fst).Nodup) :
    drop e.1 (e :: l) = l := by
  rw [List.map_cons, List.nodup_cons] at h
  show (e :: l).filter _ = l
  rw [List.filter_cons_of_neg (by simp)]
  exact drop_of_not_mem h.1

theorem drop_cons_of_ne {k : K} {e : K × V} (h : e.1 ≠ k) (l : List (K × V)) :
    drop k (e :: l) = e :: drop k l :=
  List.filter_cons_of_pos (by simpa using h)

theorem sum_put_drop (f : V → A) (k : K) (x : V) {l : List (K × V)} (h : (l.map Prod.fst).Nodup) :
    ((put k x l).map fun e => f e.2).sum = ((drop k l).map fun e => f e.2).sum + f x := by
  induction l with
  | nil => simp [put, drop]
  | cons e rest ih =>
      by_cases he : e.1 = k
      · subst he
        rw [drop_cons_self h, put, if_pos rfl, List.map_cons, List.sum_cons, add_comm]
      · rw [drop_cons_of_ne he, put, if_neg he, List.map_cons, List.sum_cons, List.map_cons,
          List.sum_cons, add_assoc, ih (List.Nodup.of_cons h)]

end AssocEntries

namespace Tally

variable {K : Type u} {V : Type v} [DecidableEq K]

/-! ## §2. Sums. -/

section Sums

variable {A : Type w} [AddCommMonoid A]

/-- The sum of `f` over the values of the map. -/
def total (f : V → A) (m : InsertionMap K V) : A := (m.entries.map fun e => f e.2).sum

theorem total_erase (f : V → A) {m : InsertionMap K V} {k : K} {x : V} (h : m.get k = some x) :
    total f (m.erase k) + f x = total f m := by
  have hshare : m.share (fun _ => f) k = f x := by
    unfold InsertionMap.share
    rw [h]
    rfl
  rw [← hshare]
  exact m.total_erase k (fun _ => f)

theorem total_set (f : V → A) (m : InsertionMap K V) (k : K) (x : V) :
    total f (m.set k x) = total f (m.erase k) + f x :=
  AssocEntries.sum_put_drop f k x m.nodupKeys

theorem total_erase_of_zero (f : V → A) {m : InsertionMap K V} {k : K}
    (h : ∀ x, m.get k = some x → f x = 0) : total f (m.erase k) = total f m := by
  cases hget : m.get k with
  | none => rw [InsertionMap.erase_of_get_none hget]
  | some x =>
      have herase := total_erase f hget
      rwa [h x hget, add_zero] at herase

end Sums

theorem total_erase_nat (f : V → ℕ) {m : InsertionMap K V} {k : K} {x : V}
    (h : m.get k = some x) : total f m - f x = total f (m.erase k) := by
  have herase := total_erase f h
  omega

theorem counter_erase {f : V → ℕ} {n : ℕ} {m : InsertionMap K V} (h : n = total f m) {k : K}
    {x : V} (hk : m.get k = some x) {c : Bool} (hx : f x = if c then 1 else 0) :
    (if c then n - 1 else n) = total f (m.erase k) := by
  have herase := total_erase f hk
  rw [hx] at herase
  cases c
  · show n = _
    simp only [Bool.false_eq_true, if_false] at herase
    omega
  · show n - 1 = _
    simp only [if_true] at herase
    omega

theorem counter_set {f : V → ℕ} {n : ℕ} {m : InsertionMap K V} {k : K}
    (h : n = total f (m.erase k)) {x : V} {c : Bool} (hx : f x = if c then 1 else 0) :
    (if c then n + 1 else n) = total f (m.set k x) := by
  rw [total_set, hx, h]
  cases c <;> rfl

theorem total_erase_clamped {A : Type w} [AddCommGroup A] [LinearOrder A] [IsOrderedAddMonoid A]
    (f : V → A) (hf : ∀ x, 0 ≤ f x) {m : InsertionMap K V} {k : K} {x : V}
    (h : m.get k = some x) : max 0 (total f m - f x) = total f (m.erase k) := by
  have hrest : total f m - f x = total f (m.erase k) := by
    rw [← total_erase f h, add_sub_cancel_right]
  have hnonneg : 0 ≤ total f (m.erase k) := by
    refine List.sum_nonneg (fun a ha => ?_)
    obtain ⟨e, -, rfl⟩ := List.mem_map.mp ha
    exact hf e.2
  rw [hrest, max_eq_right hnonneg]

theorem rate_erase {A : Type w} [AddCommGroup A] [LinearOrder A] [IsOrderedAddMonoid A]
    {f : V → A} (hf : ∀ x, 0 ≤ f x) {n r : A} {m : InsertionMap K V} (h : n = total f m) {k : K}
    {x : V} (hk : m.get k = some x) {c : Bool} (hx : f x = if c then r else 0) :
    (if c then max 0 (n - r) else n) = total f (m.erase k) := by
  have hclamped := total_erase_clamped f hf hk
  cases c
  · have hzero : f x = 0 := hx
    have herase := total_erase f hk
    rw [hzero, add_zero] at herase
    exact h.trans herase.symm
  · have hr : f x = r := hx
    rw [hr, ← h] at hclamped
    exact hclamped

theorem rate_set {A : Type w} [AddCommMonoid A] {f : V → A} {n r : A} {m : InsertionMap K V}
    {k : K} (h : n = total f (m.erase k)) {x : V} {c : Bool} (hx : f x = if c then r else 0) :
    (if c then n + r else n) = total f (m.set k x) := by
  rw [total_set, hx, h]
  cases c
  · exact (add_zero _).symm
  · rfl

/-! ## §3. Sets of keys. -/

def keysWhere (test : V → Bool) (m : InsertionMap K V) : List K :=
  (m.entries.filter fun e => test e.2).map Prod.fst

theorem mem_keysWhere {test : V → Bool} {m : InsertionMap K V} {k : K} :
    k ∈ keysWhere test m ↔ (m.get k).any test = true := by
  unfold keysWhere
  rw [List.mem_map]
  constructor
  · rintro ⟨⟨k', x⟩, he, rfl⟩
    rw [List.mem_filter] at he
    rw [(m.mem_entries_iff k' x).mp he.1]
    exact he.2
  · intro h
    obtain ⟨x, hx, htest⟩ := Option.any_eq_true _ _ |>.mp h
    exact ⟨(k, x), List.mem_filter.mpr ⟨(m.mem_entries_iff k x).mpr hx, htest⟩, rfl⟩

omit [DecidableEq K] in
theorem nodup_keysWhere (test : V → Bool) (m : InsertionMap K V) : (keysWhere test m).Nodup :=
  m.nodupKeys.sublist (List.filter_sublist.map Prod.fst)

/-- The carried set holds the counted keys. -/
def Lists (l : List K) (test : V → Bool) (m : InsertionMap K V) : Prop :=
  ∀ k, k ∈ l ↔ k ∈ keysWhere test m

variable {l : List K} {test : V → Bool} {m : InsertionMap K V} {k : K} {x : V}

theorem Lists.removed (h : Lists l test m) :
    Lists (l.filter fun k' => decide (k' ≠ k)) test (m.erase k) := by
  intro k'
  rw [List.mem_filter, h k', mem_keysWhere, mem_keysWhere, InsertionMap.get_erase]
  by_cases hk : k = k'
  · simp [hk]
  · simp [hk, Ne.symm hk]

theorem Lists.unmissed (h : Lists l test m) (hx : ∀ x, m.get k = some x → test x = false) :
    Lists l test (m.erase k) := by
  intro k'
  rw [h k', mem_keysWhere, mem_keysWhere, InsertionMap.get_erase]
  by_cases hk : k = k'
  · subst hk
    cases hget : m.get k with
    | none => simp
    | some y => simp [hx y hget]
  · rw [if_neg hk]

theorem Lists.added (h : Lists l test (m.erase k)) (hx : test x = true) :
    Lists (InsertionSet.add l k) test (m.set k x) := by
  intro k'
  rw [InsertionSet.mem_add, h k', mem_keysWhere, mem_keysWhere, InsertionMap.get_erase,
    InsertionMap.get_set]
  by_cases hk : k = k'
  · simp [hk, hx]
  · simp [hk, Ne.symm hk]

theorem Lists.passed (h : Lists l test (m.erase k)) (hx : test x = false) :
    Lists l test (m.set k x) := by
  intro k'
  rw [h k', mem_keysWhere, mem_keysWhere, InsertionMap.get_erase, InsertionMap.get_set]
  by_cases hk : k = k'
  · simp [hk, hx]
  · simp [hk]

omit [DecidableEq K] in
theorem Lists.length_eq (h : Lists l test m) (hl : l.Nodup) :
    l.length = (keysWhere test m).length :=
  ((List.perm_ext_iff_of_nodup hl (nodup_keysWhere test m)).mpr h).length_eq

/-! ## §4. Maps of a field. -/

section Collects

variable {B : Type w} (f : V → Option B)

/-- What `f` makes of one entry. -/
def collected (e : K × V) : Option (K × B) := (f e.2).map fun b => (e.1, b)

omit [DecidableEq K] in
theorem nodup_collected (m : InsertionMap K V) :
    ((m.entries.filterMap (collected f)).map Prod.fst).Nodup := by
  have hsub : ∀ l : List (K × V),
      ((l.filterMap (collected f)).map Prod.fst).Sublist (l.map Prod.fst) := by
    intro l
    induction l with
    | nil => exact List.Sublist.refl _
    | cons e rest ih =>
        cases hf : f e.2 with
        | none =>
            have he : collected f e = none := by simp [collected, hf]
            rw [List.filterMap_cons_none he, List.map_cons]
            exact ih.cons _
        | some b =>
            have he : collected f e = some (e.1, b) := by simp [collected, hf]
            rw [List.filterMap_cons_some he, List.map_cons, List.map_cons]
            exact ih.cons_cons _
  exact m.nodupKeys.sublist (hsub m.entries)

/-- The map of what `f` reads, at the keys where it reads anything. -/
def collect (m : InsertionMap K V) : InsertionMap K B :=
  ⟨m.entries.filterMap (collected f), nodup_collected f m⟩

variable {f}

theorem get_collect (m : InsertionMap K V) (k : K) : (collect f m).get k = (m.get k).bind f := by
  apply Option.ext
  intro b
  rw [← InsertionMap.mem_entries_iff, Option.bind_eq_some_iff]
  show (k, b) ∈ m.entries.filterMap (collected f) ↔ _
  rw [List.mem_filterMap]
  constructor
  · rintro ⟨⟨k', x⟩, he, hb⟩
    obtain ⟨b', hf, heq⟩ := Option.map_eq_some_iff.mp hb
    obtain ⟨rfl, rfl⟩ := Prod.mk.inj heq
    exact ⟨x, (m.mem_entries_iff k' x).mp he, hf⟩
  · rintro ⟨x, hx, hf⟩
    exact ⟨(k, x), (m.mem_entries_iff k x).mpr hx, by simp [collected, hf]⟩

def Collects (c : InsertionMap K B) (f : V → Option B) (m : InsertionMap K V) : Prop :=
  ∀ k, c.get k = (collect f m).get k

variable {c : InsertionMap K B} {b : B}

theorem Collects.removed (h : Collects c f m) : Collects (c.erase k) f (m.erase k) := by
  intro k'
  rw [InsertionMap.get_erase, h k', get_collect, get_collect, InsertionMap.get_erase]
  by_cases hk : k = k'
  · simp [hk]
  · simp [hk]

theorem Collects.unmissed (h : Collects c f m) (hx : ∀ x, m.get k = some x → f x = none) :
    Collects c f (m.erase k) := by
  intro k'
  rw [h k', get_collect, get_collect, InsertionMap.get_erase]
  by_cases hk : k = k'
  · subst hk
    cases hget : m.get k with
    | none => simp
    | some y => simp [hx y hget]
  · rw [if_neg hk]

theorem Collects.added (h : Collects c f (m.erase k)) (hx : f x = some b) :
    Collects (c.set k b) f (m.set k x) := by
  intro k'
  rw [InsertionMap.get_set, h k', get_collect, get_collect, InsertionMap.get_erase,
    InsertionMap.get_set]
  by_cases hk : k = k'
  · simp [hk, hx]
  · simp [hk]

theorem Collects.passed (h : Collects c f (m.erase k)) (hx : f x = none) :
    Collects c f (m.set k x) := by
  intro k'
  rw [h k', get_collect, get_collect, InsertionMap.get_erase, InsertionMap.get_set]
  by_cases hk : k = k'
  · simp [hk, hx]
  · simp [hk]

end Collects

end Tally
