/-
  BorderEmpires.Lib.BinaryHeap
  **BINARY MIN-HEAPS ON A LIST.**

  The entry at position `i > 0` hangs under position `(i - 1) / 2`.
  `push` appends and sifts up, `pop` takes the root, moves the last entry
  there and sifts down.  `MinHeap` carries its order as a field.

  The order arguments run on `keyAt`, which reads `⊤` past the end, so
  that a missing child never wins a comparison.
-/
import Mathlib.Order.WithBot
import Mathlib.Data.List.Basic

universe u v

namespace BinaryHeap

/-! ## §1. Positions and swaps. -/

/-- The position a position hangs under. -/
def parent (i : Nat) : Nat := (i - 1) / 2

theorem parent_lt {i : Nat} (h : 0 < i) : parent i < i := by
  unfold parent
  omega

theorem parent_eq_iff {i p : Nat} (h : 0 < i) :
    parent i = p ↔ i = 2 * p + 1 ∨ i = 2 * p + 2 := by
  unfold parent
  omega

variable {α : Type u}

/-- Exchange two positions; nothing happens when one is past the end. -/
def swap (l : List α) (i j : Nat) : List α :=
  match l[i]?, l[j]? with
  | some a, some b => (l.set i b).set j a
  | _, _ => l

/-- Where the entry that `swap` shows at `k` comes from. -/
def exchange (i j k : Nat) : Nat := if k = i then j else if k = j then i else k

theorem length_swap (l : List α) (i j : Nat) : (swap l i j).length = l.length := by
  unfold swap
  split
  · simp
  · rfl

theorem getElem?_swap (l : List α) {i j : Nat} (hi : i < l.length) (hj : j < l.length)
    (k : Nat) : (swap l i j)[k]? = l[exchange i j k]? := by
  have hswap : swap l i j = (l.set i l[j]).set j l[i] := by
    unfold swap
    rw [List.getElem?_eq_getElem hi, List.getElem?_eq_getElem hj]
  rw [hswap, List.getElem?_set, List.getElem?_set]
  unfold exchange
  by_cases hkj : j = k
  · subst hkj
    by_cases hij : j = i
    · subst hij
      simp [hj]
    · simp [hij, hi, hj]
  · by_cases hki : i = k
    · subst hki
      simp [hkj, hj, hi]
    · simp [hkj, hki, Ne.symm hkj, Ne.symm hki]

theorem exchange_exchange (i j k : Nat) : exchange i j (exchange i j k) = k := by
  unfold exchange
  split
  · split
    · omega
    · rw [if_pos rfl]
      omega
  · split
    · rw [if_pos rfl]
      omega
    · rfl

theorem mem_swap (l : List α) {i j : Nat} (hi : i < l.length) (hj : j < l.length) (x : α) :
    x ∈ swap l i j ↔ x ∈ l := by
  rw [List.mem_iff_getElem?, List.mem_iff_getElem?]
  constructor
  · rintro ⟨k, hk⟩
    rw [getElem?_swap l hi hj] at hk
    exact ⟨_, hk⟩
  · rintro ⟨k, hk⟩
    refine ⟨exchange i j k, ?_⟩
    rw [getElem?_swap l hi hj, exchange_exchange]
    exact hk

/-! ## §2. Keys and heap order. -/

variable {S : Type v} (key : α → S)

/-- The key at a position, `⊤` past the end. -/
def keyAt (l : List α) (i : Nat) : WithTop S :=
  match l[i]? with
  | some a => (key a : WithTop S)
  | none => ⊤

theorem keyAt_of_some {l : List α} {i : Nat} {a : α} (h : l[i]? = some a) :
    keyAt key l i = (key a : WithTop S) := by
  simp [keyAt, h]

theorem keyAt_of_ge {l : List α} {i : Nat} (h : l.length ≤ i) : keyAt key l i = ⊤ := by
  simp [keyAt, List.getElem?_eq_none h]

theorem keyAt_congr {l m : List α} {i j : Nat} (h : l[i]? = m[j]?) :
    keyAt key l i = keyAt key m j := by
  unfold keyAt
  rw [h]

theorem keyAt_swap (l : List α) {i j : Nat} (hi : i < l.length) (hj : j < l.length) (k : Nat) :
    keyAt key (swap l i j) k = keyAt key l (exchange i j k) :=
  keyAt_congr key (getElem?_swap l hi hj k)

variable [LinearOrder S]

theorem lt_length_of_keyAt_lt {l : List α} {i : Nat} {s : WithTop S}
    (h : keyAt key l i < s) : i < l.length := by
  by_contra hge
  rw [keyAt_of_ge key (by omega)] at h
  exact not_top_lt h

/-- **Heap order** on keys read by position. -/
def HeapOrder (f : Nat → WithTop S) : Prop := ∀ i, 0 < i → f (parent i) ≤ f i

variable (fuel : Nat) {f : Nat → WithTop S}

theorem HeapOrder.root_le (h : HeapOrder f) (i : Nat) : f 0 ≤ f i := by
  induction i using Nat.strong_induction_on with
  | _ i ih =>
      by_cases hi : 0 < i
      · exact le_trans (ih (parent i) (parent_lt hi)) (h i hi)
      · have hzero : i = 0 := by omega
        rw [hzero]

/-! ## §3. Sifting up. -/

/-- In order but for `hole`, which may be smaller than what it hangs under. -/
structure UpOrder (f : Nat → WithTop S) (hole : Nat) : Prop where
  elsewhere : ∀ i, 0 < i → i ≠ hole → f (parent i) ≤ f i
  bridge : 0 < hole → ∀ c, 0 < c → parent c = hole → f (parent hole) ≤ f c

theorem UpOrder.finish {hole : Nat} (h : UpOrder f hole)
    (hstop : 0 < hole → f (parent hole) ≤ f hole) : HeapOrder f := by
  intro i hi
  by_cases hhole : i = hole
  · subst hhole
    exact hstop hi
  · exact h.elsewhere i hi hhole

theorem UpOrder.lift {hole : Nat} (h : UpOrder f hole) (hpos : 0 < hole)
    (hlt : f hole < f (parent hole)) :
    UpOrder (fun k => f (exchange hole (parent hole) k)) (parent hole) := by
  have hp := parent_lt hpos
  constructor
  · intro i hi hne
    by_cases hih : i = hole
    · subst hih
      simp only [exchange, if_pos, if_neg (Nat.ne_of_lt hp)]
      exact le_of_lt hlt
    · simp only [exchange, if_neg hih, if_neg hne]
      by_cases hph : parent i = hole
      · simp only [if_pos hph]
        exact h.bridge hpos i hi hph
      · by_cases hpp : parent i = parent hole
        · simp only [if_neg hph, if_pos hpp]
          have hle := h.elsewhere i hi hih
          rw [hpp] at hle
          exact le_trans (le_of_lt hlt) hle
        · simp only [if_neg hph, if_neg hpp]
          exact h.elsewhere i hi hih
  · intro hppos c hc hpc
    have hpp := parent_lt hppos
    have hup : f (parent (parent hole)) ≤ f (parent hole) :=
      h.elsewhere (parent hole) hppos (Nat.ne_of_lt hp)
    have hreach : parent (parent hole) ≠ hole := by omega
    simp only [exchange, if_neg hreach, if_neg (Nat.ne_of_lt hpp)]
    by_cases hch : c = hole
    · simp only [if_pos hch]
      exact hup
    · have hcp : c ≠ parent hole := by
        have := parent_lt hc
        omega
      simp only [if_neg hch, if_neg hcp]
      have hle := h.elsewhere c hc hch
      rw [hpc] at hle
      exact le_trans hup hle

/-- The loop of `push`: swap upwards while strictly smaller than the entry
above. -/
def siftUp : Nat → List α → Nat → List α
  | 0, l, _ => l
  | fuel + 1, l, i =>
      if i = 0 then l
      else if keyAt key l (parent i) ≤ keyAt key l i then l
      else siftUp fuel (swap l i (parent i)) (parent i)

theorem siftUp_order : ∀ (l : List α) (i : Nat), i ≤ fuel → i < l.length →
    UpOrder (keyAt key l) i → HeapOrder (keyAt key (siftUp key fuel l i)) := by
  induction fuel with
  | zero =>
      intro l i hfuel _ h
      exact h.finish (fun hpos => by omega)
  | succ fuel ih =>
      intro l i hfuel hlt h
      rw [siftUp]
      by_cases hzero : i = 0
      · rw [if_pos hzero]
        exact h.finish (fun hpos => by omega)
      · rw [if_neg hzero]
        have hpos : 0 < i := by omega
        have hp := parent_lt hpos
        by_cases hle : keyAt key l (parent i) ≤ keyAt key l i
        · rw [if_pos hle]
          exact h.finish (fun _ => hle)
        · rw [if_neg hle]
          have hplt : parent i < l.length := by omega
          refine ih _ _ (by omega) (by rw [length_swap]; exact hplt) ?_
          have hkeys : keyAt key (swap l i (parent i))
              = fun k => keyAt key l (exchange i (parent i) k) :=
            funext (keyAt_swap key l hlt hplt)
          rw [hkeys]
          exact h.lift hpos (lt_of_not_ge hle)

theorem mem_siftUp : ∀ (l : List α) (i : Nat), i < l.length →
    ∀ x, x ∈ siftUp key fuel l i ↔ x ∈ l := by
  induction fuel with
  | zero =>
      intro l i _ x
      exact Iff.rfl
  | succ fuel ih =>
      intro l i hlt x
      rw [siftUp]
      split
      · exact Iff.rfl
      split
      · exact Iff.rfl
      have hplt : parent i < l.length := by
        have := parent_lt (i := i) (by omega)
        omega
      rw [ih _ _ (by rw [length_swap]; exact hplt) x]
      exact mem_swap l hlt hplt x

theorem length_siftUp : ∀ (l : List α) (i : Nat),
    (siftUp key fuel l i).length = l.length := by
  induction fuel with
  | zero =>
      intro l i
      rfl
  | succ fuel ih =>
      intro l i
      rw [siftUp]
      split
      · rfl
      · split
        · rfl
        · rw [ih, length_swap]

/-! ## §4. Sifting down. -/

/-- In order but below `hole`, which may be greater than what hangs there. -/
structure DownOrder (f : Nat → WithTop S) (hole : Nat) : Prop where
  elsewhere : ∀ i, 0 < i → parent i ≠ hole → f (parent i) ≤ f i
  bridge : 0 < hole → ∀ c, 0 < c → parent c = hole → f (parent hole) ≤ f c

theorem DownOrder.finish {hole : Nat} (h : DownOrder f hole) (hleft : f hole ≤ f (2 * hole + 1))
    (hright : f hole ≤ f (2 * hole + 2)) : HeapOrder f := by
  intro i hi
  by_cases hhole : parent i = hole
  · rw [hhole]
    rcases (parent_eq_iff hi).mp hhole with heq | heq
    · rw [heq]
      exact hleft
    · rw [heq]
      exact hright
  · exact h.elsewhere i hi hhole

theorem DownOrder.sink {hole child : Nat} (h : DownOrder f hole) (hchild : 0 < child)
    (hparent : parent child = hole) (hlt : f child < f hole) (hleft : f child ≤ f (2 * hole + 1))
    (hright : f child ≤ f (2 * hole + 2)) :
    DownOrder (fun k => f (exchange hole child k)) child := by
  have hp := parent_lt hchild
  have hmin : ∀ i, 0 < i → parent i = hole → f child ≤ f i := by
    intro i hi hpi
    rcases (parent_eq_iff hi).mp hpi with heq | heq
    · rw [heq]
      exact hleft
    · rw [heq]
      exact hright
  constructor
  · intro i hi hpi
    by_cases hic : i = child
    · subst hic
      have hne : i ≠ hole := by omega
      simp only [exchange, hparent, if_pos, if_neg hne]
      exact le_of_lt hlt
    · by_cases hih : i = hole
      · subst hih
        have hpar := parent_lt hi
        have hne : parent i ≠ i := by omega
        simp only [exchange, if_pos, if_neg hne, if_neg hpi]
        exact h.bridge hi child hchild hparent
      · simp only [exchange, if_neg hic, if_neg hih, if_neg hpi]
        by_cases hph : parent i = hole
        · simp only [if_pos hph]
          exact hmin i hi hph
        · simp only [if_neg hph]
          exact h.elsewhere i hi hph
  · intro _ c hc hpc
    have hcc := parent_lt hc
    have hch : c ≠ hole := by omega
    have hcne : c ≠ child := by omega
    simp only [exchange, hparent, if_pos, if_neg hch, if_neg hcne]
    have hle := h.elsewhere c hc (by omega)
    rw [hpc] at hle
    exact hle

/-- The position `pop` compares down to: the left child when it is strictly
smaller, then the right child when it is strictly smaller than that. -/
def smallest (l : List α) (i : Nat) : Nat :=
  let left := 2 * i + 1
  let right := 2 * i + 2
  let first := if left < l.length ∧ keyAt key l left < keyAt key l i then left else i
  if right < l.length ∧ keyAt key l right < keyAt key l first then right else first

/-- What `smallest` finds: no child is smaller, and it is the hole itself
or a child strictly smaller than the hole. -/
theorem smallest_spec (l : List α) (i : Nat) :
    keyAt key l (smallest key l i) ≤ keyAt key l (2 * i + 1)
      ∧ keyAt key l (smallest key l i) ≤ keyAt key l (2 * i + 2)
      ∧ (smallest key l i = i
          ∨ ((smallest key l i = 2 * i + 1 ∨ smallest key l i = 2 * i + 2)
            ∧ keyAt key l (smallest key l i) < keyAt key l i)) := by
  -- the length tests are implied: a position past the end reads `⊤`
  have hdrop : ∀ j s, (j < l.length ∧ keyAt key l j < keyAt key l s)
      ↔ keyAt key l j < keyAt key l s :=
    fun j s => ⟨fun h => h.2, fun h => ⟨lt_length_of_keyAt_lt key h, h⟩⟩
  unfold smallest
  dsimp only
  simp only [hdrop]
  by_cases hleft : keyAt key l (2 * i + 1) < keyAt key l i
  · rw [if_pos hleft]
    by_cases hright : keyAt key l (2 * i + 2) < keyAt key l (2 * i + 1)
    · rw [if_pos hright]
      exact ⟨le_of_lt hright, le_refl _, Or.inr ⟨Or.inr rfl, lt_trans hright hleft⟩⟩
    · rw [if_neg hright]
      exact ⟨le_refl _, le_of_not_gt hright, Or.inr ⟨Or.inl rfl, hleft⟩⟩
  · rw [if_neg hleft]
    by_cases hright : keyAt key l (2 * i + 2) < keyAt key l i
    · rw [if_pos hright]
      exact ⟨le_trans (le_of_lt hright) (le_of_not_gt hleft), le_refl _,
        Or.inr ⟨Or.inr rfl, hright⟩⟩
    · rw [if_neg hright]
      exact ⟨le_of_not_gt hleft, le_of_not_gt hright, Or.inl rfl⟩

/-- The loop of `pop`: swap downwards with the smaller child. -/
def siftDown : Nat → List α → Nat → List α
  | 0, l, _ => l
  | fuel + 1, l, i =>
      if smallest key l i = i then l
      else siftDown fuel (swap l i (smallest key l i)) (smallest key l i)

theorem siftDown_order : ∀ (l : List α) (i : Nat), l.length ≤ i + fuel →
    DownOrder (keyAt key l) i → HeapOrder (keyAt key (siftDown key fuel l i)) := by
  induction fuel with
  | zero =>
      intro l i hfuel h
      -- no child is left below the hole
      refine h.finish ?_ ?_
      · rw [keyAt_of_ge key (i := 2 * i + 1) (by omega)]
        exact le_top
      · rw [keyAt_of_ge key (i := 2 * i + 2) (by omega)]
        exact le_top
  | succ fuel ih =>
      intro l i hfuel h
      obtain ⟨hleft, hright, hcase⟩ := smallest_spec key l i
      rw [siftDown]
      by_cases hstop : smallest key l i = i
      · rw [if_pos hstop]
        rw [hstop] at hleft hright
        exact h.finish hleft hright
      · rw [if_neg hstop]
        rcases hcase with heq | ⟨hchild, hlt⟩
        · exact absurd heq hstop
        · generalize smallest key l i = child at hleft hright hchild hlt hstop ⊢
          have hclt : child < l.length := lt_length_of_keyAt_lt key hlt
          have hgt : i < child := by omega
          have hparent : parent child = i := (parent_eq_iff (by omega)).mpr hchild
          refine ih _ _ (by rw [length_swap]; omega) ?_
          have hkeys : keyAt key (swap l i child) = fun k => keyAt key l (exchange i child k) :=
            funext (keyAt_swap key l (by omega) hclt)
          rw [hkeys]
          exact h.sink (by omega) hparent hlt hleft hright

theorem mem_siftDown : ∀ (l : List α) (i : Nat), i < l.length →
    ∀ x, x ∈ siftDown key fuel l i ↔ x ∈ l := by
  induction fuel with
  | zero =>
      intro l i _ x
      exact Iff.rfl
  | succ fuel ih =>
      intro l i hlt x
      rw [siftDown]
      split
      · exact Iff.rfl
      rename_i hmove
      obtain ⟨-, -, hcase⟩ := smallest_spec key l i
      have hclt : smallest key l i < l.length := by
        rcases hcase with heq | ⟨-, hless⟩
        · exact absurd heq hmove
        · exact lt_length_of_keyAt_lt key hless
      rw [ih _ _ (by rw [length_swap]; exact hclt) x]
      exact mem_swap l hlt hclt x

theorem length_siftDown : ∀ (l : List α) (i : Nat),
    (siftDown key fuel l i).length = l.length := by
  induction fuel with
  | zero =>
      intro l i
      rfl
  | succ fuel ih =>
      intro l i
      rw [siftDown]
      split
      · rfl
      · rw [ih, length_swap]

/-! ## §5. The heap. -/

structure MinHeap (key : α → S) where
  entries : List α
  ordered : HeapOrder (keyAt key entries)

namespace MinHeap

variable {key}

theorem empty_order : HeapOrder (keyAt key []) := by
  intro i _
  have htop : keyAt key [] i = ⊤ := keyAt_of_ge key (Nat.zero_le i)
  rw [htop]
  exact le_top

def empty : MinHeap key := ⟨[], empty_order⟩

def size (heap : MinHeap key) : Nat := heap.entries.length

variable (key) in
/-- The entries `push` leaves. -/
def pushed (l : List α) (a : α) : List α := siftUp key l.length (l ++ [a]) l.length

theorem upOrder_append {l : List α} (h : HeapOrder (keyAt key l)) (a : α) :
    UpOrder (keyAt key (l ++ [a])) l.length := by
  have hinside : ∀ i, i < l.length → keyAt key (l ++ [a]) i = keyAt key l i :=
    fun i hi => keyAt_congr key (List.getElem?_append_left hi)
  have hpast : ∀ i, l.length < i → keyAt key (l ++ [a]) i = ⊤ :=
    fun i hi => keyAt_of_ge key (by rw [List.length_append, List.length_singleton]; omega)
  constructor
  · intro i hi hne
    by_cases hlt : i < l.length
    · rw [hinside i hlt, hinside (parent i) (by have := parent_lt hi; omega)]
      exact h i hi
    · rw [hpast i (by omega)]
      exact le_top
  · intro hpos c hc hpc
    have := parent_lt hc
    rw [hpast c (by omega)]
    exact le_top

theorem pushed_order {l : List α} (h : HeapOrder (keyAt key l)) (a : α) :
    HeapOrder (keyAt key (pushed key l a)) :=
  siftUp_order key l.length _ _ (Nat.le_refl _) (by simp) (upOrder_append h a)

def push (heap : MinHeap key) (a : α) : MinHeap key :=
  ⟨pushed key heap.entries a, pushed_order heap.ordered a⟩

theorem mem_push (heap : MinHeap key) (a x : α) :
    x ∈ (heap.push a).entries ↔ x = a ∨ x ∈ heap.entries := by
  show x ∈ siftUp key _ (heap.entries ++ [a]) _ ↔ _
  rw [mem_siftUp key _ _ _ (by simp), List.mem_append, List.mem_singleton]
  exact or_comm

theorem size_push (heap : MinHeap key) (a : α) : (heap.push a).size = heap.size + 1 := by
  show (siftUp key _ (heap.entries ++ [a]) _).length = _
  rw [length_siftUp, List.length_append, List.length_singleton]
  rfl

variable (key) in
/-- The entries `pop` leaves below a root: none when it was alone. -/
def popped (rest : List α) : List α :=
  match rest.getLast? with
  | none => []
  | some tail => siftDown key rest.length (tail :: rest.dropLast) 0

theorem downOrder_root {root tail : α} {rest : List α}
    (h : HeapOrder (keyAt key (root :: rest))) :
    DownOrder (keyAt key (tail :: rest.dropLast)) 0 := by
  have hlen : (tail :: rest.dropLast).length = rest.length - 1 + 1 := by simp
  have hinside : ∀ i, 0 < i → i < rest.length →
      keyAt key (tail :: rest.dropLast) i = keyAt key (root :: rest) i := by
    intro i hi hlt
    refine keyAt_congr key ?_
    obtain ⟨j, rfl⟩ : ∃ j, i = j + 1 := ⟨i - 1, by omega⟩
    rw [List.getElem?_cons_succ, List.getElem?_cons_succ, List.getElem?_dropLast, if_pos (by omega)]
  constructor
  · intro i hi hp
    by_cases hlt : i < rest.length
    · rw [hinside i hi hlt, hinside (parent i) (by omega) (by have := parent_lt hi; omega)]
      exact h i hi
    · rw [keyAt_of_ge key (i := i) (by omega)]
      exact le_top
  · intro hpos
    omega

theorem popped_order {root : α} {rest : List α}
    (h : HeapOrder (keyAt key (root :: rest))) :
    HeapOrder (keyAt key (popped key rest)) := by
  unfold popped
  split
  · exact empty_order
  rename_i tail hsome
  have hpos : 0 < rest.length := List.length_pos_iff.mpr (fun hnil => by simp [hnil] at hsome)
  refine siftDown_order key rest.length (tail :: rest.dropLast) 0 ?_ (downOrder_root h)
  rw [List.length_cons, List.length_dropLast]
  omega

def pop (heap : MinHeap key) : Option (α × MinHeap key) :=
  match heap with
  | ⟨[], _⟩ => none
  | ⟨root :: rest, h⟩ => some (root, ⟨popped key rest, popped_order h⟩)

theorem pop_eq_none_iff (heap : MinHeap key) : heap.pop = none ↔ heap.entries = [] := by
  obtain ⟨entries, h⟩ := heap
  cases entries with
  | nil => exact ⟨fun _ => rfl, fun _ => rfl⟩
  | cons root rest => exact ⟨fun heq => (by cases heq), fun heq => (by cases heq)⟩

theorem mem_popped (rest : List α) (x : α) :
    x ∈ popped key rest ↔ x ∈ rest := by
  unfold popped
  split
  · rename_i hnone
    rw [List.getLast?_eq_none_iff.mp hnone]
  · rename_i tail hsome
    rw [mem_siftDown key _ _ _ (by simp), List.mem_cons]
    have hsplit : rest = rest.dropLast ++ [tail] := (List.dropLast_append_getLast? tail hsome).symm
    conv => rhs; rw [hsplit]
    rw [List.mem_append, List.mem_singleton]
    exact or_comm

/-- **What the heap holds** is the popped entry and what it holds after. -/
theorem mem_pop {heap next : MinHeap key} {a : α} (h : heap.pop = some (a, next)) (x : α) :
    x ∈ heap.entries ↔ x = a ∨ x ∈ next.entries := by
  obtain ⟨entries, hord⟩ := heap
  cases entries with
  | nil => cases h
  | cons root rest =>
      have heq := Option.some.inj h
      obtain ⟨rfl, rfl⟩ := Prod.mk.inj heq
      show x ∈ root :: rest ↔ x = root ∨ x ∈ popped key rest
      rw [mem_popped, List.mem_cons]

/-- **`pop` returns an entry of least key.** -/
theorem pop_least {heap next : MinHeap key} {a : α} (h : heap.pop = some (a, next)) {x : α}
    (hx : x ∈ heap.entries) : key a ≤ key x := by
  obtain ⟨entries, hord⟩ := heap
  cases entries with
  | nil => cases h
  | cons root rest =>
      have heq := Option.some.inj h
      obtain ⟨rfl, -⟩ := Prod.mk.inj heq
      obtain ⟨i, hi⟩ := List.mem_iff_getElem?.mp hx
      have hle := hord.root_le i
      rw [keyAt_of_some key hi, keyAt_of_some key (List.getElem?_cons_zero)] at hle
      exact WithTop.coe_le_coe.mp hle

theorem size_pop {heap next : MinHeap key} {a : α} (h : heap.pop = some (a, next)) :
    heap.size = next.size + 1 := by
  obtain ⟨entries, hord⟩ := heap
  cases entries with
  | nil => cases h
  | cons root rest =>
      have heq := Option.some.inj h
      obtain ⟨-, rfl⟩ := Prod.mk.inj heq
      show rest.length + 1 = (popped key rest).length + 1
      unfold popped
      split
      · rename_i hnone
        rw [List.getLast?_eq_none_iff.mp hnone]
      · rename_i tail hsome
        have hne : rest ≠ [] := fun hnil => by simp [hnil] at hsome
        have := List.length_pos_iff.mpr hne
        rw [length_siftDown, List.length_cons, List.length_dropLast]
        omega

end MinHeap

end BinaryHeap
