/-
  BorderEmpires.Lib.InsertionMap
  **FINITE MAPS THAT REMEMBER INSERTION ORDER.**

  `set` overwrites in place when the key is there and appends otherwise,
  `erase` drops the key, and iteration follows the list.  No key occurs
  twice: `nodupKeys` is a field, so every map that can be built has it.
-/
import BorderEmpires.Lib.Pointwise
import Mathlib.Data.List.Induction
import Mathlib.Data.List.Nodup

universe u v

/-! ## §1. Association lists. -/

namespace AssocEntries

variable {K : Type u} {V : Type v} [DecidableEq K]

/-- The value of the first entry with key `k`. -/
def lookup (k : K) : List (K × V) → Option V
  | [] => none
  | e :: rest => if e.1 = k then some e.2 else lookup k rest

/-- Overwrite the entry of `k` where it stands, or append a new one. -/
def put (k : K) (x : V) : List (K × V) → List (K × V)
  | [] => [(k, x)]
  | e :: rest => if e.1 = k then (k, x) :: rest else e :: put k x rest

/-- Drop the entry of `k`. -/
def drop (k : K) (l : List (K × V)) : List (K × V) := l.filter (fun e => e.1 ≠ k)

theorem lookup_put (l : List (K × V)) (k k' : K) (x : V) :
    lookup k' (put k x l) = if k = k' then some x else lookup k' l := by
  induction l with
  | nil => rfl
  | cons e rest ih =>
      simp only [put]
      by_cases he : e.1 = k
      · rw [if_pos he]
        simp only [lookup, he]
        split <;> rfl
      · rw [if_neg he]
        simp only [lookup, ih]
        by_cases hk : e.1 = k'
        · rw [if_pos hk, if_pos hk, if_neg (fun h => he (hk.trans h.symm))]
        · rw [if_neg hk, if_neg hk]

theorem lookup_drop (l : List (K × V)) (k k' : K) :
    lookup k' (drop k l) = if k = k' then none else lookup k' l := by
  induction l with
  | nil => simp [drop, lookup]
  | cons e rest ih =>
      by_cases he : e.1 = k
      · have hd : drop k (e :: rest) = drop k rest := by simp [drop, he]
        rw [hd, ih]
        by_cases hk : k = k'
        · rw [if_pos hk, if_pos hk]
        · rw [if_neg hk, if_neg hk, lookup, if_neg (fun h => hk (he.symm.trans h))]
      · have hd : drop k (e :: rest) = e :: drop k rest := by simp [drop, he]
        rw [hd]
        simp only [lookup, ih]
        by_cases hk : e.1 = k'
        · rw [if_pos hk, if_pos hk, if_neg (fun h => he (hk.trans h.symm))]
        · rw [if_neg hk, if_neg hk]

theorem keys_put (l : List (K × V)) (k : K) (x : V) :
    (put k x l).map Prod.fst
      = if k ∈ l.map Prod.fst then l.map Prod.fst else l.map Prod.fst ++ [k] := by
  induction l with
  | nil => rfl
  | cons e rest ih =>
      simp only [put]
      by_cases he : e.1 = k
      · rw [if_pos he]
        simp [he]
      · rw [if_neg he, List.map_cons, ih, List.map_cons]
        by_cases hm : k ∈ rest.map Prod.fst
        · rw [if_pos hm, if_pos (List.mem_cons_of_mem _ hm)]
        · have hn : k ∉ e.1 :: rest.map Prod.fst := by
            rw [List.mem_cons]
            rintro (h | h)
            · exact he h.symm
            · exact hm h
          rw [if_neg hm, if_neg hn, List.cons_append]

variable {l : List (K × V)}

theorem put_of_notMem {k : K} (h : k ∉ l.map Prod.fst) (x : V) : put k x l = l ++ [(k, x)] := by
  induction l with
  | nil => rfl
  | cons e rest ih =>
      rw [List.map_cons, List.mem_cons, not_or] at h
      rw [put, if_neg (fun he => h.1 he.symm), ih h.2, List.cons_append]

theorem nodup_put (h : (l.map Prod.fst).Nodup) (k : K) (x : V) :
    ((put k x l).map Prod.fst).Nodup := by
  rw [keys_put]
  split
  · exact h
  next hk =>
    exact List.nodup_append.mpr ⟨h, List.nodup_singleton k,
      fun a ha b hb hab => hk (by rw [List.mem_singleton.mp hb] at hab; exact hab ▸ ha)⟩

theorem nodup_drop (h : (l.map Prod.fst).Nodup) (k : K) : ((drop k l).map Prod.fst).Nodup :=
  h.sublist (List.filter_sublist.map Prod.fst)

omit [DecidableEq K] in
theorem nodup_mapValues {l : List (K × V)} (h : (l.map Prod.fst).Nodup) (f : V → V) :
    ((l.map fun e => (e.1, f e.2)).map Prod.fst).Nodup := by
  rw [List.map_map]
  exact h

theorem mem_iff_lookup (h : (l.map Prod.fst).Nodup) (k : K) (x : V) :
    (k, x) ∈ l ↔ lookup k l = some x := by
  induction l with
  | nil => simp [lookup]
  | cons e rest ih =>
      rw [List.map_cons, List.nodup_cons] at h
      rw [List.mem_cons, lookup, ih h.2]
      by_cases he : e.1 = k
      · rw [if_pos he, Option.some.injEq]
        constructor
        · rintro (rfl | hx)
          · rfl
          · exact absurd (List.mem_map_of_mem (f := Prod.fst) ((ih h.2).mpr hx)) (he ▸ h.1)
        · rintro rfl
          exact Or.inl (Prod.ext he.symm rfl)
      · rw [if_neg he]
        constructor
        · rintro (rfl | hx)
          · exact absurd rfl he
          · exact hx
        · exact Or.inr

theorem mem_of_lookup {k : K} {x : V} (h : lookup k l = some x) : (k, x) ∈ l := by
  induction l with
  | nil => cases h
  | cons e rest ih =>
      rw [lookup] at h
      split at h
      next he =>
        cases h
        exact he ▸ List.mem_cons_self
      next he => exact List.mem_cons_of_mem _ (ih h)

theorem lookup_isSome_iff (l : List (K × V)) (k : K) :
    (lookup k l).isSome = true ↔ k ∈ l.map Prod.fst := by
  induction l with
  | nil => simp [lookup]
  | cons e rest ih =>
      rw [lookup, List.map_cons, List.mem_cons]
      by_cases he : e.1 = k
      · rw [if_pos he]
        exact ⟨fun _ => Or.inl he.symm, fun _ => rfl⟩
      · rw [if_neg he, ih]
        exact ⟨Or.inr, fun h => h.resolve_left (fun hk => he hk.symm)⟩

end AssocEntries

/-! ## §2. The map type. -/

/-- **An insertion-ordered map**: its entries in the order their keys
were first set, no key twice. -/
structure InsertionMap (K : Type u) (V : Type v) where
  entries : List (K × V)
  nodupKeys : (entries.map Prod.fst).Nodup

namespace InsertionMap

variable {K : Type u} {V : Type v} [DecidableEq K]

def empty : InsertionMap K V := ⟨[], List.nodup_nil⟩

def get (m : InsertionMap K V) (k : K) : Option V := AssocEntries.lookup k m.entries

def has (m : InsertionMap K V) (k : K) : Bool := (m.get k).isSome

def set (m : InsertionMap K V) (k : K) (x : V) : InsertionMap K V :=
  ⟨AssocEntries.put k x m.entries, AssocEntries.nodup_put m.nodupKeys k x⟩

def erase (m : InsertionMap K V) (k : K) : InsertionMap K V :=
  ⟨AssocEntries.drop k m.entries, AssocEntries.nodup_drop m.nodupKeys k⟩

def keys (m : InsertionMap K V) : List K := m.entries.map Prod.fst

def setAll (m : InsertionMap K V) (l : List (K × V)) : InsertionMap K V :=
  l.foldl (fun acc e => acc.set e.1 e.2) m

def ofEntries (l : List (K × V)) : InsertionMap K V := empty.setAll l

@[simp] theorem get_empty (k : K) : (empty : InsertionMap K V).get k = none := rfl

variable (m : InsertionMap K V)

theorem get_set (k k' : K) (x : V) : (m.set k x).get k' = if k = k' then some x else m.get k' :=
  AssocEntries.lookup_put m.entries k k' x

@[simp] theorem get_set_self (k : K) (x : V) : (m.set k x).get k = some x := by
  rw [get_set, if_pos rfl]

theorem get_set_ne {k k' : K} (h : k ≠ k') (x : V) : (m.set k x).get k' = m.get k' := by
  rw [get_set, if_neg h]

theorem get_erase (k k' : K) : (m.erase k).get k' = if k = k' then none else m.get k' :=
  AssocEntries.lookup_drop m.entries k k'

@[simp] theorem get_erase_self (k : K) : (m.erase k).get k = none := by
  rw [get_erase, if_pos rfl]

theorem get_erase_ne {k k' : K} (h : k ≠ k') : (m.erase k).get k' = m.get k' := by
  rw [get_erase, if_neg h]

theorem get_set_eq_some (k k' : K) (x y : V) :
    (m.set k x).get k' = some y ↔ (k' = k ∧ y = x) ∨ (k' ≠ k ∧ m.get k' = some y) := by
  rw [get_set]
  by_cases h : k = k'
  · simp [h, eq_comm]
  · simp [h, Ne.symm h]

theorem get_eraseAll (ks : List K) (m : InsertionMap K V) (k : K) :
    (ks.foldl erase m).get k = if k ∈ ks then none else m.get k :=
  Pointwise.foldl_read get (f := fun _ _ => none) get_erase (fun _ _ => rfl) ks m k

theorem get_erase_eq_some (k k' : K) (x : V) :
    (m.erase k).get k' = some x ↔ k' ≠ k ∧ m.get k' = some x := by
  rw [get_erase]
  by_cases h : k = k'
  · simp [h]
  · simp [h, Ne.symm h]

theorem mem_entries_iff (k : K) (x : V) : (k, x) ∈ m.entries ↔ m.get k = some x :=
  AssocEntries.mem_iff_lookup m.nodupKeys k x

theorem erase_of_get_none {m : InsertionMap K V} {k : K} (h : m.get k = none) :
    m.erase k = m := by
  have hkeep : ∀ e ∈ m.entries, e.1 ≠ k := by
    rintro ⟨k', x⟩ he rfl
    rw [(m.mem_entries_iff k' x).mp he] at h
    cases h
  have hentries : AssocEntries.drop k m.entries = m.entries :=
    List.filter_eq_self.mpr (fun e he => by simpa using hkeep e he)
  unfold erase
  cases m
  simp only at hentries ⊢
  simp only [hentries]

theorem mem_keys_iff (k : K) : k ∈ m.keys ↔ (m.get k).isSome = true :=
  (AssocEntries.lookup_isSome_iff m.entries k).symm

theorem keys_set (k : K) (x : V) :
    (m.set k x).keys = if k ∈ m.keys then m.keys else m.keys ++ [k] :=
  AssocEntries.keys_put m.entries k x

/-- **A batch of writes reads back the last one at each key.** -/
theorem get_setAll (l : List (K × V)) (m : InsertionMap K V) (k : K) :
    (m.setAll l).get k = (AssocEntries.lookup k l.reverse).or (m.get k) := by
  induction l using List.reverseRecOn with
  | nil => rfl
  | append_singleton l e ih =>
      rw [setAll, List.foldl_append, List.foldl_cons, List.foldl_nil, get_set,
        List.reverse_append, List.reverse_singleton, List.singleton_append,
        AssocEntries.lookup]
      by_cases he : e.1 = k
      · rw [if_pos he, if_pos he, Option.some_or]
      · rw [if_neg he, if_neg he]
        exact ih

/-- **A list of pairs that never contradicts itself is the graph of the
map it builds.** -/
theorem get_ofEntries_iff {l : List (K × V)}
    (hfun : ∀ k x x', (k, x) ∈ l → (k, x') ∈ l → x = x') (k : K) (x : V) :
    (ofEntries l).get k = some x ↔ (k, x) ∈ l := by
  have hmem : ∀ y, AssocEntries.lookup k l.reverse = some y → (k, y) ∈ l := by
    intro y hy
    have := AssocEntries.mem_of_lookup hy
    exact List.mem_reverse.mp this
  rw [ofEntries, get_setAll, get_empty, Option.or_none]
  constructor
  · exact hmem x
  · intro hx
    have hkey : k ∈ l.reverse.map Prod.fst :=
      List.mem_map_of_mem (f := Prod.fst) (List.mem_reverse.mpr hx)
    obtain ⟨y, hy⟩ := Option.isSome_iff_exists.mp
      ((AssocEntries.lookup_isSome_iff l.reverse k).mpr hkey)
    rw [hy, hfun k y x (hmem y hy) hx]

/-- A loop that deletes the entries it meets under a condition. -/
def eraseWhere (m : InsertionMap K V) (p : K → V → Bool) : InsertionMap K V :=
  ⟨m.entries.filter (fun e => ! p e.1 e.2), m.nodupKeys.sublist (List.filter_sublist.map Prod.fst)⟩

theorem get_eraseWhere_eq_some (p : K → V → Bool) (k : K) (x : V) :
    (m.eraseWhere p).get k = some x ↔ m.get k = some x ∧ p k x = false := by
  rw [← mem_entries_iff, ← mem_entries_iff]
  show (k, x) ∈ m.entries.filter _ ↔ _
  simp

theorem get_eraseWhere (p : K → V → Bool) (k : K) :
    (m.eraseWhere p).get k = (m.get k).filter (fun x => ! p k x) := by
  apply Option.ext
  intro x
  rw [get_eraseWhere_eq_some, Option.filter_eq_some_iff]
  simp

/-- Change every value in place. -/
def mapValues (m : InsertionMap K V) (f : V → V) : InsertionMap K V :=
  ⟨m.entries.map (fun e => (e.1, f e.2)), AssocEntries.nodup_mapValues m.nodupKeys f⟩

theorem get_mapValues (f : V → V) (k : K) : (m.mapValues f).get k = (m.get k).map f := by
  apply Option.ext
  intro x
  rw [← mem_entries_iff]
  show (k, x) ∈ m.entries.map _ ↔ _
  rw [List.mem_map, Option.map_eq_some_iff]
  constructor
  · rintro ⟨⟨k', y⟩, hy, heq⟩
    obtain ⟨rfl, rfl⟩ := Prod.mk.inj heq
    exact ⟨y, (m.mem_entries_iff k' y).mp hy, rfl⟩
  · rintro ⟨y, hy, rfl⟩
    exact ⟨(k, y), (m.mem_entries_iff k y).mpr hy, rfl⟩

def values (m : InsertionMap K V) : List V := m.entries.map Prod.snd

theorem mem_values_iff (x : V) : x ∈ m.values ↔ ∃ k, m.get k = some x := by
  unfold values
  rw [List.mem_map]
  constructor
  · rintro ⟨⟨k, y⟩, hy, rfl⟩
    exact ⟨k, (m.mem_entries_iff k y).mp hy⟩
  · rintro ⟨k, hk⟩
    exact ⟨(k, x), (m.mem_entries_iff k x).mpr hk, rfl⟩

def size (m : InsertionMap K V) : Nat := m.entries.length

omit [DecidableEq K] in
theorem size_eq_length_keys (m : InsertionMap K V) : m.size = m.keys.length :=
  (List.length_map Prod.fst).symm

theorem size_set_new {m : InsertionMap K V} {k : K} (h : m.get k = none) (x : V) :
    (m.set k x).size = m.size + 1 := by
  have hkey : k ∉ m.keys := by
    rw [mem_keys_iff, h]
    simp
  rw [size_eq_length_keys, keys_set, if_neg hkey, List.length_append, ← size_eq_length_keys]
  rfl

theorem size_erase_add_one {m : InsertionMap K V} {k : K} {x : V} (h : m.get k = some x) :
    (m.erase k).size + 1 = m.size := by
  have hkey : k ∈ m.keys := by
    rw [mem_keys_iff, h]
    rfl
  have hkeys : (m.erase k).keys = m.keys.erase k := by
    have hfilter : m.keys.erase k = m.keys.filter (· != k) :=
      List.Nodup.erase_eq_filter m.nodupKeys k
    rw [hfilter]
    show (m.entries.filter _).map Prod.fst = (m.entries.map Prod.fst).filter _
    rw [List.filter_map]
    congr 1
    apply List.filter_congr
    intro e _
    by_cases he : e.1 = k
    · simp [he]
    · simp [he]
  have hpos : 0 < m.keys.length := List.length_pos_of_mem hkey
  rw [size_eq_length_keys, size_eq_length_keys, hkeys, List.length_erase_of_mem hkey]
  omega

end InsertionMap

/-! ## §3. Insertion-ordered sets. -/

namespace InsertionSet

variable {K : Type u} [DecidableEq K]

def add (s : List K) (k : K) : List K := if k ∈ s then s else s ++ [k]

def addAll (s l : List K) : List K := l.foldl add s

theorem mem_add (s : List K) (k k' : K) : k' ∈ add s k ↔ k' ∈ s ∨ k' = k := by
  unfold add
  by_cases hk : k ∈ s
  · rw [if_pos hk]
    constructor
    · exact Or.inl
    · rintro (h | h)
      · exact h
      · rw [h]
        exact hk
  · rw [if_neg hk, List.mem_append, List.mem_singleton]

theorem nodup_add {s : List K} (h : s.Nodup) (k : K) : (add s k).Nodup := by
  unfold add
  by_cases hk : k ∈ s
  · rw [if_pos hk]
    exact h
  · rw [if_neg hk]
    exact List.nodup_append.mpr ⟨h, List.nodup_singleton k,
      fun a ha b hb hab => hk (List.mem_singleton.mp hb ▸ hab ▸ ha)⟩

theorem mem_addAll (l : List K) : ∀ (s : List K) (k : K), k ∈ addAll s l ↔ k ∈ s ∨ k ∈ l := by
  induction l with
  | nil =>
      intro s k
      simp [addAll]
  | cons a l ih =>
      intro s k
      show k ∈ addAll (add s a) l ↔ _
      rw [ih, mem_add, List.mem_cons, or_assoc]

theorem nodup_addAll (l : List K) : ∀ {s : List K}, s.Nodup → (addAll s l).Nodup := by
  induction l with
  | nil =>
      intro s h
      exact h
  | cons a l ih =>
      intro s h
      exact ih (nodup_add h a)

end InsertionSet

namespace InsertionMap

variable {K : Type u} {V : Type v} [DecidableEq K]

theorem get_ofEntries_map (keys : List K) (f : K → V) (k : K) (x : V) :
    (ofEntries (keys.map fun k => (k, f k))).get k = some x ↔ k ∈ keys ∧ f k = x := by
  rw [get_ofEntries_iff]
  · rw [List.mem_map]
    constructor
    · rintro ⟨k', hk', heq⟩
      obtain ⟨h1, h2⟩ := Prod.mk.inj heq
      rw [h1] at hk' h2
      exact ⟨hk', h2⟩
    · rintro ⟨hk, hx⟩
      exact ⟨k, hk, by rw [hx]⟩
  · intro k' x₁ x₂ h₁ h₂
    obtain ⟨a, _, ha⟩ := List.mem_map.mp h₁
    obtain ⟨b, _, hb⟩ := List.mem_map.mp h₂
    obtain ⟨ha1, ha2⟩ := Prod.mk.inj ha
    obtain ⟨hb1, hb2⟩ := Prod.mk.inj hb
    rw [← ha2, ← hb2, ha1, hb1]

end InsertionMap
