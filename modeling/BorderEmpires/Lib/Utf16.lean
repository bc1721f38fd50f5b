/-
  BorderEmpires.Lib.Utf16
  **TEXT ORDER BY UTF-16 CODE UNITS.**

  ECMAScript compares strings code unit by code unit, which is not the
  code point order once a supplementary character meets one above the
  surrogates.  `utf16Units` is the encoding; it is injective, so the
  order `utf16Le` it induces is a linear order on texts.
-/
import Mathlib.Data.List.Lex
import Mathlib.Data.List.Sort

namespace Utf16

/-! ## §1. The encoding. -/

/-- One code unit, or a surrogate pair above the basic plane. -/
def charUnits (c : Char) : List Nat :=
  if c.toNat < 0x10000 then [c.toNat]
  else [0xD800 + (c.toNat - 0x10000) / 0x400, 0xDC00 + (c.toNat - 0x10000) % 0x400]

def units (s : String) : List Nat := s.toList.flatMap charUnits

theorem charUnits_ne_nil (c : Char) : charUnits c ≠ [] := by
  unfold charUnits
  split
  · exact List.cons_ne_nil _ _
  · exact List.cons_ne_nil _ _

theorem char_range (c : Char) : c.toNat < 0xD800 ∨ (0xDFFF < c.toNat ∧ c.toNat < 0x110000) :=
  c.valid

/-- **The encoding of a list of characters can be read back.** -/
theorem flatMap_charUnits_injective :
    ∀ l l' : List Char, l.flatMap charUnits = l'.flatMap charUnits → l = l' := by
  intro l
  induction l with
  | nil =>
      intro l' h
      cases l' with
      | nil => rfl
      | cons c' l' =>
          rw [List.flatMap_nil, List.flatMap_cons] at h
          exact absurd (List.append_eq_nil_iff.mp h.symm).1 (charUnits_ne_nil c')
  | cons c l ih =>
      intro l' h
      cases l' with
      | nil =>
          rw [List.flatMap_nil, List.flatMap_cons] at h
          exact absurd (List.append_eq_nil_iff.mp h).1 (charUnits_ne_nil c)
      | cons c' l' =>
          rw [List.flatMap_cons, List.flatMap_cons] at h
          have hc := char_range c
          have hc' := char_range c'
          -- a lead surrogate is never a unit of its own, so the heads agree in length
          have key : c.toNat = c'.toNat ∧ l.flatMap charUnits = l'.flatMap charUnits := by
            unfold charUnits at h
            split at h
            next hb =>
              split at h
              next hb' =>
                simp only [List.cons_append, List.nil_append, List.cons.injEq] at h
                exact ⟨h.1, h.2⟩
              next hb' =>
                simp only [List.cons_append, List.nil_append, List.cons.injEq] at h
                omega
            next hb =>
              split at h
              next hb' =>
                simp only [List.cons_append, List.nil_append, List.cons.injEq] at h
                omega
              next hb' =>
                simp only [List.cons_append, List.nil_append, List.cons.injEq] at h
                exact ⟨by omega, h.2.2⟩
          rw [Char.toNat_inj.mp key.1, ih l' key.2]

theorem units_injective {s t : String} (h : units s = units t) : s = t :=
  String.toList_inj.mp (flatMap_charUnits_injective s.toList t.toList h)

def isHighSurrogate (unit : Nat) : Bool := decide (0xD800 ≤ unit ∧ unit ≤ 0xDBFF)

/-- The second one. -/
def isLowSurrogate (unit : Nat) : Bool := decide (0xDC00 ≤ unit ∧ unit ≤ 0xDFFF)

theorem isLowSurrogate_of_high {unit : Nat} (h : isHighSurrogate unit = true) :
    isLowSurrogate unit = false := by
  simp only [isHighSurrogate, isLowSurrogate, decide_eq_true_eq, decide_eq_false_iff_not] at h ⊢
  omega

/-- The cut between `a` and `b` parts a surrogate pair. -/
def PartsPair (a b : List Nat) : Prop :=
  ∃ u ∈ a.getLast?, ∃ v ∈ b.head?, isHighSurrogate u = true ∧ isLowSurrogate v = true

theorem PartsPair.cons_cons {u w : Nat} {a b : List Nat} (h : PartsPair (w :: a) b) :
    PartsPair (u :: w :: a) b := by
  obtain ⟨x, hx, hrest⟩ := h
  exact ⟨x, by simpa using hx, hrest⟩

/-- **A cut that parts no surrogate pair falls between two characters**, so
both sides are texts again. -/
theorem flatMap_charUnits_cut (l : List Char) :
    ∀ a b : List Nat, l.flatMap charUnits = a ++ b → ¬ PartsPair a b →
      ∃ l₁ l₂ : List Char, l = l₁ ++ l₂ ∧ l₁.flatMap charUnits = a ∧ l₂.flatMap charUnits = b := by
  induction l with
  | nil =>
      intro a b h _
      obtain ⟨rfl, rfl⟩ := List.append_eq_nil_iff.mp h.symm
      exact ⟨[], [], rfl, rfl, rfl⟩
  | cons c l ih =>
      intro a b h hcut
      cases a with
      | nil => exact ⟨[], c :: l, rfl, rfl, h⟩
      | cons u a =>
          rw [List.flatMap_cons] at h
          unfold charUnits at h
          split at h
          next hb =>
            simp only [List.cons_append, List.nil_append, List.cons.injEq] at h
            obtain ⟨rfl, h⟩ := h
            have hcut' : ¬ PartsPair a b := by
              cases a with
              | nil => simp [PartsPair]
              | cons w a => exact fun hp => hcut hp.cons_cons
            obtain ⟨l₁, l₂, rfl, rfl, rfl⟩ := ih a b h hcut'
            refine ⟨c :: l₁, l₂, rfl, ?_, rfl⟩
            rw [List.flatMap_cons, charUnits, if_pos hb]
            rfl
          next hb =>
            simp only [List.cons_append, List.nil_append, List.cons.injEq] at h
            obtain ⟨rfl, h⟩ := h
            cases a with
            | nil =>
                -- the cut would fall inside the pair
                have hrange := char_range c
                rw [List.nil_append] at h
                subst h
                refine absurd ⟨0xD800 + (c.toNat - 0x10000) / 0x400, rfl, _, rfl, ?_, ?_⟩ hcut
                · simp only [isHighSurrogate, decide_eq_true_eq]
                  omega
                · simp only [isLowSurrogate, decide_eq_true_eq]
                  omega
            | cons v a =>
                simp only [List.cons_append, List.cons.injEq] at h
                obtain ⟨rfl, h⟩ := h
                have hcut' : ¬ PartsPair a b := by
                  cases a with
                  | nil => simp [PartsPair]
                  | cons w a => exact fun hp => hcut hp.cons_cons.cons_cons
                obtain ⟨l₁, l₂, rfl, rfl, rfl⟩ := ih a b h hcut'
                refine ⟨c :: l₁, l₂, rfl, ?_, rfl⟩
                rw [List.flatMap_cons, charUnits, if_neg hb]
                rfl

theorem units_cut {s : String} {a b : List Nat} (h : units s = a ++ b) (hcut : ¬ PartsPair a b) :
    ∃ s₁ s₂ : String, units s₁ = a ∧ units s₂ = b := by
  obtain ⟨l₁, l₂, -, h₁, h₂⟩ := flatMap_charUnits_cut s.toList a b h hcut
  refine ⟨String.ofList l₁, String.ofList l₂, ?_, ?_⟩
  · rw [units, String.toList_ofList, h₁]
  · rw [units, String.toList_ofList, h₂]

theorem exists_units_of_basic {l : List Nat} (h : ∀ u ∈ l, u < 0xD800) :
    ∃ s : String, units s = l := by
  refine ⟨String.ofList (l.map Char.ofNat), ?_⟩
  rw [units, String.toList_ofList]
  induction l with
  | nil => rfl
  | cons u l ih =>
      have hu := h u List.mem_cons_self
      have hvalid : u.isValidChar := Or.inl hu
      have hnat : (Char.ofNat u).toNat = u := by
        rw [Char.ofNat, dif_pos hvalid]
        rfl
      rw [List.map_cons, List.flatMap_cons, charUnits, hnat, if_pos (by omega),
        ih (fun v hv => h v (List.mem_cons_of_mem u hv))]
      rfl

theorem units_append (s t : String) : units (s ++ t) = units s ++ units t := by
  rw [units, String.toList_append, List.flatMap_append]
  rfl

/-! ## §2. The order. -/

/-- `a <= b` as the language compares strings. -/
def utf16Le (a b : String) : Prop := units a ≤ units b

instance : DecidableRel utf16Le := fun a b => inferInstanceAs (Decidable (units a ≤ units b))

theorem utf16Le_trans {a b c : String} (h : utf16Le a b) (h' : utf16Le b c) : utf16Le a c :=
  le_trans h h'

theorem utf16Le_total (a b : String) : utf16Le a b ∨ utf16Le b a := le_total _ _

theorem utf16Le_antisymm {a b : String} (h : utf16Le a b) (h' : utf16Le b a) : a = b :=
  units_injective (le_antisymm h h')

/-! ## §3. Sorting records by a text field. -/

section SortOn

variable {α : Type*} (field : α → String)

def leOn (a b : α) : Prop := utf16Le (field a) (field b)

instance : DecidableRel (leOn field) :=
  fun a b => inferInstanceAs (Decidable (utf16Le (field a) (field b)))

def sortOn (l : List α) : List α := l.insertionSort (leOn field)

theorem sortOn_perm (l : List α) : (sortOn field l).Perm l := List.perm_insertionSort _ l

theorem sortOn_pairwise (l : List α) : (sortOn field l).Pairwise (leOn field) := by
  have : Std.Total (leOn field) := ⟨fun a b => utf16Le_total _ _⟩
  have : IsTrans α (leOn field) := ⟨fun _ _ _ h h' => utf16Le_trans h h'⟩
  exact List.pairwise_insertionSort _ l

/-- **Records with distinct fields sort to one list**, whatever order they
come in. -/
theorem sortOn_eq_of_perm {l l' : List α} (hp : l.Perm l') (hnd : (l.map field).Nodup) :
    sortOn field l = sortOn field l' := by
  have hp' : (sortOn field l).Perm (sortOn field l') :=
    (sortOn_perm field l).trans (hp.trans (sortOn_perm field l').symm)
  refine hp'.eq_of_pairwise ?_ (sortOn_pairwise field l) (sortOn_pairwise field l')
  intro a b ha hb hab hba
  have hfield : field a = field b := utf16Le_antisymm hab hba
  have ha' : a ∈ l := (sortOn_perm field l).mem_iff.mp ha
  have hb' : b ∈ l := hp.mem_iff.mpr ((sortOn_perm field l').mem_iff.mp hb)
  exact List.inj_on_of_nodup_map hnd ha' hb' hfield

end SortOn

end Utf16
