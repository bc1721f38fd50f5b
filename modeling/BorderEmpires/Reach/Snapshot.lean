/-
  BorderEmpires.Reach.Snapshot
  **THE PERSISTED FORM OF THE BORDER.**

  `encodeReachBorder` paints every border tile with its owner's slot on a
  world-sized grid, scans the grid in index order and delta-encodes each
  owner's indices; `decodeReachBorder` accumulates the deltas.
-/
import BorderEmpires.Lib.InsertionMap
import BorderEmpires.Lib.Utf16
import BorderEmpires.World

namespace BorderEmpires

variable {W : WorldSize}

/-! ## §1. Keys by character code. -/

/-- `Map<string, string>`: tile key text to owner id text. -/
abbrev TextBorder := InsertionMap String String

structure ReachBorderSnapshotEntry where
  ownerId : String
  tiles : List Int
  deriving DecidableEq

abbrev ReachBorderSnapshot := List ReachBorderSnapshotEntry

def TILE_INDEX_STRIDE : Nat := 65536

/-- The x part of a key: digits up to the comma, and what follows it. -/
def readX : List Char → Nat → Option (Nat × List Char)
  | [], _ => none
  | c :: rest, x =>
      if c.toNat = 44 then some (x, rest)
      else if c.toNat < 48 ∨ 57 < c.toNat then none
      else readX rest (x * 10 + c.toNat - 48)

/-- The y part: digits to the end of the key. -/
def readY : List Char → Nat → Option Nat
  | [], y => some y
  | c :: rest, y =>
      if c.toNat < 48 ∨ 57 < c.toNat then none
      else readY rest (y * 10 + c.toNat - 48)

/-- The world grid cell of a key, `none` where the source returns -1:
malformed (an empty part included) or off-world. -/
def gridCellFromKey (W : WorldSize) (key : String) : Option Nat :=
  match key.toList with
  | [] => none
  | c :: cs =>
      if c.toNat = 44 then none
      else
        match readX (c :: cs) 0 with
        | none => none
        | some (_, []) => none
        | some (x, rest) =>
            match readY rest 0 with
            | none => none
            | some y =>
                if x < W.width ∧ y < W.height then some (y * W.width + x) else none

def TileKey.cell (t : TileKey W) : Nat := t.y.val * W.width + t.x.val

def TileKey.index (t : TileKey W) : Int := (t.y.val * TILE_INDEX_STRIDE + t.x.val : Nat)

theorem digit_range {c : Char} (h : c.isDigit = true) : 48 ≤ c.toNat ∧ c.toNat ≤ 57 :=
  Char.isDigit_iff_toNat.mp h

theorem readX_digits (ds : List Char) (hd : ∀ c ∈ ds, c.isDigit = true) (rest : List Char)
    (x : Nat) : readX (ds ++ ',' :: rest) x = some (Nat.ofDigitChars 10 ds x, rest) := by
  induction ds generalizing x with
  | nil => simp [readX]
  | cons c ds ih =>
      have hc := digit_range (hd c List.mem_cons_self)
      rw [List.cons_append, readX, if_neg (by omega), if_neg (by omega),
        ih (fun c' hc' => hd c' (List.mem_cons_of_mem _ hc')), Nat.ofDigitChars_cons]
      have hzero : '0'.toNat = 48 := rfl
      rw [hzero, show 10 * x + (c.toNat - 48) = x * 10 + c.toNat - 48 by omega]

theorem readY_digits (ds : List Char) (hd : ∀ c ∈ ds, c.isDigit = true) (y : Nat) :
    readY ds y = some (Nat.ofDigitChars 10 ds y) := by
  induction ds generalizing y with
  | nil => simp [readY]
  | cons c ds ih =>
      have hc := digit_range (hd c List.mem_cons_self)
      rw [readY, if_neg (by omega), ih (fun c' hc' => hd c' (List.mem_cons_of_mem _ hc')),
        Nat.ofDigitChars_cons]
      have hzero : '0'.toNat = 48 := rfl
      rw [hzero, show 10 * y + (c.toNat - 48) = y * 10 + c.toNat - 48 by omega]

theorem isDigit_of_mem_repr {n : Nat} {c : Char} (h : c ∈ n.repr.toList) : c.isDigit = true := by
  rw [Nat.toList_repr] at h
  exact Nat.isDigit_of_mem_toDigits (by decide) (by decide) h

theorem TileKey.text_toList (t : TileKey W) :
    t.text.toList = t.x.val.repr.toList ++ ',' :: t.y.val.repr.toList := by
  show (toString t.x.val ++ "," ++ toString t.y.val).toList = _
  rw [String.toList_append, String.toList_append, Nat.toString_eq_repr, Nat.toString_eq_repr,
    List.append_assoc]
  rfl

/-- **A canonical key parses to its own cell.** -/
theorem gridCellFromKey_text (t : TileKey W) : gridCellFromKey W t.text = some t.cell := by
  have hx : t.x.val.repr.toList = Nat.toDigits 10 t.x.val := Nat.toList_repr
  have hy : t.y.val.repr.toList = Nat.toDigits 10 t.y.val := Nat.toList_repr
  have hread := readX_digits t.x.val.repr.toList (fun c hc => isDigit_of_mem_repr hc)
    t.y.val.repr.toList 0
  unfold gridCellFromKey
  rw [t.text_toList]
  cases hxs : t.x.val.repr.toList with
  | nil => exact absurd (hx ▸ hxs) Nat.toDigits_ne_nil
  | cons c cs =>
      have hc := digit_range (isDigit_of_mem_repr (hxs ▸ List.mem_cons_self))
      rw [List.cons_append]
      dsimp only
      rw [if_neg (by omega), ← List.cons_append, ← hxs, hread, hx, Nat.ofDigitChars_ten_toDigits]
      cases hys : t.y.val.repr.toList with
      | nil => exact absurd (hy ▸ hys) Nat.toDigits_ne_nil
      | cons d ds =>
          dsimp only
          rw [← hys, readY_digits _ (fun c hc => isDigit_of_mem_repr hc), hy,
            Nat.ofDigitChars_ten_toDigits]
          dsimp only
          rw [if_pos ⟨t.x.isLt, t.y.isLt⟩]
          rfl

theorem TileKey.cell_injective {t u : TileKey W} (h : t.cell = u.cell) : t = u := by
  have hx := t.x.isLt
  have hx' := u.x.isLt
  unfold cell at h
  have hmod : t.x.val = u.x.val := by
    have := congrArg (· % W.width) h
    simpa [Nat.mul_add_mod_of_lt, Nat.mod_eq_of_lt, hx, hx'] using this
  have hy : t.y.val = u.y.val := by
    have hmul : t.y.val * W.width = u.y.val * W.width := by omega
    exact Nat.eq_of_mul_eq_mul_right W.width_pos hmul
  exact TileKey.ext (Fin.ext hmod) (Fin.ext hy)

theorem TileKey.text_injective {t u : TileKey W} (h : t.text = u.text) : t = u := by
  have hc : some t.cell = some u.cell := by
    rw [← gridCellFromKey_text, ← gridCellFromKey_text, h]
  exact TileKey.cell_injective (Option.some.inj hc)

/-! ## §2. Painting the grid. -/

/-- The loop state of the painting pass; `grid` holds slot + 1 per tile in
16 bits, 0 for no reach. -/
structure PaintState where
  ownerIds : List String
  ownerSlotById : InsertionMap String Nat
  grid : Nat → Nat
  lastOwnerId : Option String
  lastSlot : Nat

def PaintState.initial : PaintState := ⟨[], InsertionMap.empty, fun _ => 0, none, 0⟩

/-- Make `ownerId` the last owner, with a slot of its own. -/
def PaintState.claimSlot (st : PaintState) (ownerId : String) : PaintState :=
  if some ownerId ≠ st.lastOwnerId then
    match st.ownerSlotById.get ownerId with
    | some slot => { st with lastOwnerId := some ownerId, lastSlot := slot }
    | none =>
        let slot := st.ownerIds.length + 1
        { st with
          ownerIds := st.ownerIds ++ [ownerId]
          ownerSlotById := st.ownerSlotById.set ownerId slot
          lastOwnerId := some ownerId
          lastSlot := slot }
  else st

/-- One turn of the painting loop. -/
def paintEntry (W : WorldSize) (st : PaintState) (entry : String × String) : PaintState :=
  match gridCellFromKey W entry.1 with
  | none => st
  | some cell =>
      let st := st.claimSlot entry.2
      { st with grid := fun c => if c = cell then st.lastSlot % 65536 else st.grid c }

def paintedOwner (W : WorldSize) (entries : List (String × String)) (cell : Nat) : Option String :=
  entries.foldl (fun acc entry =>
    if gridCellFromKey W entry.1 = some cell then some entry.2 else acc) none

theorem paintedOwner_append (entries : List (String × String)) (entry : String × String)
    (cell : Nat) :
    paintedOwner W (entries ++ [entry]) cell
      = if gridCellFromKey W entry.1 = some cell then some entry.2
        else paintedOwner W entries cell := by
  rw [paintedOwner, List.foldl_append]
  rfl

theorem paintedOwner_mem {entries : List (String × String)} {cell : Nat} {o : String}
    (h : paintedOwner W entries cell = some o) :
    ∃ key, (key, o) ∈ entries ∧ gridCellFromKey W key = some cell := by
  induction entries using List.reverseRecOn with
  | nil => cases h
  | append_singleton l e ih =>
      rw [paintedOwner_append] at h
      split at h
      next hc =>
        cases h
        exact ⟨e.1, List.mem_append_right _ (List.mem_singleton.mpr rfl), hc⟩
      next hc =>
        obtain ⟨key, hmem, hcell⟩ := ih h
        exact ⟨key, List.mem_append_left _ hmem, hcell⟩

theorem paintedOwner_isSome {entries : List (String × String)} {cell : Nat}
    {entry : String × String} (hmem : entry ∈ entries)
    (hcell : gridCellFromKey W entry.1 = some cell) :
    ∃ o, paintedOwner W entries cell = some o := by
  induction entries using List.reverseRecOn with
  | nil => cases hmem
  | append_singleton l e ih =>
      rw [paintedOwner_append]
      split
      next hc => exact ⟨e.2, rfl⟩
      next hc =>
        rcases List.mem_append.mp hmem with hm | hm
        · exact ih hm
        · rw [List.mem_singleton.mp hm] at hcell
          exact absurd hcell hc

/-- Slots number the owners from one, in the order they were first met. -/
structure SlotsInv (st : PaintState) : Prop where
  nodup : st.ownerIds.Nodup
  slots : ∀ o n, st.ownerSlotById.get o = some n ↔ ∃ i, st.ownerIds[i]? = some o ∧ n = i + 1
  last : ∀ o, st.lastOwnerId = some o → st.ownerSlotById.get o = some st.lastSlot

theorem SlotsInv.mem_iff {st : PaintState} (h : SlotsInv st) (o : String) :
    o ∈ st.ownerIds ↔ ∃ n, st.ownerSlotById.get o = some n := by
  rw [List.mem_iff_getElem?]
  constructor
  · rintro ⟨i, hi⟩
    exact ⟨i + 1, (h.slots o (i + 1)).mpr ⟨i, hi, rfl⟩⟩
  · rintro ⟨n, hn⟩
    obtain ⟨i, hi, _⟩ := (h.slots o n).mp hn
    exact ⟨i, hi⟩

/-- **Claiming a slot**: the owner is last and has one, the other owners
keep theirs, and the grid is as it was. -/
theorem claimSlot_spec {st : PaintState} (h : SlotsInv st) (o : String) :
    SlotsInv (st.claimSlot o) ∧ (st.claimSlot o).grid = st.grid
      ∧ (st.claimSlot o).ownerSlotById.get o = some (st.claimSlot o).lastSlot
      ∧ (∀ o' n, st.ownerSlotById.get o' = some n → (st.claimSlot o).ownerSlotById.get o' = some n)
      ∧ (∀ o', o' ∈ (st.claimSlot o).ownerIds ↔ o' ∈ st.ownerIds ∨ o' = o) := by
  unfold PaintState.claimSlot
  by_cases hlast : some o ≠ st.lastOwnerId
  · rw [if_pos hlast]
    cases hget : st.ownerSlotById.get o with
    | some slot =>
        dsimp only
        refine ⟨⟨h.nodup, h.slots, ?_⟩, rfl, hget, fun _ _ h' => h', ?_⟩
        · intro o' ho'
          cases ho'
          exact hget
        · intro o'
          constructor
          · exact Or.inl
          · intro ho'
            rcases ho' with ho' | ho'
            · exact ho'
            · rw [ho']
              exact (h.mem_iff o).mpr ⟨slot, hget⟩
    | none =>
        have hnew : o ∉ st.ownerIds := by
          intro hmem
          obtain ⟨n, hn⟩ := (h.mem_iff o).mp hmem
          rw [hget] at hn
          cases hn
        dsimp only
        refine ⟨⟨?_, ?_, ?_⟩, rfl, InsertionMap.get_set_self _ _ _, ?_, ?_⟩
        · exact List.nodup_append.mpr ⟨h.nodup, List.nodup_singleton o,
            fun a ha b hb hab => hnew (List.mem_singleton.mp hb ▸ hab ▸ ha)⟩
        · intro o' n
          show (st.ownerSlotById.set o (st.ownerIds.length + 1)).get o' = some n ↔ _
          rw [InsertionMap.get_set]
          by_cases ho : o = o'
          · subst ho
            rw [if_pos rfl]
            constructor
            · intro hn
              cases hn
              exact ⟨st.ownerIds.length, by simp, rfl⟩
            · rintro ⟨i, hi, hn⟩
              have hlen : i = st.ownerIds.length := by
                by_contra hne
                rcases Nat.lt_or_gt_of_ne hne with hlt | hgt
                · rw [List.getElem?_append_left hlt] at hi
                  exact hnew (List.mem_of_getElem? hi)
                · rw [List.getElem?_eq_none (by simp; omega)] at hi
                  cases hi
              rw [hn, hlen]
          · rw [if_neg ho, h.slots]
            constructor
            · rintro ⟨i, hi, hn⟩
              refine ⟨i, ?_, hn⟩
              rw [List.getElem?_append_left (List.getElem?_eq_some_iff.mp hi).1]
              exact hi
            · rintro ⟨i, hi, hn⟩
              refine ⟨i, ?_, hn⟩
              by_cases hlt : i < st.ownerIds.length
              · rw [List.getElem?_append_left hlt] at hi
                exact hi
              · rw [List.getElem?_append_right (by omega)] at hi
                have := List.mem_of_getElem? hi
                exact absurd (List.mem_singleton.mp this).symm ho
        · intro o' ho'
          cases ho'
          exact InsertionMap.get_set_self _ _ _
        · intro o' n hn
          rw [InsertionMap.get_set_ne]
          · exact hn
          · intro ho
            rw [← ho, hget] at hn
            cases hn
        · intro o'
          rw [List.mem_append, List.mem_singleton]
  · rw [if_neg hlast]
    have hl : st.ownerSlotById.get o = some st.lastSlot := h.last o (not_not.mp hlast).symm
    refine ⟨h, rfl, hl, fun _ _ h' => h', ?_⟩
    intro o'
    constructor
    · exact Or.inl
    · intro ho'
      rcases ho' with ho' | ho'
      · exact ho'
      · rw [ho']
        exact (h.mem_iff o).mpr ⟨_, hl⟩

/-- The invariant of the painting loop after the entries `l`. -/
structure PaintInv (W : WorldSize) (l : List (String × String)) (st : PaintState) : Prop where
  slotsInv : SlotsInv st
  blank : ∀ cell, paintedOwner W l cell = none → st.grid cell = 0
  painted : ∀ cell o, paintedOwner W l cell = some o →
    ∃ n, st.ownerSlotById.get o = some n ∧ st.grid cell = n % 65536
  owners : ∀ o, o ∈ st.ownerIds ↔
    ∃ entry ∈ l, entry.2 = o ∧ (gridCellFromKey W entry.1).isSome = true

theorem paintInv_initial : PaintInv W [] PaintState.initial where
  slotsInv := by
    refine ⟨List.nodup_nil, ?_, ?_⟩
    · intro o n
      constructor
      · intro h
        cases h
      · rintro ⟨i, hi, _⟩
        cases hi
    · intro o h
      cases h
  blank := fun _ _ => rfl
  painted := by
    intro cell o h
    cases h
  owners := by
    intro o
    constructor
    · intro h
      cases h
    · rintro ⟨_, h, _⟩
      cases h

theorem paintInv_step {l : List (String × String)} {st : PaintState} (h : PaintInv W l st)
    (entry : String × String) : PaintInv W (l ++ [entry]) (paintEntry W st entry) := by
  unfold paintEntry
  cases hcell : gridCellFromKey W entry.1 with
  | none =>
      -- a key off the grid paints nothing
      have hsame : ∀ cell, paintedOwner W (l ++ [entry]) cell = paintedOwner W l cell := by
        intro cell
        rw [paintedOwner_append, if_neg (by rw [hcell]; exact fun h => nomatch h)]
      refine ⟨h.slotsInv, ?_, ?_, ?_⟩
      · intro cell hp
        exact h.blank cell (hsame cell ▸ hp)
      · intro cell o hp
        exact h.painted cell o (hsame cell ▸ hp)
      · intro o
        rw [h.owners]
        constructor
        · rintro ⟨e, he, heo, hes⟩
          exact ⟨e, List.mem_append_left _ he, heo, hes⟩
        · rintro ⟨e, he, heo, hes⟩
          rcases List.mem_append.mp he with he | he
          · exact ⟨e, he, heo, hes⟩
          · rw [List.mem_singleton.mp he, hcell] at hes
            cases hes
  | some cell =>
      obtain ⟨hslots, hgrid, hlast, hmono, hmem⟩ := claimSlot_spec h.slotsInv entry.2
      dsimp only
      refine ⟨⟨hslots.nodup, hslots.slots, hslots.last⟩, ?_, ?_, ?_⟩
      · intro c hp
        rw [paintedOwner_append] at hp
        split at hp
        next hc => cases hp
        next hc =>
          have hne : c ≠ cell := by
            intro heq
            exact hc (heq ▸ hcell)
          dsimp only
          rw [if_neg hne, hgrid]
          exact h.blank c hp
      · intro c o hp
        rw [paintedOwner_append] at hp
        split at hp
        next hc =>
          cases hp
          rw [hcell, Option.some.injEq] at hc
          exact ⟨_, hlast, if_pos hc.symm⟩
        next hc =>
          have hne : c ≠ cell := by
            intro heq
            exact hc (heq ▸ hcell)
          obtain ⟨n, hn, hg⟩ := h.painted c o hp
          refine ⟨n, hmono o n hn, ?_⟩
          dsimp only
          rw [if_neg hne, hgrid]
          exact hg
      · intro o
        show o ∈ (st.claimSlot entry.2).ownerIds ↔ _
        rw [hmem, h.owners]
        constructor
        · intro ho
          rcases ho with ⟨e, he, heo, hes⟩ | ho
          · exact ⟨e, List.mem_append_left _ he, heo, hes⟩
          · exact ⟨entry, List.mem_append_right _ (List.mem_singleton.mpr rfl), ho.symm,
              by rw [hcell]; rfl⟩
        · rintro ⟨e, he, heo, hes⟩
          rcases List.mem_append.mp he with he | he
          · exact Or.inl ⟨e, he, heo, hes⟩
          · rw [List.mem_singleton.mp he] at heo
            exact Or.inr heo.symm

theorem paintInv_foldl (entries : List (String × String)) :
    PaintInv W entries (entries.foldl (paintEntry W) PaintState.initial) := by
  induction entries using List.reverseRecOn with
  | nil => exact paintInv_initial
  | append_singleton l e ih =>
      rw [List.foldl_append]
      exact paintInv_step ih e

/-- **With at most 65,535 owners the grid reads back the painting.** -/
theorem PaintInv.grid_eq_iff {l : List (String × String)} {st : PaintState}
    (h : PaintInv W l st) (hlen : st.ownerIds.length ≤ 65535) {i : Nat} {o : String}
    (hi : st.ownerIds[i]? = some o) (cell : Nat) :
    st.grid cell = i + 1 ↔ paintedOwner W l cell = some o := by
  have hilt := (List.getElem?_eq_some_iff.mp hi).1
  constructor
  · intro hg
    cases hp : paintedOwner W l cell with
    | none =>
        rw [h.blank cell hp] at hg
        omega
    | some o' =>
        obtain ⟨n, hn, hgn⟩ := h.painted cell o' hp
        obtain ⟨j, hj, hnj⟩ := (h.slotsInv.slots o' n).mp hn
        have hjlt := (List.getElem?_eq_some_iff.mp hj).1
        have hij : i = j := by
          rw [hg, hnj, Nat.mod_eq_of_lt (by omega)] at hgn
          omega
        rw [hij, hj] at hi
        exact hi
  · intro hp
    obtain ⟨n, hn, hgn⟩ := h.painted cell o hp
    have hn' := (h.slotsInv.slots o (i + 1)).mpr ⟨i, hi, rfl⟩
    rw [hn, Option.some.injEq] at hn'
    rw [hgn, hn', Nat.mod_eq_of_lt (by omega)]

/-! ## §3. Scanning the grid. -/

/-- Per slot: the deltas pushed so far, and the last index pushed. -/
structure ScanState where
  tilesBySlot : Nat → List Int
  previousBySlot : Nat → Int

def ScanState.initial : ScanState := ⟨fun _ => [], fun _ => 0⟩

def scanCell (grid : Nat → Nat) (st : ScanState) (c : Nat × Int) : ScanState :=
  let slot := grid c.1
  if slot = 0 then st
  else
    { tilesBySlot := fun j =>
        if j = slot - 1 then st.tilesBySlot j ++ [c.2 - st.previousBySlot j]
        else st.tilesBySlot j
      previousBySlot := fun j => if j = slot - 1 then c.2 else st.previousBySlot j }

/-- The cells of the world with their indices, rows first. -/
def scanCells (W : WorldSize) : List (Nat × Int) :=
  (List.range W.height).flatMap (fun y => (List.range W.width).map (fun x =>
    (y * W.width + x, ((y * TILE_INDEX_STRIDE + x : Nat) : Int))))

/-- The differences of a list of indices, from `previous` on. -/
def deltas (previous : Int) : List Int → List Int
  | [] => []
  | index :: rest => (index - previous) :: deltas index rest

/-- **The scan of one slot** is the delta encoding of its cells' indices. -/
theorem scan_tilesBySlot (grid : Nat → Nat) (j : Nat) (cells : List (Nat × Int)) :
    ∀ st : ScanState, (cells.foldl (scanCell grid) st).tilesBySlot j
      = st.tilesBySlot j ++ deltas (st.previousBySlot j)
          ((cells.filter (fun c => decide (grid c.1 = j + 1))).map Prod.snd) := by
  induction cells with
  | nil =>
      intro st
      simp [deltas]
  | cons c cells ih =>
      intro st
      rw [List.foldl_cons, ih, List.filter_cons]
      unfold scanCell
      by_cases hj : grid c.1 = j + 1
      · rw [if_pos (decide_eq_true hj), if_neg (by omega)]
        dsimp only
        rw [if_pos (by omega), if_pos (by omega), List.map_cons, deltas, List.append_assoc,
          List.singleton_append]
      · have hd : ¬ (decide (grid c.1 = j + 1) = true) := by simpa using hj
        rw [if_neg hd]
        by_cases h0 : grid c.1 = 0
        · rw [if_pos h0]
        · rw [if_neg h0]
          dsimp only
          rw [if_neg (by omega), if_neg (by omega)]

theorem mem_scanCells_iff (c : Nat × Int) :
    c ∈ scanCells W ↔ ∃ t : TileKey W, c = (t.cell, t.index) := by
  unfold scanCells
  rw [List.mem_flatMap]
  constructor
  · rintro ⟨y, hy, hc⟩
    obtain ⟨x, hx, hc⟩ := List.mem_map.mp hc
    exact ⟨⟨⟨x, List.mem_range.mp hx⟩, ⟨y, List.mem_range.mp hy⟩⟩, hc.symm⟩
  · rintro ⟨t, ht⟩
    exact ⟨t.y.val, List.mem_range.mpr t.y.isLt,
      List.mem_map.mpr ⟨t.x.val, List.mem_range.mpr t.x.isLt, ht.symm⟩⟩

def encodeReachBorder (W : WorldSize) (border : TextBorder) : ReachBorderSnapshot :=
  let painted := border.entries.foldl (paintEntry W) PaintState.initial
  let scanned := (scanCells W).foldl (scanCell painted.grid) ScanState.initial
  Utf16.sortOn ReachBorderSnapshotEntry.ownerId
    (painted.ownerIds.zipIdx.map (fun p => ⟨p.1, scanned.tilesBySlot p.2⟩))

def paintedOwners (W : WorldSize) (border : TextBorder) : List String :=
  (border.entries.foldl (paintEntry W) PaintState.initial).ownerIds

/-- The entry of one owner: the ascending indices of the tiles painted with
it, delta-encoded. -/
def ownerEntry (W : WorldSize) (paint : Nat → Option String) (o : String) :
    ReachBorderSnapshotEntry :=
  ⟨o, deltas 0 (((scanCells W).filter (fun c => decide (paint c.1 = some o))).map Prod.snd)⟩

/-- The number of distinct owners. -/
def ownerCount (border : TextBorder) : Nat := (border.entries.map Prod.snd).dedup.length

theorem paintedOwners_length_le (border : TextBorder) :
    (paintedOwners W border).length ≤ ownerCount border := by
  have h := paintInv_foldl (W := W) border.entries
  refine (List.subperm_of_subset h.slotsInv.nodup ?_).length_le
  intro o ho
  obtain ⟨e, he, heo, _⟩ := (h.owners o).mp ho
  exact List.mem_dedup.mpr (List.mem_map.mpr ⟨e, he, heo⟩)

/-- **The encoder without its loops.** -/
theorem encodeReachBorder_eq (border : TextBorder) (hcount : ownerCount border ≤ 65535) :
    encodeReachBorder W border
      = Utf16.sortOn ReachBorderSnapshotEntry.ownerId
          ((paintedOwners W border).map (ownerEntry W (paintedOwner W border.entries))) := by
  have h := paintInv_foldl (W := W) border.entries
  have hlen := Nat.le_trans (paintedOwners_length_le (W := W) border) hcount
  unfold encodeReachBorder
  dsimp only
  congr 1
  have hmap : (paintedOwners W border).map (ownerEntry W (paintedOwner W border.entries))
      = (paintedOwners W border).zipIdx.map
          (fun p => ownerEntry W (paintedOwner W border.entries) p.1) := by
    conv_lhs => rw [← List.zipIdx_map_fst 0 (paintedOwners W border)]
    rw [List.map_map]
    rfl
  rw [hmap]
  refine List.map_congr_left ?_
  intro p hp
  have hi : (paintedOwners W border)[p.2]? = some p.1 := by
    have := List.mem_zipIdx_iff_getElem?.mp hp
    exact this
  unfold ownerEntry
  rw [scan_tilesBySlot]
  have hfilter : (scanCells W).filter (fun c => decide
        ((border.entries.foldl (paintEntry W) PaintState.initial).grid c.1 = p.2 + 1))
      = (scanCells W).filter (fun c => decide (paintedOwner W border.entries c.1 = some p.1)) := by
    refine List.filter_congr ?_
    intro c _
    exact decide_eq_decide.mpr (h.grid_eq_iff hlen hi c.1)
  rw [hfilter]
  rfl

/-! ## §4. Decoding. -/

/-- `${index % stride},${floor(index / stride)}`. -/
def tileText (index : Int) : String :=
  s!"{index.tmod TILE_INDEX_STRIDE},{index.fdiv TILE_INDEX_STRIDE}"

/-- One turn of the inner loop: `st` is (border, index). -/
def decodeDelta (ownerId : String) (st : TextBorder × Int) (delta : Int) : TextBorder × Int :=
  let index := st.2 + delta
  (st.1.set (tileText index) ownerId, index)

def decodeReachBorder (snapshot : ReachBorderSnapshot) : TextBorder :=
  snapshot.foldl (fun border entry =>
    (entry.tiles.foldl (decodeDelta entry.ownerId) (border, 0)).1) InsertionMap.empty

/-- The indices a list of deltas stands for. -/
def undeltas (previous : Int) : List Int → List Int
  | [] => []
  | delta :: rest => (previous + delta) :: undeltas (previous + delta) rest

theorem undeltas_deltas (indices : List Int) :
    ∀ previous : Int, undeltas previous (deltas previous indices) = indices := by
  induction indices with
  | nil =>
      intro previous
      rfl
  | cons index rest ih =>
      intro previous
      rw [deltas, undeltas, show previous + (index - previous) = index by omega, ih]

def snapshotWrites (snapshot : ReachBorderSnapshot) : List (String × String) :=
  snapshot.flatMap (fun entry =>
    (undeltas 0 entry.tiles).map (fun index => (tileText index, entry.ownerId)))

theorem decodeDelta_foldl (ownerId : String) (tiles : List Int) :
    ∀ st : TextBorder × Int, (tiles.foldl (decodeDelta ownerId) st).1
      = st.1.setAll ((undeltas st.2 tiles).map (fun index => (tileText index, ownerId))) := by
  induction tiles with
  | nil =>
      intro st
      rfl
  | cons delta tiles ih =>
      intro st
      rw [List.foldl_cons, ih]
      rfl

theorem decodeReachBorder_eq (snapshot : ReachBorderSnapshot) :
    decodeReachBorder snapshot = InsertionMap.ofEntries (snapshotWrites snapshot) := by
  have hfold : ∀ (s : ReachBorderSnapshot) (border : TextBorder),
      s.foldl (fun border entry =>
        (entry.tiles.foldl (decodeDelta entry.ownerId) (border, 0)).1) border
      = border.setAll (snapshotWrites s) := by
    intro s
    induction s with
    | nil =>
        intro border
        rfl
    | cons entry s ih =>
        intro border
        rw [List.foldl_cons, ih, decodeDelta_foldl]
        show ((border.setAll _).setAll _) = border.setAll (_ ++ _)
        unfold InsertionMap.setAll
        rw [List.foldl_append]
        rfl
  exact hfold snapshot InsertionMap.empty

theorem tileText_index (t : TileKey W) : tileText t.index = t.text := by
  have hx := t.x.isLt
  have hw := W.width_ok
  have hmod : t.index.tmod TILE_INDEX_STRIDE = (t.x.val : Int) := by
    unfold TileKey.index TILE_INDEX_STRIDE
    rw [Int.tmod_eq_emod_of_nonneg (by omega)]
    omega
  have hdiv : t.index.fdiv TILE_INDEX_STRIDE = (t.y.val : Int) := by
    unfold TileKey.index TILE_INDEX_STRIDE
    rw [Int.fdiv_eq_ediv_of_nonneg _ (by omega)]
    omega
  unfold tileText
  rw [hmod, hdiv]
  rfl

theorem mem_snapshotWrites_encode (border : TextBorder) (hcount : ownerCount border ≤ 65535)
    (key o : String) :
    (key, o) ∈ snapshotWrites (encodeReachBorder W border)
      ↔ ∃ t : TileKey W, key = t.text ∧ paintedOwner W border.entries t.cell = some o := by
  have h := paintInv_foldl (W := W) border.entries
  rw [encodeReachBorder_eq border hcount]
  unfold snapshotWrites
  rw [List.mem_flatMap]
  constructor
  · rintro ⟨entry, hentry, hmem⟩
    have hentry' := (Utf16.sortOn_perm _ _).mem_iff.mp hentry
    obtain ⟨o', _, rfl⟩ := List.mem_map.mp hentry'
    unfold ownerEntry at hmem
    rw [undeltas_deltas] at hmem
    obtain ⟨index, hindex, heq⟩ := List.mem_map.mp hmem
    obtain ⟨c, hc, rfl⟩ := List.mem_map.mp hindex
    rw [List.mem_filter, decide_eq_true_eq] at hc
    obtain ⟨t, rfl⟩ := (mem_scanCells_iff c).mp hc.1
    cases heq
    exact ⟨t, tileText_index t, hc.2⟩
  · rintro ⟨t, hkey, hpaint⟩
    obtain ⟨n, hn, _⟩ := h.painted t.cell o hpaint
    have ho : o ∈ paintedOwners W border := (h.slotsInv.mem_iff o).mpr ⟨n, hn⟩
    refine ⟨ownerEntry W (paintedOwner W border.entries) o,
      (Utf16.sortOn_perm _ _).mem_iff.mpr (List.mem_map_of_mem ho), ?_⟩
    unfold ownerEntry
    rw [undeltas_deltas]
    refine List.mem_map.mpr ⟨t.index, List.mem_map.mpr ⟨(t.cell, t.index), ?_, rfl⟩, ?_⟩
    · rw [List.mem_filter, decide_eq_true_eq]
      exact ⟨(mem_scanCells_iff _).mpr ⟨t, rfl⟩, hpaint⟩
    · rw [tileText_index, hkey]

/-- **What a decoded snapshot holds**: the painting, at canonical keys. -/
theorem decode_encode_get (border : TextBorder) (hcount : ownerCount border ≤ 65535)
    (key o : String) :
    (decodeReachBorder (encodeReachBorder W border)).get key = some o
      ↔ ∃ t : TileKey W, key = t.text ∧ paintedOwner W border.entries t.cell = some o := by
  rw [decodeReachBorder_eq, InsertionMap.get_ofEntries_iff, mem_snapshotWrites_encode _ hcount]
  intro k v v' hv hv'
  obtain ⟨t, hk, hp⟩ := (mem_snapshotWrites_encode border hcount k v).mp hv
  obtain ⟨t', hk', hp'⟩ := (mem_snapshotWrites_encode border hcount k v').mp hv'
  have ht : t = t' := TileKey.text_injective (hk.symm.trans hk')
  rw [ht, hp'] at hp
  exact (Option.some.inj hp).symm

/-! ## §5. The round trip. -/

/-- **A border the simulation can hold**: canonical in-world keys, at most
65,535 distinct owners. -/
structure CanonicalBorder (W : WorldSize) where
  border : TextBorder
  canonical : ∀ key o, border.get key = some o → ∃ t : TileKey W, key = t.text
  fewOwners : ownerCount border ≤ 65535

theorem CanonicalBorder.paintedOwner_eq (b : CanonicalBorder W) (t : TileKey W) :
    paintedOwner W b.border.entries t.cell = b.border.get t.text := by
  cases hp : paintedOwner W b.border.entries t.cell with
  | some o =>
      obtain ⟨key, hmem, hcell⟩ := paintedOwner_mem hp
      have hget := (b.border.mem_entries_iff key o).mp hmem
      obtain ⟨u, hu⟩ := b.canonical key o hget
      rw [hu, gridCellFromKey_text, Option.some.injEq] at hcell
      rw [← TileKey.cell_injective hcell, ← hu, hget]
  | none =>
      cases hget : b.border.get t.text with
      | none => rfl
      | some o =>
          have hmem := (b.border.mem_entries_iff t.text o).mpr hget
          obtain ⟨o', ho'⟩ := paintedOwner_isSome hmem (gridCellFromKey_text t)
          rw [hp] at ho'
          cases ho'

theorem CanonicalBorder.mem_paintedOwners_iff (b : CanonicalBorder W) (o : String) :
    o ∈ paintedOwners W b.border ↔ ∃ key, b.border.get key = some o := by
  have h := paintInv_foldl (W := W) b.border.entries
  unfold paintedOwners
  rw [h.owners]
  constructor
  · rintro ⟨e, he, heo, _⟩
    exact ⟨e.1, (b.border.mem_entries_iff e.1 o).mp (heo ▸ he)⟩
  · rintro ⟨key, hget⟩
    obtain ⟨t, ht⟩ := b.canonical key o hget
    refine ⟨(key, o), (b.border.mem_entries_iff key o).mpr hget, rfl, ?_⟩
    rw [ht, gridCellFromKey_text]
    rfl

/-- **The snapshot does not see insertion order.** -/
theorem encode_congr (b b' : CanonicalBorder W)
    (hget : ∀ key, b.border.get key = b'.border.get key) :
    encodeReachBorder W b.border = encodeReachBorder W b'.border := by
  have h := paintInv_foldl (W := W) b.border.entries
  have h' := paintInv_foldl (W := W) b'.border.entries
  rw [encodeReachBorder_eq _ b.fewOwners, encodeReachBorder_eq _ b'.fewOwners]
  have hentry : ∀ o, ownerEntry W (paintedOwner W b.border.entries) o
      = ownerEntry W (paintedOwner W b'.border.entries) o := by
    intro o
    unfold ownerEntry
    congr 3
    refine List.filter_congr ?_
    intro c hc
    obtain ⟨t, rfl⟩ := (mem_scanCells_iff c).mp hc
    rw [b.paintedOwner_eq, b'.paintedOwner_eq, hget]
  have hperm : (paintedOwners W b.border).Perm (paintedOwners W b'.border) := by
    refine (List.perm_ext_iff_of_nodup h.slotsInv.nodup h'.slotsInv.nodup).mpr ?_
    intro o
    show o ∈ paintedOwners W b.border ↔ o ∈ paintedOwners W b'.border
    rw [b.mem_paintedOwners_iff, b'.mem_paintedOwners_iff]
    simp only [hget]
  have hmap : (paintedOwners W b'.border).map (ownerEntry W (paintedOwner W b'.border.entries))
      = (paintedOwners W b'.border).map (ownerEntry W (paintedOwner W b.border.entries)) :=
    List.map_congr_left (fun o _ => (hentry o).symm)
  rw [hmap]
  refine Utf16.sortOn_eq_of_perm _ (hperm.map _) ?_
  rw [List.map_map]
  have hid : (ReachBorderSnapshotEntry.ownerId ∘ ownerEntry W (paintedOwner W b.border.entries))
      = id := rfl
  rw [hid, List.map_id]
  exact h.slotsInv.nodup

theorem CanonicalBorder.decode_encode (b : CanonicalBorder W) (key : String) :
    (decodeReachBorder (encodeReachBorder W b.border)).get key = b.border.get key := by
  refine Option.ext ?_
  intro o
  rw [decode_encode_get _ b.fewOwners]
  constructor
  · rintro ⟨t, hk, hp⟩
    rw [hk, ← b.paintedOwner_eq, hp]
  · intro hget
    obtain ⟨t, hk⟩ := b.canonical key o hget
    exact ⟨t, hk, by rw [b.paintedOwner_eq, ← hk, hget]⟩

theorem ownerCount_congr {border border' : TextBorder}
    (hget : ∀ key, border.get key = border'.get key) :
    ownerCount border = ownerCount border' := by
  unfold ownerCount
  refine ((List.perm_ext_iff_of_nodup (List.nodup_dedup _) (List.nodup_dedup _)).mpr ?_).length_eq
  intro o
  rw [List.mem_dedup, List.mem_dedup, List.mem_map, List.mem_map]
  constructor
  · rintro ⟨e, he, heo⟩
    refine ⟨e, (border'.mem_entries_iff e.1 e.2).mpr ?_, heo⟩
    rw [← hget]
    exact (border.mem_entries_iff e.1 e.2).mp he
  · rintro ⟨e, he, heo⟩
    refine ⟨e, (border.mem_entries_iff e.1 e.2).mpr ?_, heo⟩
    rw [hget]
    exact (border'.mem_entries_iff e.1 e.2).mp he

def CanonicalBorder.reload (b : CanonicalBorder W) : CanonicalBorder W where
  border := decodeReachBorder (encodeReachBorder W b.border)
  canonical := by
    intro key o hget
    rw [b.decode_encode] at hget
    exact b.canonical key o hget
  fewOwners := by
    rw [ownerCount_congr b.decode_encode]
    exact b.fewOwners

/-- **The round trip of the border snapshot**: decoding an encoded border
gives the same map; encoding a decoded snapshot gives the same snapshot;
owners ascend, each with one entry; and two insertion orders of one border
encode to one snapshot. -/
theorem reachBorder_roundtrip (b : CanonicalBorder W) :
    (∀ key, (decodeReachBorder (encodeReachBorder W b.border)).get key = b.border.get key)
      ∧ encodeReachBorder W (decodeReachBorder (encodeReachBorder W b.border))
          = encodeReachBorder W b.border
      ∧ (encodeReachBorder W b.border).Pairwise
          (fun e e' => Utf16.utf16Le e.ownerId e'.ownerId ∧ e.ownerId ≠ e'.ownerId)
      ∧ ∀ b' : CanonicalBorder W, (∀ key, b'.border.get key = b.border.get key) →
          encodeReachBorder W b'.border = encodeReachBorder W b.border := by
  refine ⟨b.decode_encode, ?_, ?_, ?_⟩
  · exact encode_congr b.reload b b.decode_encode
  · have h := paintInv_foldl (W := W) b.border.entries
    rw [encodeReachBorder_eq _ b.fewOwners]
    have hnd : ((Utf16.sortOn ReachBorderSnapshotEntry.ownerId
        ((paintedOwners W b.border).map
          (ownerEntry W (paintedOwner W b.border.entries)))).map
            ReachBorderSnapshotEntry.ownerId).Nodup := by
      refine (((Utf16.sortOn_perm _ _).map _).nodup_iff).mpr ?_
      rw [List.map_map]
      show ((paintedOwners W b.border).map id).Nodup
      rw [List.map_id]
      exact h.slotsInv.nodup
    exact (Utf16.sortOn_pairwise _ _).and (List.pairwise_map.mp hnd)
  · intro b' hget
    exact encode_congr b' b hget

def threeTileBorder (entries : List (String × String))
    (hnd : (entries.map Prod.fst).Nodup)
    (hmem : ∀ e ∈ entries, e.1 = "5,3" ∨ e.1 = "4,3" ∨ e.1 = "6,3")
    (hfew : (entries.map Prod.snd).dedup.length ≤ 65535) : CanonicalBorder smallestWorld where
  border := ⟨entries, hnd⟩
  canonical := by
    intro key o hget
    rcases hmem _ ((InsertionMap.mem_entries_iff _ key o).mpr hget) with h | h | h
    · exact ⟨wrappedTile smallestWorld 5 3, h.trans (by decide)⟩
    · exact ⟨wrappedTile smallestWorld 4 3, h.trans (by decide)⟩
    · exact ⟨wrappedTile smallestWorld 6 3, h.trans (by decide)⟩
  fewOwners := hfew

/-- Two orders of one border, its middle tile owned by somebody else. -/
theorem reachBorder_roundtrip_three :
    let b := threeTileBorder [("5,3", "player-2"), ("4,3", "player-1"), ("6,3", "player-1")]
      (by decide) (by decide) (by decide)
    let b' := threeTileBorder [("6,3", "player-1"), ("5,3", "player-2"), ("4,3", "player-1")]
      (by decide) (by decide) (by decide)
    (decodeReachBorder (encodeReachBorder smallestWorld b.border)).get "5,3" = some "player-2"
      ∧ encodeReachBorder smallestWorld b'.border = encodeReachBorder smallestWorld b.border := by
  intro b b'
  have h := reachBorder_roundtrip b
  refine ⟨(h.1 "5,3").trans (by decide), h.2.2.2 b' ?_⟩
  intro key
  refine Option.ext ?_
  intro o
  rw [← InsertionMap.mem_entries_iff, ← InsertionMap.mem_entries_iff]
  exact List.Perm.mem_iff (by decide)

end BorderEmpires
