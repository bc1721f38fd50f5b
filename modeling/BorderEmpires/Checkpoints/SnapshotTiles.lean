/-
  BorderEmpires.Checkpoints.SnapshotTiles
  **TILES IN A SNAPSHOT AND WHAT IS STORED OF THEM.**

  A snapshot holds a tile as the writer maps it.  What is stored is the
  overlay of the tile: for each field of a fixed list the value that differs
  from the tile that world generation makes, or null where that tile has a
  value and this one has none.
-/
import BorderEmpires.Deltas.Tiles
import BorderEmpires.Lib.HostValue

namespace BorderEmpires.Checkpoints

/-! ## §1. Tiles. -/

/-- The fields of a tile in a snapshot; `unified` is the `structure` field that
no writer sets yet. -/
inductive TileField where
  | terrain | landBiome | resource | prospectSignature | dockId | ownerId | ownershipState
  | frontierDecayAt | frontierDecayKind | captureHoldUntil | warScarLevel | warScarUntil
  | razedWreckUntil | razedWreck | town
  | overlay (o : Deltas.Overlay)
  | unified
  deriving DecidableEq

structure RecoveredTile (W : WorldSize) where
  key : TileKey W
  field : TileField → Option DefinedValue

/-- The fields that the writer maps, each if its value passes the writer's guard. -/
def WRITTEN_TILE_FIELDS : List TileField :=
  [.terrain, .landBiome, .resource, .prospectSignature, .dockId, .ownerId, .ownershipState,
    .frontierDecayAt, .frontierDecayKind, .captureHoldUntil, .warScarLevel, .warScarUntil,
    .razedWreckUntil, .razedWreck, .town] ++ Deltas.TILE_OVERLAY_KEYS.map TileField.overlay

def MUTABLE_TILE_FIELDS : List TileField :=
  [.terrain, .ownerId, .ownershipState, .town, .overlay .fort, .overlay .observatory,
    .overlay .naturalWonder, .overlay .siegeBattery, .overlay .economicStructure,
    .overlay .sabotage, .overlay .afc, .overlay .watchtower, .overlay .waystation,
    .overlay .muster, .frontierDecayAt, .frontierDecayKind, .captureHoldUntil, .warScarLevel,
    .warScarUntil, .razedWreckUntil, .razedWreck, .unified]

/-- Written, and not stored. -/
def UNSTORED_TILE_FIELDS : List TileField := [.landBiome, .resource, .prospectSignature, .dockId]

/-- **What is written is stored, but for four fields.** -/
theorem written_stored_iff {f : TileField} (h : f ∈ WRITTEN_TILE_FIELDS) :
    f ∈ MUTABLE_TILE_FIELDS ↔ f ∉ UNSTORED_TILE_FIELDS := by
  revert f
  decide

/-! ## §2. Comparing values. -/

/-- Equal primitives, or arrays and objects with as many members, each of the
left one's equal to the right one's of that name. -/
def structuralEquals : HostValue → HostValue → Bool
  | .undefined, .undefined => true
  | .null, .null => true
  | .bool a, .bool b => a == b
  | .number a, .number b => decide (a = b)
  | .text a, .text b => decide (a = b)
  | .array n left, .array m right =>
      if h : n = m then decide (∀ i : Fin n, structuralEquals (left i) (right (Fin.cast h i)) = true)
      else false
  | .object keys left, .object keys' right =>
      decide (keys.card = keys'.card)
        && decide (∀ k, structuralEquals (left k) (HostValue.readMember keys' right k.1) = true)
  | _, _ => false

/-- **On plain values the comparison is equality.** -/
theorem eq_of_structuralEquals (left : HostValue) (hplain : left.Plain) :
    ∀ right, structuralEquals left right = true → left = right := by
  induction left with
  | undefined => exact False.elim hplain
  | null =>
      intro right h
      cases right <;> first | rfl | cases h
  | bool a =>
      intro right h
      cases right with
      | bool b => exact congrArg HostValue.bool (eq_of_beq h)
      | _ => cases h
  | number a =>
      intro right h
      cases right with
      | number b => exact congrArg HostValue.number (of_decide_eq_true h)
      | _ => cases h
  | text a =>
      intro right h
      cases right with
      | text b => exact congrArg HostValue.text (of_decide_eq_true h)
      | _ => cases h
  | array n item ih =>
      intro right h
      cases right with
      | array m item' =>
          unfold structuralEquals at h
          split at h
          next hlength =>
            subst hlength
            have hitems := of_decide_eq_true h
            exact congrArg (HostValue.array n) (funext (fun i => ih i (hplain i) _ (hitems i)))
          · cases h
      | _ => cases h
  | object keys member ih =>
      intro right h
      cases right with
      | object keys' member' =>
          unfold structuralEquals at h
          rw [Bool.and_eq_true, decide_eq_true_eq, decide_eq_true_eq] at h
          obtain ⟨hcard, hmembers⟩ := h
          have hread : ∀ k, member k = HostValue.readMember keys' member' k.1 :=
            fun k => ih k (hplain k) _ (hmembers k)
          -- a plain member is there on the right, so no name on the right is left over
          have hsub : keys ⊆ keys' := by
            intro k hk
            by_contra hgone
            have hundefined : member ⟨k, hk⟩ = .undefined := (hread ⟨k, hk⟩).trans (dif_neg hgone)
            have hdefined := (hplain ⟨k, hk⟩).isUndefined
            rw [hundefined] at hdefined
            cases hdefined
          have hkeys : keys = keys' := Finset.eq_of_subset_of_card_le hsub hcard.ge
          exact HostValue.object_ext hkeys
            (fun k hk hk' => (hread ⟨k, hk⟩).trans (dif_pos hk'))
      | _ => cases h

/-! ## §3. Overlays. -/

/-- For each stored field: no change, an explicit clear, or a value. -/
structure V1OverlayTile (W : WorldSize) where
  key : TileKey W
  field : Patch TileField DefinedValue

def overlayField (current baseline : Option DefinedValue) : Option (Option DefinedValue) :=
  match current, baseline with
  | none, none => none
  | none, some _ => some none
  | some value, none => some (some value)
  | some value, some base => if structuralEquals value.1 base.1 then none else some (some value)

/-- The differences in the stored fields. -/
def overlayFields (current baseline : TileField → Option DefinedValue) :
    Patch TileField DefinedValue :=
  fun f => if f ∈ MUTABLE_TILE_FIELDS then overlayField (current f) (baseline f) else none

def buildOverlayForTile {W : WorldSize} (current : RecoveredTile W)
    (baseline : Option (RecoveredTile W)) : Option (V1OverlayTile W) :=
  let fields := overlayFields current.field (fun f => baseline.bind (fun tile => tile.field f))
  if MUTABLE_TILE_FIELDS.any (fun f => (fields f).isSome) then some ⟨current.key, fields⟩ else none

/-- Null deletes, a value replaces, and what is left out stays. -/
def applyOverlayToBaseline {W : WorldSize} (baseline : RecoveredTile W)
    (overlay : V1OverlayTile W) : RecoveredTile W where
  key := baseline.key
  field := Patch.merge baseline.field
    (fun f => if f ∈ MUTABLE_TILE_FIELDS then overlay.field f else none)

def V1OverlayTile.json {W : WorldSize} (overlay : V1OverlayTile W) : V1OverlayTile W where
  key := overlay.key
  field := fun f => (overlay.field f).map (fun value => value.map DefinedValue.json)

def restoreTile {W : WorldSize} (baseline : RecoveredTile W)
    (overlay : Option (V1OverlayTile W)) : RecoveredTile W :=
  match overlay with
  | some overlay => applyOverlayToBaseline baseline overlay
  | none => baseline

/-- JSON cannot tell the two apart. -/
def SameField (x y : Option DefinedValue) : Prop :=
  x.map DefinedValue.json = y.map DefinedValue.json

/-- A value that is compared equal to the baseline's and is another. -/
def MistakenFor (current baseline : Option DefinedValue) : Prop :=
  ∃ value base, current = some value ∧ baseline = some base
    ∧ structuralEquals value.1 base.1 = true ∧ ¬ SameField current baseline

/-- **Values without undefined members are never mistaken.** -/
theorem not_mistakenFor_of_plain {current baseline : Option DefinedValue}
    (h : ∀ value, current = some value → value.1.Plain) : ¬ MistakenFor current baseline := by
  rintro ⟨value, base, rfl, rfl, hequal, hdiffer⟩
  have hsame : value = base :=
    Subtype.ext (eq_of_structuralEquals value.1 (h value rfl) base.1 hequal)
  exact hdiffer (hsame ▸ rfl)

theorem overlayField_restores_iff (current baseline : Option DefinedValue) :
    SameField (((overlayField current baseline).map (fun value => value.map DefinedValue.json)).getD
        baseline) current
      ↔ ¬ MistakenFor current baseline := by
  cases current with
  | none =>
      cases baseline with
      | none => exact ⟨fun _ ⟨_, _, h, _⟩ => (nomatch h), fun _ => rfl⟩
      | some base => exact ⟨fun _ ⟨_, _, h, _⟩ => (nomatch h), fun _ => rfl⟩
  | some value =>
      have hjson : SameField (some value.json) (some value) :=
        congrArg some (DefinedValue.json_json value)
      cases baseline with
      | none => exact ⟨fun _ ⟨_, _, _, h, _⟩ => (nomatch h), fun _ => hjson⟩
      | some base =>
          unfold overlayField
          dsimp only
          by_cases hequal : structuralEquals value.1 base.1 = true
          · rw [if_pos hequal]
            show SameField (some base) (some value) ↔ _
            constructor
            · rintro hsame ⟨_, _, _, _, _, hdiffer⟩
              exact hdiffer hsame.symm
            · intro hnot
              by_contra hdiffer
              exact hnot ⟨value, base, rfl, rfl, hequal, fun hsame => hdiffer hsame.symm⟩
          · rw [if_neg hequal]
            refine ⟨fun _ ⟨v, b, hv, hb, heq, _⟩ => hequal ?_, fun _ => hjson⟩
            rw [Option.some.inj hv, Option.some.inj hb]
            exact heq

theorem restoreTile_field {W : WorldSize} (current baseline : RecoveredTile W) (f : TileField) :
    (restoreTile baseline ((buildOverlayForTile current (some baseline)).map V1OverlayTile.json)).field
        f
      = if f ∈ MUTABLE_TILE_FIELDS then
          ((overlayField (current.field f) (baseline.field f)).map
            (fun value => value.map DefinedValue.json)).getD (baseline.field f)
        else baseline.field f := by
  have hfields : (fun f => (some baseline).bind (fun tile : RecoveredTile W => tile.field f))
      = baseline.field := rfl
  unfold buildOverlayForTile
  dsimp only
  rw [hfields]
  split
  · show (((if f ∈ MUTABLE_TILE_FIELDS then
        (overlayFields current.field baseline.field f).map (fun value => value.map DefinedValue.json)
      else none) : Option (Option DefinedValue)).getD (baseline.field f)) = _
    unfold overlayFields
    split <;> rfl
  next hsame =>
    show baseline.field f = _
    split
    next hf =>
      have hnone : overlayField (current.field f) (baseline.field f) = none := by
        by_contra hsome
        refine hsame (List.any_eq_true.mpr ⟨f, hf, ?_⟩)
        unfold overlayFields
        rw [if_pos hf]
        exact Option.isSome_iff_ne_none.mpr hsome
      rw [hnone]
      rfl
    · rfl

/-- **One tile**: what its overlay restores of a written field is the field,
exactly when the field is stored and not mistaken, or the baseline's. -/
theorem restoreTile_same_iff {W : WorldSize} (current baseline : RecoveredTile W) (f : TileField) :
    SameField ((restoreTile baseline
        ((buildOverlayForTile current (some baseline)).map V1OverlayTile.json)).field f)
        (current.field f)
      ↔ if f ∈ MUTABLE_TILE_FIELDS then ¬ MistakenFor (current.field f) (baseline.field f)
        else SameField (baseline.field f) (current.field f) := by
  rw [restoreTile_field]
  split
  · exact overlayField_restores_iff _ _
  · exact Iff.rfl

end BorderEmpires.Checkpoints
