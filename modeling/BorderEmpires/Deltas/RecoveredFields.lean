/-
  BorderEmpires.Deltas.RecoveredFields
  **WHEN A RECOVERED FIELD IS THE LIVE ONE.**

  One delta, one recovered tile that was right before it.  Whatever path
  built the delta, three facts are all that recovery depends on: a carried
  field is current, a field left out by a first delta is empty, and a field
  left out by a later one has not changed.
-/
import BorderEmpires.Deltas.Recovery

namespace BorderEmpires.Deltas

/-! ## §1. What a delta tells. -/

/-- A delta of `v`, of a tile that was `old` before. -/
structure Told (heap : Heap) (old v : TileView) (first : Bool) (sent : Bool)
    (delta : Patch WireField WireValue) : Prop where
  carries : ∀ f, delta f = none ∨ delta f = some (v.wire heap f)
  opening : first = true → ∀ f, delta f = none ↔ OmittedWhenEmpty f = true ∧ v.wire heap f = none
  later : first = false → ∀ f, delta f = none →
    f = .prospectSignature ∨ v.wire heap f = old.wire heap f
  town : ∀ town, v.tile.town = some town → (delta .townJson = none ↔ sent = false)
  townAlone : delta .townJson = none → ∀ t, delta (.town t) = none ∨ v.wire heap (.town t) = none

variable {heap : Heap} {old v : TileView} {cached : AllSubstructureJson}

variable {delta : Patch WireField WireValue} {first sent : Bool}

theorem plain_map (x : Option JsonValue) : (x.map WireValue.plain).bind WireValue.plain? = x := by
  cases x <;> rfl

theorem plain_map_inj {x y : Option JsonValue}
    (h : x.map WireValue.plain = y.map WireValue.plain) : x = y := by
  rw [← plain_map x, h, plain_map]

/-- What recovery finds in the delta under a plain field. -/
structure Found (first : Bool) (omitted : Bool) (present : Option (Option JsonValue))
    (old now : Option JsonValue) : Prop where
  carries : present = none ∨ present = some now
  opening : first = true → (present = none ↔ omitted = true ∧ now = none)
  later : first = false → present = none → now = old

theorem Told.scalar (h : Told heap old v first sent delta) (s : ScalarField) :
    Found first (OmittedWhenEmpty (.scalar s)) (plainIn delta (.scalar s)) (old.scalar s)
      (v.scalar s) where
  carries := by
    unfold plainIn
    rcases h.carries (.scalar s) with hnone | hsome
    · rw [hnone]
      exact Or.inl rfl
    · rw [hsome]
      refine Or.inr (congrArg some (plain_map (v.scalar s)))
  opening := by
    intro hfirst
    unfold plainIn
    rw [Option.map_eq_none_iff, h.opening hfirst (.scalar s)]
    exact and_congr_right (fun _ => Option.map_eq_none_iff)
  later := by
    intro hfirst hnone
    rcases h.later hfirst (.scalar s) (Option.map_eq_none_iff.mp hnone) with hfield | hsame
    · cases hfield
    · exact plain_map_inj hsame

variable {W : WorldSize}

theorem Told.townJson (h : Told heap old v first sent delta) :
    objectIn delta .townJson = none ∨ objectIn delta .townJson = some (v.tile.town.map heap) := by
  unfold objectIn
  rcases h.carries .townJson with hnone | hsome
  · rw [hnone]
    exact Or.inl rfl
  · rw [hsome]
    refine Or.inr ?_
    show some ((v.tile.town.map (fun town => WireValue.json (heap town))).bind WireValue.object?) = _
    cases v.tile.town <;> rfl

end BorderEmpires.Deltas
