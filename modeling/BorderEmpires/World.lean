/-
  BorderEmpires.World
  **THE TOROIDAL TILE WORLD.**

  World dimensions come from the environment, are checked to be integers
  in 64..2048, and fall back to 640 × 320; `WorldSize` carries that check.
  A `TileKey` is a canonical in-world key `"x,y"`: two coordinates below
  the dimensions.  Every key the simulation builds goes through
  `wrapCoord`, so `wrappedTile` is total on integer coordinates.
-/
import Mathlib.Algebra.Order.Ring.Nat
import Mathlib.Data.Fintype.Card
import Mathlib.Data.Fintype.Prod
import Mathlib.Tactic.DeriveFintype

namespace BorderEmpires

/-! ## §1. World size. -/

def DEFAULT_WORLD_WIDTH : Nat := 640
def DEFAULT_WORLD_HEIGHT : Nat := 320

/-- The world's dimensions, as `worldDimensionFromEnv` lets them through. -/
structure WorldSize where
  width : Nat
  height : Nat
  width_ok : 64 ≤ width ∧ width ≤ 2048
  height_ok : 64 ≤ height ∧ height ≤ 2048

/-- The value of the environment variable when it is an integer in range,
the fallback otherwise; `none` is a value that is no integer. -/
def worldDimensionFromEnv (raw : Option Int) (fallback : Nat) : Nat :=
  match raw with
  | some parsed => if 64 ≤ parsed ∧ parsed ≤ 2048 then parsed.toNat else fallback
  | none => fallback

theorem worldDimensionFromEnv_range (raw : Option Int) (fallback : Nat)
    (h : 64 ≤ fallback ∧ fallback ≤ 2048) :
    64 ≤ worldDimensionFromEnv raw fallback ∧ worldDimensionFromEnv raw fallback ≤ 2048 := by
  unfold worldDimensionFromEnv
  cases raw with
  | none => exact h
  | some parsed =>
      dsimp only
      split
      · omega
      · exact h

def WorldSize.fromEnv (rawWidth rawHeight : Option Int) : WorldSize where
  width := worldDimensionFromEnv rawWidth DEFAULT_WORLD_WIDTH
  height := worldDimensionFromEnv rawHeight DEFAULT_WORLD_HEIGHT
  width_ok := worldDimensionFromEnv_range rawWidth _ (by decide)
  height_ok := worldDimensionFromEnv_range rawHeight _ (by decide)

def smallestWorld : WorldSize := WorldSize.fromEnv (some 64) (some 64)

instance neZero_smallestSide : NeZero 64 := ⟨by decide⟩

theorem smallestWorld_width_pos : 0 < smallestWorld.width := by decide
theorem smallestWorld_height_pos : 0 < smallestWorld.height := by decide

variable (W : WorldSize)

theorem WorldSize.width_pos : 0 < W.width := by
  have := W.width_ok
  omega

theorem WorldSize.height_pos : 0 < W.height := by
  have := W.height_ok
  omega

/-! ## §2. Wrapped coordinates. -/

/-- `((v % size) + size) % size` with the remainder of the source, which
takes the sign of the dividend. -/
def wrapCoord (v : Int) (size : Nat) : Int := ((v.tmod size) + size).tmod size

theorem wrapCoord_eq_emod (v : Int) {size : Nat} (h : 0 < size) :
    wrapCoord v size = v % size := by
  have hpos : (0 : Int) < size := by omega
  have hlt : -(size : Int) < v.tmod size := by
    have := Int.lt_tmod_of_pos v hpos
    omega
  have hnonneg : 0 ≤ v.tmod size + size := by omega
  rw [wrapCoord, Int.tmod_eq_emod_of_nonneg hnonneg, Int.add_emod_right]
  rw [Int.tmod_eq_emod]
  split
  · simp
  · rw [Int.sub_emod]
    simp

theorem wrapCoord_nonneg (v : Int) {size : Nat} (h : 0 < size) : 0 ≤ wrapCoord v size := by
  rw [wrapCoord_eq_emod v h]
  exact Int.emod_nonneg v (by omega)

theorem wrapCoord_lt (v : Int) {size : Nat} (h : 0 < size) :
    (wrapCoord v size).toNat < size := by
  have hlt : v % (size : Int) < size := Int.emod_lt_of_pos v (by omega)
  have hnn : 0 ≤ v % (size : Int) := Int.emod_nonneg v (by omega)
  rw [wrapCoord_eq_emod v h]
  omega

/-! ## §3. Tile keys. -/

@[ext] structure TileKey where
  x : Fin W.width
  y : Fin W.height
  deriving DecidableEq

variable {W}

instance : LawfulBEq (TileKey W) := inferInstance

def TileKey.text (t : TileKey W) : String := s!"{t.x.val},{t.y.val}"

def TileKey.equivProd : Fin W.width × Fin W.height ≃ TileKey W where
  toFun p := ⟨p.1, p.2⟩
  invFun t := (t.x, t.y)
  left_inv _ := rfl
  right_inv _ := rfl

instance : Fintype (TileKey W) := Fintype.ofEquiv _ TileKey.equivProd

theorem TileKey.card : Fintype.card (TileKey W) = W.width * W.height := by
  rw [← Fintype.card_congr TileKey.equivProd, Fintype.card_prod, Fintype.card_fin, Fintype.card_fin]

/-- A search from one tile needs no more turns than the world has tiles. -/
theorem TileKey.fuel_le (key : TileKey W) :
    1 + (Fintype.card (TileKey W) - 1) ≤ W.width * W.height := by
  have hpos : 0 < Fintype.card (TileKey W) := Fintype.card_pos_iff.mpr ⟨key⟩
  rw [TileKey.card] at hpos ⊢
  omega

variable (W)

/-- `tileKey(wrapCoord(x), wrapCoord(y))`. -/
def wrappedTile (x y : Int) : TileKey W where
  x := ⟨(wrapCoord x W.width).toNat, wrapCoord_lt x W.width_pos⟩
  y := ⟨(wrapCoord y W.height).toNat, wrapCoord_lt y W.height_pos⟩

variable {W}

/-- The tile `(dx, dy)` away, wrapped. -/
def TileKey.shift (t : TileKey W) (d : Int × Int) : TileKey W :=
  wrappedTile W (t.x.val + d.1) (t.y.val + d.2)

theorem wrappedTile_self (t : TileKey W) : wrappedTile W t.x.val t.y.val = t := by
  have hx := t.x.isLt
  have hy := t.y.isLt
  ext
  · show (wrapCoord t.x.val W.width).toNat = t.x.val
    rw [wrapCoord_eq_emod _ W.width_pos, Int.emod_eq_of_lt (by omega) (by omega)]
    omega
  · show (wrapCoord t.y.val W.height).toNat = t.y.val
    rw [wrapCoord_eq_emod _ W.height_pos, Int.emod_eq_of_lt (by omega) (by omega)]
    omega

theorem wrappedTile_congr {x x' y y' : Int} (hx : x % W.width = x' % W.width)
    (hy : y % W.height = y' % W.height) : wrappedTile W x y = wrappedTile W x' y' := by
  ext
  · show (wrapCoord x W.width).toNat = (wrapCoord x' W.width).toNat
    rw [wrapCoord_eq_emod _ W.width_pos, wrapCoord_eq_emod _ W.width_pos, hx]
  · show (wrapCoord y W.height).toNat = (wrapCoord y' W.height).toNat
    rw [wrapCoord_eq_emod _ W.height_pos, wrapCoord_eq_emod _ W.height_pos, hy]

theorem wrappedTile_x (x y : Int) : ((wrappedTile W x y).x.val : Int) = x % W.width := by
  have hnn := wrapCoord_nonneg x W.width_pos
  show (((wrapCoord x W.width).toNat : Nat) : Int) = x % W.width
  rw [← wrapCoord_eq_emod x W.width_pos]
  omega

theorem wrappedTile_y (x y : Int) : ((wrappedTile W x y).y.val : Int) = y % W.height := by
  have hnn := wrapCoord_nonneg y W.height_pos
  show (((wrapCoord y W.height).toNat : Nat) : Int) = y % W.height
  rw [← wrapCoord_eq_emod y W.height_pos]
  omega

theorem TileKey.shift_x_emod (t : TileKey W) (d : Int × Int) :
    ((t.shift d).x.val : Int) % W.width = (t.x.val + d.1) % W.width := by
  rw [shift, wrappedTile_x, Int.emod_emod]

theorem TileKey.shift_y_emod (t : TileKey W) (d : Int × Int) :
    ((t.shift d).y.val : Int) % W.height = (t.y.val + d.2) % W.height := by
  rw [shift, wrappedTile_y, Int.emod_emod]

theorem TileKey.shift_neg (t : TileKey W) (d : Int × Int) :
    (t.shift d).shift (-d.1, -d.2) = t := by
  rw [shift, shift]
  dsimp only
  rw [wrappedTile_x, wrappedTile_y]
  refine Eq.trans (wrappedTile_congr ?_ ?_) (wrappedTile_self t)
  · rw [Int.emod_add_emod]
    congr 1
    omega
  · rw [Int.emod_add_emod]
    congr 1
    omega

/-- The eight neighbour offsets, in the source's order. -/
def NEIGHBOR_OFFSETS : List (Int × Int) :=
  [(-1, -1), (0, -1), (1, -1), (-1, 0), (1, 0), (-1, 1), (0, 1), (1, 1)]

def TileKey.neighbors (t : TileKey W) : List (TileKey W) := NEIGHBOR_OFFSETS.map t.shift

theorem TileKey.mem_neighbors_symm {t u : TileKey W} (h : u ∈ t.neighbors) :
    t ∈ u.neighbors := by
  obtain ⟨d, hd, rfl⟩ := List.mem_map.mp h
  refine List.mem_map.mpr ⟨(-d.1, -d.2), ?_, t.shift_neg d⟩
  have hneg : ∀ e ∈ NEIGHBOR_OFFSETS, (-e.1, -e.2) ∈ NEIGHBOR_OFFSETS := by decide
  exact hneg d hd

variable (W) in
/-- Wrapped Chebyshev distance between two world positions. -/
def chebyshevWithWrap (ax ay bx byy : Int) : Int :=
  let dxRaw : Int := (ax - bx).natAbs
  let dyRaw : Int := (ay - byy).natAbs
  max (min dxRaw (W.width - dxRaw)) (min dyRaw (W.height - dyRaw))

/-! ## §4. Players. -/

/-- A player id: the simulation tests ids for truthiness, so the empty
text is not one. -/
structure PlayerId where
  text : String
  nonempty : text ≠ ""
  deriving DecidableEq

def playerOne : PlayerId := ⟨"player-1", by decide⟩
def playerTwo : PlayerId := ⟨"player-2", by decide⟩
def playerThree : PlayerId := ⟨"player-3", by decide⟩

/-- `playerId.startsWith("barbarian-")`. -/
def PlayerId.isBarbarian (p : PlayerId) : Bool := "barbarian-".toList.isPrefixOf p.text.toList

/-! ## §5. Tile ownership. -/

inductive OwnershipState where
  | FRONTIER
  | SETTLED
  | BARBARIAN
  deriving DecidableEq, Repr

inductive Terrain where
  | LAND
  | SEA
  | COASTAL_SEA
  | MOUNTAIN
  deriving DecidableEq, Repr

structure TileOwnership where
  ownerId : Option PlayerId
  ownershipState : Option OwnershipState
  deriving DecidableEq

end BorderEmpires
