/-
  BorderEmpires.AutoFill
  **POCKETS THAT FILL THEMSELVES.**

  Whenever a tile is settled, the land next to it is scanned for pockets
  that the owner has sealed: a breadth-first scan of the owner's frontier
  and of land of no one, given up at the first leak and at the first tile
  over the size cap.  What it finds is settled.  An origin whose pocket was
  over the cap is not scanned again for a while.

  The reach of the owner is a parameter, the same for all tiles of one call.
-/
import Mathlib.Data.Set.Card
import Mathlib.Logic.Relation
import BorderEmpires.Lib.Pointwise
import BorderEmpires.Lib.Worklist
import BorderEmpires.World

namespace BorderEmpires.AutoFill

universe u

/-! ## §1. Tiles. -/

inductive FrontierDecayKind where
  | ENCIRCLEMENT
  | OUT_OF_REACH
  deriving DecidableEq

/-- A tile as the scan and the fill see it. -/
structure DomainTileState (Rest : Type u) where
  terrain : Terrain
  ownerId : Option PlayerId
  ownershipState : Option OwnershipState
  captureHoldUntil : Option ℤ
  frontierDecayAt : Option ℤ
  frontierDecayKind : Option FrontierDecayKind
  rest : Rest

variable {W : WorldSize} {Rest : Type u}

abbrev Tiles (W : WorldSize) (Rest : Type u) := TileKey W → Option (DomainTileState Rest)

def isCaptureHoldActive (tile : DomainTileState Rest) (nowMs : ℤ) : Bool :=
  decide (tile.ownershipState = some .FRONTIER)
    && (match tile.captureHoldUntil with
      | some holdUntil => decide (nowMs < holdUntil)
      | none => false)

def AUTO_FILL_MAX_REGION_SIZE : ℕ := 500
def AUTO_FILL_NATURAL_BARRIER_MAX_REGION_SIZE : ℕ := 50
def AUTO_FILL_SCAN_COOLDOWN_MS : ℤ := 3000

def DIRECTIONS : List (ℤ × ℤ) := [(-1, 0), (1, 0), (0, -1), (0, 1)]

/-- The tiles at the four sides, around the torus. -/
def sides (key : TileKey W) : List (TileKey W) := DIRECTIONS.map key.shift

/-- What the scan and the fill are given. -/
structure AutoFillInput (W : WorldSize) (Rest : Type u) where
  tiles : Tiles W Rest
  ownerId : PlayerId
  isInReach : TileKey W → Bool

/-! ## §2. The scan. -/

/-- What the scan makes of a neighbour. -/
inductive NeighborKind where
  | ownSettled
  | enemy
  | land
  | naturalBarrier
  deriving DecidableEq

def neighborKind (enclosingOwnerId : PlayerId) : Option (DomainTileState Rest) → NeighborKind
  | none => .naturalBarrier
  | some neighbor =>
      if neighbor.ownerId = some enclosingOwnerId ∧ neighbor.ownershipState = some .SETTLED then
        .ownSettled
      else if neighbor.ownerId.isSome = true ∧ neighbor.ownerId ≠ some enclosingOwnerId then
        .enemy
      else if neighbor.terrain = .LAND then .land
      else .naturalBarrier

/-- Why a scan returned `null` from within its loop. -/
inductive ScanFailure where
  | leak
  | sizeCap
  deriving DecidableEq

structure RegionScan (W : WorldSize) where
  region : List (TileKey W)
  usedNaturalBarrier : Bool
  failure : Option ScanFailure

def RegionScan.stopped (scan : RegionScan W) : Bool := scan.failure.isSome

section Scan

variable (input : AutoFillInput W Rest)

def leaked (st : RegionScan W × List (TileKey W)) : RegionScan W × List (TileKey W) :=
  ({ st.1 with failure := some .leak }, st.2)

/-- One neighbour; the second component are the tiles put into the queue. -/
def visitNeighbor (st : RegionScan W × List (TileKey W)) (key : TileKey W) :
    RegionScan W × List (TileKey W) :=
  -- the function has returned already
  if st.1.failure.isSome = true then st
  else if key ∈ st.1.region then st
  else
    match neighborKind input.ownerId (input.tiles key) with
    | .ownSettled => if input.isInReach key = true then st else leaked st
    | .enemy => leaked st
    | .land =>
        let region := st.1.region ++ [key]
        if AUTO_FILL_MAX_REGION_SIZE < region.length then
          (⟨region, st.1.usedNaturalBarrier, some .sizeCap⟩, st.2)
        else ({ st.1 with region := region }, st.2 ++ [key])
    | .naturalBarrier =>
        if input.isInReach key = true then ({ st.1 with usedNaturalBarrier := true }, st.2)
        else leaked st

def expandTile (key : TileKey W) (scan : RegionScan W) : RegionScan W × List (TileKey W) :=
  (sides key).foldl (visitNeighbor input) (scan, [])

/-- The loop.  Every tile put into the queue is a new one of the region, so
the cap bounds the turns. -/
def scanRegion (originKey : TileKey W) : RegionScan W :=
  Worklist.drain RegionScan.stopped (expandTile input)
    AUTO_FILL_MAX_REGION_SIZE [originKey] ⟨[originKey], false, none⟩

/-- Own FRONTIER or unowned LAND. -/
def isEligibleOrigin (origin : DomainTileState Rest) : Bool :=
  decide (origin.terrain = .LAND)
    && !(origin.ownerId.isSome
      && !(decide (origin.ownerId = some input.ownerId)
        && decide (origin.ownershipState = some .FRONTIER)))

/-- The region, and whether the scan ended at the size cap. -/
def findEnclosedRegion (originKey : TileKey W) : Option (List (TileKey W)) × Bool :=
  match input.tiles originKey with
  | none => (none, false)
  | some origin =>
      if isEligibleOrigin input origin = false then (none, false)
      else
        let scan := scanRegion input originKey
        match scan.failure with
        | some failure => (none, decide (failure = .sizeCap))
        | none =>
            if scan.usedNaturalBarrier = true
              ∧ AUTO_FILL_NATURAL_BARRIER_MAX_REGION_SIZE < scan.region.length then (none, false)
            else (some scan.region, false)

end Scan

/-! ## §3. The fill. -/

/-- `originCooldownUntil`. -/
abbrev Cooldowns (W : WorldSize) := TileKey W → Option ℤ

def isCooling (originCooldownUntil : Cooldowns W) (now : ℤ) (key : TileKey W) : Bool :=
  decide (now < (originCooldownUntil key).getD 0)

/-- What the loop over the four origins carries. -/
structure AdjacentScan (W : WorldSize) where
  checkedOrigins : List (TileKey W)
  results : List (List (TileKey W))
  originCooldownUntil : Cooldowns W

section Fill

variable (input : AutoFillInput W Rest)

def scanOrigin (now : ℤ) (st : AdjacentScan W) (key : TileKey W) : AdjacentScan W :=
  if key ∈ st.checkedOrigins then st
  else if isCooling st.originCooldownUntil now key = true then
    { st with checkedOrigins := st.checkedOrigins ++ [key] }
  else
    match findEnclosedRegion input key with
    | (some region, _) =>
        { st with
          checkedOrigins := st.checkedOrigins ++ region
          results := st.results ++ [region] }
    | (none, hitSizeCap) =>
        { st with
          checkedOrigins := st.checkedOrigins ++ [key]
          originCooldownUntil :=
            if hitSizeCap = true then
              Function.update st.originCooldownUntil key (some (now + AUTO_FILL_SCAN_COOLDOWN_MS))
            else st.originCooldownUntil }

def findEnclosedRegionsAdjacentTo (now : ℤ) (originCooldownUntil : Cooldowns W)
    (tileKey : TileKey W) : AdjacentScan W :=
  (sides tileKey).foldl (scanOrigin input now) ⟨[], [], originCooldownUntil⟩

def filledTile (existing : DomainTileState Rest) : DomainTileState Rest :=
  { existing with
    ownerId := some input.ownerId
    ownershipState := some .SETTLED
    frontierDecayAt := none
    frontierDecayKind := none }

/-- The tile is claimed when the loop comes to it. -/
def isFillable (holdNow : ℤ) (key : TileKey W) (existing : DomainTileState Rest) : Bool :=
  let isOwnFrontier :=
    decide (existing.ownerId = some input.ownerId)
      && decide (existing.ownershipState = some .FRONTIER)
  (existing.ownerId.isNone || isOwnFrontier)
    && !(isOwnFrontier && isCaptureHoldActive existing holdNow)
    && input.isInReach key

/-- The tiles while a fill goes on, and the keys settled so far. -/
structure Filling (W : WorldSize) (Rest : Type u) where
  tiles : Tiles W Rest
  settled : List (TileKey W)

def fillTile (holdNow : ℤ) (st : Filling W Rest) (key : TileKey W) : Filling W Rest :=
  match st.tiles key with
  | none => st
  | some existing =>
      if isFillable input holdNow key existing = true then
        ⟨Function.update st.tiles key (some (filledTile input existing)), st.settled ++ [key]⟩
      else st

/-- The fill for a tile just settled: the tiles and the settled keys after
it, and the cooldowns. -/
def applyAutoFill (now : ℤ) (originCooldownUntil : Cooldowns W) (capturedTile : TileKey W) :
    Filling W Rest × Cooldowns W :=
  let regions := findEnclosedRegionsAdjacentTo input now originCooldownUntil capturedTile
  (regions.results.flatten.foldl (fillTile input now) ⟨input.tiles, []⟩,
    regions.originCooldownUntil)

end Fill

/-! ## §4. Pockets. -/

section Pocket

variable (input : AutoFillInput W Rest)

def IsLand (key : TileKey W) : Prop := neighborKind input.ownerId (input.tiles key) = .land

def IsBarrier (key : TileKey W) : Prop :=
  neighborKind input.ownerId (input.tiles key) = .naturalBarrier

def IsLeak (key : TileKey W) : Prop :=
  neighborKind input.ownerId (input.tiles key) = .enemy
    ∨ (neighborKind input.ownerId (input.tiles key) = .ownSettled ∨ IsBarrier input key)
      ∧ input.isInReach key = false

def InPocket (origin key : TileKey W) : Prop :=
  Relation.ReflTransGen (fun v w => w ∈ sides v ∧ IsLand input w) origin key

def pocket (origin : TileKey W) : Set (TileKey W) := {key | InPocket input origin key}

def LeansOnBarrier (origin : TileKey W) : Prop :=
  ∃ v, InPocket input origin v ∧ ∃ n ∈ sides v, IsBarrier input n

/-- **The pocket of the origin is sealed and small enough.** -/
structure Enclosed (origin : TileKey W) : Prop where
  eligible : ∃ tile, input.tiles origin = some tile ∧ isEligibleOrigin input tile = true
  closed : ∀ v, InPocket input origin v → ∀ n ∈ sides v, ¬ IsLeak input n
  fits : (pocket input origin).ncard ≤ AUTO_FILL_MAX_REGION_SIZE
  fitsBarrier : LeansOnBarrier input origin →
    (pocket input origin).ncard ≤ AUTO_FILL_NATURAL_BARRIER_MAX_REGION_SIZE

end Pocket

variable {input : AutoFillInput W Rest} {origin : TileKey W}

theorem isLand_of_eligible {tile : DomainTileState Rest} (hget : input.tiles origin = some tile)
    (helig : isEligibleOrigin input tile = true) : IsLand input origin := by
  unfold isEligibleOrigin at helig
  unfold IsLand neighborKind
  rw [hget]
  dsimp only
  rw [if_neg, if_neg, if_pos]
  · simpa using (Bool.and_eq_true_iff.mp helig).1
  · rintro ⟨hsome, hne⟩
    simp [hsome, hne] at helig
  · rintro ⟨howner, hstate⟩
    simp [howner, hstate] at helig

/-! ## §5. The scan is exact. -/

/-- What is known of a neighbour that was looked at. -/
structure Explored (input : AutoFillInput W Rest) (scan : RegionScan W) (n : TileKey W) :
    Prop where
  land : IsLand input n → n ∈ scan.region
  noLeak : ¬ IsLeak input n
  barrier : IsBarrier input n → scan.usedNaturalBarrier = true

/-- **The scan's books**, with the queue `q` and the neighbours `left` still
to be looked at in this turn. -/
structure ScanInv (input : AutoFillInput W Rest) (origin : TileKey W)
    (q left : List (TileKey W)) (scan : RegionScan W) : Prop where
  nodup : scan.region.Nodup
  origin_mem : origin ∈ scan.region
  inPocket : ∀ w ∈ scan.region, InPocket input origin w
  land : ∀ w ∈ scan.region, IsLand input w
  pending : ∀ v ∈ q, v ∈ scan.region
  bySide : ∀ n ∈ left, ∃ v ∈ scan.region, n ∈ sides v
  leaned : scan.usedNaturalBarrier = true → LeansOnBarrier input origin
  explored : scan.failure = none → ∀ u ∈ scan.region, u ∈ q ∨
    ∀ n ∈ sides u, n ∈ left ∨ Explored input scan n
  leaks : scan.failure = some .leak → ∃ v, InPocket input origin v ∧ ∃ n ∈ sides v, IsLeak input n
  overCap : scan.failure = some .sizeCap → AUTO_FILL_MAX_REGION_SIZE < scan.region.length
  small : scan.failure = none → scan.region.length ≤ AUTO_FILL_MAX_REGION_SIZE

theorem Explored.mono {scan scan' : RegionScan W} {n : TileKey W}
    (h : Explored input scan n) (hregion : ∀ w ∈ scan.region, w ∈ scan'.region)
    (hbarrier : scan.usedNaturalBarrier = true → scan'.usedNaturalBarrier = true) :
    Explored input scan' n :=
  ⟨fun hl => hregion n (h.land hl), h.noLeak, fun hb => hbarrier (h.barrier hb)⟩

theorem ScanInv.drop {q left : List (TileKey W)} {n : TileKey W} {scan : RegionScan W}
    (h : ScanInv input origin q (n :: left) scan)
    (hn : scan.failure = none → Explored input scan n) :
    ScanInv input origin q left scan := by
  refine { h with bySide := fun m hm => h.bySide m (List.mem_cons_of_mem _ hm), explored := ?_ }
  intro hok u hu
  refine (h.explored hok u hu).imp_right fun hdone m hm => ?_
  rcases hdone m hm with hleft | hexp
  · rcases List.mem_cons.mp hleft with rfl | hrest
    · exact Or.inr (hn hok)
    · exact Or.inl hrest
  · exact Or.inr hexp

theorem ScanInv.leak {q left : List (TileKey W)} {n : TileKey W} {scan : RegionScan W}
    (h : ScanInv input origin q (n :: left) scan) (hleak : IsLeak input n) :
    ScanInv input origin q left { scan with failure := some .leak } := by
  obtain ⟨v, hv, hside⟩ := h.bySide n List.mem_cons_self
  exact
    { h with
      bySide := fun m hm => h.bySide m (List.mem_cons_of_mem _ hm)
      explored := fun hok => by cases hok
      leaks := fun _ => ⟨v, h.inPocket v hv, n, hside, hleak⟩
      overCap := fun hcap => by cases hcap
      small := fun hok => by cases hok }

theorem ScanInv.lean {q left : List (TileKey W)} {n : TileKey W} {scan : RegionScan W}
    (h : ScanInv input origin q (n :: left) scan) (hbarrier : IsBarrier input n) :
    ScanInv input origin q (n :: left) { scan with usedNaturalBarrier := true } := by
  obtain ⟨v, hv, hside⟩ := h.bySide n List.mem_cons_self
  refine { h with leaned := fun _ => ⟨v, h.inPocket v hv, n, hside, hbarrier⟩, explored := ?_ }
  intro hok u hu
  refine (h.explored hok u hu).imp_right fun hdone m hm => ?_
  exact (hdone m hm).imp_right fun hexp => hexp.mono (fun _ hw => hw) fun _ => rfl

theorem ScanInv.join {q left : List (TileKey W)} {n : TileKey W} {scan : RegionScan W}
    (h : ScanInv input origin q (n :: left) scan) (hok : scan.failure = none)
    (hnew : n ∉ scan.region) (hland : IsLand input n) (q' : List (TileKey W))
    (failure : Option ScanFailure) (hq : ∀ v ∈ q, v ∈ q') (hq' : ∀ v ∈ q', v ∈ q ∨ v = n)
    (hqueued : failure = none → n ∈ q') (hcap : failure ≠ some .leak)
    (hover : failure = some .sizeCap → AUTO_FILL_MAX_REGION_SIZE < (scan.region ++ [n]).length)
    (hsmall : failure = none → (scan.region ++ [n]).length ≤ AUTO_FILL_MAX_REGION_SIZE) :
    ScanInv input origin q' (n :: left)
      ⟨scan.region ++ [n], scan.usedNaturalBarrier, failure⟩ where
  nodup := h.nodup.append (List.nodup_singleton n) (List.disjoint_singleton.mpr hnew)
  origin_mem := List.mem_append_left _ h.origin_mem
  inPocket := by
    intro w hw
    rcases List.mem_append.mp hw with hold | hone
    · exact h.inPocket w hold
    · obtain rfl := List.mem_singleton.mp hone
      obtain ⟨v, hv, hside⟩ := h.bySide w List.mem_cons_self
      exact (h.inPocket v hv).tail ⟨hside, hland⟩
  land := by
    intro w hw
    rcases List.mem_append.mp hw with hold | hone
    · exact h.land w hold
    · rw [List.mem_singleton.mp hone]
      exact hland
  pending := by
    intro v hv
    rcases hq' v hv with hold | rfl
    · exact List.mem_append_left _ (h.pending v hold)
    · exact List.mem_append_right _ (List.mem_singleton_self v)
  bySide := by
    intro m hm
    obtain ⟨v, hv, hside⟩ := h.bySide m hm
    exact ⟨v, List.mem_append_left _ hv, hside⟩
  leaned := h.leaned
  explored := by
    intro hnone u hu
    rcases List.mem_append.mp hu with hold | hone
    · rcases h.explored hok u hold with hpend | hdone
      · exact Or.inl (hq u hpend)
      · refine Or.inr fun m hm => (hdone m hm).imp_right fun hexp => ?_
        exact hexp.mono (fun _ hw => List.mem_append_left _ hw) id
    · rw [List.mem_singleton.mp hone]
      exact Or.inl (hqueued hnone)
  leaks := fun hleak => absurd hleak hcap
  overCap := hover
  small := hsmall

/-- **One neighbour.** -/
theorem visitNeighbor_inv {rest left : List (TileKey W)} {n : TileKey W}
    {st : RegionScan W × List (TileKey W)}
    (h : ScanInv input origin (rest ++ st.2) (n :: left) st.1) :
    ScanInv input origin (rest ++ (visitNeighbor input st n).2) left
      (visitNeighbor input st n).1 := by
  unfold visitNeighbor
  by_cases hstop : st.1.failure.isSome = true
  · rw [if_pos hstop]
    apply h.drop
    intro hnone
    rw [hnone] at hstop
    cases hstop
  have hok : st.1.failure = none := by simpa using hstop
  rw [if_neg hstop]
  by_cases hold : n ∈ st.1.region
  · rw [if_pos hold]
    have hland : IsLand input n := h.land n hold
    unfold IsLand at hland
    refine h.drop fun _ => ⟨fun _ => hold, ?_, ?_⟩
    · unfold IsLeak IsBarrier
      simp [hland]
    · unfold IsBarrier
      simp [hland]
  rw [if_neg hold]
  cases hkind : neighborKind input.ownerId (input.tiles n) with
  | ownSettled =>
      dsimp only
      split_ifs with hreach
      · refine h.drop fun _ => ⟨?_, ?_, ?_⟩
        · simp [IsLand, hkind]
        · simp [IsLeak, IsBarrier, hkind, hreach]
        · simp [IsBarrier, hkind]
      · exact h.leak (Or.inr ⟨Or.inl hkind, by simpa using hreach⟩)
  | enemy => exact h.leak (Or.inl hkind)
  | land =>
      dsimp only
      split_ifs with hcap
      · have hjoin := h.join hok hold hkind (rest ++ st.2) (some .sizeCap) (fun _ hv => hv)
          (fun _ hv => Or.inl hv) (fun hc => by cases hc) (by simp) (fun _ => hcap)
          (fun hc => by cases hc)
        exact hjoin.drop fun hc => by cases hc
      · have hjoin := h.join hok hold hkind (rest ++ (st.2 ++ [n])) st.1.failure
          (fun v hv => by
            rw [← List.append_assoc]
            exact List.mem_append_left _ hv)
          (fun v hv => by
            rw [← List.append_assoc, List.mem_append, List.mem_singleton] at hv
            exact hv)
          (fun _ => by simp) (by simp [hok]) (by simp [hok]) (fun _ => by omega)
        refine hjoin.drop fun _ => ⟨fun _ => by simp, ?_, ?_⟩
        · simp [IsLeak, IsBarrier, hkind]
        · simp [IsBarrier, hkind]
  | naturalBarrier =>
      dsimp only
      split_ifs with hreach
      · refine (h.lean hkind).drop fun _ => ⟨?_, ?_, fun _ => rfl⟩
        · simp [IsLand, hkind]
        · simp [IsLeak, IsBarrier, hkind, hreach]
      · exact h.leak (Or.inr ⟨Or.inr hkind, by simpa using hreach⟩)

theorem visitNeighbor_room (st : RegionScan W × List (TileKey W)) (n : TileKey W) :
    (visitNeighbor input st n).2.length
        + (AUTO_FILL_MAX_REGION_SIZE - (visitNeighbor input st n).1.region.length)
      ≤ st.2.length + (AUTO_FILL_MAX_REGION_SIZE - st.1.region.length) := by
  unfold visitNeighbor leaked
  by_cases hstop : st.1.failure.isSome = true
  · rw [if_pos hstop]
  rw [if_neg hstop]
  by_cases hold : n ∈ st.1.region
  · rw [if_pos hold]
  rw [if_neg hold]
  cases neighborKind input.ownerId (input.tiles n) with
  | ownSettled =>
      dsimp only
      split_ifs <;> exact le_rfl
  | enemy => exact le_rfl
  | land =>
      dsimp only
      split_ifs with hcap
      · dsimp only
        rw [List.length_append, List.length_singleton]
        omega
      · rw [List.length_append, List.length_singleton] at hcap
        dsimp only
        rw [List.length_append, List.length_singleton, List.length_append, List.length_singleton]
        omega
  | naturalBarrier =>
      dsimp only
      split_ifs <;> exact le_rfl

theorem foldl_visitNeighbor {rest : List (TileKey W)} (left : List (TileKey W)) :
    ∀ st : RegionScan W × List (TileKey W),
      ScanInv input origin (rest ++ st.2) left st.1 →
      ScanInv input origin (rest ++ (left.foldl (visitNeighbor input) st).2) []
          (left.foldl (visitNeighbor input) st).1
        ∧ (left.foldl (visitNeighbor input) st).2.length
            + (AUTO_FILL_MAX_REGION_SIZE - (left.foldl (visitNeighbor input) st).1.region.length)
          ≤ st.2.length + (AUTO_FILL_MAX_REGION_SIZE - st.1.region.length) := by
  induction left with
  | nil => exact fun st h => ⟨h, le_rfl⟩
  | cons n left ih =>
      intro st h
      rw [List.foldl_cons]
      obtain ⟨hinv, hroom⟩ := ih _ (visitNeighbor_inv h)
      exact ⟨hinv, hroom.trans (visitNeighbor_room st n)⟩

theorem scanRegion_inv (hland : IsLand input origin) :
    ∃ q, ScanInv input origin q [] (scanRegion input origin)
      ∧ (q = [] ∨ (scanRegion input origin).stopped = true) := by
  unfold scanRegion
  -- a turn pays for what it queues with the room it takes under the cap
  apply Worklist.drain_rule RegionScan.stopped _
    (fun q scan => ScanInv input origin q [] scan)
    (fun scan => AUTO_FILL_MAX_REGION_SIZE - scan.region.length)
  · intro v rest scan h hrun
    have hstart : ScanInv input origin (rest ++ []) (sides v) scan := by
      rw [List.append_nil]
      refine { h with pending := ?_, bySide := ?_, explored := ?_ }
      · exact fun u hu => h.pending u (List.mem_cons_of_mem _ hu)
      · exact fun n hn => ⟨v, h.pending v List.mem_cons_self, hn⟩
      · intro hok u hu
        rcases h.explored hok u hu with hq | hdone
        · rcases List.mem_cons.mp hq with rfl | hrest
          · exact Or.inr fun n hn => Or.inl hn
          · exact Or.inl hrest
        · exact Or.inr fun n hn => Or.inr ((hdone n hn).resolve_left List.not_mem_nil)
    obtain ⟨hinv, hroom⟩ := foldl_visitNeighbor (sides v) (scan, []) hstart
    refine ⟨hinv, hroom.trans ?_⟩
    dsimp only
    rw [List.length_nil]
    omega
  · constructor
    · exact List.nodup_singleton origin
    · exact List.mem_singleton_self origin
    · intro w hw
      rw [List.mem_singleton.mp hw]
      exact Relation.ReflTransGen.refl
    · intro w hw
      rw [List.mem_singleton.mp hw]
      exact hland
    · exact fun v hv => hv
    · exact fun n hn => absurd hn List.not_mem_nil
    · exact fun hc => by cases hc
    · exact fun _ u hu => Or.inl hu
    · exact fun hc => by cases hc
    · exact fun hc => by cases hc
    · intro _
      show 1 ≤ AUTO_FILL_MAX_REGION_SIZE
      decide
  · show 1 + (AUTO_FILL_MAX_REGION_SIZE - 1) ≤ AUTO_FILL_MAX_REGION_SIZE
    decide

section Closed

variable {scan : RegionScan W}

theorem ScanInv.mem_iff (h : ScanInv input origin [] [] scan) (hok : scan.failure = none)
    (key : TileKey W) : key ∈ scan.region ↔ InPocket input origin key := by
  refine ⟨h.inPocket key, fun hkey => ?_⟩
  -- along the path: with an empty queue every side of a found tile was looked at
  induction hkey with
  | refl => exact h.origin_mem
  | tail _ hstep ih =>
      rcases h.explored hok _ ih with hq | hdone
      · exact absurd hq List.not_mem_nil
      · rcases hdone _ hstep.1 with hleft | hexp
        · exact absurd hleft List.not_mem_nil
        · exact hexp.land hstep.2

theorem ScanInv.sealed (h : ScanInv input origin [] [] scan) (hok : scan.failure = none)
    {v n : TileKey W} (hv : InPocket input origin v) (hn : n ∈ sides v) :
    Explored input scan n := by
  rcases h.explored hok v ((h.mem_iff hok v).mpr hv) with hq | hdone
  · exact absurd hq List.not_mem_nil
  · exact (hdone n hn).resolve_left List.not_mem_nil

theorem ScanInv.length_le {q left : List (TileKey W)} (h : ScanInv input origin q left scan) :
    scan.region.length ≤ (pocket input origin).ncard := by
  rw [← List.toFinset_card_of_nodup h.nodup, ← Set.ncard_coe_finset]
  apply Set.ncard_le_ncard _ (Set.toFinite _)
  intro w hw
  exact h.inPocket w (List.mem_toFinset.mp hw)

theorem ScanInv.length_eq (h : ScanInv input origin [] [] scan) (hok : scan.failure = none) :
    scan.region.length = (pocket input origin).ncard := by
  rw [← List.toFinset_card_of_nodup h.nodup, ← Set.ncard_coe_finset]
  congr 1
  ext w
  exact List.mem_toFinset.trans (h.mem_iff hok w)

end Closed

/-- **What a scan returns**: the pocket of its origin if that is enclosed, and
otherwise nothing; the cap is only told of pockets that are over it. -/
structure ScanRight (input : AutoFillInput W Rest) (origin : TileKey W)
    (result : Option (List (TileKey W)) × Bool) : Prop where
  found : ∀ region, result.1 = some region → Enclosed input origin
    ∧ ∀ key, key ∈ region ↔ InPocket input origin key
  missed : result.1 = none → ¬ Enclosed input origin
  tooLarge : result.2 = true → result.1 = none
    ∧ AUTO_FILL_MAX_REGION_SIZE < (pocket input origin).ncard

theorem scanRight_missed (h : ¬ Enclosed input origin) :
    ScanRight input origin (none, false) where
  found := by
    intro _ hc
    cases hc
  missed := fun _ => h
  tooLarge := by
    intro hc
    cases hc

/-- **The scan is exact**, in whatever order it meets the tiles. -/
theorem findEnclosedRegion_right (input : AutoFillInput W Rest) (origin : TileKey W) :
    ScanRight input origin (findEnclosedRegion input origin) := by
  unfold findEnclosedRegion
  cases hget : input.tiles origin with
  | none =>
      apply scanRight_missed
      rintro ⟨⟨tile, htile, -⟩, -, -, -⟩
      rw [hget] at htile
      cases htile
  | some tile =>
      dsimp only
      by_cases helig : isEligibleOrigin input tile = false
      · rw [if_pos helig]
        apply scanRight_missed
        rintro ⟨⟨other, hother, hok⟩, -, -, -⟩
        rw [hget, Option.some.injEq] at hother
        rw [← hother, helig] at hok
        cases hok
      rw [if_neg helig]
      rw [Bool.not_eq_false] at helig
      obtain ⟨q, hinv, hend⟩ := scanRegion_inv (isLand_of_eligible hget helig)
      generalize hscan : scanRegion input origin = scan at hinv hend
      cases hfail : scan.failure with
      | some failure =>
          dsimp only
          cases failure with
          | leak =>
              obtain ⟨v, hv, n, hn, hleak⟩ := hinv.leaks hfail
              exact scanRight_missed fun henc => henc.closed v hv n hn hleak
          | sizeCap =>
              have hover := (hinv.overCap hfail).trans_le hinv.length_le
              constructor
              · intro _ hc
                cases hc
              · intro _ henc
                exact absurd henc.fits (by omega)
              · exact fun _ => ⟨rfl, hover⟩
      | none =>
          dsimp only
          have hq : q = [] := by
            rcases hend with hq | hstop
            · exact hq
            · unfold RegionScan.stopped at hstop
              rw [hfail] at hstop
              cases hstop
          subst hq
          have hlength := hinv.length_eq hfail
          split_ifs with hsmall
          · apply scanRight_missed
            intro henc
            have hfits := henc.fitsBarrier (hinv.leaned hsmall.1)
            omega
          · constructor
            · intro region hregion
              obtain rfl := Option.some.inj hregion
              refine ⟨⟨⟨tile, hget, helig⟩, ?_, ?_, ?_⟩, hinv.mem_iff hfail⟩
              · exact fun v hv n hn => (hinv.sealed hfail hv hn).noLeak
              · rw [← hlength]
                exact hinv.small hfail
              · rintro ⟨v, hv, n, hn, hbarrier⟩
                have hused := (hinv.sealed hfail hv hn).barrier hbarrier
                rw [← hlength]
                by_contra hlarge
                exact hsmall ⟨hused, by omega⟩
            · intro hc
              cases hc
            · intro hc
              cases hc

/-! ## §6. The origins around the settled tile. -/

section Origins

variable {now : ℤ} {originCooldownUntil : Cooldowns W}

/-- The pockets found after the origins `done`. -/
structure AdjacentInv (input : AutoFillInput W Rest) (now : ℤ)
    (originCooldownUntil : Cooldowns W) (done : List (TileKey W)) (st : AdjacentScan W) :
    Prop where
  found : ∀ region ∈ st.results, ∃ origin ∈ done,
    isCooling originCooldownUntil now origin = false
      ∧ Enclosed input origin
      ∧ ∀ key, key ∈ region ↔ InPocket input origin key
  checked : ∀ origin ∈ done, origin ∈ st.checkedOrigins
  covered : ∀ origin ∈ st.checkedOrigins, isCooling originCooldownUntil now origin = false →
    Enclosed input origin →
    ∀ key, InPocket input origin key → ∃ region ∈ st.results, key ∈ region
  unchanged : ∀ key, st.originCooldownUntil key ≠ originCooldownUntil key →
    key ∈ done ∧ key ∈ st.checkedOrigins
      ∧ isCooling originCooldownUntil now key = false
      ∧ st.originCooldownUntil key = some (now + AUTO_FILL_SCAN_COOLDOWN_MS)
      ∧ AUTO_FILL_MAX_REGION_SIZE < (pocket input key).ncard

theorem AdjacentInv.step {done : List (TileKey W)} {st : AdjacentScan W}
    (h : AdjacentInv input now originCooldownUntil done st) (key : TileKey W) :
    AdjacentInv input now originCooldownUntil (done ++ [key]) (scanOrigin input now st key) := by
  have hfound : ∀ region ∈ st.results, ∃ origin ∈ done ++ [key],
      isCooling originCooldownUntil now origin = false
        ∧ Enclosed input origin
        ∧ ∀ t, t ∈ region ↔ InPocket input origin t := by
    intro region hregion
    obtain ⟨o, ho, hrest⟩ := h.found region hregion
    exact ⟨o, List.mem_append_left _ ho, hrest⟩
  have hunchanged : ∀ {checked : List (TileKey W)}, (∀ t ∈ st.checkedOrigins, t ∈ checked) →
      ∀ t, st.originCooldownUntil t ≠ originCooldownUntil t →
        t ∈ done ++ [key] ∧ t ∈ checked
          ∧ isCooling originCooldownUntil now t = false
          ∧ st.originCooldownUntil t = some (now + AUTO_FILL_SCAN_COOLDOWN_MS)
          ∧ AUTO_FILL_MAX_REGION_SIZE < (pocket input t).ncard := by
    intro checked hsub t ht
    obtain ⟨hdone, hin, hrest⟩ := h.unchanged t ht
    exact ⟨List.mem_append_left _ hdone, hsub t hin, hrest⟩
  have hchecked : ∀ {checked : List (TileKey W)}, (∀ t ∈ st.checkedOrigins, t ∈ checked) →
      key ∈ checked → ∀ o ∈ done ++ [key], o ∈ checked := by
    intro checked hsub hkey o ho
    rcases List.mem_append.mp ho with hdone | hone
    · exact hsub o (h.checked o hdone)
    · rw [List.mem_singleton.mp hone]
      exact hkey
  unfold scanOrigin
  by_cases hmem : key ∈ st.checkedOrigins
  · rw [if_pos hmem]
    exact ⟨hfound, hchecked (fun _ ht => ht) hmem, h.covered, hunchanged fun _ ht => ht⟩
  rw [if_neg hmem]
  -- a key that was not looked at has the cooldown of the start
  have hsame : st.originCooldownUntil key = originCooldownUntil key := by
    by_contra hne
    exact hmem (h.unchanged key hne).2.1
  have hcooling : isCooling st.originCooldownUntil now key
      = isCooling originCooldownUntil now key := by
    unfold isCooling
    rw [hsame]
  have hlast : key ∈ st.checkedOrigins ++ [key] :=
    List.mem_append_right _ (List.mem_singleton_self key)
  rw [hcooling]
  by_cases hcool : isCooling originCooldownUntil now key = true
  · rw [if_pos hcool]
    refine ⟨hfound, hchecked (fun _ ht => List.mem_append_left _ ht) hlast, ?_,
      hunchanged fun _ ht => List.mem_append_left _ ht⟩
    intro o ho hfree
    rcases List.mem_append.mp ho with hold | hone
    · exact h.covered o hold hfree
    · rw [List.mem_singleton.mp hone, hcool] at hfree
      cases hfree
  rw [if_neg hcool]
  rw [Bool.not_eq_true] at hcool
  have hright := findEnclosedRegion_right input key
  generalize findEnclosedRegion input key = result at hright
  obtain ⟨region | region, hitSizeCap⟩ := result
  -- the scan found nothing, and the cooldown is written if it ended at the cap
  · refine ⟨hfound, hchecked (fun _ ht => List.mem_append_left _ ht) hlast, ?_, ?_⟩
    · intro o ho hfree henc
      rcases List.mem_append.mp ho with hold | hone
      · exact h.covered o hold hfree henc
      · rw [List.mem_singleton.mp hone] at henc
        exact absurd henc (hright.missed rfl)
    · intro t ht
      dsimp only at ht ⊢
      by_cases hcap : hitSizeCap = true
      · rw [if_pos hcap] at ht ⊢
        by_cases heq : t = key
        · rw [heq, Function.update_self]
          refine ⟨List.mem_append_right _ (List.mem_singleton_self key), hlast, hcool, rfl, ?_⟩
          exact (hright.tooLarge hcap).2
        · rw [Function.update_of_ne heq] at ht ⊢
          exact hunchanged (fun _ hin => List.mem_append_left _ hin) t ht
      · rw [if_neg hcap] at ht ⊢
        exact hunchanged (fun _ hin => List.mem_append_left _ hin) t ht
  · obtain ⟨henc, hregion⟩ := hright.found region rfl
    have hkey : key ∈ region := (hregion key).mpr Relation.ReflTransGen.refl
    refine ⟨?_, hchecked (fun _ ht => List.mem_append_left _ ht)
      (List.mem_append_right _ hkey), ?_, hunchanged fun _ ht => List.mem_append_left _ ht⟩
    · intro other hother
      rcases List.mem_append.mp hother with hold | hone
      · exact hfound other hold
      · rw [List.mem_singleton.mp hone]
        exact ⟨key, List.mem_append_right _ (List.mem_singleton_self key), hcool, henc, hregion⟩
    · intro o ho hfree hencO t ht
      rcases List.mem_append.mp ho with hold | hin
      · obtain ⟨r, hr, htr⟩ := h.covered o hold hfree hencO t ht
        exact ⟨r, List.mem_append_left _ hr, htr⟩
      · -- what is joined to a tile of the pocket is in the pocket
        refine ⟨region, List.mem_append_right _ (List.mem_singleton_self region), ?_⟩
        exact (hregion t).mpr (((hregion o).mp hin).trans ht)

theorem foldl_scanOrigin (l : List (TileKey W)) :
    ∀ (done : List (TileKey W)) (st : AdjacentScan W),
      AdjacentInv input now originCooldownUntil done st →
      AdjacentInv input now originCooldownUntil (done ++ l)
        (l.foldl (scanOrigin input now) st) := by
  induction l with
  | nil =>
      intro done st h
      rw [List.append_nil]
      exact h
  | cons key l ih =>
      intro done st h
      rw [List.foldl_cons, List.append_cons]
      exact ih _ _ (h.step key)

theorem adjacentInv_all (input : AutoFillInput W Rest) (now : ℤ)
    (originCooldownUntil : Cooldowns W) (capturedTile : TileKey W) :
    AdjacentInv input now originCooldownUntil (sides capturedTile)
      (findEnclosedRegionsAdjacentTo input now originCooldownUntil capturedTile) := by
  refine foldl_scanOrigin (sides capturedTile) [] _ ⟨?_, ?_, ?_, fun key hne => absurd rfl hne⟩
  · exact fun region hregion => absurd hregion List.not_mem_nil
  · exact fun key hkey => absurd hkey List.not_mem_nil
  · exact fun key hkey => absurd hkey List.not_mem_nil

end Origins

/-! ## §7. What is filled. -/

/-- The tile may be claimed. -/
def CanFill (input : AutoFillInput W Rest) (tiles : Tiles W Rest) (now : ℤ) (key : TileKey W) :
    Prop :=
  ∃ tile, tiles key = some tile ∧ isFillable input now key tile = true

/-- The tile lies in an enclosed pocket beside the settled tile whose scan was
not put off, and may be claimed. -/
def Fills (input : AutoFillInput W Rest) (now : ℤ)
    (originCooldownUntil : Cooldowns W) (capturedTile key : TileKey W) : Prop :=
  (∃ origin ∈ sides capturedTile, isCooling originCooldownUntil now origin = false
    ∧ Enclosed input origin ∧ InPocket input origin key)
  ∧ CanFill input input.tiles now key

/-- What the loop makes of the tile it comes to. -/
def fillAt (input : AutoFillInput W Rest) (holdNow : ℤ) (key : TileKey W)
    (tile : Option (DomainTileState Rest)) : Option (DomainTileState Rest) :=
  tile.map fun existing =>
    if isFillable input holdNow key existing = true then filledTile input existing else existing

theorem fillTile_touches (input : AutoFillInput W Rest) (holdNow : ℤ) :
    Pointwise.Touches (fun st : Filling W Rest => st.tiles) (fillTile input holdNow)
      (fillAt input holdNow) := by
  intro st key other
  dsimp only
  unfold fillTile fillAt
  cases hget : st.tiles key with
  | none =>
      dsimp only
      split_ifs with h
      · rw [← h, hget]
        rfl
      · rfl
  | some existing =>
      dsimp only
      by_cases h : key = other
      · rw [if_pos h, ← h, Option.map_some]
        split_ifs
        · exact Function.update_self _ _ _
        · exact hget
      · rw [if_neg h]
        split_ifs
        · exact Function.update_of_ne (Ne.symm h) _ _
        · rfl

theorem fillAt_fillAt (holdNow : ℤ) (key : TileKey W) (tile : Option (DomainTileState Rest)) :
    fillAt input holdNow key (fillAt input holdNow key tile) = fillAt input holdNow key tile := by
  unfold fillAt
  rw [Option.map_map]
  congr 1
  funext existing
  rw [Function.comp_apply]
  by_cases h : isFillable input holdNow key existing = true
  · rw [if_pos h, if_neg]
    simp [isFillable, filledTile]
  · rw [if_neg h, if_neg h]

theorem foldl_fillTile_settled (input : AutoFillInput W Rest) (now : ℤ) (l : List (TileKey W)) :
    ∀ st : Filling W Rest, st.settled.Nodup →
      (∀ k ∈ st.settled, ¬ CanFill input st.tiles now k) →
      (l.foldl (fillTile input now) st).settled.Nodup
        ∧ ∀ k, k ∈ (l.foldl (fillTile input now) st).settled
          ↔ k ∈ st.settled ∨ k ∈ l ∧ CanFill input st.tiles now k := by
  induction l with
  | nil =>
      intro st hnodup _
      exact ⟨hnodup, fun k => by simp⟩
  | cons a l ih =>
      intro st hnodup hdone
      rw [List.foldl_cons]
      by_cases hfill : CanFill input st.tiles now a
      · obtain ⟨tile, hget, hfillable⟩ := id hfill
        have hstep : fillTile input now st a
            = ⟨Function.update st.tiles a (some (filledTile input tile)), st.settled ++ [a]⟩ := by
          unfold fillTile
          rw [hget]
          exact if_pos hfillable
        -- once filled, the tile cannot be filled again
        have hcan : ∀ k,
            CanFill input (Function.update st.tiles a (some (filledTile input tile))) now k
              ↔ k ≠ a ∧ CanFill input st.tiles now k := by
          intro k
          unfold CanFill
          by_cases hk : k = a
          · rw [hk, Function.update_self]
            simp [isFillable, filledTile]
          · rw [Function.update_of_ne hk]
            simp [hk]
        have hnew : a ∉ st.settled := fun hmem => hdone a hmem hfill
        rw [hstep]
        obtain ⟨hnodup', hmem⟩ := ih ⟨_, st.settled ++ [a]⟩
          (hnodup.append (List.nodup_singleton a) (List.disjoint_singleton.mpr hnew))
          (fun k hk hcank => by
            rw [hcan] at hcank
            rcases List.mem_append.mp hk with hold | hone
            · exact hdone k hold hcank.2
            · exact hcank.1 (List.mem_singleton.mp hone))
        refine ⟨hnodup', fun k => ?_⟩
        rw [hmem, hcan, List.mem_append, List.mem_singleton, List.mem_cons]
        by_cases hk : k = a
        · simp [hk, hfill]
        · simp [hk]
      · have hstep : fillTile input now st a = st := by
          unfold fillTile
          cases hget : st.tiles a with
          | none => rfl
          | some tile => exact if_neg fun hfillable => hfill ⟨tile, hget, hfillable⟩
        rw [hstep]
        obtain ⟨hnodup', hmem⟩ := ih st hnodup hdone
        refine ⟨hnodup', fun k => ?_⟩
        rw [hmem, List.mem_cons]
        by_cases hk : k = a
        · simp [hk, hfill]
        · simp [hk]

/-- **The fill is exact**: it settles the tiles of the enclosed pockets beside
the settled tile that may be claimed, reports each of them once, and touches
no other; and it puts off only scans of pockets over the cap. -/
theorem applyAutoFill_exact (input : AutoFillInput W Rest) (now : ℤ)
    (originCooldownUntil : Cooldowns W) (capturedTile key : TileKey W) :
    let filled := applyAutoFill input now originCooldownUntil capturedTile
    (Fills input now originCooldownUntil capturedTile key →
        filled.1.tiles key = (input.tiles key).map (filledTile input))
      ∧ (¬ Fills input now originCooldownUntil capturedTile key →
        filled.1.tiles key = input.tiles key)
      ∧ filled.1.settled.Nodup
      ∧ (key ∈ filled.1.settled ↔ Fills input now originCooldownUntil capturedTile key)
      ∧ (filled.2 key ≠ originCooldownUntil key →
        filled.2 key = some (now + AUTO_FILL_SCAN_COOLDOWN_MS)
          ∧ key ∈ sides capturedTile
          ∧ AUTO_FILL_MAX_REGION_SIZE < (pocket input key).ncard) := by
  have hadj := adjacentInv_all input now originCooldownUntil capturedTile
  dsimp only [applyAutoFill]
  generalize findEnclosedRegionsAdjacentTo input now originCooldownUntil capturedTile = regions
    at hadj
  have hread := Pointwise.foldl_read (fun st : Filling W Rest => st.tiles)
    (fillTile_touches input now) (fillAt_fillAt now) regions.results.flatten ⟨input.tiles, []⟩ key
  dsimp only at hread
  have hmem : key ∈ regions.results.flatten
      ↔ ∃ origin ∈ sides capturedTile, isCooling originCooldownUntil now origin = false
        ∧ Enclosed input origin ∧ InPocket input origin key := by
    rw [List.mem_flatten]
    constructor
    · rintro ⟨region, hregion, hkey⟩
      obtain ⟨origin, ho, hcool, henc, hiff⟩ := hadj.found region hregion
      exact ⟨origin, ho, hcool, henc, (hiff key).mp hkey⟩
    · rintro ⟨origin, ho, hcool, henc, hkey⟩
      exact hadj.covered origin (hadj.checked origin ho) hcool henc key hkey
  obtain ⟨hnodup, hsettled⟩ := foldl_fillTile_settled input now regions.results.flatten
    ⟨input.tiles, []⟩ List.nodup_nil (fun k hk => absurd hk List.not_mem_nil)
  rw [hread]
  refine ⟨fun hfills => ?_, fun hnot => ?_, hnodup, ?_, fun hne => ?_⟩
  · obtain ⟨hin, tile, hget, hfillable⟩ := hfills
    rw [if_pos (hmem.mpr hin), fillAt, hget, Option.map_some, Option.map_some, if_pos hfillable]
  · split_ifs with hin
    · unfold fillAt
      cases hget : input.tiles key with
      | none => rfl
      | some tile =>
          rw [Option.map_some, if_neg]
          exact fun hfillable => hnot ⟨hmem.mp hin, tile, hget, hfillable⟩
    · rfl
  · rw [hsettled, hmem]
    unfold Fills
    simp
  · obtain ⟨hdone, -, -, huntil, hlarge⟩ := hadj.unchanged key hne
    exact ⟨huntil, hdone, hlarge⟩

end BorderEmpires.AutoFill
