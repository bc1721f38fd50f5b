/-
  BorderEmpires.FrontierAutoHeal
  **THE FRONTIER AUTO-HEAL QUEUE.**

  A frontier tile that is cut off becomes neutral and is stamped with a
  deadline, and a queue remembers the deadline.  A tick pops what has come
  due and gives the tile to whoever's reach border covers it, or drops the
  stamp.  Nothing is ever taken out of the queue early: an entry is judged
  when it is popped, by comparing the tile's stamp.

  Wire deltas are left out, and with them what a release, a claim or a
  bombardment does to fields that the queue never reads.
-/
import BorderEmpires.Lib.InsertionMap
import BorderEmpires.Lib.Run
import BorderEmpires.World
import Mathlib.Data.List.Sort

namespace BorderEmpires.AutoHeal

/-! ## §1. The queue. -/

/-- A tile's coordinates, as its key has them: a bombardment does not wrap. -/
abbrev TileXY := ℤ × ℤ

structure DomainTileState extends TileOwnership where
  terrain : Terrain
  healAt : Option ℤ

abbrev Tiles := InsertionMap TileXY DomainTileState

def FRONTIER_AUTO_HEAL_MS : ℤ := 30 * 60 * 1000
def FRONTIER_AUTO_HEAL_QUEUE_CAP : ℕ := 100000
def FRONTIER_AUTO_HEAL_MAX_PER_TICK : ℕ := 500
def COMPACTION_MIN_HEAD : ℕ := 1000

structure FrontierAutoHealEntry where
  tileKey : TileXY
  deadlineAt : ℤ
  deriving DecidableEq

structure FrontierAutoHealQueue where
  entries : List FrontierAutoHealEntry
  head : ℕ

def frontierAutoHealQueueDepth (queue : FrontierAutoHealQueue) : ℕ :=
  queue.entries.length - queue.head

/-- What is not yet drained. -/
def FrontierAutoHealQueue.pending (queue : FrontierAutoHealQueue) : List FrontierAutoHealEntry :=
  queue.entries.drop queue.head

/-- At the cap the registration is dropped. -/
def enqueueFrontierAutoHeal (queue : FrontierAutoHealQueue) (tileKey : TileXY) (deadlineAt : ℤ) :
    FrontierAutoHealQueue :=
  if FRONTIER_AUTO_HEAL_QUEUE_CAP ≤ frontierAutoHealQueueDepth queue then queue
  else { queue with entries := queue.entries ++ [⟨tileKey, deadlineAt⟩] }

def neutralStamp (tiles : Tiles) (key : TileXY) : Option ℤ :=
  (tiles.get key).bind (fun tile => if tile.ownerId = none then tile.healAt else none)

def isEntryLive (tiles : Tiles) (entry : FrontierAutoHealEntry) : Bool :=
  decide (neutralStamp tiles entry.tileKey = some entry.deadlineAt)

def rebuildFrontierAutoHealQueue (tiles : Tiles) : FrontierAutoHealQueue where
  entries := (tiles.entries.filterMap (fun entry =>
    if entry.2.ownerId = none then
      entry.2.healAt.map (fun healAt => (⟨entry.1, healAt⟩ : FrontierAutoHealEntry))
    else none)).insertionSort (fun a b => a.deadlineAt ≤ b.deadlineAt)
  head := 0

/-- Tiles and queue, and what is watched beside them: the time of the last
release, and for each tile the deadline of the release since which it has
been neutral without interruption, until a tick rewrites it. -/
structure HealState where
  tiles : Tiles
  queue : FrontierAutoHealQueue
  clock : ℤ
  waiting : TileXY → Option ℤ

/-! ## §2. The tick. -/

/-- A tile a tick rewrote: healed to an owner, or its stamp dropped. -/
structure Rewrite where
  tileKey : TileXY
  ownerId : Option PlayerId
  deriving DecidableEq

structure TickRun where
  tiles : Tiles
  head : ℕ
  healed : ℕ
  rewrites : List Rewrite

section Tick

variable (nowMs : ℤ) (reachBorderOwnerAt : TileXY → Option PlayerId)

/-- The healed tile, or the tile without its stamp where nobody covers it. -/
def settle (key : TileXY) (tile : DomainTileState) : DomainTileState :=
  match reachBorderOwnerAt key with
  | none => { tile with healAt := none }
  | some ownerId =>
      { tile with ownerId := some ownerId, ownershipState := some .FRONTIER, healAt := none }

/-- One entry popped; a stale one leaves no trace. -/
def examine (entry : FrontierAutoHealEntry) (run : TickRun) : TickRun :=
  match run.tiles.get entry.tileKey with
  | none => { run with head := run.head + 1 }
  | some tile =>
      if isEntryLive run.tiles entry then
        { tiles := run.tiles.set entry.tileKey (settle reachBorderOwnerAt entry.tileKey tile)
          head := run.head + 1
          healed :=
            if (reachBorderOwnerAt entry.tileKey).isSome then run.healed + 1 else run.healed
          rewrites := run.rewrites ++ [⟨entry.tileKey, reachBorderOwnerAt entry.tileKey⟩] }
      else { run with head := run.head + 1 }

/-- Up to the cap, and up to the first entry that is not due. -/
def tickLoop : List FrontierAutoHealEntry → TickRun → TickRun
  | [], run => run
  | entry :: rest, run =>
      if run.healed < FRONTIER_AUTO_HEAL_MAX_PER_TICK ∧ entry.deadlineAt ≤ nowMs then
        tickLoop rest (examine reachBorderOwnerAt entry run)
      else run

def tickRun (s : HealState) : TickRun :=
  tickLoop nowMs reachBorderOwnerAt s.queue.pending ⟨s.tiles, s.queue.head, 0, []⟩

def compact (queue : FrontierAutoHealQueue) : FrontierAutoHealQueue :=
  if COMPACTION_MIN_HEAD ≤ queue.head ∧ queue.entries.length ≤ queue.head * 2 then
    ⟨queue.entries.drop queue.head, 0⟩
  else queue

def tickFrontierAutoHeal (s : HealState) : HealState :=
  let run := tickRun nowMs reachBorderOwnerAt s
  { s with
    tiles := run.tiles
    queue := compact ⟨s.queue.entries, run.head⟩
    waiting := fun key =>
      if key ∈ run.rewrites.map Rewrite.tileKey then none else s.waiting key }

end Tick

/-! ## §3. What takes and frees tiles. -/

section Steps

variable (s : HealState)

/-- A tile is replaced, and waits for the deadline or for nothing. -/
def HealState.setTile (key : TileXY) (tile : DomainTileState) (deadline : Option ℤ) : HealState :=
  { s with tiles := s.tiles.set key tile, waiting := Function.update s.waiting key deadline }

def releaseTile (nowMs : ℤ) (s : HealState) (key : TileXY) : HealState :=
  match s.tiles.get key with
  | none => s
  | some tile =>
      if tile.ownershipState = some .FRONTIER then
        { s.setTile key
            { tile with
              ownerId := none
              ownershipState := none
              healAt := some (nowMs + FRONTIER_AUTO_HEAL_MS) }
            (some (nowMs + FRONTIER_AUTO_HEAL_MS)) with
          queue := enqueueFrontierAutoHeal s.queue key (nowMs + FRONTIER_AUTO_HEAL_MS) }
      else s

def clearCutOffFrontierTiles (nowMs : ℤ) (keys : List TileXY) : HealState :=
  keys.foldl (releaseTile nowMs) { s with clock := nowMs }

def claimTile (ownerId : PlayerId) (s : HealState) (key : TileXY) : HealState :=
  match s.tiles.get key with
  | none => s
  | some tile =>
      if tile.ownerId = none ∧ tile.terrain = .LAND then
        s.setTile key
          { tile with ownerId := some ownerId, ownershipState := some .FRONTIER } none
      else s

def applyReachAutoClaim (ownerId : PlayerId) (tileKeys : List TileXY) : HealState :=
  tileKeys.foldl (claimTile ownerId) s

def applyWinningTileCapture (ownerId : PlayerId) (key : TileXY) : HealState :=
  s.setTile key
    { ownerId := some ownerId
      ownershipState := some (if ownerId.text = "barbarian-1" then .SETTLED else .FRONTIER)
      terrain := ((s.tiles.get key).map DomainTileState.terrain).getD .LAND
      healAt := none } none

/-- An accepted bombardment: whose tiles it spares, and which tiles it misses. -/
structure Bombardment where
  target : TileXY
  spared : PlayerId → Bool
  missed : TileXY → Bool

def Bombardment.footprint (b : Bombardment) : List TileXY :=
  [-1, 0, 1].flatMap (fun dy => [-1, 0, 1].map (fun dx => (b.target.1 + dx, b.target.2 + dy)))

def Bombardment.hits (b : Bombardment) (key : TileXY) (tile : DomainTileState) : Bool :=
  decide (tile.terrain = .LAND) && tile.ownerId.any (fun ownerId => ! b.spared ownerId)
    && ! b.missed key

def bombardTile (b : Bombardment) (s : HealState) (key : TileXY) : HealState :=
  match s.tiles.get key with
  | none => s
  | some tile =>
      if b.hits key tile then
        s.setTile key { tile with ownerId := none, ownershipState := none } none
      else s

def handleSkyDockBombardCommand (b : Bombardment) : HealState := b.footprint.foldl (bombardTile b) s

/-! ## §4. Runs. -/

inductive HealStep where
  | release (nowMs : ℤ) (keys : List TileXY)
  | autoClaim (ownerId : PlayerId) (tileKeys : List TileXY)
  | capture (ownerId : PlayerId) (key : TileXY)
  | bombard (b : Bombardment)
  | tick (nowMs : ℤ) (reachBorderOwnerAt : TileXY → Option PlayerId)

def healStep : HealStep → HealState
  | .release nowMs keys => clearCutOffFrontierTiles s nowMs keys
  | .autoClaim ownerId tileKeys => applyReachAutoClaim s ownerId tileKeys
  | .capture ownerId key => applyWinningTileCapture s ownerId key
  | .bombard b => handleSkyDockBombardCommand s b
  | .tick nowMs reachBorderOwnerAt => tickFrontierAutoHeal nowMs reachBorderOwnerAt s

def HealState.boot (tiles : Tiles) (clock : ℤ) : HealState :=
  ⟨tiles, rebuildFrontierAutoHealQueue tiles, clock, neutralStamp tiles⟩

/-- The live queue and the rebuilt one have the same valid entries. -/
def Agrees : Prop :=
  ∀ entry, (entry ∈ s.queue.pending ∧ isEntryLive s.tiles entry = true)
    ↔ entry ∈ (rebuildFrontierAutoHealQueue s.tiles).entries

/-- **What a tick should do**: it rewrites waiting tiles after their deadline,
each once, to whoever covers them; it rewrites no more than the cap; and a
waiting tile that is due is rewritten, or as many entries before its own as
the cap allows are gone. -/
structure TickRight (nowMs : ℤ) (reachBorderOwnerAt : TileXY → Option PlayerId) :
    Prop where
  waited : ∀ r ∈ (tickRun nowMs reachBorderOwnerAt s).rewrites,
    r.ownerId = reachBorderOwnerAt r.tileKey
      ∧ ∃ deadline, s.waiting r.tileKey = some deadline ∧ deadline ≤ nowMs
  once : ((tickRun nowMs reachBorderOwnerAt s).rewrites.map Rewrite.tileKey).Nodup
  few : (tickRun nowMs reachBorderOwnerAt s).rewrites.length ≤ FRONTIER_AUTO_HEAL_MAX_PER_TICK
  served : ∀ key deadline, s.waiting key = some deadline → deadline ≤ nowMs →
    key ∈ (tickRun nowMs reachBorderOwnerAt s).rewrites.map Rewrite.tileKey
      ∨ ∃ gone, FRONTIER_AUTO_HEAL_MAX_PER_TICK ≤ gone.length
        ∧ s.queue.pending = gone ++ (tickFrontierAutoHeal nowMs reachBorderOwnerAt s).queue.pending
        ∧ ⟨key, deadline⟩ ∈ (tickFrontierAutoHeal nowMs reachBorderOwnerAt s).queue.pending

def StepRight (step : HealStep) : Prop :=
  Agrees (healStep s step)
    ∧ ∀ nowMs reachBorderOwnerAt, step = .tick nowMs reachBorderOwnerAt →
      TickRight s nowMs reachBorderOwnerAt

/-- Releases come in order, and the queue does not reach its cap. -/
def InOrder : HealStep → Prop
  | .release nowMs keys => s.clock ≤ nowMs
      ∧ frontierAutoHealQueueDepth (clearCutOffFrontierTiles s nowMs keys).queue
        < FRONTIER_AUTO_HEAL_QUEUE_CAP
  | _ => True

/-- The tiles whose entries are due and live, in the order of the queue. -/
def dueKeys (nowMs : ℤ) (tiles : Tiles) : List FrontierAutoHealEntry → List TileXY
  | [] => []
  | entry :: rest =>
      if entry.deadlineAt ≤ nowMs ∧ isEntryLive tiles entry = true then
        entry.tileKey :: (dueKeys nowMs tiles rest).filter (· ≠ entry.tileKey)
      else dueKeys nowMs tiles rest

/-- **The condition of a right run**: a bombardment hits no tile that carries
a stamp, and a tick finds no more due tiles than the cap, or covered ones
first. -/
def Clean : HealStep → Prop
  | .bombard b => ∀ key ∈ b.footprint, ∀ tile, s.tiles.get key = some tile →
      b.hits key tile = true → tile.healAt = none
  | .tick nowMs reachBorderOwnerAt =>
      (dueKeys nowMs s.tiles s.queue.pending).length
          ≤ FRONTIER_AUTO_HEAL_MAX_PER_TICK
        ∨ ∀ key ∈ (dueKeys nowMs s.tiles s.queue.pending).take
            FRONTIER_AUTO_HEAL_MAX_PER_TICK, (reachBorderOwnerAt key).isSome = true
  | _ => True

end Steps

/-! ## §5. One tick. -/

theorem neutralStamp_congr {tiles tiles' : Tiles} {key : TileXY}
    (h : tiles'.get key = tiles.get key) : neutralStamp tiles' key = neutralStamp tiles key := by
  unfold neutralStamp
  rw [h]

theorem neutralStamp_set (tiles : Tiles) (key k : TileXY) (tile : DomainTileState) :
    neutralStamp (tiles.set key tile) k
      = if key = k then if tile.ownerId = none then tile.healAt else none
        else neutralStamp tiles k := by
  unfold neutralStamp
  rw [InsertionMap.get_set]
  by_cases hkey : key = k
  · simp [hkey]
  · simp [hkey]

theorem isEntryLive_iff {tiles : Tiles} {entry : FrontierAutoHealEntry} :
    isEntryLive tiles entry = true ↔ neutralStamp tiles entry.tileKey = some entry.deadlineAt := by
  simp [isEntryLive]

theorem mem_dueKeys {nowMs : ℤ} {tiles : Tiles} (l : List FrontierAutoHealEntry) (key : TileXY) :
    key ∈ dueKeys nowMs tiles l
      ↔ ∃ entry ∈ l, entry.tileKey = key ∧ entry.deadlineAt ≤ nowMs
          ∧ isEntryLive tiles entry = true := by
  induction l with
  | nil => simp [dueKeys]
  | cons entry l ih =>
      rw [dueKeys]
      split
      next h =>
        by_cases hkey : entry.tileKey = key
        · simp [hkey, h]
        · simp [hkey, Ne.symm hkey, ih]
      next h =>
        rw [ih, List.exists_mem_cons_iff, or_iff_right]
        exact fun hhead => h hhead.2

theorem nodup_dueKeys {nowMs : ℤ} {tiles : Tiles} (l : List FrontierAutoHealEntry) :
    (dueKeys nowMs tiles l).Nodup := by
  induction l with
  | nil => exact List.nodup_nil
  | cons entry l ih =>
      rw [dueKeys]
      split
      · exact List.nodup_cons.mpr ⟨by simp, ih.filter _⟩
      · exact ih

theorem dueKeys_set {nowMs : ℤ} {tiles tiles' : Tiles} {key : TileXY}
    (hkey : neutralStamp tiles' key = none)
    (hrest : ∀ k, k ≠ key → neutralStamp tiles' k = neutralStamp tiles k)
    (l : List FrontierAutoHealEntry) :
    dueKeys nowMs tiles' l = (dueKeys nowMs tiles l).filter (· ≠ key) := by
  induction l with
  | nil => rfl
  | cons entry l ih =>
      by_cases hentry : entry.tileKey = key
      · have hdead : isEntryLive tiles' entry = false := by
          simp [isEntryLive, hentry, hkey]
        rw [dueKeys, if_neg (by simp [hdead]), ih, dueKeys]
        split
        · simp [hentry]
        · rfl
      · have hsame : isEntryLive tiles' entry = isEntryLive tiles entry := by
          simp only [isEntryLive, hrest _ hentry]
        rw [dueKeys, dueKeys, hsame, ih]
        split
        · simp [hentry, Bool.and_comm]
        · rfl

section Tick

variable {nowMs : ℤ} {border : TileXY → Option PlayerId}

theorem settle_healAt (key : TileXY) (tile : DomainTileState) :
    (settle border key tile).healAt = none := by
  unfold settle
  split <;> rfl

/-- **What a tick has done** when it ends: it popped `gone`, rewrote `keys`
and left `rest`, where nothing live is due unless the cap was reached. -/
structure Drained (nowMs : ℤ) (border : TileXY → Option PlayerId)
    (l : List FrontierAutoHealEntry) (run out : TickRun) (gone rest : List FrontierAutoHealEntry)
    (keys : List TileXY) : Prop where
  split : l = gone ++ rest
  head : out.head = run.head + gone.length
  rewrites : out.rewrites = run.rewrites ++ keys.map (fun key => ⟨key, border key⟩)
  due : dueKeys nowMs run.tiles l = keys ++ dueKeys nowMs out.tiles rest
  popped : ∀ entry ∈ gone, entry.deadlineAt ≤ nowMs
  fewer : keys.length ≤ gone.length
  healed : out.healed = run.healed + keys.countP (fun key => (border key).isSome)
  guard : keys ≠ [] → run.healed + keys.dropLast.countP (fun key => (border key).isSome)
    < FRONTIER_AUTO_HEAL_MAX_PER_TICK
  tiles : ∀ key, out.tiles.get key
    = if key ∈ keys then (run.tiles.get key).map (settle border key) else run.tiles.get key
  ended : FRONTIER_AUTO_HEAL_MAX_PER_TICK ≤ out.healed ∨ dueKeys nowMs out.tiles rest = []

/-- The entry at the head is live: its tile is rewritten, and is not due a
second time. -/
theorem Drained.rewrite {l gone rest : List FrontierAutoHealEntry} {keys : List TileXY}
    {run out : TickRun} {entry : FrontierAutoHealEntry} {tile : DomainTileState}
    (hcap : run.healed < FRONTIER_AUTO_HEAL_MAX_PER_TICK) (hdueNow : entry.deadlineAt ≤ nowMs)
    (hlive : isEntryLive run.tiles entry = true) (htile : run.tiles.get entry.tileKey = some tile)
    (h : Drained nowMs border l
      { tiles := run.tiles.set entry.tileKey (settle border entry.tileKey tile)
        head := run.head + 1
        healed := if (border entry.tileKey).isSome then run.healed + 1 else run.healed
        rewrites := run.rewrites ++ [⟨entry.tileKey, border entry.tileKey⟩] } out gone rest keys) :
    Drained nowMs border (entry :: l) run out (entry :: gone) rest (entry.tileKey :: keys) := by
  have hunstamped : neutralStamp
      (run.tiles.set entry.tileKey (settle border entry.tileKey tile)) entry.tileKey = none := by
    simp [neutralStamp_set, settle_healAt]
  have hdue : (dueKeys nowMs run.tiles l).filter (· ≠ entry.tileKey)
      = keys ++ dueKeys nowMs out.tiles rest :=
    (dueKeys_set hunstamped (fun k hk => neutralStamp_congr
      (InsertionMap.get_set_ne _ (Ne.symm hk) _)) l).symm.trans h.due
  have hnew : entry.tileKey ∉ keys := by
    intro hmem
    have hin : entry.tileKey ∈ (dueKeys nowMs run.tiles l).filter (· ≠ entry.tileKey) :=
      hdue ▸ List.mem_append_left _ hmem
    simp at hin
  refine ⟨?_, ?_, ?_, ?_, ?_, ?_, ?_, ?_, ?_, h.ended⟩
  · rw [h.split]
    rfl
  · rw [h.head, List.length_cons, Nat.add_comm gone.length, ← Nat.add_assoc]
  · rw [h.rewrites, List.map_cons, List.append_assoc]
    rfl
  · rw [dueKeys, if_pos ⟨hdueNow, hlive⟩, hdue]
    rfl
  · exact List.forall_mem_cons.mpr ⟨hdueNow, h.popped⟩
  · exact Nat.succ_le_succ h.fewer
  · rw [h.healed, List.countP_cons]
    dsimp only
    split <;> omega
  · intro _
    by_cases hkeys : keys = []
    · simpa [hkeys] using hcap
    · have hguard := h.guard hkeys
      rw [List.dropLast_cons_of_ne_nil hkeys, List.countP_cons]
      dsimp only at hguard
      split at hguard
      next hcovered =>
        rw [if_pos hcovered]
        omega
      next hopen =>
        rw [if_neg hopen]
        omega
  · intro key
    rw [h.tiles]
    by_cases hkey : key = entry.tileKey
    · simp [hkey, hnew, htile]
    · simp [hkey, InsertionMap.get_set_ne _ (Ne.symm hkey)]

theorem Drained.skip {l gone rest : List FrontierAutoHealEntry} {keys : List TileXY}
    {run out : TickRun} {entry : FrontierAutoHealEntry} (hdueNow : entry.deadlineAt ≤ nowMs)
    (hstale : isEntryLive run.tiles entry = false)
    (h : Drained nowMs border l { run with head := run.head + 1 } out gone rest keys) :
    Drained nowMs border (entry :: l) run out (entry :: gone) rest keys := by
  refine ⟨?_, ?_, h.rewrites, ?_, ?_, ?_, h.healed, h.guard, h.tiles, h.ended⟩
  · rw [h.split]
    rfl
  · rw [h.head, List.length_cons, Nat.add_comm gone.length, ← Nat.add_assoc]
  · rw [dueKeys, if_neg (by simp [hstale])]
    exact h.due
  · exact List.forall_mem_cons.mpr ⟨hdueNow, h.popped⟩
  · exact Nat.le_succ_of_le h.fewer

variable (nowMs border) in
theorem tickLoop_drained (l : List FrontierAutoHealEntry) :
    ∀ run : TickRun, l.Pairwise (fun a b => a.deadlineAt ≤ b.deadlineAt) →
      ∃ gone rest keys, Drained nowMs border l run (tickLoop nowMs border l run) gone rest keys := by
  induction l with
  | nil =>
      intro run _
      exact ⟨[], [], [], by constructor <;> simp [tickLoop, dueKeys]⟩
  | cons entry l ih =>
      intro run hsorted
      obtain ⟨hfirst, hsorted⟩ := List.pairwise_cons.mp hsorted
      rw [tickLoop]
      split
      next hgo =>
        obtain ⟨gone, rest, keys, h⟩ := ih (examine border entry run) hsorted
        cases htile : run.tiles.get entry.tileKey with
        | none =>
            have hstale : isEntryLive run.tiles entry = false := by
              simp [isEntryLive, neutralStamp, htile]
            simp only [examine, htile] at h ⊢
            exact ⟨entry :: gone, rest, keys, h.skip hgo.2 hstale⟩
        | some tile =>
            simp only [examine, htile] at h ⊢
            split at h
            next hlive =>
              rw [if_pos hlive]
              exact ⟨entry :: gone, rest, entry.tileKey :: keys, h.rewrite hgo.1 hgo.2 hlive htile⟩
            next hstale =>
              rw [if_neg hstale]
              exact ⟨entry :: gone, rest, keys, h.skip hgo.2 (Bool.eq_false_iff.mpr hstale)⟩
      next hstop =>
        refine ⟨[], entry :: l, [], by simp, by simp, by simp, rfl, by simp, by simp, by simp,
          by simp, by simp, ?_⟩
        by_cases hcap : run.healed < FRONTIER_AUTO_HEAL_MAX_PER_TICK
        · -- the first entry is not due, and so none is
          refine Or.inr (List.eq_nil_iff_forall_not_mem.mpr (fun key hkey => ?_))
          obtain ⟨other, hother, -, hdue, -⟩ := (mem_dueKeys _ key).mp hkey
          have hlate : nowMs < entry.deadlineAt := not_le.mp (fun hle => hstop ⟨hcap, hle⟩)
          rcases List.mem_cons.mp hother with rfl | hin
          · omega
          · have hle := hfirst other hin
            omega
        · exact Or.inl (not_lt.mp hcap)

end Tick

/-! ## §6. The invariant. -/

/-- **A tile waits while it is neutral under its stamp**, and what waits is in
the queue, which is in order of deadline. -/
structure Inv (s : HealState) : Prop where
  waiting : ∀ key, s.waiting key = neutralStamp s.tiles key
  queued : ∀ key deadline, s.waiting key = some deadline → ⟨key, deadline⟩ ∈ s.queue.pending
  sorted : s.queue.pending.Pairwise (fun a b => a.deadlineAt ≤ b.deadlineAt)
  bound : ∀ entry ∈ s.queue.pending, entry.deadlineAt ≤ s.clock + FRONTIER_AUTO_HEAL_MS
  head : s.queue.head ≤ s.queue.entries.length

theorem mem_rebuild {tiles : Tiles} {entry : FrontierAutoHealEntry} :
    entry ∈ (rebuildFrontierAutoHealQueue tiles).entries
      ↔ neutralStamp tiles entry.tileKey = some entry.deadlineAt := by
  unfold rebuildFrontierAutoHealQueue neutralStamp
  rw [List.mem_insertionSort, List.mem_filterMap, Option.bind_eq_some_iff]
  constructor
  · rintro ⟨⟨key, tile⟩, hmem, hentry⟩
    dsimp only at hentry
    split at hentry
    next howner =>
      obtain ⟨healAt, hheal, rfl⟩ := Option.map_eq_some_iff.mp hentry
      exact ⟨tile, (tiles.mem_entries_iff _ _).mp hmem, by rw [if_pos howner, hheal]⟩
    next => cases hentry
  · rintro ⟨tile, hget, hstamp⟩
    refine ⟨(entry.tileKey, tile), (tiles.mem_entries_iff _ _).mpr hget, ?_⟩
    dsimp only
    split at hstamp
    next howner => rw [if_pos howner, hstamp, Option.map_some]
    next => cases hstamp

theorem enqueue_of_room {queue : FrontierAutoHealQueue} (hhead : queue.head ≤ queue.entries.length)
    (hroom : frontierAutoHealQueueDepth queue < FRONTIER_AUTO_HEAL_QUEUE_CAP) (key : TileXY)
    (deadlineAt : ℤ) :
    (enqueueFrontierAutoHeal queue key deadlineAt).pending = queue.pending ++ [⟨key, deadlineAt⟩]
      ∧ (enqueueFrontierAutoHeal queue key deadlineAt).head
        ≤ (enqueueFrontierAutoHeal queue key deadlineAt).entries.length := by
  rw [enqueueFrontierAutoHeal, if_neg (not_le.mpr hroom)]
  refine ⟨List.drop_append_of_le_length hhead, ?_⟩
  rw [List.length_append]
  exact Nat.le_add_right_of_le hhead

theorem inv_boot {tiles : Tiles} {clock : ℤ} (hboot : ∀ key deadline,
    neutralStamp tiles key = some deadline → deadline ≤ clock + FRONTIER_AUTO_HEAL_MS) :
    Inv (.boot tiles clock) where
  waiting := fun _ => rfl
  queued := fun _ _ h => mem_rebuild.mpr h
  sorted := List.pairwise_insertionSort _ _
  bound := fun entry h => hboot entry.tileKey entry.deadlineAt (mem_rebuild.mp h)
  head := Nat.zero_le _

theorem Inv.agrees {s : HealState} (h : Inv s) : Agrees s := by
  intro entry
  rw [mem_rebuild, isEntryLive_iff, ← h.waiting]
  exact and_iff_right_of_imp (h.queued entry.tileKey entry.deadlineAt)

theorem Inv.setTile {s : HealState} (h : Inv s) (key : TileXY) {tile : DomainTileState}
    (htile : tile.ownerId ≠ none ∨ tile.healAt = none) : Inv (s.setTile key tile none) := by
  have hstamp : (if tile.ownerId = none then tile.healAt else none) = none := by
    rcases htile with howned | hnone
    · exact if_neg howned
    · simp [hnone]
  refine ⟨?_, ?_, h.sorted, h.bound, h.head⟩
  · intro k
    show Function.update s.waiting key none k = neutralStamp (s.tiles.set key tile) k
    rw [neutralStamp_set, Function.update_apply, hstamp, h.waiting]
    simp only [eq_comm (a := k)]
  · intro k deadline hwaiting
    have hwaiting : Function.update s.waiting key none k = some deadline := hwaiting
    rw [Function.update_apply] at hwaiting
    split at hwaiting
    · cases hwaiting
    · exact h.queued k deadline hwaiting

theorem Inv.releaseTile {s : HealState} (h : Inv s) (key : TileXY)
    (hroom : frontierAutoHealQueueDepth s.queue < FRONTIER_AUTO_HEAL_QUEUE_CAP) :
    Inv (releaseTile s.clock s key) := by
  unfold AutoHeal.releaseTile
  split
  · exact h
  next tile _ =>
    split
    · obtain ⟨hpending, hhead⟩ := enqueue_of_room h.head hroom key (s.clock + FRONTIER_AUTO_HEAL_MS)
      refine ⟨?_, ?_, ?_, ?_, hhead⟩
      · intro k
        show Function.update s.waiting key _ k = neutralStamp (s.tiles.set key _) k
        rw [neutralStamp_set, Function.update_apply, h.waiting]
        simp only [eq_comm (a := k), if_true]
      · intro k deadline hwaiting
        have hwaiting : Function.update s.waiting key (some (s.clock + FRONTIER_AUTO_HEAL_MS)) k
          = some deadline := hwaiting
        rw [Function.update_apply] at hwaiting
        dsimp only
        rw [hpending]
        split at hwaiting
        next hkey =>
          cases hwaiting
          exact List.mem_append_right _ (by simp [hkey])
        next => exact List.mem_append_left _ (h.queued k deadline hwaiting)
      · dsimp only
        rw [hpending]
        refine List.pairwise_append.mpr ⟨h.sorted, List.pairwise_singleton _ _, ?_⟩
        intro entry hentry other hother
        rw [List.mem_singleton.mp hother]
        exact h.bound entry hentry
      · dsimp only
        rw [hpending]
        intro entry hentry
        rcases List.mem_append.mp hentry with hold | hnew
        · exact h.bound entry hold
        · rw [List.mem_singleton.mp hnew]
          exact le_rfl
    · exact h

theorem clock_releaseTile (nowMs : ℤ) (s : HealState) (key : TileXY) :
    (releaseTile nowMs s key).clock = s.clock := by
  unfold releaseTile
  split
  · rfl
  · split <;> rfl

theorem depth_le_releaseTile (nowMs : ℤ) (s : HealState) (key : TileXY) :
    frontierAutoHealQueueDepth s.queue
      ≤ frontierAutoHealQueueDepth (releaseTile nowMs s key).queue := by
  unfold releaseTile
  split
  · exact le_rfl
  split
  · unfold enqueueFrontierAutoHeal frontierAutoHealQueueDepth
    dsimp only
    split
    · exact le_rfl
    · exact Nat.sub_le_sub_right (List.length_append ▸ Nat.le_add_right _ _) _
  · exact le_rfl

theorem Inv.clearCutOff {s : HealState} (h : Inv s) {nowMs : ℤ} {keys : List TileXY}
    (hclock : s.clock ≤ nowMs)
    (hcap : frontierAutoHealQueueDepth (clearCutOffFrontierTiles s nowMs keys).queue
      < FRONTIER_AUTO_HEAL_QUEUE_CAP) : Inv (clearCutOffFrontierTiles s nowMs keys) := by
  have hlater : Inv { s with clock := nowMs } :=
    ⟨h.waiting, h.queued, h.sorted, fun entry hentry => by
      have hle := h.bound entry hentry
      show entry.deadlineAt ≤ nowMs + FRONTIER_AUTO_HEAL_MS
      omega, h.head⟩
  have hall := List.foldlRecOn (motive := fun t => t.clock = nowMs
      ∧ (frontierAutoHealQueueDepth t.queue < FRONTIER_AUTO_HEAL_QUEUE_CAP → Inv t)) keys
    (AutoHeal.releaseTile nowMs) (b := { s with clock := nowMs }) ⟨rfl, fun _ => hlater⟩
    (fun t ht key _ => ⟨(clock_releaseTile nowMs t key).trans ht.1, fun hdepth => by
      have hroom := lt_of_le_of_lt (depth_le_releaseTile nowMs t key) hdepth
      exact ht.1 ▸ (ht.2 hroom).releaseTile key hroom⟩)
  exact hall.2 hcap

theorem Inv.claimTile {s : HealState} (h : Inv s) (ownerId : PlayerId) (key : TileXY) :
    Inv (claimTile ownerId s key) := by
  unfold AutoHeal.claimTile
  split
  · exact h
  · split
    · exact h.setTile key (Or.inl (by simp))
    · exact h

theorem Inv.bombardTile {s : HealState} (h : Inv s) {b : Bombardment}
    (hclean : Clean s (.bombard b)) {key : TileXY} (hkey : key ∈ b.footprint) :
    Inv (bombardTile b s key) ∧ Clean (bombardTile b s key) (.bombard b) := by
  unfold AutoHeal.bombardTile
  split
  · exact ⟨h, hclean⟩
  next tile htile =>
    split
    next hhit =>
      refine ⟨h.setTile key (Or.inr (hclean key hkey tile htile hhit)), ?_⟩
      intro k hk tile' htile' hhit'
      have htile' : (s.tiles.set key { tile with ownerId := none, ownershipState := none }).get k
        = some tile' := htile'
      rw [InsertionMap.get_set_eq_some] at htile'
      rcases htile' with ⟨-, rfl⟩ | ⟨-, htile'⟩
      · simp [Bombardment.hits] at hhit'
      · exact hclean k hk tile' htile' hhit'
    next => exact ⟨h, hclean⟩

/-! ## §7. What a tick leaves. -/

section Tick

variable {nowMs : ℤ} {border : TileXY → Option PlayerId}

theorem Drained.stays {l gone rest : List FrontierAutoHealEntry} {keys : List TileXY}
    {run out : TickRun} (h : Drained nowMs border l run out gone rest keys) {key : TileXY}
    {deadline : ℤ} (hstamp : neutralStamp run.tiles key = some deadline)
    (hin : ⟨key, deadline⟩ ∈ l) (hnew : key ∉ keys) : ⟨key, deadline⟩ ∈ rest := by
  rcases List.mem_append.mp (h.split ▸ hin) with hgone | hrest
  · -- it was popped and live, so another entry of the tile is due in the rest
    have hdue : key ∈ keys ++ dueKeys nowMs out.tiles rest := by
      rw [← h.due, mem_dueKeys]
      exact ⟨_, hin, rfl, h.popped _ hgone, isEntryLive_iff.mpr hstamp⟩
    obtain ⟨entry, hentry, hkey, -, hlive⟩ :=
      (mem_dueKeys rest key).mp ((List.mem_append.mp hdue).resolve_left hnew)
    rw [isEntryLive_iff, hkey, neutralStamp_congr ((h.tiles key).trans (if_neg hnew)),
      hstamp] at hlive
    have hsame : entry = ⟨key, deadline⟩ := by
      cases entry
      simp_all
    exact hsame ▸ hentry
  · exact hrest

variable (nowMs border) in
/-- **A tick, seen from the queue.** -/
theorem tick_drained {s : HealState} (h : Inv s) : ∃ gone rest keys,
    Drained nowMs border s.queue.pending ⟨s.tiles, s.queue.head, 0, []⟩
      (tickRun nowMs border s) gone rest keys
    ∧ (tickFrontierAutoHeal nowMs border s).queue.pending = rest
    ∧ (tickFrontierAutoHeal nowMs border s).queue.head
      ≤ (tickFrontierAutoHeal nowMs border s).queue.entries.length := by
  obtain ⟨gone, rest, keys, hd⟩ :=
    tickLoop_drained nowMs border s.queue.pending
      ⟨s.tiles, s.queue.head, 0, []⟩ h.sorted
  have hrest : s.queue.entries.drop (tickRun nowMs border s).head = rest := by
    have hhead : (tickRun nowMs border s).head = s.queue.head + gone.length := hd.head
    have hsplit : s.queue.entries.drop s.queue.head = gone ++ rest := hd.split
    rw [hhead, ← List.drop_drop, hsplit, List.drop_left]
  have hle : (tickRun nowMs border s).head ≤ s.queue.entries.length := by
    have hlength := congrArg List.length hd.split
    have hhead : (tickRun nowMs border s).head = s.queue.head + gone.length := hd.head
    have hbefore := h.head
    rw [FrontierAutoHealQueue.pending, List.length_drop, List.length_append] at hlength
    omega
  refine ⟨gone, rest, keys, hd, ?_, ?_⟩ <;> unfold tickFrontierAutoHeal compact <;> dsimp only <;>
    split
  · exact hrest
  · exact hrest
  · exact Nat.zero_le _
  · exact hle

theorem inv_tick {s : HealState} (h : Inv s) : Inv (tickFrontierAutoHeal nowMs border s) := by
  obtain ⟨gone, rest, keys, hd, hpending, hhead⟩ := tick_drained nowMs border h
  have hrewrites : (tickRun nowMs border s).rewrites.map Rewrite.tileKey = keys := by
    rw [hd.rewrites]
    simp [Function.comp_def]
  have hwaiting : ∀ key, (tickFrontierAutoHeal nowMs border s).waiting key
      = if key ∈ keys then none else s.waiting key := by
    intro key
    show (if key ∈ (tickRun nowMs border s).rewrites.map Rewrite.tileKey then none
      else s.waiting key) = _
    rw [hrewrites]
  refine ⟨?_, ?_, ?_, ?_, hhead⟩
  · intro key
    show _ = neutralStamp (tickRun nowMs border s).tiles key
    have hget := hd.tiles key
    rw [hwaiting]
    split
    next hmem =>
      rw [if_pos hmem] at hget
      rw [neutralStamp, hget]
      cases s.tiles.get key with
      | none => rfl
      | some tile => simp [settle_healAt]
    next hmem => rw [h.waiting, neutralStamp_congr (hget.trans (if_neg hmem))]
  · intro key deadline hdeadline
    rw [hwaiting] at hdeadline
    rw [hpending]
    split at hdeadline
    next => cases hdeadline
    next hnew =>
      exact hd.stays ((h.waiting key).symm.trans hdeadline) (h.queued key deadline hdeadline) hnew
  · rw [hpending]
    exact (List.pairwise_append.mp (hd.split ▸ h.sorted)).2.1
  · rw [hpending]
    exact fun entry hentry => h.bound entry (hd.split ▸ List.mem_append_right gone hentry)

theorem Drained.few {l gone rest : List FrontierAutoHealEntry} {keys : List TileXY}
    {run out : TickRun} (h : Drained nowMs border l run out gone rest keys)
    (hclean : (dueKeys nowMs run.tiles l).length ≤ FRONTIER_AUTO_HEAL_MAX_PER_TICK
      ∨ ∀ key ∈ (dueKeys nowMs run.tiles l).take FRONTIER_AUTO_HEAL_MAX_PER_TICK,
        (border key).isSome = true) : keys.length ≤ FRONTIER_AUTO_HEAL_MAX_PER_TICK := by
  by_contra hmany
  rw [not_le] at hmany
  have hlength := congrArg List.length h.due
  rw [List.length_append] at hlength
  have hcovered := hclean.resolve_left (by omega)
  have hguard := h.guard (fun hnil => by simp [hnil] at hmany)
  -- as many as the cap are healed before the last one is looked at
  have htake : keys.dropLast.take FRONTIER_AUTO_HEAL_MAX_PER_TICK
      = (dueKeys nowMs run.tiles l).take FRONTIER_AUTO_HEAL_MAX_PER_TICK := by
    rw [h.due, List.take_append_of_le_length hmany.le, List.dropLast_eq_take, List.take_take,
      Nat.min_eq_left (by omega)]
  have hcount : (keys.dropLast.take FRONTIER_AUTO_HEAL_MAX_PER_TICK).countP
      (fun key => (border key).isSome) = FRONTIER_AUTO_HEAL_MAX_PER_TICK := by
    rw [htake, List.countP_eq_length.mpr hcovered, List.length_take]
    omega
  have hle := (List.take_sublist FRONTIER_AUTO_HEAL_MAX_PER_TICK keys.dropLast).countP_le
    (p := fun key => (border key).isSome)
  omega

theorem tickRight_of_clean {s : HealState} (h : Inv s) (hclean : Clean s (.tick nowMs border)) :
    TickRight s nowMs border := by
  obtain ⟨gone, rest, keys, hd, hpending, -⟩ := tick_drained nowMs border h
  have hrewrites : (tickRun nowMs border s).rewrites
      = keys.map (fun key => ⟨key, border key⟩) := hd.rewrites
  have hkeys : (tickRun nowMs border s).rewrites.map Rewrite.tileKey = keys := by
    rw [hrewrites]
    simp [Function.comp_def]
  have hdue : dueKeys nowMs s.tiles s.queue.pending
      = keys ++ dueKeys nowMs (tickRun nowMs border s).tiles rest := hd.due
  constructor
  · intro r hr
    rw [hrewrites] at hr
    obtain ⟨key, hkey, rfl⟩ := List.mem_map.mp hr
    have hmem : key ∈ dueKeys nowMs s.tiles s.queue.pending := hdue ▸ List.mem_append_left _ hkey
    obtain ⟨entry, -, rfl, hentryDue, hlive⟩ := (mem_dueKeys _ key).mp hmem
    exact ⟨rfl, entry.deadlineAt, (h.waiting _).trans (isEntryLive_iff.mp hlive), hentryDue⟩
  · rw [hkeys]
    exact (List.nodup_append.mp (hdue ▸ nodup_dueKeys s.queue.pending)).1
  · rw [hrewrites, List.length_map]
    exact hd.few hclean
  · intro key deadline hwaiting hdeadline
    rw [hkeys, hpending]
    by_cases hnew : key ∈ keys
    · exact Or.inl hnew
    · have hstamp : neutralStamp s.tiles key = some deadline := (h.waiting key).symm.trans hwaiting
      have hqueued := h.queued key deadline hwaiting
      have hlater : key ∈ dueKeys nowMs (tickRun nowMs border s).tiles rest := by
        have hmem : key ∈ dueKeys nowMs s.tiles s.queue.pending :=
          (mem_dueKeys _ key).mpr ⟨_, hqueued, rfl, hdeadline, isEntryLive_iff.mpr hstamp⟩
        exact (List.mem_append.mp (hdue ▸ hmem)).resolve_left hnew
      -- something live and due is left, so the cap was reached
      have hcap := hd.ended.resolve_right (List.ne_nil_of_mem hlater)
      have hhealed := hd.healed
      have hcount := List.countP_le_length (p := fun key => (border key).isSome) (l := keys)
      have hfewer := hd.fewer
      exact Or.inr ⟨gone, by dsimp only at hhealed; omega, hd.split, hd.stays hstamp hqueued hnew⟩

end Tick

/-- **Every step keeps the invariant**, under the assumptions of the run and
its condition. -/
theorem inv_healStep {s : HealState} (h : Inv s) (step : HealStep) (horder : InOrder s step)
    (hclean : Clean s step) : Inv (healStep s step) := by
  cases step with
  | release nowMs keys => exact h.clearCutOff horder.1 horder.2
  | autoClaim ownerId keys =>
      exact List.foldlRecOn keys (claimTile ownerId) h (fun t ht key _ => ht.claimTile ownerId key)
  | capture ownerId key => exact h.setTile key (Or.inr rfl)
  | bombard b =>
      exact (List.foldlRecOn (motive := fun t => Inv t ∧ Clean t (.bombard b)) b.footprint
        (bombardTile b) ⟨h, hclean⟩ (fun _ ht _ hkey => ht.1.bombardTile ht.2 hkey)).1
  | tick nowMs border => exact inv_tick h

/-! ## §8. Every run. -/

theorem stepRight_of_clean {s : HealState} (h : Inv s) (step : HealStep) (horder : InOrder s step)
    (hclean : Clean s step) : StepRight s step := by
  refine ⟨(inv_healStep h step horder hclean).agrees, ?_⟩
  intro nowMs border hstep
  subst hstep
  exact tickRight_of_clean h hclean

/-- **The auto-heal does what it should**: in every run from a rebuilt queue
whose releases come in order below the queue's cap, in which bombardments hit
no stamped tile and no tick meets more due tiles than its cap or has covered
ones to begin with, the live queue and the tiles agree after every step and
every tick is right. -/
theorem auto_heal_right (tiles : Tiles) (clock : ℤ) (steps : List HealStep)
    (hboot : ∀ key deadline, neutralStamp tiles key = some deadline →
      deadline ≤ clock + FRONTIER_AUTO_HEAL_MS)
    (hmeet : Run.StepsMeet healStep (fun s step => InOrder s step ∧ Clean s step)
      (.boot tiles clock) steps) :
    Agrees (.boot tiles clock) ∧ Run.StepsMeet healStep StepRight (.boot tiles clock) steps := by
  have hinv : Inv (.boot tiles clock) := inv_boot hboot
  refine ⟨hinv.agrees, ?_⟩
  have halong : Run.Along healStep Inv (.boot tiles clock) steps :=
    Run.along_of_stepsMeet (fun s step h hstep => inv_healStep h step hstep.1 hstep.2) steps _
      hinv hmeet
  exact Run.StepsMeet.of_along (fun s step h hstep => stepRight_of_clean h step hstep.1 hstep.2)
    steps _ halong hmeet

def outpost : Tiles := InsertionMap.empty.set (0, 0) ⟨⟨some playerOne, some .FRONTIER⟩, .LAND, none⟩

def ownReach (_ : TileXY) : Option PlayerId := some playerOne

/-- With a second tile, and a rival's. -/
def borderland : Tiles :=
  (outpost.set (5, 5) ⟨⟨some playerOne, some .FRONTIER⟩, .LAND, none⟩).set (9, 9)
    ⟨⟨some playerTwo, some .FRONTIER⟩, .LAND, none⟩

/-- Two tiles are cut off, a rival's is bombarded, and both heal when their
time has come. -/
theorem auto_heal_borderland :
    Agrees (.boot borderland 0) ∧ Run.StepsMeet healStep StepRight (.boot borderland 0)
      [.release 0 [(0, 0), (5, 5)],
        .bombard ⟨(9, 9), fun ownerId => decide (ownerId = playerOne), fun _ => false⟩,
        .tick FRONTIER_AUTO_HEAL_MS ownReach] := by
  refine auto_heal_right borderland 0 _ ?_ ⟨⟨⟨le_rfl, by decide +kernel⟩, trivial⟩,
    ⟨trivial, fun key hkey tile hget _ => ?_⟩, ⟨trivial, Or.inl (by decide +kernel)⟩, trivial⟩
  · intro key deadline hstamp
    rw [borderland, outpost, neutralStamp_set, neutralStamp_set, neutralStamp_set] at hstamp
    split_ifs at hstamp
    cases hstamp
  · -- the footprint holds one tile, without a stamp
    have hbare : ∀ k ∈ Bombardment.footprint ⟨(9, 9), fun ownerId => decide (ownerId = playerOne),
          fun _ => false⟩,
        ((healStep (.boot borderland 0) (.release 0 [(0, 0), (5, 5)])).tiles.get k).all
          (·.healAt.isNone) = true := by decide +kernel
    have hnone := hbare key hkey
    rw [hget] at hnone
    exact Option.isNone_iff_eq_none.mp hnone

/-- The tile is cut off, claimed again by its owner, and bombarded. -/
def claimedThenBombed : List HealStep :=
  [.release 0 [(0, 0)], .autoClaim playerOne [(0, 0)],
    .bombard ⟨(0, 0), fun ownerId => decide (ownerId = playerTwo), fun _ => false⟩,
    .tick FRONTIER_AUTO_HEAL_MS ownReach]

/-- **A claimed tile that is bombarded is healed under the stamp of the
release before the claim.** -/
theorem bombarded_tile_healed_early :
    Run.StepsMeet healStep InOrder (.boot outpost 0) claimedThenBombed
      ∧ ¬ Run.StepsMeet healStep StepRight (.boot outpost 0) claimedThenBombed := by
  refine ⟨⟨⟨le_rfl, by decide +kernel⟩, trivial, trivial, trivial, trivial⟩, ?_⟩
  intro h
  have htick := h.2.2.2.1.2 FRONTIER_AUTO_HEAL_MS ownReach rfl
  generalize hstate : healStep (healStep (healStep (.boot outpost 0) _) _) _ = s at htick
  have hrewrites : (tickRun FRONTIER_AUTO_HEAL_MS ownReach s).rewrites
      = [⟨(0, 0), some playerOne⟩] := by
    subst hstate
    decide +kernel
  have hwaiting : s.waiting (0, 0) = none := by
    subst hstate
    decide +kernel
  obtain ⟨-, deadline, hdeadline, -⟩ := htick.waited _ (hrewrites ▸ List.mem_singleton_self _)
  have hsame : s.waiting (0, 0) = some deadline := hdeadline
  rw [hwaiting] at hsame
  cases hsame

end BorderEmpires.AutoHeal
