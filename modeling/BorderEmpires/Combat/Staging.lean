/-
  BorderEmpires.Combat.Staging
  **WHAT STAYS STAGED, STEP BY STEP.**

  `Keeps s t lost spent`: on the way from `s` to `t` every flag outside
  `lost` keeps its owner, and its manpower up to what `spent` names for it.
  A fight spends its cost and its shield's match; the flags that are lost
  stand on tiles that change hands, are cleared or run out, or are raised
  anew by another player.  `keeps_step` is the sum over all handlers, as
  `hands_step` is for owners.
-/
import BorderEmpires.Combat.Reservations
import BorderEmpires.Combat.Territory

namespace BorderEmpires.Combat

open CombatState

variable {W : WorldSize}

/-! ## §1. Flags that are kept. -/

/-- The owner is the same, and what is missing was spent. -/
def FlagKept : Option (MusterState W) → Option (MusterState W) → ℚ≥0 → Prop
  | none, _, _ => True
  | some _, none, _ => False
  | some m, some m', spent => m'.ownerId = m.ownerId ∧ m.amount ≤ m'.amount + spent

instance : ∀ (before after : Option (MusterState W)) (spent : ℚ≥0),
    Decidable (FlagKept before after spent)
  | none, _, _ => .isTrue trivial
  | some _, none, _ => .isFalse id
  | some m, some m', spent =>
      inferInstanceAs (Decidable (m'.ownerId = m.ownerId ∧ m.amount ≤ m'.amount + spent))

namespace FlagKept

variable {a b c : Option (MusterState W)} {x y : ℚ≥0}

theorem refl (a : Option (MusterState W)) (x : ℚ≥0) : FlagKept a a x := by
  cases a with
  | none => trivial
  | some m => exact ⟨rfl, le_self_add⟩

theorem mono (h : FlagKept a b x) (hle : x ≤ y) : FlagKept a b y := by
  cases a with
  | none => trivial
  | some m =>
      cases b with
      | none => exact h
      | some m' => exact ⟨h.1, h.2.trans (add_le_add_right hle _)⟩

theorem trans (h : FlagKept a b x) (h' : FlagKept b c y) : FlagKept a c (x + y) := by
  cases a with
  | none => trivial
  | some m =>
      cases b with
      | none => exact absurd h id
      | some m' =>
          cases c with
          | none => exact absurd h' id
          | some m'' =>
              refine ⟨h'.1.trans h.1, ?_⟩
              calc m.amount ≤ m'.amount + x := h.2
                _ ≤ m''.amount + y + x := add_le_add_left h'.2 x
                _ = m''.amount + (x + y) := by rw [add_assoc, add_comm y x]

end FlagKept

/-- Tiles whose flag a step may clear. -/
abbrev LostFlags (W : WorldSize) := List (TileKey W)

/-- Flags not in `lost` stand, less only what is `spent`. -/
def Keeps (s t : CombatState W) (lost : LostFlags W) (spent : TileKey W → ℚ≥0) : Prop :=
  ∀ key, key ∈ lost ∨ FlagKept (s.flagAt key) (t.flagAt key) (spent key)

namespace Keeps

variable {s t u : CombatState W} {lost lost' : LostFlags W} {spent spent' : TileKey W → ℚ≥0}

theorem of_tiles (h : t.tiles = s.tiles) : Keeps s t lost spent := by
  intro key
  refine Or.inr ?_
  unfold flagAt
  rw [h]
  exact FlagKept.refl _ _

theorem mono (h : Keeps s t lost spent) (hsub : ∀ key ∈ lost, key ∈ lost')
    (hle : ∀ key, spent key ≤ spent' key) : Keeps s t lost' spent' := by
  intro key
  rcases h key with hlost | hkept
  · exact Or.inl (hsub key hlost)
  · exact Or.inr (hkept.mono (hle key))

theorem trans (h : Keeps s t lost spent) (h' : Keeps t u lost' spent') :
    Keeps s u (lost ++ lost') (fun key => spent key + spent' key) := by
  intro key
  rcases h key with hlost | hkept
  · exact Or.inl (List.mem_append_left _ hlost)
  · rcases h' key with hlost' | hkept'
    · exact Or.inl (List.mem_append_right _ hlost')
    · exact Or.inr (hkept.trans hkept')

theorem still (h : Keeps s t lost spent) (htiles : u.tiles = t.tiles) :
    Keeps s u lost spent := by
  have hread : ∀ key, u.flagAt key = t.flagAt key := by
    intro key
    unfold flagAt
    rw [htiles]
  intro key
  rw [hread]
  exact h key

theorem after (htiles : t.tiles = s.tiles) (h : Keeps t u lost spent) : Keeps s u lost spent := by
  have hread : ∀ key, t.flagAt key = s.flagAt key := by
    intro key
    unfold flagAt
    rw [htiles]
  intro key
  rw [← hread]
  exact h key

theorem then_lose (h : Keeps s t [] spent) (h' : Keeps t u lost (fun _ => 0)) :
    Keeps s u lost spent :=
  (h.trans h').mono (fun _ hkey => hkey) (fun _ => le_of_eq (add_zero _))

end Keeps

variable {spent : TileKey W → ℚ≥0} (ctx : RuntimeLockResolutionContext W) (s : CombatState W)

theorem flagAt_replaceTileState (key key' : TileKey W) (tile : DomainTileState W) :
    (s.replaceTileState key tile).flagAt key'
      = if key = key' then tile.muster else s.flagAt key' := by
  show ((s.tiles.set key tile).get key').bind _ = _
  rw [InsertionMap.get_set]
  by_cases hkey : key = key'
  · rw [if_pos hkey, if_pos hkey]
    rfl
  · rw [if_neg hkey, if_neg hkey]
    rfl

theorem flagAt_of_get {s : CombatState W} {key : TileKey W} {tile : DomainTileState W}
    (h : s.tiles.get key = some tile) : s.flagAt key = tile.muster := by
  unfold flagAt
  rw [h]
  rfl

theorem keeps_rewrite {s t : CombatState W} {key : TileKey W} {tile old : DomainTileState W}
    (hold : s.tiles.get key = some old) (htiles : t.tiles = s.tiles.set key tile)
    (hkept : FlagKept old.muster tile.muster (spent key)) : Keeps s t [] spent := by
  intro key'
  refine Or.inr ?_
  have hread : t.flagAt key' = (s.replaceTileState key tile).flagAt key' := by
    unfold flagAt
    rw [htiles]
    rfl
  rw [hread, flagAt_replaceTileState]
  by_cases hkey : key = key'
  · rw [if_pos hkey, ← hkey, flagAt_of_get hold]
    exact hkept
  · rw [if_neg hkey]
    exact FlagKept.refl _ _

theorem keeps_overwrite {s t : CombatState W} {key : TileKey W} {tile : DomainTileState W}
    (spent : TileKey W → ℚ≥0) (htiles : t.tiles = s.tiles.set key tile) :
    Keeps s t [key] spent := by
  intro key'
  by_cases hkey : key = key'
  · exact Or.inl (by rw [hkey]; exact List.mem_singleton_self key')
  · refine Or.inr ?_
    have hread : t.flagAt key' = s.flagAt key' := by
      unfold flagAt
      rw [htiles, InsertionMap.get_set_ne _ hkey]
    rw [hread]
    exact FlagKept.refl _ _

/-! ## §2. Lists of replacements. -/

/-- The replaced tiles whose flag is not kept: the last replacement of a
tile decides. -/
def lostAmong (s : CombatState W) (spent : TileKey W → ℚ≥0)
    (changes : List (TileKey W × DomainTileState W)) : LostFlags W :=
  (changes.map Prod.fst).filter (fun key => ¬ FlagKept (s.flagAt key)
    ((AssocEntries.lookup key changes.reverse).bind (·.muster)) (spent key))

theorem tiles_replaceTiles (changes : List (TileKey W × DomainTileState W)) :
    ∀ s : CombatState W, (s.replaceTiles changes).tiles = s.tiles.setAll changes := by
  induction changes with
  | nil =>
      intro s
      rfl
  | cons change rest ih =>
      intro s
      exact ih (s.replaceTileState change.1 change.2)

theorem keeps_replaceTiles {s t : CombatState W} {lost : LostFlags W} (h : Keeps s t lost spent)
    (changes : List (TileKey W × DomainTileState W)) :
    Keeps s (t.replaceTiles changes) (lost ++ lostAmong s spent changes) spent := by
  intro key
  have hread : (t.replaceTiles changes).flagAt key
      = ((AssocEntries.lookup key changes.reverse).or (t.tiles.get key)).bind
          (·.muster) := by
    unfold flagAt
    rw [tiles_replaceTiles, InsertionMap.get_setAll]
  cases hlookup : AssocEntries.lookup key changes.reverse with
  | none =>
      rw [hread, hlookup, Option.none_or]
      rcases h key with hlost | hkept
      · exact Or.inl (List.mem_append_left _ hlost)
      · exact Or.inr hkept
  | some tile =>
      rw [hread, hlookup, Option.some_or]
      by_cases hkept : FlagKept (s.flagAt key) tile.muster (spent key)
      · exact Or.inr hkept
      · refine Or.inl (List.mem_append_right _ (List.mem_filter.mpr ⟨?_, ?_⟩))
        · have hmem := AssocEntries.mem_of_lookup hlookup
          exact List.mem_map.mpr ⟨(key, tile), List.mem_reverse.mp hmem, rfl⟩
        · rw [hlookup]
          exact decide_eq_true hkept

/-! ## §3. The muster commands. -/

theorem keeps_consumeOriginMuster (key : TileKey W) (playerId : PlayerId) (amount : ℚ≥0) :
    Keeps s (s.consumeOriginMuster key playerId amount) []
      (fun key' => if key = key' then amount else 0) := by
  unfold consumeOriginMuster
  split
  · exact Keeps.of_tiles rfl
  next tile htile =>
    split
    · exact Keeps.of_tiles rfl
    next muster hmuster =>
      split
      · refine keeps_rewrite htile rfl ?_
        rw [hmuster, if_pos rfl]
        exact ⟨rfl, le_tsub_add⟩
      · exact Keeps.of_tiles rfl

def setMusterLoses (s : CombatState W) (ctx : MusterCommandContext) (playerId : PlayerId)
    (payload : SetMusterPayload W) : LostFlags W :=
  match s.players.get playerId, s.tiles.get payload.tileKey with
  | some _, some target =>
      if setMusterRejection ctx s playerId payload target = none
        ∧ target.muster.any (fun m => m.ownerId ≠ playerId) = true
      then [payload.tileKey] else []
  | _, _ => []

theorem keeps_handleSetMusterCommand (ctx : MusterCommandContext) (s : CombatState W)
    (commandId : CommandId) (playerId : PlayerId) (payload : SetMusterPayload W) :
    Keeps s (s.handleSetMusterCommand ctx commandId playerId payload)
      (setMusterLoses s ctx playerId payload) (fun _ => 0) := by
  unfold handleSetMusterCommand setMusterLoses
  cases s.players.get playerId with
  | none => exact Keeps.of_tiles rfl
  | some actor =>
      cases htile : s.tiles.get payload.tileKey with
      | none => exact Keeps.of_tiles rfl
      | some target =>
          dsimp only
          cases setMusterRejection ctx s playerId payload target with
          | some rejection => exact Keeps.of_tiles rfl
          | none =>
              dsimp only
              cases hmuster : target.muster with
              | none =>
                  refine (keeps_rewrite htile rfl ?_).mono
                    (fun _ hkey => absurd hkey List.not_mem_nil) (fun _ => le_rfl)
                  rw [hmuster]
                  trivial
              | some muster =>
                  by_cases howner : muster.ownerId = playerId
                  · refine (keeps_rewrite htile rfl ?_).mono
                      (fun _ hkey => absurd hkey List.not_mem_nil) (fun _ => le_rfl)
                    rw [hmuster]
                    -- a standing flag keeps what it has staged
                    refine ⟨howner.symm, ?_⟩
                    simp [musterAfterSet, hmuster, Option.filter, howner]
                  · rw [if_pos ⟨rfl, by rw [Option.any_some]; exact decide_eq_true howner⟩]
                    exact keeps_overwrite _ rfl

def clearMusterLoses (s : CombatState W) (playerId : PlayerId) (tileKey : TileKey W) :
    LostFlags W :=
  match s.players.get playerId, s.tiles.get tileKey with
  | some _, some target =>
      if clearMusterRejection s playerId tileKey target = none then [tileKey] else []
  | _, _ => []

theorem keeps_handleClearMusterCommand (ctx : MusterCommandContext) (s : CombatState W)
    (commandId : CommandId) (playerId : PlayerId) (tileKey : TileKey W) :
    Keeps s (s.handleClearMusterCommand ctx commandId playerId tileKey)
      (clearMusterLoses s playerId tileKey) (fun _ => 0) := by
  unfold handleClearMusterCommand clearMusterLoses
  cases s.players.get playerId with
  | none => exact Keeps.of_tiles rfl
  | some actor =>
      cases s.tiles.get tileKey with
      | none => exact Keeps.of_tiles rfl
      | some target =>
          dsimp only
          cases target.muster with
          | none => exact Keeps.of_tiles rfl
          | some muster =>
              dsimp only
              cases clearMusterRejection s playerId tileKey target with
              | some rejection => exact Keeps.of_tiles rfl
              | none =>
                  rw [if_pos rfl]
                  exact keeps_overwrite _ rfl

/-- The flag one visit of the tick clears. -/
def tickLoses (ctx : MusterTickContext W) (s : CombatState W) (playerId : PlayerId)
    (key : TileKey W) : LostFlags W :=
  match s.players.get playerId, s.flagAt key with
  | some player, some muster =>
      if muster.ownerId = playerId ∧ flagExpires ctx s.now player key muster = true then [key]
      else []
  | _, _ => []

theorem keeps_tickFlag (ctx : MusterTickContext W) (s : CombatState W) (playerId : PlayerId)
    (key : TileKey W) :
    Keeps s (s.tickFlag ctx playerId key) (tickLoses ctx s playerId key) (fun _ => 0) := by
  unfold tickFlag tickLoses
  cases s.players.get playerId with
  | none => exact Keeps.of_tiles rfl
  | some player =>
      cases htile : s.tiles.get key with
      | none => exact Keeps.of_tiles rfl
      | some tile =>
          rw [flagAt_of_get htile]
          dsimp only
          cases hmuster : tile.muster with
          | none => exact Keeps.of_tiles rfl
          | some muster =>
              dsimp only
              by_cases howner : muster.ownerId = playerId
              · rw [if_neg (not_not.mpr howner)]
                by_cases hexpires : flagExpires ctx s.now player key muster = true
                · rw [if_pos hexpires, if_pos ⟨howner, hexpires⟩]
                  exact keeps_overwrite _ rfl
                · have hstays : ¬ (muster.ownerId = playerId
                      ∧ flagExpires ctx s.now player key muster = true) := fun h => hexpires h.2
                  rw [if_neg hexpires, if_neg hstays]
                  split
                  · refine keeps_rewrite htile rfl ?_
                    rw [hmuster]
                    exact ⟨rfl, le_self_add.trans le_self_add⟩
                  · split
                    · refine keeps_rewrite htile rfl ?_
                      rw [hmuster]
                      exact ⟨rfl, le_self_add⟩
                    · exact Keeps.of_tiles rfl
              · rw [if_pos howner]
                exact Keeps.of_tiles rfl

/-! ## §4. Frontier commands. -/

def launchLoses (s : CombatState W) (lock : LockRecord W) : LostFlags W :=
  if lock.barbarianLaunch = true ∧ s.ownerAt lock.originKey = some barbarianFaction then
    [lock.originKey]
  else []

theorem keeps_launchBarbarianAttack (lock : LockRecord W) (hlaunch : lock.barbarianLaunch = true) :
    Keeps s (launchBarbarianAttack s lock) (launchLoses s lock) (fun _ => 0) := by
  unfold launchBarbarianAttack
  split
  next origin horigin =>
    split
    next howner =>
      have hlost : launchLoses s lock = [lock.originKey] := by
        refine if_pos ⟨hlaunch, ?_⟩
        show (s.tiles.get lock.originKey).bind _ = _
        rw [horigin]
        exact howner
      rw [hlost]
      exact keeps_overwrite _ rfl
    · exact Keeps.of_tiles rfl
  · exact Keeps.of_tiles rfl

theorem keeps_acceptFrontierCommand (ctx : RuntimeFrontierCommandContext W) (s : CombatState W)
    (baseLock : LockRecord W) :
    Keeps s (acceptFrontierCommand ctx s baseLock) (launchLoses s (storedLock ctx s baseLock))
      (fun _ => 0) := by
  unfold acceptFrontierCommand
  dsimp only
  show Keeps s _ (launchLoses s (rolledLock ctx (chargeExpansion (reserveForAttack s baseLock)
    baseLock) baseLock)) _
  generalize rolledLock ctx (chargeExpansion (reserveForAttack s baseLock) baseLock)
    baseLock = lock
  have hreserved := tiles_reserved s baseLock lock
  generalize reserveShield _ lock = reserved at hreserved ⊢
  have hloses : launchLoses reserved lock = launchLoses s lock := by
    unfold launchLoses ownerAt
    rw [hreserved]
  have hlaunched : Keeps s (if lock.barbarianLaunch = true then launchBarbarianAttack reserved lock
      else reserved) (launchLoses s lock) (fun _ => 0) := by
    split
    next hlaunch =>
      have hkeeps := keeps_launchBarbarianAttack reserved lock hlaunch
      rw [hloses] at hkeeps
      exact hkeeps.after hreserved
    · exact Keeps.of_tiles hreserved
  exact hlaunched.still rfl

/-- The flags a frontier command loses: on a cut-off launch tile that is
released, or on the launch tile of a barbarian. -/
def frontierLoses (ctx : RuntimeFrontierCommandContext W) (s : CombatState W)
    (command : CommandEnvelope W) (actionType : FrontierCommandType) : LostFlags W :=
  match frontierVerdict ctx (regenerated ctx s command) command actionType with
  | .rejected _ _ => []
  | .cutOff released => lostAmong s (fun _ => 0) released
  | .accepted baseLock =>
      launchLoses (regenerated ctx s command) (storedLock ctx (regenerated ctx s command) baseLock)

theorem keeps_handleFrontierCommandImpl (ctx : RuntimeFrontierCommandContext W)
    (s : CombatState W) (command : CommandEnvelope W) (actionType : FrontierCommandType) :
    Keeps s (handleFrontierCommandImpl ctx s command actionType)
      (frontierLoses ctx s command actionType) (fun _ => 0) := by
  have hregen := tiles_regenerated ctx s command
  rw [handleFrontierCommandImpl_eq]
  unfold frontierLoses
  cases frontierVerdict ctx (regenerated ctx s command) command actionType with
  | rejected code message => exact Keeps.of_tiles hregen
  | cutOff released =>
      have hstill : Keeps s (regenerated ctx s command) [] (fun _ => 0) := Keeps.of_tiles hregen
      exact (keeps_replaceTiles hstill released).still rfl
  | accepted baseLock => exact (keeps_acceptFrontierCommand ctx _ baseLock).after hregen

/-! ## §5. Fights. -/

/-- The lock carries what its fight needs: an attack its roll, and, a
barbarian's apart, the flag that pays for it. -/
structure LockRecord.Furnished (lock : LockRecord W) : Prop where
  rolled : lock.actionType = .ATTACK → lock.combatResolution.isSome = true
  funded : lock.actionType = .ATTACK → isBarbarianFaction lock.playerId = false →
    lock.musterSourceKey.isSome = true

theorem keeps_spendAttackerMuster {lock : LockRecord W} (hlock : lock.Furnished) :
    Keeps s (spendAttackerMuster s lock) [] lock.fundedAt := by
  unfold spendAttackerMuster
  split
  next htype _ =>
    split
    · exact Keeps.of_tiles rfl
    next hbarb =>
      obtain ⟨source, hsource⟩ := Option.isSome_iff_exists.mp
        (hlock.funded htype (Bool.not_eq_true _ ▸ hbarb))
      rw [hsource, Option.getD_some]
      refine (keeps_consumeOriginMuster s source lock.playerId lock.manpowerCost).mono
        (fun _ hkey => hkey) (fun key => ?_)
      unfold LockRecord.fundedAt
      rw [hsource]
      by_cases hkey : source = key
      · rw [if_pos hkey, if_pos ⟨htype, congrArg some hkey⟩]
      · rw [if_neg hkey]
        exact zero_le
  · exact Keeps.of_tiles rfl

theorem lockOutcome_shield {lock : LockRecord W} (h : lock.combatResolution.isSome = true) :
    (lockOutcome ctx s lock).combatResolution.shield = lock.shield := by
  obtain ⟨resolution, hresolution⟩ := Option.isSome_iff_exists.mp h
  unfold lockOutcome LockRecord.shield
  rw [hresolution]
  dsimp only [Option.getD_some, Option.bind_some]
  split <;> rfl

theorem keeps_applyShieldConsumptionAndReveal (s t : CombatState W) {lock : LockRecord W}
    (hlock : lock.Furnished) :
    Keeps t (applyShieldConsumptionAndReveal t lock (lockOutcome ctx s lock)) []
      lock.shieldedAt := by
  unfold applyShieldConsumptionAndReveal
  split
  next shield previousOwnerId htype hshield hprevious =>
    rw [lockOutcome_shield ctx s (hlock.rolled htype)] at hshield
    have hkeeps : Keeps t (t.consumeOriginMuster shield.tileKey previousOwnerId shield.matched) []
        lock.shieldedAt := by
      refine (keeps_consumeOriginMuster t _ _ _).mono (fun _ hkey => hkey) (fun key => ?_)
      unfold LockRecord.shieldedAt
      rw [hshield]
    dsimp only
    split
    · exact hkeeps.still rfl
    · exact hkeeps
  · exact Keeps.of_tiles rfl

/-- The defender's tile is free to be left: a barbarian's, and in no fight. -/
def defenderLeaves (s : CombatState W) (lock : LockRecord W) : Prop :=
  s.ownerAt lock.targetKey = some barbarianFaction
    ∧ ((s.locksByTile.targets.get lock.targetKey).isSome
      || (s.locksByTile.origins.get lock.targetKey).isSome) = false

instance (s : CombatState W) (lock : LockRecord W) : Decidable (defenderLeaves s lock) :=
  inferInstanceAs (Decidable (_ ∧ _))

/-- The flags a fight loses: on the captured tile, on the lost launch tile,
or on the tile a barbarian defender leaves for it. -/
def fightLoses (s : CombatState W) (lock : LockRecord W) (outcome : LockOutcome W) : LostFlags W :=
  if outcome.attackerWon then [lock.targetKey]
  else match outcome.originLost, outcome.previousOwnerId with
    | true, some previousOwnerId =>
        lock.originKey :: (if isBarbarianFaction previousOwnerId = true ∧ defenderLeaves s lock
          then [lock.targetKey] else [])
    | _, _ => []

theorem keeps_releaseBarbarianDefender {s u : CombatState W} {lock : LockRecord W}
    (hkeeps : Keeps s u [lock.originKey] spent)
    (howner : lock.originKey ≠ lock.targetKey →
      u.ownerAt lock.targetKey = some barbarianFaction →
      s.ownerAt lock.targetKey = some barbarianFaction) (hindex : u.locksByTile = s.locksByTile) :
    Keeps s (releaseBarbarianDefender u lock)
      (lock.originKey :: (if defenderLeaves s lock then [lock.targetKey] else [])) spent := by
  have hstays : Keeps s u
      (lock.originKey :: (if defenderLeaves s lock then [lock.targetKey] else [])) spent := by
    refine hkeeps.mono (fun key hkey => ?_) (fun _ => le_rfl)
    rw [List.mem_singleton] at hkey
    rw [hkey]
    exact List.mem_cons_self
  unfold releaseBarbarianDefender
  split
  next defenderTile hdefender =>
    dsimp only
    split
    next hleaves =>
      have hmoved : Keeps s (u.replaceTileState lock.targetKey
          (releasedBarbarianTile defenderTile)) [lock.originKey, lock.targetKey] spent :=
        (hkeeps.trans (keeps_overwrite (fun _ => 0) rfl)).mono
          (fun _ hkey => hkey) (fun _ => le_of_eq (add_zero _))
      refine (hmoved.mono (fun key hkey => ?_) (fun _ => le_rfl)).still rfl
      by_cases hsame : lock.originKey = lock.targetKey
      · -- the target is the launch tile, which is lost already
        rw [← hsame] at hkey
        have horigin : key = lock.originKey := by simpa using hkey
        rw [horigin]
        exact List.mem_cons_self
      · have hreads : u.ownerAt lock.targetKey = some barbarianFaction := by
          unfold ownerAt
          rw [hdefender]
          exact hleaves.1
        have hfree : defenderLeaves s lock := by
          refine ⟨howner hsame hreads, ?_⟩
          rw [← hindex]
          exact hleaves.2
        rw [if_pos hfree]
        exact hkey
    · exact hstays
  · exact hstays

theorem keeps_applyTerritory {s t : CombatState W} (lock : LockRecord W) (outcome : LockOutcome W)
    (hkeeps : Keeps s t [] spent) (hhands : Hands s t []) (hindex : t.locksByTile = s.locksByTile) :
    Keeps s (applyTerritory ctx t lock outcome)
      (fightLoses s lock outcome ++ lostAmong s spent ctx.aftermath) spent := by
  -- a tile that is the barbarian's now was the barbarian's before
  have howner : t.ownerAt lock.targetKey = some barbarianFaction →
      s.ownerAt lock.targetKey = some barbarianFaction := by
    intro h
    rcases hhands lock.targetKey with hsame | hnone | ⟨p, _, hmem⟩
    · rw [← hsame, h]
    · rw [h] at hnone
      cases hnone
    · exact absurd hmem List.not_mem_nil
  have haftermath : ∀ {u : CombatState W}, Keeps s u (fightLoses s lock outcome) spent →
      Keeps s (applyAftermath u lock ctx.aftermath)
        (fightLoses s lock outcome ++ lostAmong s spent ctx.aftermath) spent := by
    intro u hu
    exact (keeps_replaceTiles hu ctx.aftermath).still (tiles_applyAftermath lock _ u u rfl)
  have hshown : ∀ u : CombatState W, (if outcome.hasDefendingForce = true
      then showHeldTarget u lock else u).tiles = u.tiles := by
    intro u
    split
    · unfold showHeldTarget
      split <;> rfl
    · rfl
  unfold applyTerritory
  dsimp only
  refine haftermath ?_
  unfold fightLoses
  by_cases hwon : outcome.attackerWon = true
  · rw [if_pos hwon, if_pos hwon]
    exact hkeeps.then_lose (keeps_overwrite _ rfl)
  · rw [if_neg hwon, if_neg hwon]
    refine Keeps.still ?_ (hshown _)
    cases outcome.originLost with
    | false => exact hkeeps
    | true =>
        cases outcome.previousOwnerId with
        | none => exact hkeeps
        | some previousOwnerId =>
            dsimp only
            unfold resolveLostOrigin
            split
            · exact hkeeps.mono (fun _ hkey => absurd hkey List.not_mem_nil) (fun _ => le_rfl)
            next previousOrigin horigin =>
              dsimp only
              have hlost : Keeps s ((t.replaceTileState lock.originKey
                  (lostOriginTile previousOrigin previousOwnerId)).emitEvent
                  (.TILE_DELTA_BATCH lock.commandId lock.playerId [tileDelta lock.originKey
                    (lostOriginTile previousOrigin previousOwnerId)])) [lock.originKey] spent :=
                (hkeeps.then_lose (keeps_overwrite _ rfl)).still rfl
              by_cases hbarb : isBarbarianFaction previousOwnerId = true
              · rw [if_pos hbarb]
                simp only [hbarb, true_and]
                refine keeps_releaseBarbarianDefender hlost (fun hne hreads => ?_) hindex
                have hsame := ownerAt_replaceTileState t lock.originKey lock.targetKey
                  (lostOriginTile previousOrigin previousOwnerId)
                rw [if_neg hne] at hsame
                exact howner (hsame.symm.trans hreads)
              · rw [if_neg hbarb, if_neg (fun h => hbarb h.1)]
                exact hlost

theorem keeps_fightPaid {lock : LockRecord W} (hlock : lock.Furnished) :
    Keeps s (fightPaid ctx s lock) [] lock.reserves := by
  have htiles : ((adjustPoints s lock.playerId (fun points =>
      max 0 (points - FRONTIER_CLAIM_COST))).emitEvent (resolvedEvent ctx s lock)).tiles
      = s.tiles := tiles_adjustPoints s lock.playerId _
  have hspent : Keeps s (fightSpent ctx s lock) [] lock.fundedAt := by
    unfold fightSpent
    exact Keeps.after htiles (keeps_spendAttackerMuster _ hlock)
  have hshield := hspent.trans
    (keeps_applyShieldConsumptionAndReveal ctx s (fightSpent ctx s lock) hlock)
  exact hshield.still (tiles_applyCapturePlunder _ lock _ _ _)

theorem locksByTile_fightPaid (lock : LockRecord W) :
    (fightPaid ctx s lock).locksByTile = s.locksByTile := by
  have hbooks : (fightPaid ctx s lock).books = s.books.log (resolvedEvent ctx s lock) := by
    unfold fightPaid fightSpent
    dsimp only
    rw [books_applyCapturePlunder, books_applyShieldConsumptionAndReveal,
      books_spendAttackerMuster, books_emitLockEvent _ rfl, books_adjustPoints]
  exact congrArg Books.locksByTile hbooks

theorem keeps_resolveFight {lock : LockRecord W} (hlock : lock.Furnished) :
    Keeps s (resolveFight ctx s lock)
      (fightLoses s lock (lockOutcome ctx s lock) ++ lostAmong s lock.reserves ctx.aftermath)
      lock.reserves :=
  keeps_applyTerritory ctx lock (lockOutcome ctx s lock) (keeps_fightPaid ctx s hlock)
    (hands_fightPaid ctx s lock) (locksByTile_fightPaid ctx s lock)

def resolutionLoses (ctx : RuntimeLockResolutionContext W) (s : CombatState W)
    (lock : LockRecord W) : LostFlags W :=
  if s.locksByTile.ownsTargetSlot lock = true then
    fightLoses (released (unbuffered s) lock) lock (fightOutcome ctx s lock)
      ++ lostAmong (released (unbuffered s) lock) lock.reserves ctx.aftermath
  else []

def resolutionSpends (s : CombatState W) (lock : LockRecord W) (key : TileKey W) : ℚ≥0 :=
  if s.locksByTile.ownsTargetSlot lock = true then lock.reserves key else 0

theorem keeps_resolveLock {lock : LockRecord W} (hlock : lock.Furnished) :
    Keeps s (resolveLock ctx s lock) (resolutionLoses ctx s lock) (resolutionSpends s lock) := by
  have hreleased : (released (unbuffered s) lock).tiles = s.tiles :=
    released_tiles (unbuffered s) lock
  refine Keeps.still (t := resolveLockUnbuffered ctx (unbuffered s) lock) ?_ rfl
  unfold resolveLockUnbuffered resolutionLoses
  dsimp only
  rw [locksByTile_released]
  by_cases howns : s.locksByTile.ownsTargetSlot lock = true
  · rw [if_pos howns, if_pos howns]
    have hfight := keeps_resolveFight ctx (released (unbuffered s) lock) hlock
    refine (hfight.after hreleased).mono (fun _ hkey => hkey) (fun key => ?_)
    exact le_of_eq (if_pos howns).symm
  · rw [if_neg howns, if_neg howns]
    split
    · exact Keeps.of_tiles ((tiles_refundExpandManpower _ _ lock).trans hreleased)
    · exact Keeps.of_tiles hreleased

/-! ## §6. Every step. -/

theorem keeps_applyReachAutoClaim (causeCommandId : CommandId) (ownerId : PlayerId)
    (tileKeys : List (TileKey W)) :
    Keeps s (applyReachAutoClaim s causeCommandId ownerId tileKeys) (claimable s tileKeys)
      (fun _ => 0) := by
  refine Keeps.still ?_ (tiles_applyReachAutoClaim s causeCommandId ownerId tileKeys)
  intro key
  rcases reachClaims_spec s ownerId tileKeys key with hsame | ⟨_, hmem⟩
  · refine Or.inr ?_
    unfold flagAt
    rw [hsame]
    exact FlagKept.refl _ _
  · exact Or.inl hmem

def loses (s : CombatState W) : Event W → LostFlags W
  | .frontier ctx command actionType => frontierLoses ctx s command actionType
  | .timer ctx i =>
      match dueLock s i with
      | some lock => resolutionLoses ctx { s with scheduled := s.scheduled.eraseIdx i } lock
      | none => []
  | .rushBuy ctx price _ playerId targetKey =>
      match rushedLock s price playerId targetKey with
      | some lock => resolutionLoses ctx
          (adjustPoints s playerId (fun points => points - price)) lock
      | none => []
  | .setMuster ctx _ playerId payload => setMusterLoses s ctx playerId payload
  | .clearMuster _ _ playerId tileKey => clearMusterLoses s playerId tileKey
  | .musterTick ctx playerId key => tickLoses ctx s playerId key
  | .reachAutoClaim _ _ tileKeys => claimable s tileKeys
  | .territory changes => lostAmong s (fun _ => 0) changes
  | _ => []

/-- Staged manpower a step takes from a flag. -/
def spends (s : CombatState W) (e : Event W) (key : TileKey W) : ℚ≥0 :=
  match resolvingLock s e with
  | some lock => resolutionSpends s lock key
  | none => 0

/-- **Step lemma**: flags are kept but for what is listed. -/
theorem keeps_step (e : Event W) (hlock : ∀ lock, resolvingLock s e = some lock → lock.Furnished) :
    Keeps s (step s e) (loses s e) (spends s e) := by
  cases e with
  | frontier ctx command actionType =>
      exact keeps_handleFrontierCommandImpl ctx s command actionType
  | timer ctx i =>
      show Keeps s (fireTimer ctx s i) _ _
      unfold fireTimer loses spends
      unfold resolvingLock at hlock ⊢
      dsimp only at hlock ⊢
      cases hdue : dueLock s i with
      | none => exact Keeps.of_tiles rfl
      | some lock =>
          exact (keeps_resolveLock ctx { s with scheduled := s.scheduled.eraseIdx i }
            (hlock lock hdue)).after rfl
  | rushBuy ctx price commandId playerId targetKey =>
      have htiles := handleRushBuyExpand_eq ctx price s commandId playerId targetKey
      show Keeps s (handleRushBuyExpand ctx price s commandId playerId targetKey) _ _
      unfold loses spends
      unfold resolvingLock at hlock ⊢
      dsimp only at hlock ⊢
      cases hrushed : rushedLock s price playerId targetKey with
      | none =>
          rw [hrushed] at htiles
          exact Keeps.of_tiles htiles
      | some lock =>
          rw [hrushed] at htiles
          have hpaid : (adjustPoints s playerId (fun points => points - price)).tiles = s.tiles :=
            tiles_adjustPoints s playerId _
          have hindex : (adjustPoints s playerId (fun points => points - price)).locksByTile
              = s.locksByTile := congrArg Books.locksByTile (books_adjustPoints s playerId _)
          have hresolved := keeps_resolveLock ctx
            (adjustPoints s playerId (fun points => points - price)) (hlock lock hrushed)
          refine ((hresolved.after hpaid).mono (fun _ hkey => hkey) (fun key => ?_)).still htiles
          unfold resolutionSpends
          rw [hindex]
  | cancelCapture commandId playerId =>
      exact Keeps.of_tiles (tiles_handleCancelCaptureCommand s commandId playerId)
  | orphanedLockSweep => exact Keeps.of_tiles (tiles_tickOrphanedLockSweep s)
  | setMuster ctx commandId playerId payload =>
      exact keeps_handleSetMusterCommand ctx s commandId playerId payload
  | clearMuster ctx commandId playerId tileKey =>
      exact keeps_handleClearMusterCommand ctx s commandId playerId tileKey
  | musterTick ctx playerId key => exact keeps_tickFlag ctx s playerId key
  | reachAutoClaim causeCommandId ownerId tileKeys =>
      exact keeps_applyReachAutoClaim s causeCommandId ownerId tileKeys
  | territory changes =>
      have hstill : Keeps s s [] (fun _ => 0) := Keeps.of_tiles rfl
      exact keeps_replaceTiles hstill changes
  | account playerId player => exact Keeps.of_tiles rfl
  | wait ms => exact Keeps.of_tiles rfl

end BorderEmpires.Combat
