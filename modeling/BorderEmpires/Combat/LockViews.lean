/-
  BorderEmpires.Combat.LockViews
  **WHAT THE LOCK INDEX SHOWS AFTER ANY CALLS.**

  A lock is live from its `addLock` until a `removeLock`, or another
  `addLock`, names its command id.  Held against that list, the views of
  `CombatLockIndex` are `ViewsRight` as long as no call frees a contested
  slot or names a live command with other tiles.
-/
import BorderEmpires.Combat.LockIndex
import BorderEmpires.Lib.Run

namespace BorderEmpires.Combat

variable {W : WorldSize}

/-! ## §1. The other views. -/

namespace CombatLockIndex

def has (index : CombatLockIndex W) (key : TileKey W) : Bool :=
  index.targets.has key || index.origins.has key

/-- The contested tiles, then the launch tiles that are not contested. -/
def keys (index : CombatLockIndex W) : List (TileKey W) :=
  index.targets.keys ++ index.origins.keys.filter (fun key => !index.targets.has key)

theorem targetLockAt_removeLock (index : CombatLockIndex W) (lock : LockRecord W)
    (key : TileKey W) :
    (index.removeLock lock).targetLockAt key
      = if index.ownsTargetSlot lock = true ∧ lock.targetKey = key then none
        else index.targetLockAt key := by
  show (if index.ownsTargetSlot lock = true then index.targets.erase lock.targetKey
    else index.targets).get key = _
  by_cases howns : index.ownsTargetSlot lock = true
  · rw [if_pos howns, InsertionMap.get_erase]
    simp [howns, targetLockAt]
  · rw [if_neg howns, if_neg (fun h => howns h.1)]
    rfl

theorem originLocksAt_removeLock (index : CombatLockIndex W) (lock : LockRecord W)
    (key : TileKey W) :
    (index.removeLock lock).originLocksAt key
      = if lock.originKey = key
        then (index.originLocksAt key).filter
          (fun candidate => candidate.commandId ≠ lock.commandId)
        else index.originLocksAt key := by
  show ((dropOrigin index.origins lock).get key).getD [] = _
  unfold dropOrigin originLocksAt
  by_cases hkey : lock.originKey = key
  · rw [if_pos hkey, hkey]
    cases hat : index.origins.get key with
    | none => simp [hat]
    | some atOrigin =>
        dsimp only
        split
        next hempty =>
          rw [InsertionMap.get_erase_self]
          exact hempty.symm
        next => simp
  · rw [if_neg hkey]
    cases index.origins.get lock.originKey with
    | none => rfl
    | some atOrigin =>
        dsimp only
        split
        next => rw [InsertionMap.get_erase_ne _ hkey]
        next => rw [InsertionMap.get_set_ne _ hkey]

theorem targetLockAt_addLock_free {index : CombatLockIndex W} {lock : LockRecord W}
    (hfree : index.locksByCommandId.get lock.commandId = none) (key : TileKey W) :
    (index.addLock lock).targetLockAt key
      = if lock.targetKey = key then some lock else index.targetLockAt key := by
  unfold addLock targetLockAt
  rw [hfree]
  exact InsertionMap.get_set _ _ _ _

theorem originLocksAt_addLock_free {index : CombatLockIndex W} {lock : LockRecord W}
    (hfree : index.locksByCommandId.get lock.commandId = none) (key : TileKey W) :
    (index.addLock lock).originLocksAt key
      = if lock.originKey = key then index.originLocksAt key ++ [lock]
        else index.originLocksAt key := by
  unfold addLock originLocksAt
  rw [hfree]
  dsimp only
  rw [InsertionMap.get_set]
  by_cases hkey : lock.originKey = key
  · rw [if_pos hkey, if_pos hkey, hkey]
    rfl
  · rw [if_neg hkey, if_neg hkey]

theorem addLock_replace {index : CombatLockIndex W} (hkeyed : index.Keyed)
    {lock old : LockRecord W} (hold : index.locksByCommandId.get lock.commandId = some old) :
    index.addLock lock = (index.removeLock old).addLock lock := by
  have hfree : (index.removeLock old).locksByCommandId.get lock.commandId = none := by
    rw [removeLock_locksByCommandId, hkeyed _ _ hold, InsertionMap.get_erase_self]
  unfold addLock
  rw [hold, hfree]

/-- No launch tile is kept with no lock. -/
def OriginsFilled (index : CombatLockIndex W) : Prop := ∀ key, index.origins.get key ≠ some []

theorem OriginsFilled.removeLock {index : CombatLockIndex W} (h : index.OriginsFilled)
    (lock : LockRecord W) : (index.removeLock lock).OriginsFilled := by
  intro key
  show (dropOrigin index.origins lock).get key ≠ some []
  unfold dropOrigin
  cases index.origins.get lock.originKey with
  | none => exact h key
  | some atOrigin =>
      dsimp only
      split
      next =>
        rw [InsertionMap.get_erase]
        split
        · simp
        · exact h key
      next hkept =>
        rw [InsertionMap.get_set]
        split
        · exact fun hnil => hkept (Option.some.inj hnil)
        · exact h key

theorem OriginsFilled.addLock {index : CombatLockIndex W} (h : index.OriginsFilled)
    (lock : LockRecord W) : (index.addLock lock).OriginsFilled := by
  intro key
  unfold CombatLockIndex.addLock
  dsimp only
  rw [InsertionMap.get_set]
  by_cases hkey : lock.originKey = key
  · rw [if_pos hkey]
    simp
  · rw [if_neg hkey]
    cases index.locksByCommandId.get lock.commandId with
    | none => exact h key
    | some existing => exact h.removeLock existing key

theorem OriginsFilled.has_iff {index : CombatLockIndex W} (h : index.OriginsFilled)
    (key : TileKey W) :
    index.origins.has key = true ↔ ∃ lock, lock ∈ index.originLocksAt key := by
  unfold InsertionMap.has originLocksAt
  cases hat : index.origins.get key with
  | none => simp
  | some atOrigin =>
      have hne : atOrigin ≠ [] := fun hnil => h key (hnil ▸ hat)
      simpa using List.exists_mem_of_ne_nil atOrigin hne

theorem mem_keys_iff_has (index : CombatLockIndex W) (key : TileKey W) :
    key ∈ index.keys ↔ index.has key = true := by
  unfold keys has
  rw [List.mem_append, List.mem_filter, InsertionMap.mem_keys_iff, InsertionMap.mem_keys_iff]
  unfold InsertionMap.has
  cases (index.targets.get key).isSome <;> simp

theorem keys_nodup (index : CombatLockIndex W) : index.keys.Nodup := by
  unfold keys
  refine List.Nodup.append index.targets.nodupKeys (index.origins.nodupKeys.filter _) ?_
  intro key htarget horigin
  have hnone : index.targets.has key = false := by simpa using (List.mem_filter.mp horigin).2
  rw [InsertionMap.has, (index.targets.mem_keys_iff key).mp htarget] at hnone
  cases hnone

theorem values_addLock {index : CombatLockIndex W} (hkeyed : index.Keyed)
    (lock : LockRecord W) :
    (index.addLock lock).values = (index.removeLock lock).values ++ [lock] := by
  unfold values
  rw [addLock_locksByCommandId hkeyed, removeLock_locksByCommandId]
  generalize hroom : index.locksByCommandId.erase lock.commandId = room
  have hfree : lock.commandId ∉ room.keys := by
    rw [InsertionMap.mem_keys_iff, ← hroom, InsertionMap.get_erase_self]
    simp
  show (AssocEntries.put lock.commandId lock room.entries).map Prod.snd = _
  rw [AssocEntries.put_of_notMem hfree, List.map_append, List.map_singleton]

theorem values_removeLock {index : CombatLockIndex W} (hkeyed : index.Keyed)
    (lock : LockRecord W) :
    (index.removeLock lock).values
      = index.values.filter (fun l => l.commandId ≠ lock.commandId) := by
  show ((index.locksByCommandId.entries.filter (fun e => e.1 ≠ lock.commandId)).map Prod.snd) = _
  unfold values
  rw [List.filter_map]
  refine congrArg (List.map Prod.snd) (List.filter_congr ?_)
  rintro ⟨id, l⟩ hmem
  have hid := hkeyed id l ((index.locksByCommandId.mem_entries_iff id l).mp hmem)
  simp [hid]

theorem values_ids_nodup {index : CombatLockIndex W} (hkeyed : index.Keyed) :
    (index.values.map LockRecord.commandId).Nodup := by
  have hids : index.values.map LockRecord.commandId = index.locksByCommandId.keys := by
    unfold values InsertionMap.keys
    rw [List.map_map]
    refine List.map_congr_left ?_
    rintro ⟨id, l⟩ hmem
    exact hkeyed id l ((index.locksByCommandId.mem_entries_iff id l).mp hmem)
  rw [hids]
  exact index.locksByCommandId.nodupKeys

end CombatLockIndex

/-! ## §2. Calls, and the locks they leave live. -/

inductive LockCall (W : WorldSize) where
  | addLock (lock : LockRecord W)
  | removeLock (lock : LockRecord W)

/-- The index after some calls, and the locks those calls left live. -/
structure LockHistory (W : WorldSize) where
  index : CombatLockIndex W
  live : List (LockRecord W)

namespace LockHistory

def start : LockHistory W := ⟨.empty, []⟩

def otherLive (s : LockHistory W) (lock : LockRecord W) : List (LockRecord W) :=
  s.live.filter (fun l => l.commandId ≠ lock.commandId)

def step (s : LockHistory W) : LockCall W → LockHistory W
  | .addLock lock => ⟨s.index.addLock lock, s.otherLive lock ++ [lock]⟩
  | .removeLock lock => ⟨s.index.removeLock lock, s.otherLive lock⟩

/-- What holds whatever is called. -/
structure Kept (s : LockHistory W) : Prop where
  keyed : s.index.Keyed
  filled : s.index.OriginsFilled
  values : s.index.values = s.live

variable {s : LockHistory W}

theorem kept_start : Kept (start : LockHistory W) where
  keyed := CombatLockIndex.keyed_empty
  filled := fun _ h => by cases h
  values := rfl

/-- **Every call keeps them**: `values()` is the list of the live locks. -/
theorem Kept.step (h : Kept s) (call : LockCall W) : Kept (s.step call) := by
  cases call with
  | addLock lock =>
      refine ⟨h.keyed.addLock lock, h.filled.addLock lock, ?_⟩
      show (s.index.addLock lock).values = s.otherLive lock ++ [lock]
      rw [CombatLockIndex.values_addLock h.keyed, CombatLockIndex.values_removeLock h.keyed,
        h.values]
      rfl
  | removeLock lock =>
      refine ⟨h.keyed.removeLock lock, h.filled.removeLock lock, ?_⟩
      show (s.index.removeLock lock).values = s.otherLive lock
      rw [CombatLockIndex.values_removeLock h.keyed, h.values]
      rfl

theorem Kept.ids_nodup (h : Kept s) : (s.live.map LockRecord.commandId).Nodup :=
  h.values ▸ CombatLockIndex.values_ids_nodup h.keyed

theorem Kept.mem_live_iff (h : Kept s) (lock : LockRecord W) :
    lock ∈ s.live ↔ s.index.locksByCommandId.get lock.commandId = some lock := by
  rw [← h.values]
  exact CombatLockIndex.mem_values_iff h.keyed lock

theorem Kept.eq_of_id (h : Kept s) {a b : LockRecord W} (ha : a ∈ s.live) (hb : b ∈ s.live)
    (hid : a.commandId = b.commandId) : a = b := by
  have hget := (h.mem_live_iff a).mp ha
  rw [hid, (h.mem_live_iff b).mp hb] at hget
  exact (Option.some.inj hget).symm

theorem mem_otherLive (lock l : LockRecord W) :
    l ∈ s.otherLive lock ↔ l ∈ s.live ∧ l.commandId ≠ lock.commandId := by
  unfold otherLive
  simp

/-! ## §3. The views against the live locks. -/

/-- Each launch tile shows the live locks that leave from it, each once. -/
def OriginsRight (s : LockHistory W) : Prop :=
  ∀ key, (s.index.originLocksAt key).Nodup
    ∧ ∀ lock, lock ∈ s.index.originLocksAt key ↔ lock ∈ s.live ∧ lock.originKey = key

def TargetsSound (s : LockHistory W) : Prop :=
  ∀ key lock, s.index.targetLockAt key = some lock → lock ∈ s.live ∧ lock.targetKey = key

def TargetsFound (s : LockHistory W) : Prop :=
  ∀ lock ∈ s.live, (s.index.targetLockAt lock.targetKey).isSome = true

/-- **The views are right**: each agrees with the live locks. -/
structure ViewsRight (s : LockHistory W) : Prop where
  valuesNodup : s.index.values.Nodup
  values : ∀ lock, lock ∈ s.index.values ↔ lock ∈ s.live
  origins : OriginsRight s
  sound : TargetsSound s
  found : TargetsFound s
  has : ∀ key, s.index.has key = true ↔ ∃ lock ∈ s.live, lock.targetKey = key ∨ lock.originKey = key
  keysNodup : s.index.keys.Nodup
  keys : ∀ key, key ∈ s.index.keys ↔ ∃ lock ∈ s.live, lock.targetKey = key ∨ lock.originKey = key

theorem TargetsSound.has_iff (hsound : TargetsSound s) (hfound : TargetsFound s)
    (key : TileKey W) :
    s.index.targets.has key = true ↔ ∃ lock ∈ s.live, lock.targetKey = key := by
  unfold InsertionMap.has
  constructor
  · intro h
    obtain ⟨lock, hlock⟩ := Option.isSome_iff_exists.mp h
    exact ⟨lock, hsound key lock hlock⟩
  · rintro ⟨lock, hmem, rfl⟩
    exact hfound lock hmem

theorem Kept.viewsRight_iff (h : Kept s) :
    ViewsRight s ↔ OriginsRight s ∧ TargetsSound s ∧ TargetsFound s := by
  constructor
  · intro hright
    exact ⟨hright.origins, hright.sound, hright.found⟩
  · intro ⟨horigins, hsound, hfound⟩
    have hhas : ∀ key, s.index.has key = true
        ↔ ∃ lock ∈ s.live, lock.targetKey = key ∨ lock.originKey = key := by
      intro key
      have htarget := hsound.has_iff hfound key
      have horigin : s.index.origins.has key = true
          ↔ ∃ lock ∈ s.live, lock.originKey = key := by
        rw [h.filled.has_iff key]
        exact exists_congr (horigins key).2
      unfold CombatLockIndex.has
      rw [Bool.or_eq_true, htarget, horigin, ← exists_or]
      exact exists_congr (fun lock => and_or_left.symm)
    exact
      { valuesNodup := h.values ▸ h.ids_nodup.of_map _
        values := fun lock => by rw [h.values]
        origins := horigins
        sound := hsound
        found := hfound
        has := hhas
        keysNodup := s.index.keys_nodup
        keys := fun key => (s.index.mem_keys_iff_has key).trans (hhas key) }

/-! ## §4. One call. -/

section Step

variable {lock old : LockRecord W}

theorem Kept.owns_iff (h : Kept s) (hsound : TargetsSound s) (hold : old ∈ s.live) :
    s.index.ownsTargetSlot old = true ↔ s.index.targetLockAt old.targetKey = some old := by
  rw [CombatLockIndex.ownsTargetSlot_iff]
  constructor
  · rintro ⟨holder, hholder, hid⟩
    have heq : holder = old := h.eq_of_id (hsound _ _ hholder).1 hold hid
    exact heq ▸ hholder
  · intro hslot
    exact ⟨old, hslot, rfl⟩

theorem Kept.owns_of_record (h : Kept s) (hsound : TargetsSound s) (hold : old ∈ s.live)
    (hid : old.commandId = lock.commandId) :
    s.index.ownsTargetSlot lock = true
      ↔ s.index.ownsTargetSlot old = true ∧ lock.targetKey = old.targetKey := by
  rw [h.owns_iff hsound hold, CombatLockIndex.ownsTargetSlot_iff]
  constructor
  · rintro ⟨holder, hholder, hholderId⟩
    obtain ⟨hlive, htarget⟩ := hsound _ _ hholder
    have heq : holder = old := h.eq_of_id hlive hold (hholderId.trans hid.symm)
    subst heq
    rw [htarget]
    exact ⟨hholder, rfl⟩
  · rintro ⟨hslot, htarget⟩
    rw [htarget]
    exact ⟨old, hslot, hid⟩

theorem Kept.originsRight_remove_iff (h : Kept s) (horigins : OriginsRight s)
    (hold : old ∈ s.live) (hid : old.commandId = lock.commandId) :
    OriginsRight (s.step (.removeLock lock)) ↔ lock.originKey = old.originKey := by
  constructor
  · intro hright
    by_contra hne
    -- the live lock would still be shown where it left from
    have hat : old ∈ (s.index.removeLock lock).originLocksAt old.originKey := by
      rw [CombatLockIndex.originLocksAt_removeLock, if_neg hne]
      exact ((horigins _).2 old).mpr ⟨hold, rfl⟩
    have hlive := (((hright old.originKey).2 old).mp hat).1
    exact ((mem_otherLive lock old).mp hlive).2 hid
  · intro hkey key
    show ((s.index.removeLock lock).originLocksAt key).Nodup
      ∧ ∀ l, l ∈ (s.index.removeLock lock).originLocksAt key
        ↔ l ∈ s.otherLive lock ∧ l.originKey = key
    rw [CombatLockIndex.originLocksAt_removeLock]
    by_cases hat : lock.originKey = key
    · rw [if_pos hat]
      refine ⟨(horigins key).1.filter _, fun l => ?_⟩
      rw [List.mem_filter, (horigins key).2, mem_otherLive]
      simp only [decide_eq_true_eq]
      tauto
    · rw [if_neg hat]
      refine ⟨(horigins key).1, fun l => ?_⟩
      rw [(horigins key).2, mem_otherLive]
      constructor
      · rintro ⟨hl, hlkey⟩
        refine ⟨⟨hl, fun hlid => hat ?_⟩, hlkey⟩
        rw [hkey, h.eq_of_id hold hl (hid.trans hlid.symm), hlkey]
      · exact fun hl => ⟨hl.1.1, hl.2⟩

theorem Kept.targetsSound_remove_iff (h : Kept s) (hsound : TargetsSound s)
    (hold : old ∈ s.live) (hid : old.commandId = lock.commandId) :
    TargetsSound (s.step (.removeLock lock))
      ↔ (s.index.ownsTargetSlot old = true → lock.targetKey = old.targetKey) := by
  have howns := h.owns_of_record hsound hold hid
  constructor
  · intro hright hslot
    by_contra hne
    -- the slot would still show the removed lock
    have hat : (s.index.removeLock lock).targetLockAt old.targetKey = some old := by
      rw [CombatLockIndex.targetLockAt_removeLock, if_neg (fun hc => hne (howns.mp hc.1).2)]
      exact (h.owns_iff hsound hold).mp hslot
    exact ((mem_otherLive lock old).mp (hright _ _ hat).1).2 hid
  · intro hkey key l hl
    change (s.index.removeLock lock).targetLockAt key = some l at hl
    rw [CombatLockIndex.targetLockAt_removeLock] at hl
    split at hl
    · cases hl
    next hkept =>
      obtain ⟨hlive, htarget⟩ := hsound key l hl
      refine ⟨(mem_otherLive lock l).mpr ⟨hlive, fun hlid => hkept ?_⟩, htarget⟩
      have heq : old = l := h.eq_of_id hold hlive (hid.trans hlid.symm)
      subst heq
      rw [← htarget] at hl
      have hslot := (h.owns_iff hsound hold).mpr hl
      exact ⟨howns.mpr ⟨hslot, hkey hslot⟩, (hkey hslot).trans htarget⟩

theorem Kept.targetLockAt_remove (h : Kept s) (hsound : TargetsSound s) (hold : old ∈ s.live)
    (hid : old.commandId = lock.commandId)
    (hkey : s.index.ownsTargetSlot old = true → lock.targetKey = old.targetKey)
    (key : TileKey W) :
    (s.index.removeLock lock).targetLockAt key
      = if s.index.ownsTargetSlot old = true ∧ old.targetKey = key then none
        else s.index.targetLockAt key := by
  rw [CombatLockIndex.targetLockAt_removeLock]
  refine if_congr ?_ rfl rfl
  rw [h.owns_of_record hsound hold hid]
  constructor
  · rintro ⟨⟨hslot, htarget⟩, hat⟩
    exact ⟨hslot, htarget.symm.trans hat⟩
  · rintro ⟨hslot, hat⟩
    exact ⟨⟨hslot, hkey hslot⟩, (hkey hslot).trans hat⟩

def Uncontested (s : LockHistory W) (old : LockRecord W) : Prop :=
  ∀ other ∈ s.live, other.targetKey = old.targetKey → other = old

theorem Kept.targetsFound_remove_iff (h : Kept s) (hsound : TargetsSound s)
    (hfound : TargetsFound s) (hold : old ∈ s.live) (hid : old.commandId = lock.commandId)
    (hkey : s.index.ownsTargetSlot old = true → lock.targetKey = old.targetKey) :
    TargetsFound (s.step (.removeLock lock))
      ↔ (s.index.ownsTargetSlot old = true → Uncontested s old) := by
  have hat := h.targetLockAt_remove hsound hold hid hkey
  constructor
  · intro hright hslot other hother htarget
    by_contra hne
    have hlive : other ∈ s.otherLive lock :=
      (mem_otherLive lock other).mpr
        ⟨hother, fun hc => hne (h.eq_of_id hother hold (hc.trans hid.symm))⟩
    have hsome : ((s.index.removeLock lock).targetLockAt other.targetKey).isSome = true :=
      hright other hlive
    rw [hat, if_pos ⟨hslot, htarget.symm⟩] at hsome
    cases hsome
  · intro hfree other hother
    obtain ⟨hlive, hne⟩ := (mem_otherLive lock other).mp hother
    show ((s.index.removeLock lock).targetLockAt other.targetKey).isSome = true
    rw [hat, if_neg]
    · exact hfound other hlive
    · rintro ⟨hslot, htarget⟩
      have heq := hfree hslot other hlive htarget.symm
      exact hne (heq ▸ hid)

theorem Kept.viewsRight_remove_free (h : Kept s) (hright : ViewsRight s)
    (hfree : ∀ l ∈ s.live, l.commandId ≠ lock.commandId) :
    ViewsRight (s.step (.removeLock lock)) := by
  have hlive : s.otherLive lock = s.live :=
    List.filter_eq_self.mpr (fun l hl => by simpa using hfree l hl)
  have howns : ¬ s.index.ownsTargetSlot lock = true := by
    rw [CombatLockIndex.ownsTargetSlot_iff]
    rintro ⟨holder, hholder, hid⟩
    exact hfree holder (hright.sound _ _ hholder).1 hid
  refine (h.step _).viewsRight_iff.mpr ⟨fun key => ?_, fun key l hl => ?_, fun l hl => ?_⟩
  · show ((s.index.removeLock lock).originLocksAt key).Nodup
      ∧ ∀ l, l ∈ (s.index.removeLock lock).originLocksAt key
        ↔ l ∈ s.otherLive lock ∧ l.originKey = key
    have hsame : (s.index.removeLock lock).originLocksAt key = s.index.originLocksAt key := by
      rw [CombatLockIndex.originLocksAt_removeLock]
      split
      · refine List.filter_eq_self.mpr (fun l hl => ?_)
        simpa using hfree l (((hright.origins key).2 l).mp hl).1
      · rfl
    rw [hsame, hlive]
    exact hright.origins key
  · change (s.index.removeLock lock).targetLockAt key = some l at hl
    rw [CombatLockIndex.targetLockAt_removeLock, if_neg (fun hc => howns hc.1)] at hl
    show l ∈ s.otherLive lock ∧ _
    rw [hlive]
    exact hright.sound key l hl
  · change l ∈ s.otherLive lock at hl
    show ((s.index.removeLock lock).targetLockAt l.targetKey).isSome = true
    rw [CombatLockIndex.targetLockAt_removeLock, if_neg (fun hc => howns hc.1)]
    rw [hlive] at hl
    exact hright.found l hl

theorem Kept.viewsRight_add_free_iff (h : Kept s) (horigins : OriginsRight s)
    (hsound : TargetsSound s) (hfree : ∀ l ∈ s.live, l.commandId ≠ lock.commandId) :
    ViewsRight (s.step (.addLock lock))
      ↔ ∀ l ∈ s.live, lock.targetKey = l.targetKey
          ∨ (s.index.targetLockAt l.targetKey).isSome = true := by
  have hlive : s.otherLive lock = s.live :=
    List.filter_eq_self.mpr (fun l hl => by simpa using hfree l hl)
  have hget : s.index.locksByCommandId.get lock.commandId = none := by
    cases hid : s.index.locksByCommandId.get lock.commandId with
    | none => rfl
    | some l =>
        have hl := h.keyed _ _ hid
        exact absurd hl (hfree l ((h.mem_live_iff l).mpr (by rw [hl]; exact hid)))
  have hmem : ∀ l, l ∈ (s.step (.addLock lock)).live ↔ l ∈ s.live ∨ l = lock := by
    intro l
    show l ∈ s.otherLive lock ++ [lock] ↔ _
    rw [hlive, List.mem_append, List.mem_singleton]
  have hslot : ∀ key, (s.step (.addLock lock)).index.targetLockAt key
      = if lock.targetKey = key then some lock else s.index.targetLockAt key :=
    CombatLockIndex.targetLockAt_addLock_free hget
  rw [(h.step _).viewsRight_iff]
  constructor
  · intro ⟨_, _, hfound⟩ l hl
    have hsome := hfound l ((hmem l).mpr (Or.inl hl))
    rw [hslot] at hsome
    by_cases hkey : lock.targetKey = l.targetKey
    · exact Or.inl hkey
    · rw [if_neg hkey] at hsome
      exact Or.inr hsome
  · intro hfound
    refine ⟨fun key => ?_, fun key l hl => ?_, fun l hl => ?_⟩
    · have hat : (s.step (.addLock lock)).index.originLocksAt key = _ :=
        CombatLockIndex.originLocksAt_addLock_free hget key
      rw [hat]
      have hold := horigins key
      by_cases hkey : lock.originKey = key
      · rw [if_pos hkey]
        refine ⟨List.nodup_append.mpr ⟨hold.1, List.nodup_singleton lock, ?_⟩, fun l => ?_⟩
        · intro a ha b hb hab
          rw [List.mem_singleton.mp hb] at hab
          exact hfree a ((hold.2 a).mp ha).1 (by rw [hab])
        · rw [List.mem_append, List.mem_singleton, hold.2, hmem]
          constructor
          · rintro (⟨hl, hlkey⟩ | rfl)
            · exact ⟨Or.inl hl, hlkey⟩
            · exact ⟨Or.inr rfl, hkey⟩
          · rintro ⟨hl | rfl, hlkey⟩
            · exact Or.inl ⟨hl, hlkey⟩
            · exact Or.inr rfl
      · rw [if_neg hkey]
        refine ⟨hold.1, fun l => ?_⟩
        rw [hold.2, hmem]
        constructor
        · exact fun hl => ⟨Or.inl hl.1, hl.2⟩
        · rintro ⟨hl | rfl, hlkey⟩
          · exact ⟨hl, hlkey⟩
          · exact absurd hlkey hkey
    · rw [hslot] at hl
      by_cases hkey : lock.targetKey = key
      · rw [if_pos hkey] at hl
        cases hl
        exact ⟨(hmem lock).mpr (Or.inr rfl), hkey⟩
      · rw [if_neg hkey] at hl
        exact ⟨(hmem l).mpr (Or.inl (hsound key l hl).1), (hsound key l hl).2⟩
    · rw [hslot]
      by_cases hkey : lock.targetKey = l.targetKey
      · rw [if_pos hkey]
        rfl
      · rw [if_neg hkey]
        obtain hl | rfl := (hmem l).mp hl
        · exact (hfound l hl).resolve_left hkey
        · exact absurd rfl hkey

theorem Kept.step_replace (h : Kept s) (hold : old ∈ s.live)
    (hid : old.commandId = lock.commandId) :
    s.step (.addLock lock) = (s.step (.removeLock old)).step (.addLock lock) := by
  have hget : s.index.locksByCommandId.get lock.commandId = some old := by
    rw [← hid]
    exact (h.mem_live_iff old).mp hold
  have hlive : s.otherLive lock = (s.step (.removeLock old)).otherLive lock := by
    show s.otherLive lock = (s.otherLive old).filter (fun l => l.commandId ≠ lock.commandId)
    unfold otherLive
    rw [List.filter_filter, hid]
    exact List.filter_congr (fun l _ => (Bool.and_self _).symm)
  show LockHistory.mk (s.index.addLock lock) (s.otherLive lock ++ [lock]) = _
  rw [CombatLockIndex.addLock_replace h.keyed hget, hlive]
  rfl

end Step

/-- The calls that keep the views right, by the lock that is live under the
command id they name.  A slot may only be freed where no other live lock
contests the tile, and a record removed must name that lock's tiles. -/
def Meets (s : LockHistory W) : LockCall W → Prop
  | .addLock lock => ∀ old ∈ s.live, old.commandId = lock.commandId →
      s.index.ownsTargetSlot old = true → Uncontested s old ∨ lock.targetKey = old.targetKey
  | .removeLock lock => ∀ old ∈ s.live, old.commandId = lock.commandId →
      lock.originKey = old.originKey
        ∧ (s.index.ownsTargetSlot old = true → lock.targetKey = old.targetKey ∧ Uncontested s old)

theorem Kept.viewsRight_remove_iff (h : Kept s) (hright : ViewsRight s) (lock : LockRecord W) :
    ViewsRight (s.step (.removeLock lock)) ↔ Meets s (.removeLock lock) := by
  by_cases hlive : ∃ old ∈ s.live, old.commandId = lock.commandId
  · obtain ⟨old, hold, hid⟩ := hlive
    have hmeets : Meets s (.removeLock lock)
        ↔ lock.originKey = old.originKey
          ∧ (s.index.ownsTargetSlot old = true →
              lock.targetKey = old.targetKey ∧ Uncontested s old) := by
      constructor
      · exact fun hm => hm old hold hid
      · intro hm l hl hlid
        rw [h.eq_of_id hl hold (hlid.trans hid.symm)]
        exact hm
    rw [hmeets, (h.step _).viewsRight_iff, h.originsRight_remove_iff hright.origins hold hid,
      h.targetsSound_remove_iff hright.sound hold hid]
    constructor
    · intro ⟨horigin, hkey, hfound⟩
      rw [h.targetsFound_remove_iff hright.sound hright.found hold hid hkey] at hfound
      exact ⟨horigin, fun hslot => ⟨hkey hslot, hfound hslot⟩⟩
    · intro ⟨horigin, hm⟩
      have hkey := fun hslot => (hm hslot).1
      refine ⟨horigin, hkey, ?_⟩
      rw [h.targetsFound_remove_iff hright.sound hright.found hold hid hkey]
      exact fun hslot => (hm hslot).2
  · have hfree : ∀ l ∈ s.live, l.commandId ≠ lock.commandId := fun l hl hc =>
      hlive ⟨l, hl, hc⟩
    constructor
    · exact fun _ old hold hid => absurd hid (hfree old hold)
    · exact fun _ => h.viewsRight_remove_free hright hfree

theorem Kept.viewsRight_add_iff (h : Kept s) (hright : ViewsRight s) (lock : LockRecord W) :
    ViewsRight (s.step (.addLock lock)) ↔ Meets s (.addLock lock) := by
  by_cases hlive : ∃ old ∈ s.live, old.commandId = lock.commandId
  · obtain ⟨old, hold, hid⟩ := hlive
    -- the index with room for the new lock
    have horigins := (h.originsRight_remove_iff hright.origins hold rfl).mpr rfl
    have hsound := (h.targetsSound_remove_iff hright.sound hold rfl).mpr (fun _ => rfl)
    have hroom := h.targetLockAt_remove hright.sound hold rfl (fun _ => rfl)
    have hother : ∀ l, l ∈ s.otherLive old ↔ l ∈ s.live ∧ l.commandId ≠ old.commandId :=
      mem_otherLive old
    rw [h.step_replace hold hid, (h.step (.removeLock old)).viewsRight_add_free_iff horigins
      hsound (fun l hl => hid ▸ ((hother l).mp hl).2)]
    constructor
    · intro hfound l hl hlid hslot
      rw [h.eq_of_id hl hold (hlid.trans hid.symm)] at hslot ⊢
      by_cases hkey : lock.targetKey = old.targetKey
      · exact Or.inr hkey
      · left
        intro other hlive htarget
        by_contra hne
        have hnot : other.commandId ≠ old.commandId := fun hc => hne (h.eq_of_id hlive hold hc)
        obtain hnew | hsome := hfound other ((hother other).mpr ⟨hlive, hnot⟩)
        · exact hkey (hnew.trans htarget)
        · change ((s.index.removeLock old).targetLockAt other.targetKey).isSome = true at hsome
          rw [hroom, if_pos ⟨hslot, htarget.symm⟩] at hsome
          cases hsome
    · intro hm l hl
      obtain ⟨hlive, hne⟩ := (hother l).mp hl
      show lock.targetKey = l.targetKey
        ∨ ((s.index.removeLock old).targetLockAt l.targetKey).isSome = true
      rw [hroom]
      by_cases hfreed : s.index.ownsTargetSlot old = true ∧ old.targetKey = l.targetKey
      · obtain halone | hkey := hm old hold hid hfreed.1
        · exact absurd (halone l hlive hfreed.2.symm ▸ rfl) hne
        · exact Or.inl (hkey.trans hfreed.2)
      · rw [if_neg hfreed]
        exact Or.inr (hright.found l hlive)
  · have hfree : ∀ l ∈ s.live, l.commandId ≠ lock.commandId := fun l hl hc =>
      hlive ⟨l, hl, hc⟩
    rw [h.viewsRight_add_free_iff hright.origins hright.sound hfree]
    constructor
    · exact fun _ old hold hid => absurd hid (hfree old hold)
    · exact fun _ l hl => Or.inr (hright.found l hl)

/-- **One call**: which calls keep the views right. -/
theorem viewsRight_step_iff (h : Kept s) (hright : ViewsRight s) (call : LockCall W) :
    ViewsRight (s.step call) ↔ Meets s call := by
  cases call with
  | addLock lock => exact h.viewsRight_add_iff hright lock
  | removeLock lock => exact h.viewsRight_remove_iff hright lock

/-! ## §5. Runs. -/

theorem viewsRight_start : ViewsRight (start : LockHistory W) := by
  have hlive : ∀ lock : LockRecord W, lock ∉ (start : LockHistory W).live :=
    fun _ => List.not_mem_nil
  refine kept_start.viewsRight_iff.mpr ⟨fun key => ⟨List.nodup_nil, fun lock => ?_⟩,
    fun key lock hl => ?_, fun lock hl => absurd hl (hlive lock)⟩
  · exact iff_of_false List.not_mem_nil (fun h => hlive lock h.1)
  · cases hl

/-- **The views of the lock index**: they agree with the live locks all the
way exactly when every call is one that keeps them so. -/
theorem viewsRight_along_iff (calls : List (LockCall W)) :
    Run.Along step ViewsRight (start : LockHistory W) calls
      ↔ Run.StepsMeet step Meets (start : LockHistory W) calls :=
  Run.along_iff_stepsMeet (fun _ call h _ _ => h.step call)
    (fun _ call h hright => viewsRight_step_iff h hright call) calls start kept_start
    viewsRight_start

end LockHistory

/-! ## §6. A contested tile that reads as free. -/

/-- An expansion of player one onto one tile. -/
def claimLock (commandId : CommandId) (originKey targetKey : TileKey smallestWorld) :
    LockRecord smallestWorld where
  commandId := commandId
  playerId := playerOne
  actionType := .EXPAND
  manpowerCost := 0
  originKey := originKey
  targetKey := targetKey
  resolvesAt := 1
  source := .player
  combatResolution := none
  musterSourceKey := none
  barbarianLaunch := false

def firstClaim : LockRecord smallestWorld :=
  claimLock "first" (wrappedTile smallestWorld 1 1) (wrappedTile smallestWorld 2 2)

def secondClaim : LockRecord smallestWorld :=
  claimLock "second" (wrappedTile smallestWorld 3 3) (wrappedTile smallestWorld 2 2)

/-- The second lock takes the slot of the first over and is then removed:
the first is live, and no view shows the tile it contests. -/
theorem contested_tile_reads_free :
    let s := [LockCall.addLock firstClaim, .addLock secondClaim, .removeLock secondClaim].foldl
      LockHistory.step LockHistory.start
    s.live = [firstClaim] ∧ s.index.values = [firstClaim]
      ∧ s.index.targetLockAt firstClaim.targetKey = none
      ∧ s.index.has firstClaim.targetKey = false
      ∧ firstClaim.targetKey ∉ s.index.keys
      ∧ ¬ LockHistory.ViewsRight s := by
  dsimp only
  generalize hs : [LockCall.addLock firstClaim, .addLock secondClaim,
    .removeLock secondClaim].foldl LockHistory.step LockHistory.start = s
  have hlive : s.live = [firstClaim] := by
    rw [← hs]
    decide +kernel
  have hslot : s.index.targetLockAt firstClaim.targetKey = none := by
    rw [← hs]
    decide +kernel
  refine ⟨hlive, ?_, hslot, ?_, ?_, fun hright => ?_⟩
  · rw [← hs]
    decide +kernel
  · rw [← hs]
    decide +kernel
  · rw [← hs]
    decide +kernel
  · have hfound := hright.found firstClaim (hlive ▸ List.mem_singleton.mpr rfl)
    rw [hslot] at hfound
    cases hfound

end BorderEmpires.Combat
