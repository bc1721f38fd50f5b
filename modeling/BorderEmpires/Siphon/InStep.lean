/-
  BorderEmpires.Siphon.InStep
  **THE TWO HALVES OF A SIPHON STAY IN STEP.**

  `InStep`: a tile carries a stamp naming tower and caster exactly when
  that tower is an active tower of the caster on the caster's land whose
  record lists the tile.  In the middle of an operation it holds up to what
  the lifecycle still owes (`Linked`): ends in its queue, and ends that the
  writes now under way will queue when their hooks run.

  The hook looks at what the replaced tile loses.  A write that brings a
  stamp or a record with it that the replaced tile did not have is never
  looked at.
-/
import BorderEmpires.Siphon.Lifecycle
import BorderEmpires.Lib.Run

namespace BorderEmpires.Siphon

variable {W : WorldSize}

/-! ## §1. The invariant. -/

/-- The tile carries a siphon stamp naming the tower and the caster. -/
def CarriesStamp (tiles : Tiles W) (tileKey observatoryKey : TileKey W) (casterId : PlayerId) :
    Prop :=
  ∃ tile sabotage, tiles.get tileKey = some tile ∧ tile.sabotage = some sabotage
    ∧ sabotage.observatoryTileKey = some observatoryKey ∧ sabotage.ownerId = casterId

/-- The Observatory at the key is the caster's and its record lists the
tile. -/
def Records (tiles : Tiles W) (observatoryKey : TileKey W) (casterId : PlayerId)
    (tileKey : TileKey W) : Prop :=
  ∃ tower observatory siphon, tiles.get observatoryKey = some tower
    ∧ tower.observatory = some observatory ∧ observatory.ownerId = casterId
    ∧ observatory.siphon = some siphon ∧ tileKey ∈ siphon.tileKeys

def HasRecord (tiles : Tiles W) (observatoryKey : TileKey W) (casterId : PlayerId) : Prop :=
  ∃ tower observatory, tiles.get observatoryKey = some tower
    ∧ tower.observatory = some observatory ∧ observatory.ownerId = casterId
    ∧ observatory.siphon.isSome

theorem Records.hasRecord {tiles : Tiles W} {observatoryKey tileKey : TileKey W}
    {casterId : PlayerId} (h : Records tiles observatoryKey casterId tileKey) :
    HasRecord tiles observatoryKey casterId := by
  obtain ⟨tower, observatory, siphon, htower, hobs, howner, hsiphon, -⟩ := h
  refine ⟨tower, observatory, htower, hobs, howner, ?_⟩
  rw [hsiphon]
  rfl

def HoldsTower (tiles : Tiles W) (observatoryKey : TileKey W) (casterId : PlayerId) : Prop :=
  ∃ tower, tiles.get observatoryKey = some tower ∧ observatoryCanHoldSiphon tower casterId = true

def InStep (tiles : Tiles W) : Prop :=
  ∀ tileKey observatoryKey casterId, CarriesStamp tiles tileKey observatoryKey casterId
    ↔ HoldsTower tiles observatoryKey casterId ∧ Records tiles observatoryKey casterId tileKey

/-- A write whose hook has not run yet. -/
structure OpenWrite (W : WorldSize) where
  tileKey : TileKey W
  previous : Option (Tile W)
  next : Tile W

/-- The hook of the write will end the siphon the replaced tile was
stamped with. -/
def OpenWrite.LosesStamp (w : OpenWrite W) (observatoryKey : TileKey W) (casterId : PlayerId) :
    Prop :=
  ∃ sabotage, w.previous.bind Tile.sabotage = some sabotage
    ∧ sabotage.observatoryTileKey = some observatoryKey ∧ sabotage.ownerId = casterId
    ∧ (w.previous.bind Tile.ownerId ≠ w.next.ownerId ∨ w.next.stampTower ≠ some observatoryKey)

def OwesStamp (writes : List (OpenWrite W)) (owed : List (SiphonEndRequest W))
    (tileKey observatoryKey : TileKey W) (casterId : PlayerId) : Prop :=
  (∃ request ∈ owed, request.observatoryKey = observatoryKey ∧ request.casterId = casterId
      ∧ tileKey ∈ request.tileKeys)
    ∨ (∃ w ∈ writes, ∃ request ∈ casterLostEnds w.tileKey w.previous w.next,
      request.observatoryKey = observatoryKey ∧ request.casterId = casterId
        ∧ tileKey ∈ request.tileKeys)
    ∨ ∃ w ∈ writes, w.tileKey = tileKey ∧ w.LosesStamp observatoryKey casterId

def OwesRecord (writes : List (OpenWrite W)) (owed : List (SiphonEndRequest W))
    (observatoryKey : TileKey W) : Prop :=
  (∃ request ∈ owed, request.observatoryKey = observatoryKey)
    ∨ (∃ w ∈ writes, ∃ request ∈ casterLostEnds w.tileKey w.previous w.next,
      request.observatoryKey = observatoryKey)
    ∨ ∃ w ∈ writes, ∃ casterId, w.LosesStamp observatoryKey casterId

/-- **In step up to what is owed.** -/
structure Linked (writes : List (OpenWrite W)) (owed : List (SiphonEndRequest W))
    (tiles : Tiles W) : Prop where
  stamps : ∀ tileKey observatoryKey casterId, CarriesStamp tiles tileKey observatoryKey casterId →
    (HoldsTower tiles observatoryKey casterId ∧ Records tiles observatoryKey casterId tileKey)
      ∨ OwesStamp writes owed tileKey observatoryKey casterId
  records : ∀ tileKey observatoryKey casterId, Records tiles observatoryKey casterId tileKey →
    (HoldsTower tiles observatoryKey casterId
        ∧ CarriesStamp tiles tileKey observatoryKey casterId)
      ∨ OwesRecord writes owed observatoryKey
  towers : ∀ observatoryKey casterId, HasRecord tiles observatoryKey casterId →
    HoldsTower tiles observatoryKey casterId ∨ OwesRecord writes owed observatoryKey
  lasting : ∀ tileKey tile sabotage, tiles.get tileKey = some tile →
    tile.sabotage = some sabotage → sabotage.observatoryTileKey.isSome →
    sabotage.endsAt = SIPHON_UNTIL_CANCELLED_ENDS_AT

theorem OwesStamp.nothing {tileKey observatoryKey : TileKey W} {casterId : PlayerId} :
    ¬ OwesStamp [] [] tileKey observatoryKey casterId := by
  rintro (⟨_, hmem, -⟩ | ⟨_, hmem, -⟩ | ⟨_, hmem, -⟩) <;> cases hmem

theorem OwesRecord.nothing {observatoryKey : TileKey W} : ¬ OwesRecord [] [] observatoryKey := by
  rintro (⟨_, hmem, -⟩ | ⟨_, hmem, -⟩ | ⟨_, hmem, -⟩) <;> cases hmem

theorem Linked.inStep {tiles : Tiles W} (h : Linked [] [] tiles) : InStep tiles := by
  intro tileKey observatoryKey casterId
  constructor
  · intro hstamp
    rcases h.stamps tileKey observatoryKey casterId hstamp with hheld | howed
    · exact hheld
    · exact absurd howed OwesStamp.nothing
  · rintro ⟨-, hrecord⟩
    rcases h.records tileKey observatoryKey casterId hrecord with ⟨-, hstamp⟩ | howed
    · exact hstamp
    · exact absurd howed OwesRecord.nothing

theorem OwesStamp.mono {writes writes' : List (OpenWrite W)} {owed more : List (SiphonEndRequest W)}
    {tileKey observatoryKey : TileKey W} {casterId : PlayerId}
    (h : OwesStamp writes owed tileKey observatoryKey casterId) (hopen : ∀ w ∈ writes, w ∈ writes')
    (hsub : ∀ r ∈ owed, r ∈ more) : OwesStamp writes' more tileKey observatoryKey casterId := by
  rcases h with ⟨r, hmem, hr⟩ | ⟨w, hmem, hw⟩ | ⟨w, hmem, hw⟩
  · exact Or.inl ⟨r, hsub r hmem, hr⟩
  · exact Or.inr (Or.inl ⟨w, hopen w hmem, hw⟩)
  · exact Or.inr (Or.inr ⟨w, hopen w hmem, hw⟩)

theorem OwesRecord.mono {writes writes' : List (OpenWrite W)}
    {owed more : List (SiphonEndRequest W)} {observatoryKey : TileKey W}
    (h : OwesRecord writes owed observatoryKey) (hopen : ∀ w ∈ writes, w ∈ writes')
    (hsub : ∀ r ∈ owed, r ∈ more) : OwesRecord writes' more observatoryKey := by
  rcases h with ⟨r, hmem, hr⟩ | ⟨w, hmem, hw⟩ | ⟨w, hmem, hw⟩
  · exact Or.inl ⟨r, hsub r hmem, hr⟩
  · exact Or.inr (Or.inl ⟨w, hopen w hmem, hw⟩)
  · exact Or.inr (Or.inr ⟨w, hopen w hmem, hw⟩)

theorem Linked.mono {writes : List (OpenWrite W)} {owed more : List (SiphonEndRequest W)}
    {tiles : Tiles W} (h : Linked writes owed tiles) (hsub : ∀ r ∈ owed, r ∈ more) :
    Linked writes more tiles where
  stamps := fun tileKey observatoryKey casterId hstamp =>
    (h.stamps tileKey observatoryKey casterId hstamp).imp_right (·.mono (fun _ hw => hw) hsub)
  records := fun tileKey observatoryKey casterId hrecord =>
    (h.records tileKey observatoryKey casterId hrecord).imp_right (·.mono (fun _ hw => hw) hsub)
  towers := fun observatoryKey casterId hrecord =>
    (h.towers observatoryKey casterId hrecord).imp_right (·.mono (fun _ hw => hw) hsub)
  lasting := h.lasting

/-! ## §2. One write. -/

/-- What a tile write may bring: a siphon stamp or a siphon record only
where the replaced tile carried the same one. -/
structure AddsNoHalf (previous : Option (Tile W)) (next : Tile W) : Prop where
  stamp : ∀ sabotage observatoryKey, next.sabotage = some sabotage →
    sabotage.observatoryTileKey = some observatoryKey →
    ∃ old, previous.bind Tile.sabotage = some old ∧ old.observatoryTileKey = some observatoryKey
      ∧ old.ownerId = sabotage.ownerId ∧ old.endsAt = sabotage.endsAt
  record : ∀ siphon, next.siphon = some siphon →
    ∃ old, previous.bind Tile.siphon = some old ∧ old.tileKeys = siphon.tileKeys

theorem stampTower_eq {tile : Tile W} {sabotage : Sabotage W}
    (h : tile.sabotage = some sabotage) : tile.stampTower = sabotage.observatoryTileKey := by
  unfold Tile.stampTower
  rw [h]
  rfl

theorem siphon_eq {tile : Tile W} {observatory : Observatory W}
    (h : tile.observatory = some observatory) : tile.siphon = observatory.siphon := by
  unfold Tile.siphon
  rw [h]
  rfl

theorem observatoryCanHoldSiphon_iff {tile : Tile W} {casterId : PlayerId} :
    observatoryCanHoldSiphon tile casterId = true ↔
      ∃ observatory, tile.observatory = some observatory ∧ observatory.ownerId = casterId
        ∧ observatory.status = .active ∧ tile.ownerId = some casterId := by
  unfold observatoryCanHoldSiphon
  cases htower : tile.observatory with
  | none => simp
  | some observatory => simp

theorem casterLostEnds_of_lost {key : TileKey W} {previous next : Tile W}
    {observatory : Observatory W} {siphon : ObservatorySiphonMode W}
    (hobs : previous.observatory = some observatory) (hsiphon : observatory.siphon = some siphon)
    (hlost : next.siphon = none ∨ observatoryCanHoldSiphon next observatory.ownerId = false) :
    ∃ request ∈ casterLostEnds key (some previous) next, request.observatoryKey = key
      ∧ request.casterId = observatory.ownerId ∧ request.tileKeys = siphon.tileKeys := by
  refine ⟨⟨key, observatory.ownerId, siphon.tileKeys, .caster_observatory_lost⟩, ?_, rfl, rfl, rfl⟩
  have hbind : (some previous).bind Tile.observatory = some observatory := hobs
  have hcond : next.siphon.isNone ∨ observatoryCanHoldSiphon next observatory.ownerId = false := by
    rcases hlost with hnone | hcannot
    · exact Or.inl (by rw [hnone]; rfl)
    · exact Or.inr hcannot
  unfold casterLostEnds
  rw [hbind]
  dsimp only
  rw [hsiphon]
  dsimp only
  rw [if_pos hcond]
  exact List.mem_singleton_self _

section Write

variable {writes : List (OpenWrite W)} {owed : List (SiphonEndRequest W)} {tiles : Tiles W}
  {key : TileKey W} {next : Tile W}

theorem OwesStamp.opened {w : OpenWrite W} {tileKey observatoryKey : TileKey W} {casterId : PlayerId}
    (h : OwesStamp writes owed tileKey observatoryKey casterId) :
    OwesStamp (w :: writes) owed tileKey observatoryKey casterId :=
  h.mono (fun _ hmem => List.mem_cons_of_mem _ hmem) (fun _ hr => hr)

theorem OwesRecord.opened {w : OpenWrite W} {observatoryKey : TileKey W}
    (h : OwesRecord writes owed observatoryKey) : OwesRecord (w :: writes) owed observatoryKey :=
  h.mono (fun _ hmem => List.mem_cons_of_mem _ hmem) (fun _ hr => hr)

theorem CarriesStamp.of_set (hadds : AddsNoHalf (tiles.get key) next)
    {tileKey observatoryKey : TileKey W} {casterId : PlayerId}
    (h : CarriesStamp (tiles.set key next) tileKey observatoryKey casterId) :
    CarriesStamp tiles tileKey observatoryKey casterId := by
  obtain ⟨tile, sabotage, htile, hsabotage, htower, howner⟩ := h
  rw [InsertionMap.get_set] at htile
  by_cases hkey : key = tileKey
  · rw [if_pos hkey] at htile
    obtain rfl := Option.some.inj htile
    obtain ⟨old, hold, holdTower, holdOwner, -⟩ := hadds.stamp sabotage observatoryKey hsabotage htower
    obtain ⟨previous, hprevious, hold⟩ := Option.bind_eq_some_iff.mp hold
    exact ⟨previous, old, hkey ▸ hprevious, hold, holdTower, holdOwner.trans howner⟩
  · rw [if_neg hkey] at htile
    exact ⟨tile, sabotage, htile, hsabotage, htower, howner⟩

/-- A written tower still holds its record as it was before, or the hook will
end the siphon. -/
theorem tower_kept_or_owed (hadds : AddsNoHalf (tiles.get key) next) {observatory : Observatory W}
    {siphon : ObservatorySiphonMode W} (hobs : next.observatory = some observatory)
    (hsiphon : observatory.siphon = some siphon) :
    (HoldsTower (tiles.set key next) key observatory.ownerId
        ∧ ∀ tileKey ∈ siphon.tileKeys, Records tiles key observatory.ownerId tileKey)
      ∨ OwesRecord (⟨key, tiles.get key, next⟩ :: writes) owed key := by
  obtain ⟨oldSiphon, hprevious, hlist⟩ := hadds.record siphon ((siphon_eq hobs).trans hsiphon)
  obtain ⟨oldTower, holdTower, holdSiphon⟩ := Option.bind_eq_some_iff.mp hprevious
  obtain ⟨oldObs, holdObs, holdSiphon⟩ := Option.bind_eq_some_iff.mp holdSiphon
  by_cases hcan : observatoryCanHoldSiphon next oldObs.ownerId = true
  · obtain ⟨obs', hobs', howner', -⟩ := observatoryCanHoldSiphon_iff.mp hcan
    rw [hobs] at hobs'
    obtain rfl := Option.some.inj hobs'
    refine Or.inl ⟨⟨next, InsertionMap.get_set_self _ _ _, howner' ▸ hcan⟩, fun tileKey hmem => ?_⟩
    exact ⟨oldTower, oldObs, oldSiphon, holdTower, holdObs, howner'.symm, holdSiphon, hlist ▸ hmem⟩
  · have hlost : observatoryCanHoldSiphon next oldObs.ownerId = false := by simpa using hcan
    obtain ⟨request, hrequest, hnames, -⟩ :=
      @casterLostEnds_of_lost W key _ _ _ _ holdObs holdSiphon (Or.inr hlost)
    refine Or.inr (Or.inr (Or.inl ⟨_, List.mem_cons_self, request, ?_, hnames⟩))
    rw [holdTower]
    exact hrequest

theorem HoldsTower.set_ne {observatoryKey : TileKey W} {casterId : PlayerId}
    (h : HoldsTower tiles observatoryKey casterId) (hkey : key ≠ observatoryKey) :
    HoldsTower (tiles.set key next) observatoryKey casterId := by
  obtain ⟨tower, htower, hcan⟩ := h
  exact ⟨tower, (InsertionMap.get_set_ne _ hkey _).trans htower, hcan⟩

/-- **A write under way**: what it takes from the tile it replaces is owed
until its hook runs. -/
theorem Linked.set (h : Linked writes owed tiles) (hadds : AddsNoHalf (tiles.get key) next) :
    Linked (⟨key, tiles.get key, next⟩ :: writes) owed (tiles.set key next) where
  stamps := by
    intro tileKey observatoryKey casterId hstamp
    rcases h.stamps tileKey observatoryKey casterId (hstamp.of_set hadds) with hheld | howed
    · obtain ⟨⟨tower, htower, hcan⟩, tower', observatory, siphon, htower', hobs, howner, hsiphon,
        hmem⟩ := hheld
      rw [htower] at htower'
      obtain rfl := Option.some.inj htower'
      by_cases hkey : key = observatoryKey
      · -- the tower itself is written
        subst hkey
        by_cases hlost : next.siphon = none ∨ observatoryCanHoldSiphon next casterId = false
        · subst howner
          obtain ⟨request, hrequest, hnames, hcaster, hlists⟩ :=
            @casterLostEnds_of_lost W key _ _ _ _ hobs hsiphon hlost
          refine Or.inr (Or.inr (Or.inl ⟨_, List.mem_cons_self, request, ?_, hnames, hcaster,
            hlists ▸ hmem⟩))
          rw [htower]
          exact hrequest
        · rw [not_or] at hlost
          obtain ⟨hsome, hholds⟩ := hlost
          have hholds : observatoryCanHoldSiphon next casterId = true := by simpa using hholds
          obtain ⟨nextObs, hnextObs, hnextOwner, -⟩ := observatoryCanHoldSiphon_iff.mp hholds
          obtain ⟨nextSiphon, hnextSiphon⟩ := Option.ne_none_iff_exists'.mp hsome
          obtain ⟨old, hold, hlist⟩ := hadds.record nextSiphon hnextSiphon
          have hsame : (tiles.get key).bind Tile.siphon = some siphon := by
            rw [htower]
            exact (siphon_eq hobs).trans hsiphon
          rw [hsame] at hold
          obtain rfl := Option.some.inj hold
          rw [siphon_eq hnextObs] at hnextSiphon
          refine Or.inl ⟨⟨next, InsertionMap.get_set_self _ _ _, hholds⟩, next, nextObs, nextSiphon,
            InsertionMap.get_set_self _ _ _, hnextObs, hnextOwner, hnextSiphon, ?_⟩
          rw [← hlist]
          exact hmem
      · have hget := (InsertionMap.get_set_ne tiles hkey next).trans htower
        exact Or.inl ⟨⟨tower, hget, hcan⟩, tower, observatory, siphon, hget, hobs, howner, hsiphon, hmem⟩
    · exact Or.inr howed.opened
  records := by
    intro tileKey observatoryKey casterId hrecord
    obtain ⟨tower, observatory, siphon, htower, hobs, howner, hsiphon, hmem⟩ := hrecord
    -- once the tower still holds the record for its old caster, the drained tile decides
    have hdrained : HoldsTower (tiles.set key next) observatoryKey casterId →
        Records tiles observatoryKey casterId tileKey →
        (HoldsTower (tiles.set key next) observatoryKey casterId
            ∧ CarriesStamp (tiles.set key next) tileKey observatoryKey casterId)
          ∨ OwesRecord (⟨key, tiles.get key, next⟩ :: writes) owed observatoryKey := by
      intro hholds hold
      rcases h.records tileKey observatoryKey casterId hold with ⟨-, hstamp⟩ | howed
      · obtain ⟨tile, sabotage, htile, hsabotage, hnames, hcaster⟩ := hstamp
        by_cases hkey : key = tileKey
        · subst hkey
          by_cases hkept : next.stampTower = some observatoryKey
          · obtain ⟨nextSabotage, hnextSabotage, hnextNames⟩ := Option.bind_eq_some_iff.mp hkept
            obtain ⟨old, hprevious, -, holdOwner, -⟩ :=
              hadds.stamp nextSabotage observatoryKey hnextSabotage hnextNames
            rw [htile] at hprevious
            have hprevious : tile.sabotage = some old := hprevious
            rw [hsabotage] at hprevious
            obtain rfl := Option.some.inj hprevious
            exact Or.inl ⟨hholds, next, nextSabotage, InsertionMap.get_set_self _ _ _,
              hnextSabotage, hnextNames, holdOwner.symm.trans hcaster⟩
          · refine Or.inr (Or.inr (Or.inr ⟨_, List.mem_cons_self, casterId, sabotage, ?_, hnames,
              hcaster, Or.inr hkept⟩))
            rw [htile]
            exact hsabotage
        · refine Or.inl ⟨hholds, tile, sabotage, ?_, hsabotage, hnames, hcaster⟩
          rw [InsertionMap.get_set_ne _ hkey]
          exact htile
      · exact Or.inr howed.opened
    by_cases hkey : key = observatoryKey
    · subst hkey
      rw [InsertionMap.get_set_self] at htower
      obtain rfl := Option.some.inj htower
      subst howner
      rcases @tower_kept_or_owed _ writes owed _ _ _ hadds _ _ hobs hsiphon with
        ⟨hholds, hold⟩ | howed
      · exact hdrained hholds (hold tileKey hmem)
      · exact Or.inr howed
    · rw [InsertionMap.get_set_ne _ hkey] at htower
      have hold : Records tiles observatoryKey casterId tileKey :=
        ⟨tower, observatory, siphon, htower, hobs, howner, hsiphon, hmem⟩
      rcases h.records tileKey observatoryKey casterId hold with ⟨hheld, -⟩ | howed
      · exact hdrained (hheld.set_ne hkey) hold
      · exact Or.inr howed.opened
  towers := by
    intro observatoryKey casterId hrecord
    obtain ⟨tower, observatory, htower, hobs, howner, hsome⟩ := hrecord
    by_cases hkey : key = observatoryKey
    · subst hkey
      rw [InsertionMap.get_set_self] at htower
      obtain rfl := Option.some.inj htower
      subst howner
      obtain ⟨siphon, hsiphon⟩ := Option.isSome_iff_exists.mp hsome
      rcases @tower_kept_or_owed _ writes owed _ _ _ hadds _ _ hobs hsiphon with
        ⟨hholds, -⟩ | howed
      · exact Or.inl hholds
      · exact Or.inr howed
    · rw [InsertionMap.get_set_ne _ hkey] at htower
      rcases h.towers observatoryKey casterId ⟨tower, observatory, htower, hobs, howner, hsome⟩ with
        hheld | howed
      · exact Or.inl (hheld.set_ne hkey)
      · exact Or.inr howed.opened
  lasting := by
    intro tileKey tile sabotage htile hsabotage hnames
    rw [InsertionMap.get_set] at htile
    by_cases hkey : key = tileKey
    · rw [if_pos hkey] at htile
      obtain rfl := Option.some.inj htile
      obtain ⟨observatoryKey, hnames⟩ := Option.isSome_iff_exists.mp hnames
      obtain ⟨old, hold, holdNames, -, holdEnds⟩ := hadds.stamp sabotage observatoryKey hsabotage hnames
      obtain ⟨previous, hprevious, hold⟩ := Option.bind_eq_some_iff.mp hold
      rw [← holdEnds]
      exact h.lasting key previous old hprevious hold (by rw [holdNames]; rfl)
    · rw [if_neg hkey] at htile
      exact h.lasting tileKey tile sabotage htile hsabotage hnames

/-- **The hook runs**: what the write owed is queued now. -/
theorem Linked.hook (m : Moment W) {previous : Option (Tile W)} {pending : List (SiphonEndRequest W)}
    (h : Linked (⟨key, previous, next⟩ :: writes) owed tiles)
    (hsub : ∀ r ∈ owed, r ∈ pending)
    (hends : ∀ r ∈ siphonEndsForTileChange m tiles key previous next, r ∈ pending) :
    Linked writes pending tiles := by
  have hcaster : ∀ r ∈ casterLostEnds key previous next, r ∈ pending := fun r hr =>
    hends r (List.mem_append_left _ (List.mem_append_left _ hr))
  -- an end for the drained tile names the tower and lists the tile
  have hdrained : ∀ observatoryKey casterId,
      OpenWrite.LosesStamp ⟨key, previous, next⟩ observatoryKey casterId →
      ∃ r ∈ pending, r.observatoryKey = observatoryKey ∧ r.casterId = casterId
        ∧ key ∈ r.tileKeys := by
    rintro observatoryKey casterId ⟨sabotage, hsabotage, hnames, howner, hlost⟩
    have hsabotage : previous.bind Tile.sabotage = some sabotage := hsabotage
    have hlost : previous.bind Tile.ownerId ≠ next.ownerId
      ∨ next.stampTower ≠ some observatoryKey := hlost
    refine ⟨⟨observatoryKey, sabotage.ownerId, InsertionSet.addAll []
      ((drainedBy tiles observatoryKey).getD [key] ++ [key]), .drained_tile_lost⟩,
      hends _ (List.mem_append_left _ (List.mem_append_right _ ?_)), rfl, howner, ?_⟩
    · unfold drainedLostEnds
      rw [hsabotage]
      dsimp only
      rw [hnames]
      dsimp only
      rw [if_pos hlost]
      exact List.mem_singleton_self _
    · show key ∈ InsertionSet.addAll [] _
      rw [InsertionSet.mem_addAll]
      exact Or.inr (List.mem_append_right _ (List.mem_singleton_self key))
  have howes : ∀ observatoryKey, OwesRecord (⟨key, previous, next⟩ :: writes) owed observatoryKey →
      OwesRecord writes pending observatoryKey := by
    rintro observatoryKey (⟨r, hmem, hr⟩ | ⟨w, hmem, r, hr, hnames⟩ | ⟨w, hmem, caster, hloses⟩)
    · exact Or.inl ⟨r, hsub r hmem, hr⟩
    · rcases List.mem_cons.mp hmem with rfl | hmem
      · exact Or.inl ⟨r, hcaster r hr, hnames⟩
      · exact Or.inr (Or.inl ⟨w, hmem, r, hr, hnames⟩)
    · rcases List.mem_cons.mp hmem with rfl | hmem
      · obtain ⟨r, hr, hnames, -⟩ := hdrained observatoryKey caster hloses
        exact Or.inl ⟨r, hr, hnames⟩
      · exact Or.inr (Or.inr ⟨w, hmem, caster, hloses⟩)
  refine ⟨?_, ?_, ?_, h.lasting⟩
  · intro tileKey observatoryKey casterId hstamp
    rcases h.stamps tileKey observatoryKey casterId hstamp with
      hheld | ⟨r, hmem, hr⟩ | ⟨w, hmem, r, hr, hends'⟩ | ⟨w, hmem, hkey, hloses⟩
    · exact Or.inl hheld
    · exact Or.inr (Or.inl ⟨r, hsub r hmem, hr⟩)
    · rcases List.mem_cons.mp hmem with rfl | hmem
      · exact Or.inr (Or.inl ⟨r, hcaster r hr, hends'⟩)
      · exact Or.inr (Or.inr (Or.inl ⟨w, hmem, r, hr, hends'⟩))
    · rcases List.mem_cons.mp hmem with rfl | hmem
      · obtain ⟨r, hr, hnames, howner, hlists⟩ := hdrained observatoryKey casterId hloses
        have hkey : key = tileKey := hkey
        exact Or.inr (Or.inl ⟨r, hr, hnames, howner, hkey ▸ hlists⟩)
      · exact Or.inr (Or.inr (Or.inr ⟨w, hmem, hkey, hloses⟩))
  · intro tileKey observatoryKey casterId hrecord
    rcases h.records tileKey observatoryKey casterId hrecord with hheld | howed
    · exact Or.inl hheld
    · exact Or.inr (howes observatoryKey howed)
  · intro observatoryKey casterId hrecord
    rcases h.towers observatoryKey casterId hrecord with hheld | howed
    · exact Or.inl hheld
    · exact Or.inr (howes observatoryKey howed)

end Write

theorem siphonEndsForTileChange_quiet (m : Moment W) (tiles : Tiles W) {key : TileKey W}
    {previous : Option (Tile W)} {next : Tile W}
    (hsiphon : (previous.bind Tile.siphon).isNone) (hstamp : (previous.bind Tile.stampTower).isNone)
    (hactive : next.observatory.map Observatory.status ≠ some .active) :
    siphonEndsForTileChange m tiles key previous next = [] := by
  have hcaster : casterLostEnds key previous next = [] := by
    unfold casterLostEnds
    cases hobs : previous.bind Tile.observatory with
    | none => rfl
    | some observatory =>
        dsimp only
        obtain ⟨tile, htile, hobs⟩ := Option.bind_eq_some_iff.mp hobs
        have hnone : observatory.siphon = none := by
          rw [htile] at hsiphon
          rw [← siphon_eq hobs]
          exact Option.isNone_iff_eq_none.mp hsiphon
        rw [hnone]
  have hdrained : drainedLostEnds tiles key previous next = [] := by
    unfold drainedLostEnds
    cases hsabotage : previous.bind Tile.sabotage with
    | none => rfl
    | some sabotage =>
        dsimp only
        obtain ⟨tile, htile, hsabotage⟩ := Option.bind_eq_some_iff.mp hsabotage
        have hnone : sabotage.observatoryTileKey = none := by
          rw [htile] at hstamp
          rw [← stampTower_eq hsabotage]
          exact Option.isNone_iff_eq_none.mp hstamp
        rw [hnone]
  have hvictim : victimReturnEnds m tiles key previous next = [] := by
    have hnot : activeForOwner next = none := by
      unfold activeForOwner
      cases hobs : next.observatory with
      | none => rfl
      | some observatory =>
          rw [hobs] at hactive
          dsimp only
          exact if_neg (fun h => hactive (congrArg some h.1))
    unfold victimReturnEnds newlyActiveObservatoryOwner
    rw [hnot]
  unfold siphonEndsForTileChange
  rw [hcaster, hdrained, hvictim]
  rfl

theorem Linked.enqueueEnds (m : Moment W) {writes : List (OpenWrite W)}
    {owed : List (SiphonEndRequest W)} {key : TileKey W} {previous : Option (Tile W)} {next : Tile W}
    {s : Lifecycle W}
    (h : Linked (⟨key, previous, next⟩ :: writes) (owed ++ s.pending) s.tiles) :
    Linked writes (owed ++ (enqueueEnds m key previous next s).pending)
      (enqueueEnds m key previous next s).tiles := by
  rw [enqueueEnds_tiles]
  unfold Siphon.enqueueEnds
  split
  next hquiet =>
    refine h.hook m (fun r hr => hr) ?_
    rw [siphonEndsForTileChange_quiet m s.tiles hquiet.1 hquiet.2.1 hquiet.2.2]
    exact fun r hr => (by cases hr)
  next =>
    refine h.hook m ?_ ?_
    · intro r hr
      rcases List.mem_append.mp hr with hr | hr
      · exact List.mem_append_left _ hr
      · exact List.mem_append_right _ (List.mem_append_left _ hr)
    · intro r hr
      exact List.mem_append_right _ (List.mem_append_right _ hr)

theorem Linked.replaceWhileFlushing (m : Moment W) {writes : List (OpenWrite W)}
    {owed : List (SiphonEndRequest W)} {key : TileKey W} {next : Tile W} {s : Lifecycle W}
    (h : Linked writes (owed ++ s.pending) s.tiles) (hadds : AddsNoHalf (s.tiles.get key) next) :
    Linked writes (owed ++ (replaceWhileFlushing m key next s).pending)
      (replaceWhileFlushing m key next s).tiles :=
  (h.set hadds).enqueueEnds m (s := { s with tiles := s.tiles.set key next })

/-! ## §3. Ending a siphon. -/

theorem addsNoHalf_cleared (tile : Tile W) : AddsNoHalf (some tile) tile.cleared where
  stamp := fun _ _ hsabotage _ => (by cases hsabotage)
  record := by
    intro siphon hsiphon
    exact ⟨siphon, hsiphon, rfl⟩

theorem addsNoHalf_released (tower : Tile W) : AddsNoHalf (some tower) tower.released where
  stamp := fun sabotage _ hsabotage hnames => ⟨sabotage, hsabotage, hnames, rfl, rfl⟩
  record := by
    intro siphon hsiphon
    rw [Tile.siphon_released] at hsiphon
    cases hsiphon

/-- What the end has cleared so far: none of these tiles carries its
stamp. -/
def StampsCleared (request : SiphonEndRequest W) (keys : List (TileKey W)) (tiles : Tiles W) :
    Prop :=
  ∀ key ∈ keys, ¬ CarriesStamp tiles key request.observatoryKey request.casterId

theorem replaceWhileFlushing_tiles (m : Moment W) (key : TileKey W) (next : Tile W)
    (s : Lifecycle W) : (replaceWhileFlushing m key next s).tiles = s.tiles.set key next :=
  enqueueEnds_tiles m key _ next _

theorem StampsCleared.set {request : SiphonEndRequest W} {keys : List (TileKey W)}
    {tiles : Tiles W} {key : TileKey W} {next : Tile W} (h : StampsCleared request keys tiles)
    (hadds : AddsNoHalf (tiles.get key) next) : StampsCleared request keys (tiles.set key next) :=
  fun tileKey hmem hstamp => h tileKey hmem (hstamp.of_set hadds)

section End

variable {m : Moment W} {writes : List (OpenWrite W)} {request : SiphonEndRequest W}
  {done : List (TileKey W)} {s : Lifecycle W}

theorem linked_clearStamp (h : Linked writes ([request] ++ s.pending) s.tiles)
    (hdone : StampsCleared request done s.tiles) (key : TileKey W) :
    Linked writes ([request] ++ (clearStamp m request s key).pending)
        (clearStamp m request s key).tiles
      ∧ StampsCleared request (key :: done) (clearStamp m request s key).tiles := by
  unfold clearStamp
  cases htile : s.tiles.get key with
  | none =>
      refine ⟨h, ?_⟩
      intro tileKey hmem hstamp
      rcases List.mem_cons.mp hmem with rfl | hmem
      · obtain ⟨tile, -, hget, -⟩ := hstamp
        rw [htile] at hget
        cases hget
      · exact hdone tileKey hmem hstamp
  | some tile =>
      dsimp only
      by_cases hends : request.endsStampOf tile = true
      · rw [if_pos hends]
        have hadds : AddsNoHalf (s.tiles.get key) tile.cleared := by
          rw [htile]
          exact addsNoHalf_cleared tile
        refine ⟨h.replaceWhileFlushing m hadds, ?_⟩
        rw [replaceWhileFlushing_tiles]
        intro tileKey hmem hstamp
        rcases List.mem_cons.mp hmem with rfl | hmem
        · obtain ⟨cleared, sabotage, hget, hsabotage, -⟩ := hstamp
          rw [InsertionMap.get_set_self] at hget
          obtain rfl := Option.some.inj hget
          cases hsabotage
        · exact hdone.set hadds tileKey hmem hstamp
      · rw [if_neg hends]
        refine ⟨h, ?_⟩
        intro tileKey hmem hstamp
        rcases List.mem_cons.mp hmem with rfl | hmem
        · obtain ⟨tile', sabotage, hget, hsabotage, hnames, howner⟩ := hstamp
          rw [htile] at hget
          obtain rfl := Option.some.inj hget
          refine hends ?_
          unfold SiphonEndRequest.endsStampOf
          rw [hsabotage]
          exact decide_eq_true ⟨hnames, howner⟩
        · exact hdone tileKey hmem hstamp

theorem linked_clearStamps (keys : List (TileKey W)) :
    ∀ (s : Lifecycle W) (done : List (TileKey W)),
      Linked writes ([request] ++ s.pending) s.tiles → StampsCleared request done s.tiles →
      Linked writes ([request] ++ (keys.foldl (clearStamp m request) s).pending)
          (keys.foldl (clearStamp m request) s).tiles
        ∧ StampsCleared request (keys ++ done) (keys.foldl (clearStamp m request) s).tiles := by
  induction keys with
  | nil =>
      intro s done h hdone
      exact ⟨h, hdone⟩
  | cons key keys ih =>
      intro s done h hdone
      obtain ⟨hfirst, hcleared⟩ := linked_clearStamp (m := m) h hdone key
      obtain ⟨hrest, hall⟩ := ih (clearStamp m request s key) (key :: done) hfirst hcleared
      refine ⟨hrest, ?_⟩
      intro tileKey hmem
      refine hall tileKey ?_
      rcases List.mem_append.mp hmem with hmem | hmem
      · rcases List.mem_cons.mp hmem with rfl | hmem
        · exact List.mem_append_right _ List.mem_cons_self
        · exact List.mem_append_left _ hmem
      · exact List.mem_append_right _ (List.mem_cons_of_mem _ hmem)

theorem linked_releaseTower (h : Linked writes ([request] ++ s.pending) s.tiles)
    (hdone : StampsCleared request done s.tiles) :
    Linked writes ([request] ++ (releaseTower m request s).pending) (releaseTower m request s).tiles
      ∧ StampsCleared request done (releaseTower m request s).tiles
      ∧ ∀ casterId, ¬ HasRecord (releaseTower m request s).tiles request.observatoryKey casterId := by
  unfold releaseTower
  cases htower : s.tiles.get request.observatoryKey with
  | none =>
      refine ⟨h, hdone, ?_⟩
      rintro casterId ⟨tower, -, hget, -⟩
      rw [htower] at hget
      cases hget
  | some tower =>
      dsimp only
      by_cases hsiphon : tower.siphon.isSome = true
      · rw [if_pos hsiphon]
        have hadds : AddsNoHalf (s.tiles.get request.observatoryKey) tower.released := by
          rw [htower]
          exact addsNoHalf_released tower
        refine ⟨h.replaceWhileFlushing m hadds, ?_, ?_⟩
        · rw [replaceWhileFlushing_tiles]
          exact hdone.set hadds
        · rw [replaceWhileFlushing_tiles]
          rintro casterId ⟨released, observatory, hget, hobs, -, hrecord⟩
          rw [InsertionMap.get_set_self] at hget
          obtain rfl := Option.some.inj hget
          have hnone := Tile.siphon_released tower
          rw [siphon_eq hobs] at hnone
          rw [hnone] at hrecord
          cases hrecord
      · rw [if_neg hsiphon]
        refine ⟨h, hdone, ?_⟩
        rintro casterId ⟨tower', observatory, hget, hobs, -, hrecord⟩
        rw [htower] at hget
        obtain rfl := Option.some.inj hget
        rw [siphon_eq hobs] at hsiphon
        exact hsiphon hrecord

theorem Linked.settle {pending : List (SiphonEndRequest W)} {tiles : Tiles W}
    (h : Linked writes ([request] ++ pending) tiles)
    (hstamps : StampsCleared request request.tileKeys tiles)
    (hrecord : ∀ casterId, ¬ HasRecord tiles request.observatoryKey casterId) :
    Linked writes pending tiles where
  stamps := by
    intro tileKey observatoryKey casterId hstamp
    rcases h.stamps tileKey observatoryKey casterId hstamp with
      hheld | ⟨r, hmem, hkey, hcaster, hlists⟩ | howed
    · exact Or.inl hheld
    · rcases List.mem_cons.mp hmem with rfl | hmem
      · subst hkey
        subst hcaster
        exact absurd hstamp (hstamps tileKey hlists)
      · exact Or.inr (Or.inl ⟨r, hmem, hkey, hcaster, hlists⟩)
    · exact Or.inr (Or.inr howed)
  records := by
    intro tileKey observatoryKey casterId hrec
    rcases h.records tileKey observatoryKey casterId hrec with hheld | ⟨r, hmem, hkey⟩ | howed
    · exact Or.inl hheld
    · rcases List.mem_cons.mp hmem with rfl | hmem
      · subst hkey
        exact absurd hrec.hasRecord (hrecord casterId)
      · exact Or.inr (Or.inl ⟨r, hmem, hkey⟩)
    · exact Or.inr (Or.inr howed)
  towers := by
    intro observatoryKey casterId hrec
    rcases h.towers observatoryKey casterId hrec with hheld | ⟨r, hmem, hkey⟩ | howed
    · exact Or.inl hheld
    · rcases List.mem_cons.mp hmem with rfl | hmem
      · subst hkey
        exact absurd hrec (hrecord casterId)
      · exact Or.inr (Or.inl ⟨r, hmem, hkey⟩)
    · exact Or.inr (Or.inr howed)
  lasting := h.lasting

/-- **Applying an end discharges it.** -/
theorem linked_applyEnd (m : Moment W) (h : Linked writes ([request] ++ s.pending) s.tiles) :
    Linked writes (applyEnd m request s).pending (applyEnd m request s).tiles := by
  obtain ⟨hkeys, hcleared⟩ := linked_clearStamps (m := m) request.tileKeys s [] h
    (fun _ hmem => (by cases hmem))
  rw [List.append_nil] at hcleared
  obtain ⟨htower, hstamps, hrecord⟩ := linked_releaseTower (m := m) hkeys hcleared
  exact htower.settle hstamps hrecord

/-- **A flush keeps the halves linked.** -/
theorem linked_flushLoop (m : Moment W) (fuel : Nat) :
    ∀ s : Lifecycle W, Linked writes s.pending s.tiles →
      Linked writes (flushLoop m fuel s).pending (flushLoop m fuel s).tiles := by
  induction fuel with
  | zero => exact fun s h => h
  | succ fuel ih =>
      intro s h
      rw [flushLoop]
      split
      · exact h
      next r rest hpending =>
        rw [hpending] at h
        exact ih _ (linked_applyEnd m (s := { s with pending := rest }) h)

theorem linked_flush (m : Moment W) (h : Linked writes s.pending s.tiles) :
    Linked writes [] (flush m s).tiles := by
  have hflushed := linked_flushLoop m s.flushBound s h
  rw [flushLoop_drains m _ s (Nat.le_refl _)] at hflushed
  exact hflushed

end End

/-! ## §4. Writes with their nested writes. -/

mutual
def WritesAddNoHalf (m : Moment W) : TileWrite W → Lifecycle W → Prop
  | .replace tileKey next nested, s =>
      AddsNoHalf (s.tiles.get tileKey) next
        ∧ NestedAddNoHalf m nested { s with tiles := s.tiles.set tileKey next }

def NestedAddNoHalf (m : Moment W) : List (TileWrite W) → Lifecycle W → Prop
  | [], _ => True
  | write :: rest, s => WritesAddNoHalf m write s ∧ NestedAddNoHalf m rest (replaceTileState m write s)
end

/-- What holds between operations: nothing queued, halves linked. -/
structure Quiescent (writes : List (OpenWrite W)) (s : Lifecycle W) : Prop where
  idle : s.pending = []
  linked : Linked writes [] s.tiles

theorem quiescent_flush (m : Moment W) {writes : List (OpenWrite W)} {s : Lifecycle W}
    (h : Linked writes s.pending s.tiles) : Quiescent writes (flush m s) :=
  ⟨flush_pending m s, linked_flush m h⟩

mutual
/-- **A write, whatever it makes the runtime write before its hook.** -/
theorem linked_replaceTileState (m : Moment W) : ∀ (write : TileWrite W) (s : Lifecycle W)
    (writes : List (OpenWrite W)), Quiescent writes s → WritesAddNoHalf m write s →
      Quiescent writes (replaceTileState m write s)
  | .replace tileKey next nested, s, writes, h, hadds => by
      -- the write stays open while its nested writes run
      have hset : Quiescent (⟨tileKey, s.tiles.get tileKey, next⟩ :: writes)
          { s with tiles := s.tiles.set tileKey next } := ⟨h.idle, h.linked.set hadds.1⟩
      have hnested := linked_replaceNested m nested _ _ hset hadds.2
      have hlinked := hnested.linked
      rw [← hnested.idle] at hlinked
      have hqueued := @Linked.enqueueEnds W m writes [] tileKey (s.tiles.get tileKey) next _ hlinked
      rw [replaceTileState, onTileReplaced]
      exact quiescent_flush m hqueued

theorem linked_replaceNested (m : Moment W) : ∀ (nested : List (TileWrite W)) (s : Lifecycle W)
    (writes : List (OpenWrite W)), Quiescent writes s → NestedAddNoHalf m nested s →
      Quiescent writes (replaceNested m nested s)
  | [], _, _, h, _ => h
  | write :: rest, s, writes, h, hadds =>
      linked_replaceNested m rest _ writes (linked_replaceTileState m write s writes h hadds.1)
        hadds.2

end

end BorderEmpires.Siphon
