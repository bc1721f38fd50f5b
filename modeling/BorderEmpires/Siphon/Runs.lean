/-
  BorderEmpires.Siphon.Runs
  **RUNS OF CASTS, CANCELS, SWEEPS AND TILE WRITES.**

  A cast reads all its tiles first and writes them afterwards.  None of its
  writes ends a siphon, so the tiles it read are still the ones it replaces
  (`stampTiles_spec`), and after the last write the new halves match.
-/
import BorderEmpires.Siphon.InStep

namespace BorderEmpires.Siphon

variable {W : WorldSize}

/-! ## §1. Writes that end nothing. -/

variable (m : Moment W) {tiles : Tiles W} {s : Lifecycle W}

theorem replaceTileState_silent {key : TileKey W} {next : Tile W} (hidle : s.pending = [])
    (hends : siphonEndsForTileChange m (s.tiles.set key next) key (s.tiles.get key) next = []) :
    replaceTileState m (.replace key next []) s = { s with tiles := s.tiles.set key next } := by
  have hqueue : enqueueEnds m key (s.tiles.get key) next { s with tiles := s.tiles.set key next }
      = { s with tiles := s.tiles.set key next } := by
    unfold enqueueEnds
    split
    · rfl
    · dsimp only
      rw [hends, List.append_nil]
  rw [replaceTileState, replaceNested, onTileReplaced, hqueue]
  exact flushLoop_of_empty m _ hidle

/-- A write that keeps the owner, the tower a stamp names and the tower's
state ends no siphon. -/
theorem siphonEndsForTileChange_same (tiles : Tiles W) (key : TileKey W) {previous next : Tile W}
    (howner : next.ownerId = previous.ownerId)
    (hstamp : previous.stampTower = none ∨ next.stampTower = previous.stampTower)
    (hactive : activeForOwner next = activeForOwner previous)
    (hrecord : ∀ observatory, previous.observatory = some observatory →
      observatory.siphon.isSome → next.siphon.isSome
        ∧ observatoryCanHoldSiphon next observatory.ownerId = true) :
    siphonEndsForTileChange m tiles key (some previous) next = [] := by
  have hcaster : casterLostEnds key (some previous) next = [] := by
    unfold casterLostEnds
    rw [Option.bind_some]
    cases hobs : previous.observatory with
    | none => rfl
    | some observatory =>
        dsimp only
        cases hsiphon : observatory.siphon with
        | none => rfl
        | some siphon =>
            obtain ⟨hsome, hcan⟩ := hrecord observatory hobs (by rw [hsiphon]; rfl)
            dsimp only
            refine if_neg ?_
            rintro (hnone | hcannot)
            · rw [Option.isNone_iff_eq_none.mp hnone] at hsome
              cases hsome
            · rw [hcan] at hcannot
              cases hcannot
  have hdrained : drainedLostEnds tiles key (some previous) next = [] := by
    unfold drainedLostEnds
    rw [Option.bind_some]
    cases hsabotage : previous.sabotage with
    | none => rfl
    | some sabotage =>
        dsimp only
        cases hnames : sabotage.observatoryTileKey with
        | none => rfl
        | some observatoryKey =>
            have hprevious : previous.stampTower = some observatoryKey :=
              (stampTower_eq hsabotage).trans hnames
            dsimp only
            refine if_neg ?_
            rintro (hmoved | hlost)
            · exact hmoved howner.symm
            · rcases hstamp with hnone | hsame
              · rw [hprevious] at hnone
                cases hnone
              · exact hlost (hsame.trans hprevious)
  have hvictim : victimReturnEnds m tiles key (some previous) next = [] := by
    have hnot : newlyActiveObservatoryOwner (some previous) next = none := by
      unfold newlyActiveObservatoryOwner
      rw [hactive, Option.bind_some]
      cases activeForOwner previous with
      | none => rfl
      | some ownerId => exact if_pos rfl
    unfold victimReturnEnds
    rw [hnot]
  unfold siphonEndsForTileChange
  rw [hcaster, hdrained, hvictim]
  rfl

/-! ## §2. A cast. -/

theorem drainable_spec {m : Moment W} {key : TileKey W} {tile : Tile W} {actor : Actor}
    (h : drainableTileForActor m tiles key tile actor = true) :
    tile.ownerId ≠ some actor.id ∧ isActiveSiphon tile m.now.ms = false := by
  unfold drainableTileForActor siphonableTileForActor at h
  cases howner : tile.ownerId with
  | none =>
      rw [howner] at h
      cases h
  | some ownerId =>
      rw [howner] at h
      simp only [Bool.and_eq_true, decide_eq_true_eq, Bool.not_eq_true'] at h
      obtain ⟨⟨⟨⟨⟨-, hother⟩, -⟩, -⟩, hinactive⟩, -⟩ := h
      refine ⟨?_, hinactive⟩
      intro hsame
      exact hother (Option.some.inj hsame)

theorem mem_affectedTiles {m : Moment W} {target : TileKey W} {actor : Actor} {key : TileKey W}
    {tile : Tile W} (h : (key, tile) ∈ affectedTiles m tiles target actor) :
    tiles.get key = some tile ∧ drainableTileForActor m tiles key tile actor = true := by
  unfold affectedTiles at h
  obtain ⟨key', -, hentry⟩ := List.mem_filterMap.mp h
  obtain ⟨tile', htile', hentry⟩ := Option.bind_eq_some_iff.mp hentry
  split at hentry
  next hdrain =>
    obtain ⟨rfl, rfl⟩ := Prod.mk.inj (Option.some.inj hentry)
    exact ⟨htile', hdrain⟩
  next => cases hentry

theorem stampTower_of_drainable {writes : List (OpenWrite W)} {owed : List (SiphonEndRequest W)}
    {m : Moment W} {key : TileKey W} {tile : Tile W} {actor : Actor} (h : Linked writes owed tiles)
    (htile : tiles.get key = some tile)
    (hdrain : drainableTileForActor m tiles key tile actor = true) : tile.stampTower = none := by
  have hinactive := (drainable_spec hdrain).2
  cases hsabotage : tile.sabotage with
  | none =>
      unfold Tile.stampTower
      rw [hsabotage]
      rfl
  | some sabotage =>
      rw [stampTower_eq hsabotage]
      cases hnames : sabotage.observatoryTileKey with
      | none => rfl
      | some observatoryKey =>
          have hends := h.lasting key tile sabotage htile hsabotage (by rw [hnames]; rfl)
          have hbefore := m.now.before_siphon_ends
          unfold isActiveSiphon at hinactive
          rw [hsabotage] at hinactive
          have hover : ¬ sabotage.endsAt > m.now.ms := of_decide_eq_false hinactive
          omega

theorem holds_of_record (h : Linked [] [] tiles) {key : TileKey W} {tile : Tile W}
    {observatory : Observatory W} (htile : tiles.get key = some tile)
    (hobs : tile.observatory = some observatory) (hsome : observatory.siphon.isSome) :
    observatoryCanHoldSiphon tile observatory.ownerId = true := by
  rcases h.towers key observatory.ownerId ⟨tile, observatory, htile, hobs, rfl, hsome⟩ with
    ⟨tile', htile', hcan⟩ | howed
  · rw [htile] at htile'
    obtain rfl := Option.some.inj htile'
    exact hcan
  · exact absurd howed OwesRecord.nothing

section Cast

variable {m : Moment W} {actor : Actor} {s : Lifecycle W} {stamp : Sabotage W}

/-- The tiles in the middle of a cast: those written are stamped, the
others as they were. -/
structure Stamping (s : Lifecycle W) (stamp : Sabotage W) (done : List (TileKey W))
    (now : Lifecycle W) : Prop where
  idle : now.pending = []
  written : ∀ key ∈ done, now.tiles.get key = (s.tiles.get key).map (·.stamped stamp)
  untouched : ∀ key, key ∉ done → now.tiles.get key = s.tiles.get key

theorem Stamping.write (hs : Quiescent [] s) {done : List (TileKey W)} {now : Lifecycle W}
    (h : Stamping s stamp done now) {key : TileKey W} {tile : Tile W}
    (htile : s.tiles.get key = some tile)
    (hdrain : drainableTileForActor m s.tiles key tile actor = true) :
    Stamping s stamp (key :: done)
      (replaceTileState m (.replace key (tile.stamped stamp) []) now) := by
  have hnone : tile.stampTower = none := stampTower_of_drainable hs.linked htile hdrain
  have hheld : ∀ observatory, tile.observatory = some observatory → observatory.siphon.isSome →
      (tile.stamped stamp).siphon.isSome
        ∧ observatoryCanHoldSiphon (tile.stamped stamp) observatory.ownerId = true := by
    intro observatory hobs hsome
    constructor
    · show tile.siphon.isSome
      rw [siphon_eq hobs]
      exact hsome
    · show observatoryCanHoldSiphon tile observatory.ownerId = true
      exact holds_of_record hs.linked htile hobs hsome
  have hsilent : siphonEndsForTileChange m (now.tiles.set key (tile.stamped stamp)) key
      (now.tiles.get key) (tile.stamped stamp) = [] := by
    by_cases hdone : key ∈ done
    · rw [h.written key hdone, htile]
      exact siphonEndsForTileChange_same m _ key rfl (Or.inr rfl) rfl hheld
    · rw [h.untouched key hdone, htile]
      exact siphonEndsForTileChange_same m _ key rfl (Or.inl hnone) rfl hheld
  rw [replaceTileState_silent m h.idle hsilent]
  refine ⟨h.idle, ?_, ?_⟩
  · intro other hmem
    show (now.tiles.set key _).get other = _
    by_cases hkey : key = other
    · subst hkey
      rw [InsertionMap.get_set_self, htile]
      rfl
    · rw [InsertionMap.get_set_ne _ hkey]
      exact h.written other ((List.mem_cons.mp hmem).resolve_left (fun heq => hkey heq.symm))
  · intro other hmem
    rw [List.mem_cons, not_or] at hmem
    show (now.tiles.set key _).get other = _
    rw [InsertionMap.get_set_ne _ (fun heq => hmem.1 heq.symm)]
    exact h.untouched other hmem.2

theorem replaceNested_append (m : Moment W) (first rest : List (TileWrite W)) :
    ∀ s, replaceNested m (first ++ rest) s = replaceNested m rest (replaceNested m first s) := by
  induction first with
  | nil =>
      intro s
      simp only [List.nil_append, replaceNested]
  | cons write first ih =>
      intro s
      simp only [List.cons_append, replaceNested]
      exact ih _

theorem stampTiles_spec (hs : Quiescent [] s) (affected : List (TileKey W × Tile W))
    (haffected : ∀ entry ∈ affected, s.tiles.get entry.1 = some entry.2
      ∧ drainableTileForActor m s.tiles entry.1 entry.2 actor = true) :
    ∀ done now, Stamping s stamp done now →
      Stamping s stamp ((affected.map Prod.fst).reverse ++ done)
        (replaceNested m (affected.map fun entry =>
          .replace entry.1 (entry.2.stamped stamp) []) now) := by
  induction affected with
  | nil =>
      intro done now h
      simp only [List.map_nil, replaceNested]
      exact h
  | cons entry affected ih =>
      intro done now h
      obtain ⟨htile, hdrain⟩ := haffected entry List.mem_cons_self
      have hfirst := @Stamping.write _ m actor _ _ hs _ _ h _ _ htile hdrain
      have hrest := ih (fun e he => haffected e (List.mem_cons_of_mem _ he)) _ _ hfirst
      rw [List.map_cons, List.map_cons, replaceNested, List.reverse_cons, List.append_assoc]
      exact hrest

structure CastDone (s : Lifecycle W) (actor : Actor) (observatoryKey : TileKey W)
    (drained : List (TileKey W)) (tower locked : Tile W) (final : Tiles W) : Prop where
  tower : s.tiles.get observatoryKey = some tower
  apart : observatoryKey ∉ drained
  locked : final.get observatoryKey = some locked
  written : ∀ key ∈ drained, ∃ tile, s.tiles.get key = some tile ∧ tile.stampTower = none
    ∧ final.get key = some (tile.stamped (siphonStamp actor observatoryKey))
  untouched : ∀ key, key ≠ observatoryKey → key ∉ drained → final.get key = s.tiles.get key

theorem castDone {target observatoryKey : TileKey W} {tower : Tile W} {observatory : Observatory W}
    (hs : Quiescent [] s) (htower : s.tiles.get observatoryKey = some tower)
    (hobs : tower.observatory = some observatory) (howner : tower.ownerId = some actor.id)
    (hobsOwner : observatory.ownerId = actor.id) (hactive : observatory.status = .active) :
    (replaceNested m (castWrites m actor target observatoryKey tower observatory s) s).pending = []
      ∧ CastDone s actor observatoryKey ((affectedTiles m s.tiles target actor).map Prod.fst) tower
        (lockedTower m actor target (affectedTiles m s.tiles target actor) tower observatory)
        (replaceNested m (castWrites m actor target observatoryKey tower observatory s) s).tiles := by
  have haffected : ∀ entry ∈ affectedTiles m s.tiles target actor,
      s.tiles.get entry.1 = some entry.2
        ∧ drainableTileForActor m s.tiles entry.1 entry.2 actor = true :=
    fun _ hmem => mem_affectedTiles hmem
  unfold castWrites
  dsimp only
  generalize affectedTiles m s.tiles target actor = affected at haffected
  have hapart : observatoryKey ∉ affected.map Prod.fst := by
    intro hmem
    obtain ⟨⟨key, tile⟩, hentry, rfl⟩ := List.mem_map.mp hmem
    obtain ⟨htile, hdrain⟩ := haffected _ hentry
    rw [htower] at htile
    obtain rfl := Option.some.inj htile
    exact (drainable_spec hdrain).1 howner
  have hstamped := @stampTiles_spec _ m _ _ (siphonStamp actor observatoryKey) hs affected
    haffected [] s ⟨hs.idle, fun _ hmem => (by cases hmem), fun _ _ => rfl⟩
  rw [List.append_nil] at hstamped
  rw [replaceNested_append]
  generalize replaceNested m (affected.map fun entry =>
    .replace entry.1 (entry.2.stamped (siphonStamp actor observatoryKey)) []) s = now at hstamped
  have hnow : now.tiles.get observatoryKey = some tower := by
    rw [hstamped.untouched observatoryKey (fun hmem => hapart (List.mem_reverse.mp hmem))]
    exact htower
  -- the tower's own write keeps it active, the caster's, and recording
  have hsilent : siphonEndsForTileChange m
      (now.tiles.set observatoryKey (lockedTower m actor target affected tower observatory))
      observatoryKey (now.tiles.get observatoryKey)
      (lockedTower m actor target affected tower observatory) = [] := by
    rw [hnow]
    refine siphonEndsForTileChange_same m _ observatoryKey rfl (Or.inr rfl) ?_ ?_
    · unfold activeForOwner
      rw [hobs]
      rfl
    · intro obs hobs' _
      rw [hobs] at hobs'
      obtain rfl := Option.some.inj hobs'
      refine ⟨rfl, observatoryCanHoldSiphon_iff.mpr ⟨_, rfl, rfl, hactive, ?_⟩⟩
      rw [hobsOwner]
      exact howner
  rw [replaceNested, replaceNested, replaceTileState_silent m hstamped.idle hsilent]
  refine ⟨hstamped.idle, htower, hapart, InsertionMap.get_set_self _ _ _, ?_, ?_⟩
  · intro key hmem
    obtain ⟨⟨key, tile⟩, hentry, rfl⟩ := List.mem_map.mp hmem
    obtain ⟨htile, hdrain⟩ := haffected _ hentry
    refine ⟨tile, htile, stampTower_of_drainable hs.linked htile hdrain, ?_⟩
    show (now.tiles.set observatoryKey _).get key = _
    have hne : observatoryKey ≠ key := fun heq => hapart (heq ▸ hmem)
    rw [InsertionMap.get_set_ne _ hne, hstamped.written key (List.mem_reverse.mpr hmem)]
    rw [show s.tiles.get key = some tile from htile]
    rfl
  · intro key hne hmem
    show (now.tiles.set observatoryKey _).get key = _
    rw [InsertionMap.get_set_ne _ (fun heq => hne heq.symm)]
    exact hstamped.untouched key (fun hin => hmem (List.mem_reverse.mp hin))

theorem CastDone.keeps {observatoryKey : TileKey W} {drained : List (TileKey W)}
    {tower locked : Tile W} {final : Tiles W}
    (h : CastDone s actor observatoryKey drained tower locked final) {key : TileKey W}
    (hne : key ≠ observatoryKey) :
    (final.get key).map (fun tile => (tile.ownerId, tile.observatory))
      = (s.tiles.get key).map (fun tile => (tile.ownerId, tile.observatory)) := by
  by_cases hmem : key ∈ drained
  · obtain ⟨tile, htile, -, hfinal⟩ := h.written key hmem
    rw [htile, hfinal]
    rfl
  · rw [h.untouched key hne hmem]

section SameTower

variable {tiles tiles' : Tiles W} {key : TileKey W} {casterId : PlayerId}
  (hsame : (tiles'.get key).map (fun tile => (tile.ownerId, tile.observatory))
    = (tiles.get key).map (fun tile => (tile.ownerId, tile.observatory)))

include hsame

theorem exists_same {tile : Tile W} (htile : tiles.get key = some tile) :
    ∃ tile', tiles'.get key = some tile' ∧ tile'.ownerId = tile.ownerId
      ∧ tile'.observatory = tile.observatory := by
  rw [htile] at hsame
  obtain ⟨tile', htile', hfields⟩ := Option.map_eq_some_iff.mp hsame
  exact ⟨tile', htile', Prod.mk.inj hfields⟩

theorem HoldsTower.congr (h : HoldsTower tiles key casterId) : HoldsTower tiles' key casterId := by
  obtain ⟨tile, htile, hcan⟩ := h
  obtain ⟨observatory, hobs, howner, hactive, hland⟩ := observatoryCanHoldSiphon_iff.mp hcan
  obtain ⟨tile', htile', hland', hobs'⟩ := exists_same hsame htile
  exact ⟨tile', htile', observatoryCanHoldSiphon_iff.mpr
    ⟨observatory, hobs'.trans hobs, howner, hactive, hland'.trans hland⟩⟩

theorem Records.congr {tileKey : TileKey W} (h : Records tiles key casterId tileKey) :
    Records tiles' key casterId tileKey := by
  obtain ⟨tile, observatory, siphon, htile, hobs, howner, hsiphon, hmem⟩ := h
  obtain ⟨tile', htile', -, hobs'⟩ := exists_same hsame htile
  exact ⟨tile', observatory, siphon, htile', hobs'.trans hobs, howner, hsiphon, hmem⟩

theorem HasRecord.congr (h : HasRecord tiles key casterId) : HasRecord tiles' key casterId := by
  obtain ⟨tile, observatory, htile, hobs, howner, hsome⟩ := h
  obtain ⟨tile', htile', -, hobs'⟩ := exists_same hsame htile
  exact ⟨tile', observatory, htile', hobs'.trans hobs, howner, hsome⟩

end SameTower

/-- **A cast leaves the halves linked**: the new stamps name the tower, the
new record lists them, and nothing else changed. -/
theorem linked_cast {target observatoryKey : TileKey W} {tower : Tile W}
    {observatory : Observatory W} (hs : Quiescent [] s)
    (htower : s.tiles.get observatoryKey = some tower)
    (hobs : tower.observatory = some observatory) (howner : tower.ownerId = some actor.id)
    (hobsOwner : observatory.ownerId = actor.id) (hactive : observatory.status = .active)
    (hfree : isObservatoryInSiphonMode observatory = false) :
    Quiescent []
      (replaceNested m (castWrites m actor target observatoryKey tower observatory s) s) := by
  obtain ⟨hidle, hdone⟩ := @castDone _ m _ _ target _ _ _ hs htower hobs howner hobsOwner
    hactive
  refine ⟨hidle, ?_⟩
  generalize (replaceNested m (castWrites m actor target observatoryKey tower observatory s) s).tiles
    = final at hdone
  -- the new record
  have hlocks : HoldsTower final observatoryKey actor.id :=
    ⟨_, hdone.locked, observatoryCanHoldSiphon_iff.mpr ⟨_, rfl, hobsOwner, hactive, howner⟩⟩
  -- the tower drained nothing before
  have hfree' : ∀ casterId key, ¬ Records s.tiles observatoryKey casterId key := by
    rintro casterId key ⟨tower', observatory', siphon, htower', hobs', -, hsiphon, hmem⟩
    rw [htower] at htower'
    obtain rfl := Option.some.inj htower'
    rw [hobs] at hobs'
    obtain rfl := Option.some.inj hobs'
    unfold isObservatoryInSiphonMode at hfree
    rw [hsiphon] at hfree
    have hempty : siphon.tileKeys = [] := by simpa using hfree
    rw [hempty] at hmem
    cases hmem
  -- a stamp from before is matched as before
  have hold : ∀ key tower' casterId, CarriesStamp s.tiles key tower' casterId →
      HoldsTower final tower' casterId ∧ Records final tower' casterId key := by
    intro key tower' casterId hstamp
    obtain ⟨hheld, hrecord⟩ := (hs.linked.inStep key tower' casterId).mp hstamp
    have hne : tower' ≠ observatoryKey := by
      rintro rfl
      exact hfree' casterId key hrecord
    exact ⟨hheld.congr (hdone.keeps hne), hrecord.congr (hdone.keeps hne)⟩
  constructor
  · rintro key tower' casterId ⟨tile, sabotage, htile, hsabotage, hnames, hcaster⟩
    refine Or.inl ?_
    by_cases hkey : key = observatoryKey
    · subst hkey
      rw [hdone.locked] at htile
      obtain rfl := Option.some.inj htile
      exact hold key tower' casterId ⟨tower, sabotage, htower, hsabotage, hnames, hcaster⟩
    · by_cases hmem : key ∈ (affectedTiles m s.tiles target actor).map Prod.fst
      · obtain ⟨old, -, -, hfinal⟩ := hdone.written key hmem
        rw [hfinal] at htile
        obtain rfl := Option.some.inj htile
        obtain rfl := Option.some.inj hsabotage
        obtain rfl := Option.some.inj hnames
        subst hcaster
        exact ⟨hlocks, _, _, _, hdone.locked, rfl, hobsOwner, rfl, hmem⟩
      · rw [hdone.untouched key hkey hmem] at htile
        exact hold key tower' casterId ⟨tile, sabotage, htile, hsabotage, hnames, hcaster⟩
  · intro key tower' casterId hrecord
    refine Or.inl ?_
    by_cases hne : tower' = observatoryKey
    · subst hne
      obtain ⟨tile, observatory', siphon, htile, hobs', hcaster, hsiphon, hmem⟩ := hrecord
      rw [hdone.locked] at htile
      obtain rfl := Option.some.inj htile
      obtain rfl := Option.some.inj hobs'
      obtain rfl := Option.some.inj hsiphon
      have hcaster : observatory.ownerId = casterId := hcaster
      rw [hobsOwner] at hcaster
      subst hcaster
      obtain ⟨old, -, -, hfinal⟩ := hdone.written key hmem
      exact ⟨hlocks, _, _, hfinal, rfl, rfl, rfl⟩
    · have hbefore := hrecord.congr (hdone.keeps hne).symm
      have hheld : HoldsTower s.tiles tower' casterId := by
        rcases hs.linked.towers tower' casterId hbefore.hasRecord with hheld | howed
        · exact hheld
        · exact absurd howed OwesRecord.nothing
      refine ⟨hheld.congr (hdone.keeps hne), ?_⟩
      obtain ⟨tile, sabotage, htile, hsabotage, hnames, hcaster⟩ :=
        (hs.linked.inStep key tower' casterId).mpr ⟨hheld, hbefore⟩
      by_cases hkey : key = observatoryKey
      · subst hkey
        rw [htower] at htile
        obtain rfl := Option.some.inj htile
        exact ⟨_, sabotage, hdone.locked, hsabotage, hnames, hcaster⟩
      · by_cases hmem : key ∈ (affectedTiles m s.tiles target actor).map Prod.fst
        · obtain ⟨old, hget, hnone, -⟩ := hdone.written key hmem
          rw [htile] at hget
          obtain rfl := Option.some.inj hget
          rw [stampTower_eq hsabotage, hnames] at hnone
          cases hnone
        · refine ⟨tile, sabotage, ?_, hsabotage, hnames, hcaster⟩
          rw [hdone.untouched key hkey hmem]
          exact htile
  · intro tower' casterId hrecord
    refine Or.inl ?_
    by_cases hne : tower' = observatoryKey
    · subst hne
      obtain ⟨tile, observatory', htile, hobs', hcaster, -⟩ := hrecord
      rw [hdone.locked] at htile
      obtain rfl := Option.some.inj htile
      obtain rfl := Option.some.inj hobs'
      have hcaster : observatory.ownerId = casterId := hcaster
      rw [hobsOwner] at hcaster
      exact hcaster ▸ hlocks
    · rcases hs.linked.towers tower' casterId (hrecord.congr (hdone.keeps hne).symm) with
        hheld | howed
      · exact hheld.congr (hdone.keeps hne)
      · exact absurd howed OwesRecord.nothing
  · intro key tile sabotage htile hsabotage hnames
    by_cases hkey : key = observatoryKey
    · subst hkey
      rw [hdone.locked] at htile
      obtain rfl := Option.some.inj htile
      exact hs.linked.lasting key tower sabotage htower hsabotage hnames
    · by_cases hmem : key ∈ (affectedTiles m s.tiles target actor).map Prod.fst
      · obtain ⟨old, -, -, hfinal⟩ := hdone.written key hmem
        rw [hfinal] at htile
        obtain rfl := Option.some.inj htile
        obtain rfl := Option.some.inj hsabotage
        rfl
      · rw [hdone.untouched key hkey hmem] at htile
        exact hs.linked.lasting key tile sabotage htile hsabotage hnames

end Cast

/-! ## §3. Runs. -/

theorem quiescent_siphonTile (actor : Option Actor) (payload : Option (Option (TileKey W)))
    (hs : Quiescent [] s) :
    Quiescent [] (orUnchanged s (handleSiphonTileCommand m actor payload s)) := by
  unfold handleSiphonTileCommand
  split
  next actor place =>
    split
    · split
      · exact hs
      next target tile _ =>
        split
        · split
          · split
            · exact hs
            next observatoryKey hpick =>
              obtain ⟨tower, observatory, htower, hobs, howner, hobsOwner, hactive, hfree⟩ :=
                pickReadyOwnedObservatoryForTarget_spec hpick
              rw [htower]
              dsimp only
              rw [hobs]
              exact linked_cast hs htower hobs howner hobsOwner hactive hfree
          · exact hs
        · exact hs
    · exact hs
  · exact hs

theorem quiescent_endSiphon (request : SiphonEndRequest W) (hs : Quiescent [] s) :
    Quiescent [] (endSiphon m request s) :=
  quiescent_flush m (hs.linked.mono (fun _ hr => (by cases hr)))

theorem quiescent_cancelSiphon (actor : Option Actor) (payload : Option (Option (TileKey W)))
    (hs : Quiescent [] s) :
    Quiescent [] (orUnchanged s (handleCancelSiphonCommand m actor payload s)) := by
  unfold handleCancelSiphonCommand
  split
  · split
    · exact hs
    split
    · exact hs
    split
    · dsimp only [orUnchanged]
      exact quiescent_endSiphon m _ hs
    · exact hs
  · exact hs

/-- The condition on an operation: its tile writes, nested ones included,
bring no half of a siphon of their own. -/
def BringsNoHalf (s : Lifecycle W) : SiphonOp W → Prop
  | .write m write => WritesAddNoHalf m write s
  | .cast .. | .cancel .. | .sweep .. => True

/-- **One outermost operation keeps the halves linked.** -/
theorem quiescent_step (op : SiphonOp W) (hs : Quiescent [] s) (hbrings : BringsNoHalf s op) :
    Quiescent [] (s.step op) := by
  cases op with
  | cast m actor payload => exact quiescent_siphonTile m actor payload hs
  | cancel m actor payload => exact quiescent_cancelSiphon m actor payload hs
  | sweep m towerKeys =>
      rw [Lifecycle.step, sweepShieldReturns]
      refine quiescent_flush m ?_
      exact hs.linked.mono (fun _ hr => (by cases hr))
  | write m write => exact linked_replaceTileState m write s [] hs hbrings

/-- What a run starts from: halves in step, nothing queued, no record on a
tower that cannot hold it, no stamp that runs out. -/
structure Sound (s : Lifecycle W) : Prop where
  idle : s.pending = []
  inStep : InStep s.tiles
  held : ∀ observatoryKey casterId, HasRecord s.tiles observatoryKey casterId →
    HoldsTower s.tiles observatoryKey casterId
  lasting : ∀ tileKey tile sabotage, s.tiles.get tileKey = some tile →
    tile.sabotage = some sabotage → sabotage.observatoryTileKey.isSome →
    sabotage.endsAt = SIPHON_UNTIL_CANCELLED_ENDS_AT

theorem Sound.quiescent (h : Sound s) : Quiescent [] s where
  idle := h.idle
  linked :=
    { stamps := fun tileKey observatoryKey casterId hstamp =>
        Or.inl ((h.inStep tileKey observatoryKey casterId).mp hstamp)
      records := fun tileKey observatoryKey casterId hrecord => by
        have hheld := h.held observatoryKey casterId hrecord.hasRecord
        exact Or.inl ⟨hheld, (h.inStep tileKey observatoryKey casterId).mpr ⟨hheld, hrecord⟩⟩
      towers := fun observatoryKey casterId hrecord =>
        Or.inl (h.held observatoryKey casterId hrecord)
      lasting := h.lasting }

theorem sound_of_none (hstamps : ∀ key tile, tiles.get key = some tile → tile.stampTower = none)
    (hrecords : ∀ key tile, tiles.get key = some tile → tile.siphon = none) :
    Sound ⟨tiles, []⟩ := by
  have hstamp : ∀ tileKey tile sabotage, tiles.get tileKey = some tile →
      tile.sabotage = some sabotage → sabotage.observatoryTileKey = none := by
    intro tileKey tile sabotage htile hsabotage
    rw [← stampTower_eq hsabotage]
    exact hstamps tileKey tile htile
  have hrecord : ∀ observatoryKey casterId, ¬ HasRecord tiles observatoryKey casterId := by
    rintro observatoryKey casterId ⟨tower, observatory, htower, hobs, -, hsome⟩
    rw [← siphon_eq hobs, hrecords observatoryKey tower htower] at hsome
    cases hsome
  refine ⟨rfl, ?_, ?_, ?_⟩
  · intro tileKey observatoryKey casterId
    constructor
    · rintro ⟨tile, sabotage, htile, hsabotage, hnames, -⟩
      rw [hstamp tileKey tile sabotage htile hsabotage] at hnames
      cases hnames
    · rintro ⟨-, hlists⟩
      exact absurd hlists.hasRecord (hrecord observatoryKey casterId)
  · intro observatoryKey casterId hhas
    exact absurd hhas (hrecord observatoryKey casterId)
  · intro tileKey tile sabotage htile hsabotage hnames
    rw [hstamp tileKey tile sabotage htile hsabotage] at hnames
    cases hnames

/-- **Siphon halves stay in step**: every flush ends, and after every
operation of a run whose tile writes bring no half of a siphon the stamps
and the records match. -/
theorem siphon_halves_in_step :
    (∀ (m : Moment W) (s : Lifecycle W), ∃ enough, ∀ fuel, enough ≤ fuel →
        (flushLoop m fuel s).pending = [] ∧ flushLoop m fuel s = flush m s)
      ∧ ∀ (start : Lifecycle W) (ops : List (SiphonOp W)), Sound start →
        Run.StepsMeet Lifecycle.step BringsNoHalf start ops →
        Run.Along Lifecycle.step (fun s => InStep s.tiles ∧ s.pending = []) start ops := by
  constructor
  · intro m s
    refine ⟨s.flushBound, fun fuel hfuel => ⟨flushLoop_drains m fuel s hfuel, ?_⟩⟩
    exact flush_eq_flushLoop m s hfuel
  · intro start ops hstart hmeets
    have halong := Run.along_of_stepsMeet (I := Quiescent [])
      (fun s op hs hbrings => quiescent_step op hs hbrings) ops start hstart.quiescent hmeets
    exact halong.mono (fun s hs => ⟨hs.linked.inStep, hs.idle⟩)

/-! ## §4. Two runs of one siphon. -/

def midday : Clock where
  ms := 43200000
  inRange := by omega

def exampleTower : TileKey smallestWorld := wrappedTile smallestWorld 10 10
def exampleDock : TileKey smallestWorld := wrappedTile smallestWorld 12 10

/-- The caster has one tower, every other rule grants what it can. -/
def exampleMoment : Moment smallestWorld where
  now := midday
  isStructureDormant := fun _ _ _ => false
  maxShotsFor := fun _ => 3
  activeTowerKeysForOwner := fun _ _ => []
  territoryTileKeys := fun _ _ => [exampleTower]
  castRadiusFor := fun _ => OBSERVATORY_CAST_RADIUS

def exampleCaster : Actor where
  id := playerOne
  hasSiphonTech := true
  allies := []
  truces := []

def exampleObservatory : Observatory smallestWorld where
  ownerId := playerOne
  status := .active
  suppressedUntil := none
  shotsUsedAt := none
  cooldownUntil := none
  siphon := none

def towerTile : Tile smallestWorld where
  terrain := .LAND
  ownerId := some playerOne
  town := false
  resource := false
  naturalWonder := none
  sabotage := none
  observatory := some exampleObservatory

def dockTile : Tile smallestWorld where
  terrain := .LAND
  ownerId := some playerTwo
  town := false
  resource := true
  naturalWonder := none
  sabotage := none
  observatory := none

def exampleStart : Lifecycle smallestWorld where
  tiles := .ofEntries [(exampleTower, towerTile), (exampleDock, dockTile)]
  pending := []

theorem exampleStart_sound : Sound exampleStart := by
  have hkeys : ∀ key tile, exampleStart.tiles.get key = some tile →
      tile = towerTile ∨ tile = dockTile := by
    intro key tile htile
    have hmem := ((exampleStart.tiles).mem_entries_iff key tile).mpr htile
    rcases List.mem_cons.mp hmem with heq | hmem
    · exact Or.inl (Prod.mk.inj heq).2
    · exact Or.inr (Prod.mk.inj (List.mem_singleton.mp hmem)).2
  refine sound_of_none ?_ ?_
  · intro key tile htile
    rcases hkeys key tile htile with rfl | rfl <;> rfl
  · intro key tile htile
    rcases hkeys key tile htile with rfl | rfl <;> rfl

def castOnDock : SiphonOp smallestWorld :=
  .cast exampleMoment (some exampleCaster) (some (some exampleDock))

def bombedTower : Tile smallestWorld :=
  { lockedTower exampleMoment exampleCaster exampleDock [(exampleDock, dockTile)] towerTile
      exampleObservatory with ownerId := none }

def bombTower : SiphonOp smallestWorld :=
  .write exampleMoment (.replace exampleTower bombedTower [])

/-- A cast, and the tower bombed from elsewhere. -/
theorem siphon_halves_in_step_tower_bombed :
    Run.Along Lifecycle.step (fun s => InStep s.tiles ∧ s.pending = []) exampleStart
      [castOnDock, bombTower] := by
  refine siphon_halves_in_step.2 exampleStart _ exampleStart_sound
    ⟨trivial, ⟨⟨?_, ?_⟩, trivial⟩, trivial⟩
  · exact fun sabotage _ hsabotage _ => (by cases hsabotage)
  · intro siphon hsiphon
    have hbefore : (((exampleStart.step castOnDock).tiles.get exampleTower).bind Tile.siphon).map
        ObservatorySiphonMode.tileKeys = some [exampleDock] := by decide +kernel
    obtain ⟨old, hold, hkeys⟩ := Option.map_eq_some_iff.mp hbefore
    obtain rfl := Option.some.inj hsiphon
    exact ⟨old, hold, hkeys⟩

/-- The dock's tile as it stood before the bombardment, with its stamp. -/
def stampedDock : Tile smallestWorld := dockTile.stamped (siphonStamp exampleCaster exampleTower)

/-- **A drained Sky Dock that bombs the tower draining it gets its stamp
back**: the bombed tower ends the siphon, then the dock's tile is written
from the copy read before. -/
theorem bombardment_restores_stamp :
    ∃ (start : Lifecycle smallestWorld) (ops : List (SiphonOp smallestWorld)), Sound start
      ∧ ¬ Run.Along Lifecycle.step (fun s => InStep s.tiles ∧ s.pending = []) start ops := by
  refine ⟨exampleStart, [castOnDock, bombTower,
    .write exampleMoment (.replace exampleDock stampedDock [])], exampleStart_sound, ?_⟩
  rintro ⟨-, -, -, hlast, -⟩
  generalize hfinal : (((exampleStart.step castOnDock).step bombTower).step
    (.write exampleMoment (.replace exampleDock stampedDock []))).tiles = final at hlast
  have hstamped : ((final.get exampleDock).bind Tile.sabotage).map
      (fun sabotage => (sabotage.observatoryTileKey, sabotage.ownerId))
        = some (some exampleTower, playerOne) := by
    rw [← hfinal]
    decide +kernel
  have hbombed : (final.get exampleTower).all (fun tower =>
      !observatoryCanHoldSiphon tower playerOne) = true := by
    rw [← hfinal]
    decide +kernel
  obtain ⟨sabotage, hsabotage, hfields⟩ := Option.map_eq_some_iff.mp hstamped
  obtain ⟨tile, htile, hsabotage⟩ := Option.bind_eq_some_iff.mp hsabotage
  obtain ⟨hnames, howner⟩ := Prod.mk.inj hfields
  obtain ⟨⟨tower, htower, hcan⟩, -⟩ := (hlast exampleDock exampleTower playerOne).mp
    ⟨tile, sabotage, htile, hsabotage, hnames, howner⟩
  rw [htower] at hbombed
  have hcannot : (!observatoryCanHoldSiphon tower playerOne) = true := hbombed
  rw [hcan] at hcannot
  cases hcannot

end BorderEmpires.Siphon
