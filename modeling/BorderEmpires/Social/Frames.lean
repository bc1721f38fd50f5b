/-
  BorderEmpires.Social.Frames
  **WHAT THE PARTS OF AN OPERATION CHANGE.**

  One lemma for each field that a part of an operation touches or leaves
  alone.  The operations themselves are never unfolded past their parts.
-/
import BorderEmpires.Social.State

namespace BorderEmpires.Social

namespace SocialState

variable (s : SocialState) (now : ℤ)

/-! ## §1. Players. -/

section Players

variable (p q a : PlayerId)

/-- Players apart, nothing changes when a player is added or rewritten. -/
structure SameButPlayers (s s' : SocialState) : Prop where
  same : s' = { s with playersById := s'.playersById }

theorem sameButPlayers_ensurePlayer (name : Option String) :
    SameButPlayers s (s.ensurePlayer p name) := by
  constructor
  unfold ensurePlayer
  split
  · rfl
  · rfl

theorem sameButPlayers_updatePlayer (f : SocialPlayerRecord → SocialPlayerRecord) :
    SameButPlayers s (s.updatePlayer p f) := by
  constructor
  unfold updatePlayer
  split
  · rfl
  · rfl

theorem get_ensurePlayer (name : Option String) :
    (s.ensurePlayer p name).playersById.get q
      = if p = q ∧ s.playersById.get p = none then some ⟨name.getD p.text, []⟩
        else s.playersById.get q := by
  unfold ensurePlayer
  split
  next record hrecord =>
    simp [hrecord]
  next hnone =>
    rw [InsertionMap.get_set]
    by_cases hpq : p = q
    · simp [hpq ▸ hnone, hpq]
    · simp [hpq]

theorem get_updatePlayer (f : SocialPlayerRecord → SocialPlayerRecord) :
    (s.updatePlayer p f).playersById.get q
      = if p = q then (s.playersById.get q).map f else s.playersById.get q := by
  unfold updatePlayer
  split
  next record hrecord =>
    rw [InsertionMap.get_set]
    by_cases hpq : p = q
    · subst hpq
      simp [hrecord]
    · simp [hpq]
  next hnone =>
    by_cases hpq : p = q
    · subst hpq
      simp [hnone]
    · simp [hpq]

@[simp] theorem alliesOf_ensurePlayer (name : Option String) :
    (s.ensurePlayer p name).alliesOf q = s.alliesOf q := by
  unfold alliesOf
  rw [get_ensurePlayer]
  by_cases h : p = q ∧ s.playersById.get p = none
  · rw [if_pos h, ← h.1, h.2]
    rfl
  · rw [if_neg h]

@[simp] theorem alliesOf_setName (name : String) :
    (s.setName p name).alliesOf q = s.alliesOf q := by
  unfold alliesOf setName
  rw [get_updatePlayer]
  by_cases h : p = q
  · rw [if_pos h, Option.map_map]
    rfl
  · rw [if_neg h]

theorem alliesOf_addAlly (hknown : s.playersById.has p = true) :
    (s.addAlly p a).alliesOf q
      = if p = q then InsertionSet.add (s.alliesOf q) a else s.alliesOf q := by
  unfold alliesOf addAlly
  rw [get_updatePlayer]
  by_cases h : p = q
  · subst h
    obtain ⟨record, hrecord⟩ := Option.isSome_iff_exists.mp hknown
    simp [hrecord]
  · rw [if_neg h, if_neg h]

theorem alliesOf_deleteAlly :
    (s.deleteAlly p a).alliesOf q
      = if p = q then (s.alliesOf q).filter (· ≠ a) else s.alliesOf q := by
  unfold alliesOf deleteAlly
  rw [get_updatePlayer]
  by_cases h : p = q
  · rw [if_pos h, if_pos h]
    cases s.playersById.get q with
    | none => rfl
    | some record => rfl
  · rw [if_neg h, if_neg h]

theorem has_ensurePlayer (name : Option String) :
    (s.ensurePlayer p name).playersById.has q = (decide (p = q) || s.playersById.has q) := by
  unfold InsertionMap.has
  rw [get_ensurePlayer]
  by_cases hpq : p = q
  · subst hpq
    cases h : s.playersById.get p with
    | none => simp
    | some record => simp
  · simp [hpq]

theorem has_addAlly : (s.addAlly p a).playersById.has q = s.playersById.has q := by
  unfold InsertionMap.has addAlly
  rw [get_updatePlayer]
  split <;> simp

theorem mem_alliesOf_addAlly (hknown : s.playersById.has p = true) (b : PlayerId) :
    b ∈ (s.addAlly p a).alliesOf q ↔ b ∈ s.alliesOf q ∨ (p = q ∧ b = a) := by
  rw [alliesOf_addAlly _ _ _ _ hknown]
  split
  next hpq => rw [InsertionSet.mem_add, and_iff_right hpq]
  next hpq =>
    constructor
    · exact Or.inl
    · exact fun h => h.resolve_right (fun h' => hpq h'.1)

theorem mem_alliesOf_deleteAlly (b : PlayerId) :
    b ∈ (s.deleteAlly p a).alliesOf q ↔ b ∈ s.alliesOf q ∧ ¬ (p = q ∧ b = a) := by
  rw [alliesOf_deleteAlly]
  split
  next hpq => simp [hpq]
  next hpq => simp [hpq]

end Players

/-! ## §2. Sweeping. -/

/-- What lapsing offers leaves alone: they go, and cooldowns start. -/
structure SameButLapsed (s s' : SocialState) : Prop where
  same : s' = { s with
    truceRequests := s'.truceRequests
    offerCooldowns := s'.offerCooldowns
    staleOfferPlayerIds := s'.staleOfferPlayerIds
    store := s'.store }

theorem SameButLapsed.trans {s t r : SocialState} (h : SameButLapsed s t) (h' : SameButLapsed t r) :
    SameButLapsed s r := by
  constructor
  rw [h'.same, h.same]

theorem sameButLapsed_fold (l : List (RequestId × SocialTruceRequest)) :
    ∀ s : SocialState, SameButLapsed s (l.foldl (fun s entry => s.lapseRequest now entry) s) := by
  induction l with
  | nil => exact fun s => ⟨rfl⟩
  | cons entry l ih =>
      intro s
      have hstep : SameButLapsed s (s.lapseRequest now entry) := ⟨rfl⟩
      exact hstep.trans (ih _)

theorem sameButLapsed_lapseRequests : SameButLapsed s (s.lapseRequests now) :=
  sameButLapsed_fold now (s.lapsedRequests now) s

theorem truceRequests_fold (l : List (RequestId × SocialTruceRequest)) (id : RequestId)
    (s : SocialState) :
    (l.foldl (fun s entry => s.lapseRequest now entry) s).truceRequests.get id
      = if id ∈ l.map Prod.fst then none else s.truceRequests.get id := by
  have herased : (l.foldl (fun s entry => s.lapseRequest now entry) s).truceRequests
      = (l.map Prod.fst).foldl InsertionMap.erase s.truceRequests :=
    (List.foldl_hom truceRequests (fun _ _ => rfl)).symm.trans List.foldl_map.symm
  rw [herased, InsertionMap.get_eraseAll]

theorem mem_lapsedRequests (id : RequestId) :
    id ∈ (s.lapsedRequests now).map Prod.fst
      ↔ ∃ request, s.truceRequests.get id = some request ∧ s.requestLapsed now id request = true := by
  unfold lapsedRequests
  rw [List.mem_map]
  constructor
  · rintro ⟨⟨id', request⟩, hmem, rfl⟩
    obtain ⟨hentry, hlapsed⟩ := List.mem_filter.mp hmem
    exact ⟨request, (s.truceRequests.mem_entries_iff id' request).mp hentry, hlapsed⟩
  · rintro ⟨request, hget, hlapsed⟩
    exact ⟨(id, request), List.mem_filter.mpr
      ⟨(s.truceRequests.mem_entries_iff id request).mpr hget, hlapsed⟩, rfl⟩

/-- **The sweep drops the lapsed offers and no other.** -/
theorem get_truceRequests_lapseRequests (id : RequestId) :
    (s.lapseRequests now).truceRequests.get id
      = (s.truceRequests.get id).filter (fun request => ! s.requestLapsed now id request) := by
  unfold lapseRequests
  rw [truceRequests_fold]
  by_cases hlapsed : id ∈ (s.lapsedRequests now).map Prod.fst
  · rw [if_pos hlapsed]
    obtain ⟨request, hget, hreq⟩ := (s.mem_lapsedRequests now id).mp hlapsed
    rw [hget, Option.filter_some_neg (by rw [hreq]; decide)]
  · rw [if_neg hlapsed]
    cases hget : s.truceRequests.get id with
    | none => rfl
    | some request =>
        have hreq : s.requestLapsed now id request ≠ true := fun h =>
          hlapsed ((s.mem_lapsedRequests now id).mpr ⟨request, hget, h⟩)
        rw [Option.filter_some_pos (by rw [Bool.eq_false_iff.mpr hreq]; decide)]

theorem sweepExpired_eq :
    s.sweepExpired now
      = { (s.lapseRequests now).dropExpired now with store := (s.sweepExpired now).store } := by
  unfold sweepExpired
  dsimp only
  split
  · rfl
  · rfl

theorem get_truceRequests_sweepExpired (id : RequestId) :
    (s.sweepExpired now).truceRequests.get id
      = (s.truceRequests.get id).filter (fun request => ! s.requestLapsed now id request) := by
  rw [sweepExpired_eq]
  exact s.get_truceRequests_lapseRequests now id

@[simp] theorem playersById_sweepExpired : (s.sweepExpired now).playersById = s.playersById := by
  rw [sweepExpired_eq]
  show (s.lapseRequests now).playersById = _
  rw [(s.sameButLapsed_lapseRequests now).same]

@[simp] theorem allianceRequests_sweepExpired :
    (s.sweepExpired now).allianceRequests = s.allianceRequests := by
  rw [sweepExpired_eq]
  show (s.lapseRequests now).allianceRequests = _
  rw [(s.sameButLapsed_lapseRequests now).same]

@[simp] theorem allianceBreaksByPair_sweepExpired :
    (s.sweepExpired now).allianceBreaksByPair = s.allianceBreaksByPair := by
  rw [sweepExpired_eq]
  show (s.lapseRequests now).allianceBreaksByPair = _
  rw [(s.sameButLapsed_lapseRequests now).same]

@[simp] theorem settlingRequestIds_sweepExpired :
    (s.sweepExpired now).settlingRequestIds = s.settlingRequestIds := by
  rw [sweepExpired_eq]
  show (s.lapseRequests now).settlingRequestIds = _
  rw [(s.sameButLapsed_lapseRequests now).same]

@[simp] theorem drawn_sweepExpired : (s.sweepExpired now).drawn = s.drawn := by
  rw [sweepExpired_eq]
  show (s.lapseRequests now).drawn = _
  rw [(s.sameButLapsed_lapseRequests now).same]

theorem trucesByPair_sweepExpired :
    (s.sweepExpired now).trucesByPair
      = s.trucesByPair.eraseWhere (fun _ truce => truce.endsAt ≤ now) := by
  rw [sweepExpired_eq]
  show ((s.lapseRequests now).dropExpired now).trucesByPair = _
  unfold dropExpired
  dsimp only
  rw [(s.sameButLapsed_lapseRequests now).same]

theorem truceLockouts_sweepExpired :
    (s.sweepExpired now).truceLockoutUntilByPlayerId
      = s.truceLockoutUntilByPlayerId.eraseWhere (fun _ lockoutUntil => lockoutUntil ≤ now) := by
  rw [sweepExpired_eq]
  show ((s.lapseRequests now).dropExpired now).truceLockoutUntilByPlayerId = _
  unfold dropExpired
  dsimp only
  rw [(s.sameButLapsed_lapseRequests now).same]

theorem alliesOf_congr {s s' : SocialState} (h : s'.playersById = s.playersById) (p : PlayerId) :
    s'.alliesOf p = s.alliesOf p := by
  unfold alliesOf
  rw [h]

/-! ## §3. Alliances made and ended. -/

/-- **The two parties become allies, nobody else.** -/
theorem mem_alliesOf_formAlliance {actorId fromId : PlayerId} (requestId : RequestId)
    (hactor : s.playersById.has actorId = true) (hfrom : s.playersById.has fromId = true)
    (a b : PlayerId) :
    b ∈ (s.formAlliance now requestId actorId fromId).alliesOf a
      ↔ b ∈ s.alliesOf a ∨ SamePair a b actorId fromId := by
  unfold formAlliance
  dsimp only
  generalize hstore : ((s.store.addAlliance actorId fromId now).deleteAllianceRequest
    requestId).removeCompletedAllianceBreak actorId fromId = store
  show b ∈ (({ s with store := store }.addAlly actorId fromId).addAlly fromId actorId).alliesOf a ↔ _
  rw [mem_alliesOf_addAlly _ _ _ _ (by rw [has_addAlly]; exact hfrom),
    mem_alliesOf_addAlly _ _ _ _
      (show ({ s with store := store }).playersById.has actorId = true from hactor), or_assoc]
  refine or_congr Iff.rfl ?_
  unfold SamePair
  refine or_congr ?_ ?_ <;> exact and_congr eq_comm Iff.rfl

theorem formAlliance_rest (requestId : RequestId) (actorId fromId : PlayerId) :
    s.formAlliance now requestId actorId fromId
      = { s with
          playersById := (s.formAlliance now requestId actorId fromId).playersById
          allianceRequests := s.allianceRequests.erase requestId
          completedAllianceBreaks := s.completedAllianceBreaks.erase (pairKey actorId fromId)
          store := ((s.store.addAlliance actorId fromId now).deleteAllianceRequest
            requestId).removeCompletedAllianceBreak actorId fromId } := by
  unfold formAlliance addAlly
  dsimp only
  rw [(sameButPlayers_updatePlayer _ fromId _).same, (sameButPlayers_updatePlayer _ actorId _).same]

/-- **The two players of the notice are allies no more.** -/
theorem mem_alliesOf_finalizeAllianceBreak (notice : SocialAllianceBreak) (a b : PlayerId) :
    b ∈ (s.finalizeAllianceBreak now notice).alliesOf a
      ↔ b ∈ s.alliesOf a ∧ ¬ SamePair a b notice.playerAId notice.playerBId := by
  unfold finalizeAllianceBreak
  dsimp only
  show b ∈ ((((s.ensurePlayer notice.playerAId none).ensurePlayer notice.playerBId none).deleteAlly
    notice.playerAId notice.playerBId).deleteAlly notice.playerBId notice.playerAId).alliesOf a ↔ _
  rw [mem_alliesOf_deleteAlly, mem_alliesOf_deleteAlly, alliesOf_ensurePlayer,
    alliesOf_ensurePlayer, and_assoc, ← not_or]
  refine and_congr Iff.rfl (not_congr ?_)
  unfold SamePair
  refine or_congr ?_ ?_ <;> exact and_congr eq_comm Iff.rfl

theorem finalizeAllianceBreak_rest (notice : SocialAllianceBreak) :
    s.finalizeAllianceBreak now notice
      = { s with
          playersById := (s.finalizeAllianceBreak now notice).playersById
          allianceBreaksByPair :=
            s.allianceBreaksByPair.erase (pairKey notice.playerAId notice.playerBId)
          completedAllianceBreaks := s.completedAllianceBreaks.set
            (pairKey notice.playerAId notice.playerBId)
            { notice with
              finalizedAt := now
              notificationExpiresAt := now + COMPLETED_ALLIANCE_BREAK_NOTIFICATION_TTL_MS }
          store := ((s.store.removeAllianceBreak notice.playerAId notice.playerBId).removeAlliance
            notice.playerAId notice.playerBId).saveCompletedAllianceBreak
              { notice with
                finalizedAt := now
                notificationExpiresAt := now + COMPLETED_ALLIANCE_BREAK_NOTIFICATION_TTL_MS } } := by
  unfold finalizeAllianceBreak deleteAlly
  dsimp only
  rw [(sameButPlayers_updatePlayer _ notice.playerBId _).same,
    (sameButPlayers_updatePlayer _ notice.playerAId _).same,
    (sameButPlayers_ensurePlayer _ notice.playerBId none).same,
    (sameButPlayers_ensurePlayer _ notice.playerAId none).same]

/-! ## §4. Truces and lockouts. -/

theorem truces_of_updatePayloadsFor {key : String} {truce : SocialActiveTruce}
    (playerIds : List PlayerId) :
    ∀ s : SocialState, (s.updatePayloadsFor now playerIds).trucesByPair.get key = some truce →
      s.trucesByPair.get key = some truce := by
  induction playerIds with
  | nil => exact fun s h => h
  | cons p playerIds ih =>
      intro s h
      have hstep : (s.snapshotForPlayer now p).trucesByPair
          = s.trucesByPair.eraseWhere (fun _ truce => truce.endsAt ≤ now) := by
        unfold snapshotForPlayer
        rw [(sameButPlayers_ensurePlayer _ p none).same]
        exact s.trucesByPair_sweepExpired now
      have hswept := ih (s.snapshotForPlayer now p) h
      rw [hstep, InsertionMap.get_eraseWhere_eq_some] at hswept
      exact hswept.1

theorem lockedOut_sweepExpired (p : PlayerId) :
    (s.sweepExpired now).lockedOut now p = s.lockedOut now p := by
  unfold lockedOut playerIsTruceLockedOut
  rw [truceLockouts_sweepExpired, InsertionMap.get_eraseWhere]
  cases s.truceLockoutUntilByPlayerId.get p with
  | none => rfl
  | some lockoutUntil =>
      by_cases h : lockoutUntil ≤ now
      · rw [Option.filter_some_neg (by simp [h])]
        simp [h]
      · rw [Option.filter_some_pos (by simp [h])]

end SocialState

end BorderEmpires.Social
