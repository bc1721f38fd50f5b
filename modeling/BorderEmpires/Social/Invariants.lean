/-
  BorderEmpires.Social.Invariants
  **WHAT EVERY SEQUENCE OF SOCIAL OPERATIONS KEEPS.**

  Most parts of an operation only take away: `Shrinks` says that offers,
  notices and truces may go but none comes, and allies stay as they are.
  What is left for each operation is the one thing it adds.
-/
import BorderEmpires.Social.Frames

namespace BorderEmpires.Social

/-- An offer of either kind, by what the two have in common. -/
def SocialPendingOffer.kind : SocialPendingOffer → SocialOfferKind
  | .truce _ => .truce
  | .alliance _ => .alliance

def SocialPendingOffer.id : SocialPendingOffer → RequestId
  | .truce request => request.id
  | .alliance request => request.id

namespace SocialState

def putOffer (s : SocialState) : SocialPendingOffer → SocialState
  | .truce request => s.putTruceRequest request
  | .alliance request => s.putAllianceRequest request

/-! ## §1. The invariant. -/

/-- **The social state makes sense**: alliances are mutual, an offer is the
only one of its kind between its players, a notice is between allies, and no
negotiated truce outlasts its lifetime. -/
structure Sound (s : SocialState) : Prop where
  allies_symm : ∀ a b, b ∈ s.alliesOf a → a ∈ s.alliesOf b
  allies_irrefl : ∀ a, a ∉ s.alliesOf a
  one_alliance_request : ∀ id id' r r', s.allianceRequests.get id = some r →
    s.allianceRequests.get id' = some r' →
      SamePair r.fromPlayerId r.toPlayerId r'.fromPlayerId r'.toPlayerId → id = id'
  one_truce_request : ∀ id id' r r', s.truceRequests.get id = some r →
    s.truceRequests.get id' = some r' →
      SamePair r.fromPlayerId r.toPlayerId r'.fromPlayerId r'.toPlayerId → id = id'
  no_request_between_allies : ∀ id r, s.allianceRequests.get id = some r →
    r.toPlayerId ∉ s.alliesOf r.fromPlayerId
  notice_between_allies : ∀ key notice, s.allianceBreaksByPair.get key = some notice →
    notice.playerBId ∈ s.alliesOf notice.playerAId
  truce_lifetime : ∀ key truce, s.trucesByPair.get key = some truce → truce.court = false →
    truce.endsAt - truce.startedAt ≤ TRUCE_MAX_LIFETIME_MS

/-- What the operations need beside it: records stand under their own keys,
an id is drawn once, and a Court truce is no longer than the others. -/
structure Invariant (s : SocialState) : Prop extends Sound s where
  alliance_keyed : ∀ id r, s.allianceRequests.get id = some r → r.id = id ∧ id.draw < s.drawn
  truce_keyed : ∀ id r, s.truceRequests.get id = some r → r.id = id ∧ id.draw < s.drawn
  kinds_apart : ∀ id r r', s.allianceRequests.get id = some r → s.truceRequests.get id = some r' →
    False
  parties_differ : ∀ id r, s.allianceRequests.get id = some r → r.fromPlayerId ≠ r.toPlayerId
  notice_keyed : ∀ key notice, s.allianceBreaksByPair.get key = some notice →
    key = pairKey notice.playerAId notice.playerBId
  any_truce_lifetime : ∀ key truce, s.trucesByPair.get key = some truce →
    truce.endsAt - truce.startedAt ≤ TRUCE_MAX_LIFETIME_MS

/-- An offer is in settlement: its phase is written, or it is being settled now. -/
def Locked (s : SocialState) (kind : SocialOfferKind) (id : RequestId) : Prop :=
  ∃ offer, s.offerFor kind id = some offer
    ∧ (offer.settlementPhase.isSome = true ∨ id ∈ s.settlingRequestIds)

theorem locked_iff {s : SocialState} {kind : SocialOfferKind} {id : RequestId}
    {offer : SocialPendingOffer} (h : s.offerFor kind id = some offer) :
    s.Locked kind id ↔ offer.settlementPhase.isSome = true ∨ id ∈ s.settlingRequestIds := by
  unfold Locked
  rw [h]
  simp

theorem Invariant.keyed {s : SocialState} (hs : Invariant s) {kind : SocialOfferKind}
    {id : RequestId} {offer : SocialPendingOffer} (h : s.offerFor kind id = some offer) :
    offer.kind = kind ∧ offer.id = id ∧ id.draw < s.drawn := by
  cases kind with
  | truce =>
      obtain ⟨request, hget, rfl⟩ := Option.map_eq_some_iff.mp h
      exact ⟨rfl, hs.truce_keyed id request hget⟩
  | alliance =>
      obtain ⟨request, hget, rfl⟩ := Option.map_eq_some_iff.mp h
      exact ⟨rfl, hs.alliance_keyed id request hget⟩

theorem Invariant.one_kind {s : SocialState} (hs : Invariant s) {kind kind' : SocialOfferKind}
    {id : RequestId} (h : (s.offerFor kind id).isSome = true)
    (h' : (s.offerFor kind' id).isSome = true) : kind' = kind := by
  simp only [offerFor, Option.isSome_iff_exists] at h h'
  cases kind <;> cases kind' <;> simp only [Option.map_eq_some_iff] at h h'
  · rfl
  · obtain ⟨⟨_, r, hr, -⟩, ⟨_, r', hr', -⟩⟩ := And.intro h h'
    exact (hs.kinds_apart id r' r hr' hr).elim
  · obtain ⟨⟨_, r, hr, -⟩, ⟨_, r', hr', -⟩⟩ := And.intro h h'
    exact (hs.kinds_apart id r r' hr hr').elim
  · rfl

theorem offerFor_putOffer (s : SocialState) (offer : SocialPendingOffer) (kind : SocialOfferKind)
    (id : RequestId) :
    (s.putOffer offer).offerFor kind id
      = if kind = offer.kind ∧ id = offer.id then some offer else s.offerFor kind id := by
  cases offer <;> cases kind <;>
    simp only [putOffer, putTruceRequest, putAllianceRequest, offerFor, SocialPendingOffer.kind,
      SocialPendingOffer.id, InsertionMap.get_set, reduceCtorEq, false_and, true_and, if_false,
      eq_comm (a := id)] <;>
    split <;> rfl

theorem offerFor_dropRequest (s : SocialState) (kind kind' : SocialOfferKind) (id id' : RequestId) :
    (s.dropRequest kind id).offerFor kind' id'
      = if kind' = kind ∧ id' = id then none else s.offerFor kind' id' := by
  cases kind <;> cases kind' <;>
    simp only [dropRequest, dropTruceRequest, dropAllianceRequest, offerFor, InsertionMap.get_erase,
      reduceCtorEq, false_and, true_and, if_false, eq_comm (a := id')] <;>
    split <;> rfl

theorem Locked.congr {s s' : SocialState} {kind : SocialOfferKind} {id : RequestId}
    (halliance : s'.allianceRequests = s.allianceRequests)
    (htruce : s'.truceRequests = s.truceRequests)
    (hsettling : s'.settlingRequestIds = s.settlingRequestIds) (h : s.Locked kind id) :
    s'.Locked kind id := by
  unfold Locked offerFor at *
  rw [halliance, htruce, hsettling]
  exact h

/-! ## §2. Taking away. -/

/-- The offers whose own accept or discard is running. -/
abbrev Own := SocialOfferKind → RequestId → Prop

/-- Offers may change but not their parties, nothing is added, and an offer
in settlement stays so unless it is the operation's own. -/
structure Shrinks (own : Own) (s s' : SocialState) : Prop where
  allies : ∀ p, s'.alliesOf p = s.alliesOf p
  drawn : s'.drawn = s.drawn
  alliance : ∀ id r', s'.allianceRequests.get id = some r' →
    ∃ r, s.allianceRequests.get id = some r ∧ r'.id = r.id ∧ r'.fromPlayerId = r.fromPlayerId
      ∧ r'.toPlayerId = r.toPlayerId
  truce : ∀ id r', s'.truceRequests.get id = some r' →
    ∃ r, s.truceRequests.get id = some r ∧ r'.id = r.id ∧ r'.fromPlayerId = r.fromPlayerId
      ∧ r'.toPlayerId = r.toPlayerId
  breaks : ∀ key notice, s'.allianceBreaksByPair.get key = some notice →
    s.allianceBreaksByPair.get key = some notice
  truces : ∀ key truce, s'.trucesByPair.get key = some truce → s.trucesByPair.get key = some truce
  locked : ∀ kind id, ¬ own kind id → s.Locked kind id → s'.Locked kind id

/-- **What an operation does**: it keeps the invariant, and the offers in
settlement other than its own. -/
def Keeps (own : Own) (s s' : SocialState) : Prop :=
  Invariant s → Invariant s' ∧ ∀ kind id, ¬ own kind id → s.Locked kind id → s'.Locked kind id

section Shrinking

variable {own : Own} {s s' t : SocialState}

theorem Keeps.trans (h : Keeps own s t) (h' : Keeps own t s') : Keeps own s s' := by
  intro hs
  obtain ⟨ht, hlocked⟩ := h hs
  obtain ⟨hs', hlocked'⟩ := h' ht
  exact ⟨hs', fun kind id hown hl => hlocked' kind id hown (hlocked kind id hown hl)⟩

theorem Keeps.trans_of (h : Keeps own s t) (h' : Invariant t → Keeps own t s') : Keeps own s s' :=
  fun hs => h.trans (h' (h hs).1) hs

/-- **What only takes away keeps the invariant.** -/
theorem Shrinks.invariant (h : Shrinks own s s') (hs : Invariant s) : Invariant s' where
  allies_symm := by
    intro a b hab
    rw [h.allies] at hab ⊢
    exact hs.allies_symm a b hab
  allies_irrefl := by
    intro a
    rw [h.allies]
    exact hs.allies_irrefl a
  one_alliance_request := by
    intro id id' r r' hr hr' hpair
    obtain ⟨q, hq, -, hfrom, hto⟩ := h.alliance id r hr
    obtain ⟨q', hq', -, hfrom', hto'⟩ := h.alliance id' r' hr'
    rw [hfrom, hto, hfrom', hto'] at hpair
    exact hs.one_alliance_request id id' q q' hq hq' hpair
  one_truce_request := by
    intro id id' r r' hr hr' hpair
    obtain ⟨q, hq, -, hfrom, hto⟩ := h.truce id r hr
    obtain ⟨q', hq', -, hfrom', hto'⟩ := h.truce id' r' hr'
    rw [hfrom, hto, hfrom', hto'] at hpair
    exact hs.one_truce_request id id' q q' hq hq' hpair
  no_request_between_allies := by
    intro id r hr
    obtain ⟨q, hq, -, hfrom, hto⟩ := h.alliance id r hr
    rw [h.allies, hfrom, hto]
    exact hs.no_request_between_allies id q hq
  notice_between_allies := by
    intro key notice hn
    rw [h.allies]
    exact hs.notice_between_allies key notice (h.breaks key notice hn)
  truce_lifetime := fun key truce ht => hs.truce_lifetime key truce (h.truces key truce ht)
  alliance_keyed := by
    intro id r hr
    obtain ⟨q, hq, hid, -, -⟩ := h.alliance id r hr
    rw [hid, h.drawn]
    exact hs.alliance_keyed id q hq
  truce_keyed := by
    intro id r hr
    obtain ⟨q, hq, hid, -, -⟩ := h.truce id r hr
    rw [hid, h.drawn]
    exact hs.truce_keyed id q hq
  kinds_apart := by
    intro id r r' hr hr'
    obtain ⟨q, hq, -⟩ := h.alliance id r hr
    obtain ⟨q', hq', -⟩ := h.truce id r' hr'
    exact hs.kinds_apart id q q' hq hq'
  parties_differ := by
    intro id r hr
    obtain ⟨q, hq, -, hfrom, hto⟩ := h.alliance id r hr
    rw [hfrom, hto]
    exact hs.parties_differ id q hq
  notice_keyed := fun key notice hn => hs.notice_keyed key notice (h.breaks key notice hn)
  any_truce_lifetime := fun key truce ht => hs.any_truce_lifetime key truce (h.truces key truce ht)

theorem Shrinks.keeps (h : Shrinks own s s') : Keeps own s s' :=
  fun hs => ⟨h.invariant hs, h.locked⟩

theorem Keeps.of_eq (hallies : ∀ p, s'.alliesOf p = s.alliesOf p) (hdrawn : s'.drawn = s.drawn)
    (halliance : s'.allianceRequests = s.allianceRequests)
    (htruce : s'.truceRequests = s.truceRequests)
    (hbreaks : s'.allianceBreaksByPair = s.allianceBreaksByPair)
    (htruces : s'.trucesByPair = s.trucesByPair)
    (hsettling : s'.settlingRequestIds = s.settlingRequestIds) : Keeps own s s' := by
  apply Shrinks.keeps
  refine ⟨hallies, hdrawn, ?_, ?_, ?_, ?_, fun _ _ _ => Locked.congr halliance htruce hsettling⟩
  · rw [halliance]
    exact fun _ r h => ⟨r, h, rfl, rfl, rfl⟩
  · rw [htruce]
    exact fun _ r h => ⟨r, h, rfl, rfl, rfl⟩
  · rw [hbreaks]
    exact fun _ _ h => h
  · rw [htruces]
    exact fun _ _ h => h

theorem Keeps.refl (s : SocialState) : Keeps own s s :=
  Keeps.of_eq (fun _ => rfl) rfl rfl rfl rfl rfl rfl

theorem SameButPlayers.keeps (h : SameButPlayers s s') (hallies : ∀ p, s'.alliesOf p = s.alliesOf p) :
    Keeps own s s' := by
  refine Keeps.of_eq hallies ?_ ?_ ?_ ?_ ?_ ?_
  all_goals rw [h.same]

theorem Keeps.foldl {α : Type} {f : SocialState → α → SocialState}
    (h : ∀ s a, Keeps own s (f s a)) (l : List α) : ∀ s, Keeps own s (l.foldl f s) := by
  induction l with
  | nil => exact Keeps.refl
  | cons a l ih => exact fun s => (h s a).trans (ih (f s a))

/-- The maps of offers apart, nothing changes. -/
structure SameButOffers (s s' : SocialState) : Prop where
  same : s' = { s with
    allianceRequests := s'.allianceRequests
    truceRequests := s'.truceRequests
    store := s'.store }

/-- An offer that takes the place of another is between the same players. -/
structure SameOffer (offer offer' : SocialPendingOffer) : Prop where
  kind : offer'.kind = offer.kind
  id : offer'.id = offer.id
  fromPlayerId : offer'.fromPlayerId = offer.fromPlayerId
  toPlayerId : offer'.toPlayerId = offer.toPlayerId

/-- **Offers may go, or others take their place**, of the same players and
with their lock. -/
theorem SameButOffers.keeps (h : SameButOffers s s')
    (hold : ∀ kind id offer', s'.offerFor kind id = some offer' →
      ∃ offer, s.offerFor kind id = some offer ∧ SameOffer offer offer')
    (hlocked : ∀ kind id offer, ¬ own kind id → s.Locked kind id →
      s.offerFor kind id = some offer → ∃ offer', s'.offerFor kind id = some offer'
        ∧ (offer.settlementPhase.isSome = true → offer'.settlementPhase.isSome = true)) :
    Keeps own s s' := by
  have hsettling : s'.settlingRequestIds = s.settlingRequestIds := by rw [h.same]
  apply Shrinks.keeps
  refine ⟨?_, ?_, ?_, ?_, ?_, ?_, ?_⟩
  · exact alliesOf_congr (by rw [h.same])
  · rw [h.same]
  · intro id r' hr'
    have hoffer' : s'.offerFor .alliance id = some (.alliance r') := by simp [offerFor, hr']
    obtain ⟨offer, hoffer, hsame⟩ := hold .alliance id _ hoffer'
    obtain ⟨r, hr, rfl⟩ := Option.map_eq_some_iff.mp hoffer
    exact ⟨r, hr, hsame.id, hsame.fromPlayerId, hsame.toPlayerId⟩
  · intro id r' hr'
    have hoffer' : s'.offerFor .truce id = some (.truce r') := by simp [offerFor, hr']
    obtain ⟨offer, hoffer, hsame⟩ := hold .truce id _ hoffer'
    obtain ⟨r, hr, rfl⟩ := Option.map_eq_some_iff.mp hoffer
    exact ⟨r, hr, hsame.id, hsame.fromPlayerId, hsame.toPlayerId⟩
  · rw [h.same]
    exact fun _ _ hn => hn
  · rw [h.same]
    exact fun _ _ ht => ht
  · intro kind id hown hl
    obtain ⟨offer, hoffer, hlock⟩ := hl
    obtain ⟨offer', hoffer', hphase⟩ := hlocked kind id offer hown ⟨offer, hoffer, hlock⟩ hoffer
    rw [locked_iff hoffer', hsettling]
    exact hlock.imp_left hphase

end Shrinking

/-! ## §3. The parts. -/

section Parts

variable {own : Own} (s : SocialState) (now : ℤ)

theorem keeps_sweepExpired : Keeps own s (s.sweepExpired now) := by
  apply Shrinks.keeps
  refine ⟨alliesOf_congr (s.playersById_sweepExpired now), s.drawn_sweepExpired now, ?_, ?_, ?_, ?_,
    ?_⟩
  · rw [allianceRequests_sweepExpired]
    exact fun _ r h => ⟨r, h, rfl, rfl, rfl⟩
  · intro id r hr
    rw [get_truceRequests_sweepExpired, Option.filter_eq_some_iff] at hr
    exact ⟨r, hr.1, rfl, rfl, rfl⟩
  · rw [allianceBreaksByPair_sweepExpired]
    exact fun _ _ h => h
  · intro key truce ht
    rw [trucesByPair_sweepExpired, InsertionMap.get_eraseWhere_eq_some] at ht
    exact ht.1
  · intro kind id _ hl
    obtain ⟨offer, hoffer, hlock⟩ := hl
    have hkept : (s.sweepExpired now).offerFor kind id = some offer := by
      cases kind with
      | alliance =>
          show ((s.sweepExpired now).allianceRequests.get id).map _ = _
          rw [allianceRequests_sweepExpired]
          exact hoffer
      | truce =>
          obtain ⟨request, hget, rfl⟩ := Option.map_eq_some_iff.mp hoffer
          -- an offer in settlement does not lapse
          have hnot : s.requestLapsed now id request = false := by
            unfold requestLapsed
            rcases hlock with hphase | hsettling
            · have hne : request.settlementPhase ≠ none := Option.isSome_iff_ne_none.mp hphase
              simp [hne]
            · simp [hsettling]
          show ((s.sweepExpired now).truceRequests.get id).map _ = _
          rw [get_truceRequests_sweepExpired, hget, Option.filter_some_pos (by rw [hnot]; decide)]
          rfl
    rw [locked_iff hkept, settlingRequestIds_sweepExpired]
    exact hlock

theorem keeps_ensurePlayer (p : PlayerId) (name : Option String) :
    Keeps own s (s.ensurePlayer p name) :=
  (s.sameButPlayers_ensurePlayer p name).keeps (fun q => s.alliesOf_ensurePlayer p q name)

theorem keeps_registerPlayer (p : PlayerId) (name : String) :
    Keeps own s (s.registerPlayer p name) := by
  unfold registerPlayer
  have hname : Keeps own (s.ensurePlayer p (some name))
      ((s.ensurePlayer p (some name)).setName p name) :=
    (sameButPlayers_updatePlayer _ p _).keeps (fun q => alliesOf_setName _ p q name)
  refine ((s.keeps_ensurePlayer p (some name)).trans hname).trans ?_
  exact Keeps.of_eq (fun _ => rfl) rfl rfl rfl rfl rfl rfl

theorem keeps_snapshotForPlayer (p : PlayerId) : Keeps own s (s.snapshotForPlayer now p) := by
  unfold snapshotForPlayer
  have hprune : Keeps own (s.sweepExpired now) ((s.sweepExpired now).pruneForcedCooldowns now) :=
    Keeps.of_eq (fun _ => rfl) rfl rfl rfl rfl rfl rfl
  exact ((s.keeps_sweepExpired now).trans hprune).trans (keeps_ensurePlayer _ p none)

theorem keeps_updatePayloadsFor (playerIds : List PlayerId) :
    Keeps own s (s.updatePayloadsFor now playerIds) :=
  Keeps.foldl (fun s p => s.keeps_snapshotForPlayer now p) playerIds s

theorem keeps_startOfferCooldown (kind : SocialOfferKind) (a b : PlayerId) (durationMs : ℤ) :
    Keeps own s (s.startOfferCooldown now kind a b durationMs) :=
  Keeps.of_eq (fun _ => rfl) rfl rfl rfl rfl rfl rfl

theorem keeps_markStale (playerIds : List PlayerId) : Keeps own s (s.markStale playerIds) :=
  Keeps.of_eq (fun _ => rfl) rfl rfl rfl rfl rfl rfl

theorem keeps_dropRequest (kind : SocialOfferKind) (id : RequestId)
    (h : own kind id ∨ ¬ s.Locked kind id) : Keeps own s (s.dropRequest kind id) := by
  have hsame : SameButOffers s (s.dropRequest kind id) := ⟨by cases kind <;> rfl⟩
  refine hsame.keeps ?_ ?_
  · intro kind' id' offer' hoffer'
    rw [offerFor_dropRequest] at hoffer'
    split at hoffer'
    · cases hoffer'
    · exact ⟨offer', hoffer', rfl, rfl, rfl, rfl⟩
  · intro kind' id' offer hown hl hoffer
    refine ⟨offer, ?_, fun hphase => hphase⟩
    rw [offerFor_dropRequest, if_neg]
    · exact hoffer
    · intro hsameOffer
      rw [hsameOffer.1, hsameOffer.2] at hown hl
      exact h.elim hown (fun hfree => hfree hl)

theorem keeps_unlock (id : RequestId) (h : ∀ kind, (s.offerFor kind id).isSome → own kind id) :
    Keeps own s (s.unlock id) := by
  apply Shrinks.keeps
  refine ⟨fun _ => rfl, rfl, fun _ r hr => ⟨r, hr, rfl, rfl, rfl⟩,
    fun _ r hr => ⟨r, hr, rfl, rfl, rfl⟩, fun _ _ hn => hn, fun _ _ ht => ht, ?_⟩
  rintro kind id' hown ⟨offer, hoffer, hlock⟩
  have hne : id' ≠ id := by
    rintro rfl
    exact hown (h kind (Option.isSome_iff_exists.mpr ⟨offer, hoffer⟩))
  refine ⟨offer, hoffer, hlock.imp_right (fun hmem => ?_)⟩
  exact List.mem_filter.mpr ⟨hmem, by simpa using hne⟩

theorem keeps_putOffer (offer offer' : SocialPendingOffer)
    (hoffer : s.offerFor offer.kind offer.id = some offer) (hsame : SameOffer offer offer')
    (hphase : offer.settlementPhase.isSome = true → offer'.settlementPhase.isSome = true) :
    Keeps own s (s.putOffer offer') := by
  have hsameState : SameButOffers s (s.putOffer offer') := ⟨by cases offer' <;> rfl⟩
  refine hsameState.keeps ?_ ?_
  · intro kind id other hother
    rw [offerFor_putOffer] at hother
    split at hother
    next heq =>
      rw [heq.1, heq.2, hsame.kind, hsame.id]
      exact ⟨offer, hoffer, Option.some.inj hother ▸ hsame⟩
    next => exact ⟨other, hother, rfl, rfl, rfl, rfl⟩
  · intro kind id other _ _ hother
    rw [offerFor_putOffer]
    split
    next heq =>
      rw [heq.1, heq.2, hsame.kind, hsame.id, hoffer] at hother
      exact ⟨offer', rfl, Option.some.inj hother ▸ hphase⟩
    next => exact ⟨other, hother, fun hphase => hphase⟩

theorem keeps_putOffers {R : Type} (renamed : R → SocialPendingOffer) (l : List R) :
    ∀ s : SocialState, (∀ r ∈ l, ∃ offer,
      s.offerFor (renamed r).kind (renamed r).id = some offer ∧ SameOffer offer (renamed r)
        ∧ (renamed r).settlementPhase = offer.settlementPhase) →
    Keeps own s (l.foldl (fun s r => s.putOffer (renamed r)) s) := by
  induction l with
  | nil => exact fun s _ => Keeps.refl s
  | cons r l ih =>
      intro s hl
      obtain ⟨offer, hoffer, hsame, hphase⟩ := hl r List.mem_cons_self
      have hput : Keeps own s (s.putOffer (renamed r)) := by
        refine s.keeps_putOffer offer (renamed r) ?_ hsame ?_
        · rw [← hsame.kind, ← hsame.id]
          exact hoffer
        · rw [hphase]
          exact fun h => h
      refine hput.trans (ih _ (fun q hq => ?_))
      obtain ⟨other, hother, hsame', hphase'⟩ := hl q (List.mem_cons_of_mem r hq)
      rw [offerFor_putOffer]
      split
      next heq =>
        -- the offer saved just now is the one the rest starts from
        rw [heq.1, heq.2, hoffer] at hother
        have hsameOffer : offer = other := Option.some.inj hother
        subst hsameOffer
        exact ⟨renamed r, rfl, ⟨hsame'.kind.trans hsame.kind.symm, hsame'.id.trans hsame.id.symm,
          hsame'.fromPlayerId.trans hsame.fromPlayerId.symm,
          hsame'.toPlayerId.trans hsame.toPlayerId.symm⟩, hphase'.trans hphase.symm⟩
      next => exact ⟨other, hother, hsame', hphase'⟩

end Parts

/-! ## §4. What is added. -/

section Added

variable {own : Own} (s : SocialState) (now : ℤ)

theorem locked_newOffer {s : SocialState} (hs : Invariant s) {o : SocialPendingOffer}
    (hid : o.id = ⟨s.drawn⟩) {kind : SocialOfferKind} {id : RequestId} (hl : s.Locked kind id) :
    (({ s with drawn := s.drawn + 1 }).putOffer o).Locked kind id := by
  obtain ⟨other, hother, hlock⟩ := hl
  have hput := offerFor_putOffer { s with drawn := s.drawn + 1 } o kind id
  have hfresh : ¬ (kind = o.kind ∧ id = o.id) := by
    intro heq
    have hlt := (hs.keyed hother).2.2
    rw [heq.2, hid] at hlt
    exact absurd hlt (lt_irrefl _)
  rw [if_neg hfresh] at hput
  have hsettling : (({ s with drawn := s.drawn + 1 }).putOffer o).settlingRequestIds
      = s.settlingRequestIds := by
    cases o <;> rfl
  rw [locked_iff (hput.trans hother), hsettling]
  exact hlock

/-- **A new alliance offer** stands under an id never drawn before. -/
theorem keeps_newAllianceRequest (request : SocialAllianceRequest) (hid : request.id = ⟨s.drawn⟩)
    (hne : request.fromPlayerId ≠ request.toPlayerId)
    (hallies : request.toPlayerId ∉ s.alliesOf request.fromPlayerId)
    (hnone : findAllianceRequestBetweenPlayers s.allianceRequests request.fromPlayerId
      request.toPlayerId = none) :
    Keeps own s (({ s with drawn := s.drawn + 1 }).putAllianceRequest request) := by
  intro hs
  have hget := fun id r =>
    (s.allianceRequests.get_set_eq_some request.id id request r).mp
  refine ⟨⟨⟨hs.allies_symm, hs.allies_irrefl, ?_, hs.one_truce_request, ?_,
    hs.notice_between_allies, hs.truce_lifetime⟩, ?_, ?_, ?_, ?_, hs.notice_keyed,
    hs.any_truce_lifetime⟩, fun _ _ _ hl => locked_newOffer hs (o := .alliance request) hid hl⟩
  · intro id id' r r' hr hr' hpair
    rcases hget id r hr with ⟨rfl, rfl⟩ | ⟨-, hold⟩ <;>
      rcases hget id' r' hr' with ⟨rfl, rfl⟩ | ⟨-, hold'⟩
    · rfl
    · exact absurd hpair.symm (findAllianceRequestBetweenPlayers_eq_none hnone hold')
    · exact absurd hpair (findAllianceRequestBetweenPlayers_eq_none hnone hold)
    · exact hs.one_alliance_request id id' r r' hold hold' hpair
  · intro id r hr
    rcases hget id r hr with ⟨rfl, rfl⟩ | ⟨-, hr⟩
    · exact hallies
    · exact hs.no_request_between_allies id r hr
  · intro id r hr
    show r.id = id ∧ id.draw < s.drawn + 1
    rcases hget id r hr with ⟨rfl, rfl⟩ | ⟨-, hr⟩
    · rw [hid]
      exact ⟨rfl, Nat.lt_succ_self _⟩
    · obtain ⟨hkey, hlt⟩ := hs.alliance_keyed id r hr
      exact ⟨hkey, by omega⟩
  · intro id r hr
    show r.id = id ∧ id.draw < s.drawn + 1
    obtain ⟨hkey, hlt⟩ := hs.truce_keyed id r hr
    exact ⟨hkey, by omega⟩
  · intro id r r' hr hr'
    rcases hget id r hr with ⟨rfl, rfl⟩ | ⟨-, hr⟩
    · have hlt := (hs.truce_keyed _ r' hr').2
      rw [hid] at hlt
      exact absurd hlt (lt_irrefl _)
    · exact hs.kinds_apart id r r' hr hr'
  · intro id r hr
    rcases hget id r hr with ⟨rfl, rfl⟩ | ⟨-, hr⟩
    · exact hne
    · exact hs.parties_differ id r hr

/-- **A new truce offer**, likewise. -/
theorem keeps_newTruceRequest (request : SocialTruceRequest) (hid : request.id = ⟨s.drawn⟩)
    (hnone : findTruceRequestBetweenPlayers s.truceRequests request.fromPlayerId
      request.toPlayerId = none) :
    Keeps own s (({ s with drawn := s.drawn + 1 }).putTruceRequest request) := by
  intro hs
  have hget := fun id r => (s.truceRequests.get_set_eq_some request.id id request r).mp
  refine ⟨⟨⟨hs.allies_symm, hs.allies_irrefl, hs.one_alliance_request, ?_,
    hs.no_request_between_allies, hs.notice_between_allies, hs.truce_lifetime⟩, ?_, ?_, ?_,
    hs.parties_differ, hs.notice_keyed, hs.any_truce_lifetime⟩,
    fun _ _ _ hl => locked_newOffer hs (o := .truce request) hid hl⟩
  · intro id id' r r' hr hr' hpair
    rcases hget id r hr with ⟨rfl, rfl⟩ | ⟨-, hold⟩ <;>
      rcases hget id' r' hr' with ⟨rfl, rfl⟩ | ⟨-, hold'⟩
    · rfl
    · exact absurd hpair.symm (findTruceRequestBetweenPlayers_eq_none hnone hold')
    · exact absurd hpair (findTruceRequestBetweenPlayers_eq_none hnone hold)
    · exact hs.one_truce_request id id' r r' hold hold' hpair
  · intro id r hr
    show r.id = id ∧ id.draw < s.drawn + 1
    obtain ⟨hkey, hlt⟩ := hs.alliance_keyed id r hr
    exact ⟨hkey, by omega⟩
  · intro id r hr
    show r.id = id ∧ id.draw < s.drawn + 1
    rcases hget id r hr with ⟨rfl, rfl⟩ | ⟨-, hr⟩
    · rw [hid]
      exact ⟨rfl, Nat.lt_succ_self _⟩
    · obtain ⟨hkey, hlt⟩ := hs.truce_keyed id r hr
      exact ⟨hkey, by omega⟩
  · intro id r r' hr hr'
    rcases hget id r' hr' with ⟨rfl, rfl⟩ | ⟨-, hr'⟩
    · have hlt := (hs.alliance_keyed _ r hr).2
      rw [hid] at hlt
      exact absurd hlt (lt_irrefl _)
    · exact hs.kinds_apart id r r' hr hr'

/-- **Truces may change** while each stays within its lifetime. -/
theorem keeps_truces {s s' : SocialState}
    (hlife : Invariant s → ∀ key truce, s'.trucesByPair.get key = some truce →
      truce.endsAt - truce.startedAt ≤ TRUCE_MAX_LIFETIME_MS)
    (h : Keeps own s { s' with trucesByPair := s.trucesByPair }) : Keeps own s s' := by
  intro hs
  obtain ⟨hs', hlocked⟩ := h hs
  exact ⟨⟨⟨hs'.allies_symm, hs'.allies_irrefl, hs'.one_alliance_request, hs'.one_truce_request,
    hs'.no_request_between_allies, hs'.notice_between_allies,
    fun key truce ht _ => hlife hs key truce ht⟩, hs'.alliance_keyed, hs'.truce_keyed,
    hs'.kinds_apart, hs'.parties_differ, hs'.notice_keyed, hlife hs⟩, hlocked⟩

theorem lifetime_set {s : SocialState} (hs : Invariant s) {key : String} {truce : SocialActiveTruce}
    (hlife : truce.endsAt - truce.startedAt ≤ TRUCE_MAX_LIFETIME_MS) (key' : String)
    (truce' : SocialActiveTruce) (h : (s.trucesByPair.set key truce).get key' = some truce') :
    truce'.endsAt - truce'.startedAt ≤ TRUCE_MAX_LIFETIME_MS := by
  rw [InsertionMap.get_set_eq_some] at h
  rcases h with ⟨-, rfl⟩ | ⟨-, h⟩
  · exact hlife
  · exact hs.any_truce_lifetime key' truce' h

/-- **A notice between allies** may be given. -/
theorem keeps_putAllianceBreak (notice : SocialAllianceBreak)
    (h : notice.playerBId ∈ s.alliesOf notice.playerAId) :
    Keeps own s (s.putAllianceBreak notice) := by
  intro hs
  have hget := fun key n => (s.allianceBreaksByPair.get_set_eq_some
    (pairKey notice.playerAId notice.playerBId) key notice n).mp
  refine ⟨⟨⟨hs.allies_symm, hs.allies_irrefl, hs.one_alliance_request, hs.one_truce_request,
    hs.no_request_between_allies, ?_, hs.truce_lifetime⟩, hs.alliance_keyed, hs.truce_keyed,
    hs.kinds_apart, hs.parties_differ, ?_, hs.any_truce_lifetime⟩, fun _ _ _ hl => hl⟩
  · intro key n hn
    rcases hget key n hn with ⟨-, rfl⟩ | ⟨-, hn⟩
    · exact h
    · exact hs.notice_between_allies key n hn
  · intro key n hn
    rcases hget key n hn with ⟨hkey, rfl⟩ | ⟨-, hn⟩
    · exact hkey
    · exact hs.notice_keyed key n hn

end Added

/-! ## §5. Alliances. -/

section Alliances

variable {own : Own} (s : SocialState) (now : ℤ)

/-- **Allies and notices may change** while offers, locks and truces stay. -/
theorem Keeps.of_allies {s s' : SocialState} (hdrawn : s'.drawn = s.drawn)
    (halliance : s'.allianceRequests = s.allianceRequests)
    (htruce : s'.truceRequests = s.truceRequests)
    (htruces : s'.trucesByPair = s.trucesByPair)
    (hsettling : s'.settlingRequestIds = s.settlingRequestIds)
    (hbreaks : ∀ key notice, s'.allianceBreaksByPair.get key = some notice →
      s.allianceBreaksByPair.get key = some notice)
    (h : Invariant s → (∀ a b, b ∈ s'.alliesOf a → a ∈ s'.alliesOf b)
      ∧ (∀ a, a ∉ s'.alliesOf a)
      ∧ (∀ id r, s.allianceRequests.get id = some r → r.toPlayerId ∉ s'.alliesOf r.fromPlayerId)
      ∧ (∀ key notice, s'.allianceBreaksByPair.get key = some notice →
          notice.playerBId ∈ s'.alliesOf notice.playerAId)) : Keeps own s s' := by
  intro hs
  obtain ⟨hsymm, hirrefl, hrequests, hnotices⟩ := h hs
  refine ⟨⟨⟨hsymm, hirrefl, ?_, ?_, ?_, hnotices, ?_⟩, ?_, ?_, ?_, ?_, ?_, ?_⟩,
    fun _ _ _ hl => Locked.congr halliance htruce hsettling hl⟩
  · rw [halliance]
    exact hs.one_alliance_request
  · rw [htruce]
    exact hs.one_truce_request
  · rw [halliance]
    exact hrequests
  · rw [htruces]
    exact hs.truce_lifetime
  · rw [halliance, hdrawn]
    exact hs.alliance_keyed
  · rw [htruce, hdrawn]
    exact hs.truce_keyed
  · rw [halliance, htruce]
    exact hs.kinds_apart
  · rw [halliance]
    exact hs.parties_differ
  · exact fun key n hn => hs.notice_keyed key n (hbreaks key n hn)
  · rw [htruces]
    exact hs.any_truce_lifetime

/-- **An accepted offer makes its two players allies.** -/
theorem keeps_formAlliance {requestId : RequestId} {request : SocialAllianceRequest}
    (hget : s.allianceRequests.get requestId = some request) (hown : own .alliance requestId)
    (hto : s.playersById.has request.toPlayerId = true)
    (hfrom : s.playersById.has request.fromPlayerId = true) :
    Keeps own s (s.formAlliance now requestId request.toPlayerId request.fromPlayerId) := by
  intro hs
  have hmem := s.mem_alliesOf_formAlliance now requestId hto hfrom
  have hrest := s.formAlliance_rest now requestId request.toPlayerId request.fromPlayerId
  generalize s.formAlliance now requestId request.toPlayerId request.fromPlayerId = s' at hmem hrest
  -- the offer goes first, then the two become allies
  have hdrop : Keeps own s (s.dropAllianceRequest requestId) :=
    s.keeps_dropRequest .alliance requestId (Or.inl hown)
  refine hdrop.trans (Keeps.of_allies ?_ ?_ ?_ ?_ ?_ ?_ (fun _ => ⟨?_, ?_, ?_, ?_⟩)) hs
  · rw [hrest]
    rfl
  · rw [hrest]
    rfl
  · rw [hrest]
    rfl
  · rw [hrest]
    rfl
  · rw [hrest]
    rfl
  · rw [hrest]
    exact fun _ _ hn => hn
  · intro a b hab
    rw [hmem] at hab ⊢
    refine hab.imp (hs.allies_symm a b) (fun hp => ?_)
    rcases hp with ⟨rfl, rfl⟩ | ⟨rfl, rfl⟩
    · exact Or.inr ⟨rfl, rfl⟩
    · exact Or.inl ⟨rfl, rfl⟩
  · intro a ha
    rw [hmem] at ha
    have hne := hs.parties_differ requestId request hget
    rcases ha with ha | ⟨h1, h2⟩ | ⟨h1, h2⟩
    · exact hs.allies_irrefl a ha
    · exact hne (h2.symm.trans h1)
    · exact hne (h1.symm.trans h2)
  · intro id r hr hmem'
    obtain ⟨hne, hr⟩ := (s.allianceRequests.get_erase_eq_some requestId id r).mp hr
    rw [hmem] at hmem'
    rcases hmem' with hallied | hpair
    · exact hs.no_request_between_allies id r hr hallied
    · -- the accepted offer was the only one between the two
      have hsame : SamePair r.fromPlayerId r.toPlayerId request.fromPlayerId request.toPlayerId := by
        rcases hpair with ⟨h1, h2⟩ | ⟨h1, h2⟩
        · exact Or.inr ⟨h1, h2⟩
        · exact Or.inl ⟨h1, h2⟩
      exact hne (hs.one_alliance_request id requestId r request hr hget hsame)
  · intro key notice hn
    rw [hrest] at hn
    rw [hmem]
    exact Or.inl (hs.notice_between_allies key notice hn)

/-- **A finalized notice ends one alliance** and goes with it. -/
theorem keeps_finalizeAllianceBreak (notice : SocialAllianceBreak) :
    Keeps own s (s.finalizeAllianceBreak now notice) := by
  have hmem := s.mem_alliesOf_finalizeAllianceBreak now notice
  have hrest := s.finalizeAllianceBreak_rest now notice
  generalize s.finalizeAllianceBreak now notice = s' at hmem hrest
  have hbreaks : ∀ key n, s'.allianceBreaksByPair.get key = some n →
      key ≠ pairKey notice.playerAId notice.playerBId ∧ s.allianceBreaksByPair.get key = some n := by
    intro key n hn
    rw [hrest] at hn
    exact (s.allianceBreaksByPair.get_erase_eq_some _ key n).mp hn
  refine Keeps.of_allies ?_ ?_ ?_ ?_ ?_ (fun key n hn => (hbreaks key n hn).2)
    (fun hs => ⟨?_, ?_, ?_, ?_⟩)
  · rw [hrest]
  · rw [hrest]
  · rw [hrest]
  · rw [hrest]
  · rw [hrest]
  · intro a b hab
    rw [hmem] at hab ⊢
    refine hab.imp (hs.allies_symm a b) (fun hn hp => hn ?_)
    rcases hp with ⟨h1, h2⟩ | ⟨h1, h2⟩
    · exact Or.inr ⟨h2, h1⟩
    · exact Or.inl ⟨h2, h1⟩
  · intro a ha
    rw [hmem] at ha
    exact hs.allies_irrefl a ha.1
  · intro id r hr hallied
    rw [hmem] at hallied
    exact hs.no_request_between_allies id r hr hallied.1
  · intro key n hn
    obtain ⟨hne, hn⟩ := hbreaks key n hn
    rw [hmem]
    refine ⟨hs.notice_between_allies key n hn, fun hp => hne ?_⟩
    -- a notice of the same pair would stand under the key that went
    rw [hs.notice_keyed key n hn]
    exact hp.pairKey_eq

theorem keeps_expiredAllianceBreaks : Keeps own s (s.expiredAllianceBreaks now).1 :=
  Keeps.foldl (fun s (notice : SocialAllianceBreak) =>
    (s.keeps_ensurePlayer notice.playerAId none).trans (keeps_ensurePlayer _ notice.playerBId none))
    _ s

theorem keeps_finalizeExpiredAllianceBreaks (pairs : Option (List (PlayerId × PlayerId))) :
    Keeps own s (s.finalizeExpiredAllianceBreaks now pairs) := by
  unfold finalizeExpiredAllianceBreaks
  dsimp only
  refine ((s.keeps_expiredAllianceBreaks now).trans ?_).trans (keeps_updatePayloadsFor _ now _)
  exact Keeps.foldl (fun s notice => s.keeps_finalizeAllianceBreak now notice) _ _

theorem keeps_renamePlayer (p : PlayerId) (name : String) :
    Keeps own s (s.renamePlayer p name) := by
  unfold renamePlayer
  dsimp only
  refine Keeps.trans_of (s.keeps_registerPlayer p name) (fun ht => ?_)
  generalize s.registerPlayer p name = t at ht
  have halliances : Keeps own t ((t.allianceRequests.values.filter (fun request =>
      request.fromPlayerId = p ∨ request.toPlayerId = p)).foldl (fun s request =>
        s.putAllianceRequest (renamedAllianceRequest p name request)) t) := by
    apply keeps_putOffers (fun request => .alliance (renamedAllianceRequest p name request)) _ t
    intro r hr
    obtain ⟨id, hget⟩ := (t.allianceRequests.mem_values_iff r).mp (List.mem_filter.mp hr).1
    have hkey := (ht.alliance_keyed id r hget).1
    refine ⟨.alliance r, ?_, ⟨rfl, rfl, rfl, rfl⟩, rfl⟩
    show (t.allianceRequests.get r.id).map _ = _
    rw [hkey, hget]
    rfl
  refine Keeps.trans_of halliances (fun hu => ?_)
  generalize List.foldl _ t _ = u at hu
  apply keeps_putOffers (fun request => .truce (renamedTruceRequest p name request)) _ u
  intro r hr
  obtain ⟨id, hget⟩ := (u.truceRequests.mem_values_iff r).mp (List.mem_filter.mp hr).1
  have hkey := (hu.truce_keyed id r hget).1
  refine ⟨.truce r, ?_, ⟨rfl, rfl, rfl, rfl⟩, rfl⟩
  show (u.truceRequests.get r.id).map _ = _
  rw [hkey, hget]
  rfl

theorem keeps_requestAlliance (lower : String → String) (p : PlayerId) (name : String)
    (terms : Option DiplomacyTerms) (targetId : Option PlayerId) :
    Keeps own s (s.requestAlliance now lower p name terms targetId).1 := by
  unfold requestAlliance
  dsimp only
  refine ((s.keeps_sweepExpired now).trans (keeps_ensurePlayer _ p none)).trans ?_
  generalize (s.sweepExpired now).ensurePlayer p none = t
  split
  · exact Keeps.refl t
  next target _ =>
    split
    · exact Keeps.refl t
    next hne =>
      split
      · exact Keeps.refl t
      next hallied =>
        split
        · exact Keeps.refl t
        next hnone =>
          split
          · exact Keeps.refl t
          · refine Keeps.trans ?_ (keeps_updatePayloadsFor _ now _)
            exact t.keeps_newAllianceRequest _ rfl (fun h => hne h.symm) hallied hnone

/-- **An offer that is not in settlement may be turned down**, whatever comes
of it for the others. -/
theorem keeps_turnDown {kind : SocialOfferKind} {id : RequestId} {offer : SocialPendingOffer}
    (hoffer : s.offerFor kind id = some offer)
    (hfree : ¬ (offer.settlementPhase.isSome = true ∨ id ∈ s.settlingRequestIds)) {s' : SocialState}
    (h : Keeps own (s.dropRequest kind id) s') (playerIds : List PlayerId) :
    Keeps own s (s'.updatePayloadsFor now playerIds) := by
  have hdrop : Keeps own s (s.dropRequest kind id) :=
    s.keeps_dropRequest kind id (Or.inr (fun hl => hfree ((locked_iff hoffer).mp hl)))
  exact (hdrop.trans h).trans (keeps_updatePayloadsFor _ now playerIds)

theorem keeps_acceptAlliance (p : PlayerId) (id : RequestId) (hown : own .alliance id) :
    Keeps own s (s.acceptAlliance now p id).1 := by
  unfold acceptAlliance
  dsimp only
  refine Keeps.trans_of (s.keeps_sweepExpired now) (fun ht => ?_)
  generalize s.sweepExpired now = t at ht
  split
  · exact Keeps.refl t
  next request hget =>
    split
    · exact Keeps.refl t
    next hto =>
      rw [not_ne_iff] at hto
      have hensure : Keeps own t (t.ensurePlayer p none) := t.keeps_ensurePlayer p none
      have hget' : (t.ensurePlayer p none).allianceRequests.get id = some request := by
        rw [(t.sameButPlayers_ensurePlayer p none).same]
        exact hget
      have hknown : (t.ensurePlayer p none).playersById.has request.toPlayerId = true := by
        rw [has_ensurePlayer, hto]
        simp
      refine Keeps.trans_of hensure (fun hu => ?_)
      generalize t.ensurePlayer p none = u at hget' hknown hu
      split
      next hfrom =>
        subst hto
        refine Keeps.trans_of (u.keeps_formAlliance now hget' hown hknown hfrom) (fun hv => ?_)
        refine Keeps.trans ?_ (keeps_updatePayloadsFor _ now _)
        apply keeps_unlock
        intro kind hsome
        cases kind with
        | alliance => exact hown
        | truce =>
            -- the id of an alliance offer is no truce offer's
            have hoffer : (u.offerFor .alliance id).isSome = true := by simp [offerFor, hget']
            rw [formAlliance_rest] at hsome
            have hsome : (u.offerFor .truce id).isSome = true := hsome
            cases hu.one_kind hoffer hsome
      · exact u.keeps_dropRequest .alliance id (Or.inl hown)

theorem keeps_rejectAlliance (p : PlayerId) (id : RequestId) (startCooldown : Bool) :
    Keeps own s (s.rejectAlliance now p id startCooldown).1 := by
  unfold rejectAlliance
  dsimp only
  refine (s.keeps_sweepExpired now).trans ?_
  generalize s.sweepExpired now = t
  split
  · exact Keeps.refl t
  next request hget =>
    split
    · exact Keeps.refl t
    split
    · exact Keeps.refl t
    next hfree =>
      have hoffer : t.offerFor .alliance id = some (.alliance request) := by simp [offerFor, hget]
      refine t.keeps_turnDown now hoffer hfree ?_ _
      split
      · exact keeps_startOfferCooldown _ now _ _ _ _
      · exact Keeps.refl _

theorem keeps_cancelAlliance (p : PlayerId) (id : RequestId) :
    Keeps own s (s.cancelAlliance now p id).1 := by
  unfold cancelAlliance
  dsimp only
  refine (s.keeps_sweepExpired now).trans ?_
  generalize s.sweepExpired now = t
  split
  · exact Keeps.refl t
  next request hget =>
    split
    · exact Keeps.refl t
    split
    · exact Keeps.refl t
    next hfree =>
      have hoffer : t.offerFor .alliance id = some (.alliance request) := by simp [offerFor, hget]
      exact t.keeps_turnDown now hoffer hfree (keeps_startOfferCooldown _ now _ _ _ _) _

theorem keeps_breakAlliance (p target : PlayerId) :
    Keeps own s (s.breakAlliance now p target).1 := by
  unfold breakAlliance
  dsimp only
  refine ((s.keeps_sweepExpired now).trans (keeps_ensurePlayer _ p none)).trans ?_
  generalize (s.sweepExpired now).ensurePlayer p none = t
  split
  · exact Keeps.refl t
  next hallied =>
    split
    · exact Keeps.refl t
    · refine Keeps.trans (t.keeps_putAllianceBreak _ ?_) (keeps_updatePayloadsFor _ now _)
      exact not_not.mp (not_or.mp hallied).2

end Alliances

/-! ## §6. Truces. -/

section Truces

variable {own : Own} (s : SocialState) (now : ℤ)

theorem keeps_requestTruce (lower : String → String) (p : PlayerId) (name : String)
    (durationHours : DurationHours) (terms : Option DiplomacyTerms) (targetId : Option PlayerId) :
    Keeps own s (s.requestTruce now lower p name durationHours terms targetId).1 := by
  unfold requestTruce
  dsimp only
  refine ((s.keeps_sweepExpired now).trans (keeps_ensurePlayer _ p none)).trans ?_
  generalize (s.sweepExpired now).ensurePlayer p none = t
  split
  · exact Keeps.refl t
  next target _ =>
    split
    · exact Keeps.refl t
    split
    · exact Keeps.refl t
    split
    · exact Keeps.refl t
    split
    · exact Keeps.refl t
    next hpending =>
      split
      · exact Keeps.refl t
      · refine Keeps.trans ?_ (keeps_updatePayloadsFor _ now _)
        exact t.keeps_newTruceRequest _ rfl (by simpa using hpending)

theorem keeps_refuseTruceRequest {id : RequestId} (request : SocialTruceRequest)
    (hown : own .truce id) : Keeps own s (s.refuseTruceRequest id request) := by
  unfold refuseTruceRequest
  split
  · exact Keeps.refl s
  · exact s.keeps_dropRequest .truce id (Or.inl hown)

theorem acceptedTruce_lifetime (hs : Invariant s) (p : PlayerId) (request : SocialTruceRequest) :
    (acceptedTruce now p request (s.runningTruce now p request.fromPlayerId)).endsAt
        - (acceptedTruce now p request (s.runningTruce now p request.fromPlayerId)).startedAt
      ≤ TRUCE_MAX_LIFETIME_MS := by
  cases hrunning : s.runningTruce now p request.fromPlayerId with
  | none =>
      show now + request.durationHours.hours * 60 * 60000 - now ≤ TRUCE_MAX_LIFETIME_MS
      unfold TRUCE_MAX_LIFETIME_MS
      cases request.durationHours <;> simp only [DurationHours.hours] <;> omega
  | some truce =>
      have hlife := hs.any_truce_lifetime _ truce (activeTruceBetween_eq_some hrunning).1
      exact extendedTruceEndsAt_le hlife request.durationHours now

theorem keeps_settleTruceRequest (p : PlayerId) {id : RequestId} (request : SocialTruceRequest)
    (hown : own .truce id) : Keeps own s (s.settleTruceRequest now p id request).1 := by
  unfold settleTruceRequest
  split
  · exact s.keeps_refuseTruceRequest request hown
  split
  · exact (s.keeps_refuseTruceRequest request hown).trans (keeps_markStale _ _)
  split
  · exact (s.keeps_refuseTruceRequest request hown).trans (keeps_markStale _ _)
  refine Keeps.trans ?_ (keeps_updatePayloadsFor _ now _)
  intro hs
  have hlife := s.acceptedTruce_lifetime now hs p request
  have hdrop : Keeps own s (s.dropTruceRequest id) := s.keeps_dropRequest .truce id (Or.inl hown)
  refine hdrop.trans ?_ hs
  exact keeps_truces (fun hdropped => lifetime_set hdropped hlife)
    (Keeps.of_eq (fun _ => rfl) rfl rfl rfl rfl rfl rfl)

theorem keeps_acceptTruce (p : PlayerId) (id : RequestId) (hown : own .truce id) :
    Keeps own s (s.acceptTruce now p id).1 := by
  unfold acceptTruce
  dsimp only
  refine Keeps.trans_of (s.keeps_sweepExpired now) (fun ht => ?_)
  generalize s.sweepExpired now = t at ht
  split
  · exact Keeps.refl t
  next request hget =>
    split
    · exact Keeps.refl t
    refine Keeps.trans ?_ (keeps_settleTruceRequest _ now p request hown)
    refine (t.keeps_unlock id (fun kind hsome => ?_)).trans (keeps_ensurePlayer _ p none)
    have hoffer : (t.offerFor .truce id).isSome = true := by simp [offerFor, hget]
    rw [ht.one_kind hoffer hsome]
    exact hown

theorem keeps_rejectTruce (p : PlayerId) (id : RequestId) (startCooldown : Bool) :
    Keeps own s (s.rejectTruce now p id startCooldown).1 := by
  unfold rejectTruce
  dsimp only
  refine (s.keeps_sweepExpired now).trans ?_
  generalize s.sweepExpired now = t
  split
  · exact Keeps.refl t
  next request hget =>
    split
    · exact Keeps.refl t
    split
    · exact Keeps.refl t
    next hfree =>
      have hoffer : t.offerFor .truce id = some (.truce request) := by simp [offerFor, hget]
      refine t.keeps_turnDown now hoffer hfree ?_ _
      split
      · exact keeps_startOfferCooldown _ now _ _ _ _
      · exact Keeps.refl _

theorem keeps_cancelTruce (p : PlayerId) (id : RequestId) :
    Keeps own s (s.cancelTruce now p id).1 := by
  unfold cancelTruce
  dsimp only
  refine (s.keeps_sweepExpired now).trans ?_
  generalize s.sweepExpired now = t
  split
  · exact Keeps.refl t
  next request hget =>
    split
    · exact Keeps.refl t
    split
    · exact Keeps.refl t
    next hfree =>
      have hoffer : t.offerFor .truce id = some (.truce request) := by simp [offerFor, hget]
      exact t.keeps_turnDown now hoffer hfree (keeps_startOfferCooldown _ now _ _ _ _) _

theorem keeps_breakTruce (p target : PlayerId) : Keeps own s (s.breakTruce now p target).1 := by
  unfold breakTruce
  dsimp only
  refine ((s.keeps_sweepExpired now).trans (keeps_ensurePlayer _ p none)).trans ?_
  generalize (s.sweepExpired now).ensurePlayer p none = t
  split
  · exact Keeps.refl t
  split
  · exact Keeps.refl t
  refine Keeps.trans (keeps_truces (fun ht key truce hget => ?_) ?_)
    (keeps_updatePayloadsFor _ now _)
  · exact ht.any_truce_lifetime key truce ((t.trucesByPair.get_erase_eq_some _ key truce).mp hget).2
  · exact Keeps.of_eq (fun _ => rfl) rfl rfl rfl rfl rfl rfl

theorem keeps_forceTruce (p target : PlayerId) : Keeps own s (s.forceTruce now p target).1 := by
  unfold forceTruce
  dsimp only
  have hprune : Keeps own (s.sweepExpired now) ((s.sweepExpired now).pruneForcedCooldowns now) :=
    Keeps.of_eq (fun _ => rfl) rfl rfl rfl rfl rfl rfl
  refine ((s.keeps_sweepExpired now).trans hprune).trans ?_
  generalize (s.sweepExpired now).pruneForcedCooldowns now = t
  split
  · exact Keeps.refl t
  split
  · exact Keeps.refl t
  split
  · exact Keeps.refl t
  split
  · exact Keeps.refl t
  refine Keeps.trans ?_ (keeps_updatePayloadsFor _ now _)
  refine keeps_truces (fun ht => lifetime_set ht ?_)
    (Keeps.of_eq (fun _ => rfl) rfl rfl rfl rfl rfl rfl)
  show now + FORCED_TRUCE_DURATION_MS - now ≤ TRUCE_MAX_LIFETIME_MS
  unfold FORCED_TRUCE_DURATION_MS TRUCE_MAX_LIFETIME_MS
  omega

theorem keeps_resetAfcCampaign : Keeps own s s.resetAfcCampaign := by
  refine keeps_truces (fun hs key truce hget => ?_)
    (Keeps.of_eq (fun _ => rfl) rfl rfl rfl rfl rfl rfl)
  exact hs.any_truce_lifetime key truce ((s.trucesByPair.get_eraseWhere_eq_some _ key truce).mp
    hget).1

theorem keeps_withdraw (l : List (RequestId × SocialTruceRequest)) :
    ∀ s : SocialState, (∀ entry ∈ l, ¬ s.Locked .truce entry.1) →
      Keeps own s (l.foldl (fun s entry => s.dropTruceRequest entry.1) s) := by
  induction l with
  | nil => exact fun s _ => Keeps.refl s
  | cons entry l ih =>
      intro s hl
      have hdrop : Keeps own s (s.dropTruceRequest entry.1) :=
        s.keeps_dropRequest .truce entry.1 (Or.inr (hl entry List.mem_cons_self))
      refine hdrop.trans (ih _ (fun e he hlocked => hl e (List.mem_cons_of_mem _ he) ?_))
      obtain ⟨offer, hoffer, hlock⟩ := hlocked
      have hbefore := s.offerFor_dropRequest .truce .truce entry.1 e.1
      split at hbefore
      · rw [show (s.dropTruceRequest entry.1).offerFor .truce e.1 = none from hbefore] at hoffer
        cases hoffer
      · exact ⟨offer, hbefore.symm.trans hoffer, hlock⟩

theorem keeps_withdrawTruceOffersOnCombat (a b : PlayerId) :
    Keeps own s (s.withdrawTruceOffersOnCombat now a b) := by
  have hwithdraw : Keeps own s (s.withdrawTruceOffersBetween a b) := by
    apply keeps_withdraw
    rintro ⟨id, request⟩ hmem
    obtain ⟨hentry, hcond⟩ := List.mem_filter.mp hmem
    have hget := (s.truceRequests.mem_entries_iff id request).mp hentry
    have hoffer : s.offerFor .truce id = some (.truce request) := by simp [offerFor, hget]
    rw [locked_iff hoffer]
    simp only [decide_eq_true_eq] at hcond
    intro hlock
    rcases hlock with hphase | hsettling
    · have hphase : request.settlementPhase.isSome = true := hphase
      rw [hcond.2.1] at hphase
      cases hphase
    · exact hcond.2.2 hsettling
  unfold withdrawTruceOffersOnCombat
  dsimp only
  split
  · exact hwithdraw
  · exact hwithdraw.trans (keeps_updatePayloadsFor _ now _)

end Truces

/-! ## §7. Settlement. -/

section Settlement

variable {own : Own} (s : SocialState) (now : ℤ)

theorem keeps_beginSettlement (kind : SocialOfferKind) (p : PlayerId) (id : RequestId) :
    Keeps own s (s.beginSettlement now kind p id).1 := by
  unfold beginSettlement
  dsimp only
  refine (s.keeps_sweepExpired now).trans ?_
  generalize s.sweepExpired now = t
  split
  · exact Keeps.refl t
  split
  · exact Keeps.refl t
  split
  · exact Keeps.refl t
  split
  · exact Keeps.refl t
  apply Shrinks.keeps
  refine ⟨fun _ => rfl, rfl, fun _ r hr => ⟨r, hr, rfl, rfl, rfl⟩,
    fun _ r hr => ⟨r, hr, rfl, rfl, rfl⟩, fun _ _ hn => hn, fun _ _ ht => ht, ?_⟩
  rintro kind' id' _ ⟨offer, hoffer, hlock⟩
  refine ⟨offer, hoffer, hlock.imp_right (fun hmem => ?_)⟩
  exact (InsertionSet.mem_add _ _ _).mpr (Or.inl hmem)

theorem keeps_setSettlementPhase (kind : SocialOfferKind) (id : RequestId)
    (phase : TreatySettlementPhase) : Keeps own s ((s.setSettlementPhase kind id phase).getD s) := by
  intro hs
  unfold setSettlementPhase
  split
  · exact Keeps.refl s hs
  next request hoffer =>
    obtain ⟨hkind, hid, -⟩ := hs.keyed hoffer
    rw [← hkind, ← hid] at hoffer
    exact s.keeps_putOffer (.truce request) (.truce { request with settlementPhase := some phase })
      hoffer ⟨rfl, rfl, rfl, rfl⟩ (fun _ => rfl) hs
  next request hoffer =>
    obtain ⟨hkind, hid, -⟩ := hs.keyed hoffer
    rw [← hkind, ← hid] at hoffer
    exact s.keeps_putOffer (.alliance request) (.alliance { request with settlementPhase := some phase })
      hoffer ⟨rfl, rfl, rfl, rfl⟩ (fun _ => rfl) hs

theorem keeps_discardSettlement (kind : SocialOfferKind) (id : RequestId) (hown : own kind id) :
    Keeps own s (s.discardSettlement now kind id).1 := by
  unfold discardSettlement
  split
  · exact Keeps.refl s
  next offer hoffer =>
    intro hs
    have hdrop : Keeps own s (s.dropRequest kind id) := s.keeps_dropRequest kind id (Or.inl hown)
    have hunlock : Keeps own (s.dropRequest kind id) ((s.dropRequest kind id).unlock id) := by
      apply keeps_unlock
      intro kind' hsome
      rw [offerFor_dropRequest] at hsome
      split at hsome
      · cases hsome
      · have hkind : kind' = kind := hs.one_kind (Option.isSome_of_eq_some hoffer) hsome
        rw [hkind]
        exact hown
    exact (hdrop.trans hunlock).trans (keeps_updatePayloadsFor _ now _) hs

theorem keeps_takeStaleOfferSync : Keeps own s (s.takeStaleOfferSync now) := by
  unfold takeStaleOfferSync
  dsimp only
  refine (s.keeps_sweepExpired now).trans (Keeps.trans ?_ (keeps_updatePayloadsFor _ now _))
  exact Keeps.of_eq (fun _ => rfl) rfl rfl rfl rfl rfl rfl

end Settlement

/-! ## §8. Every operation. -/

section Steps

variable (lower : String → String)

/-- **One step**: every operation keeps the invariant and the offers in
settlement, its own apart. -/
theorem keeps_socialStep (s : SocialState) (t : TimedOp) :
    (∃ id, t.op = .endSettlement id) ∨ Keeps t.op.Settles s (socialStep lower s t) := by
  obtain ⟨now, op⟩ := t
  cases op with
  | registerPlayer p name => exact Or.inr (s.keeps_registerPlayer p name)
  | renamePlayer p name => exact Or.inr (s.keeps_renamePlayer p name)
  | snapshotForPlayer p => exact Or.inr (s.keeps_snapshotForPlayer now p)
  | syncPlayers ids => exact Or.inr (s.keeps_updatePayloadsFor now ids)
  | requestAlliance p name terms target =>
      exact Or.inr (s.keeps_requestAlliance now lower p name terms target)
  | acceptAlliance p id => exact Or.inr (s.keeps_acceptAlliance now p id ⟨rfl, rfl⟩)
  | rejectAlliance p id cooldown => exact Or.inr (s.keeps_rejectAlliance now p id cooldown)
  | cancelAlliance p id => exact Or.inr (s.keeps_cancelAlliance now p id)
  | breakAlliance p target => exact Or.inr (s.keeps_breakAlliance now p target)
  | expiredAllianceBreaks => exact Or.inr (s.keeps_expiredAllianceBreaks now)
  | finalizeExpiredAllianceBreaks pairs =>
      exact Or.inr (s.keeps_finalizeExpiredAllianceBreaks now pairs)
  | requestTruce p name duration terms target =>
      exact Or.inr (s.keeps_requestTruce now lower p name duration terms target)
  | acceptTruce p id => exact Or.inr (s.keeps_acceptTruce now p id ⟨rfl, rfl⟩)
  | rejectTruce p id cooldown => exact Or.inr (s.keeps_rejectTruce now p id cooldown)
  | cancelTruce p id => exact Or.inr (s.keeps_cancelTruce now p id)
  | breakTruce p target => exact Or.inr (s.keeps_breakTruce now p target)
  | forceTruce p target => exact Or.inr (s.keeps_forceTruce now p target)
  | resetAfcCampaign => exact Or.inr s.keeps_resetAfcCampaign
  | withdrawTruceOffersOnCombat a b =>
      exact Or.inr (s.keeps_withdrawTruceOffersOnCombat now a b)
  | beginSettlement kind p id => exact Or.inr (s.keeps_beginSettlement now kind p id)
  | endSettlement id => exact Or.inl ⟨id, rfl⟩
  | setSettlementPhase kind id phase => exact Or.inr (s.keeps_setSettlementPhase kind id phase)
  | discardSettlement kind id =>
      exact Or.inr (s.keeps_discardSettlement now kind id ⟨rfl, rfl⟩)
  | takeStaleOfferSync => exact Or.inr (s.keeps_takeStaleOfferSync now)
  | diplomacyActivityCards => exact Or.inr (s.keeps_sweepExpired now)
  | activeTrucePairs => exact Or.inr (s.keeps_sweepExpired now)

theorem invariant_unlock {s : SocialState} (hs : Invariant s) (id : RequestId) :
    Invariant (s.unlock id) := by
  have hkeeps : Keeps (fun _ _ => True) s (s.unlock id) := s.keeps_unlock id (fun _ _ => trivial)
  exact (hkeeps hs).1

theorem invariant_step {s : SocialState} (hs : Invariant s) (t : TimedOp) :
    Invariant (socialStep lower s t) := by
  rcases keeps_socialStep lower s t with ⟨id, hid⟩ | hkeeps
  · unfold socialStep
    rw [hid]
    exact invariant_unlock hs id
  · exact (hkeeps hs).1

/-- **An offer in settlement goes by its own accept or discard.** -/
theorem lockedOffer_step {s : SocialState} (hs : Invariant s) (t : TimedOp) {kind : SocialOfferKind}
    {id : RequestId} (hlocked : s.Locked kind id) (hown : ¬ t.op.Settles kind id) :
    ((socialStep lower s t).offerFor kind id).isSome = true := by
  rcases keeps_socialStep lower s t with ⟨ended, hended⟩ | hkeeps
  · obtain ⟨offer, hoffer, -⟩ := hlocked
    unfold socialStep
    rw [hended]
    show (s.offerFor kind id).isSome = true
    rw [hoffer]
    rfl
  · obtain ⟨offer, hoffer, -⟩ := (hkeeps hs).2 kind id hown hlocked
    rw [hoffer]
    rfl

/-- **A truce that an accept makes or extends** is between two players who are
not locked out. -/
theorem acceptTruce_not_lockedOut (s : SocialState) (now : ℤ) (p : PlayerId) (id : RequestId)
    (key : String) (truce : SocialActiveTruce)
    (hafter : (s.acceptTruce now p id).1.trucesByPair.get key = some truce)
    (hbefore : s.trucesByPair.get key ≠ some truce) :
    ∃ request, s.truceRequests.get id = some request ∧ request.toPlayerId = p
      ∧ key = pairKey request.toPlayerId request.fromPlayerId
      ∧ s.lockedOut now request.toPlayerId = false
      ∧ s.lockedOut now request.fromPlayerId = false := by
  have hswept : (s.sweepExpired now).trucesByPair.get key ≠ some truce := by
    rw [trucesByPair_sweepExpired, Ne, InsertionMap.get_eraseWhere_eq_some]
    exact fun h => hbefore h.1
  unfold acceptTruce at hafter
  dsimp only at hafter
  split at hafter
  · exact absurd hafter hswept
  next request hget =>
    split at hafter
    · exact absurd hafter hswept
    next hvalid =>
      have hto : request.toPlayerId = p := not_not.mp (not_or.mp hvalid).1
      generalize hu : ((s.sweepExpired now).unlock id).ensurePlayer p none = u at hafter
      have hsame := (((s.sweepExpired now).unlock id).sameButPlayers_ensurePlayer p none).same
      rw [hu] at hsame
      have hutruces : u.trucesByPair.get key ≠ some truce := by
        rw [hsame]
        exact hswept
      have hlocks : ∀ q, u.lockedOut now q = s.lockedOut now q := by
        intro q
        rw [hsame]
        exact s.lockedOut_sweepExpired now q
      have hrefuse : (u.refuseTruceRequest id request).trucesByPair = u.trucesByPair := by
        unfold refuseTruceRequest
        split <;> rfl
      unfold settleTruceRequest at hafter
      split at hafter
      · rw [hrefuse] at hafter
        exact absurd hafter hutruces
      · split at hafter
        · have hafter : (u.refuseTruceRequest id request).trucesByPair.get key = some truce := hafter
          rw [hrefuse] at hafter
          exact absurd hafter hutruces
        next hfree =>
          split at hafter
          · have hafter : (u.refuseTruceRequest id request).trucesByPair.get key = some truce :=
              hafter
            rw [hrefuse] at hafter
            exact absurd hafter hutruces
          · -- the only truce put in place is that of the two players
            have hput := truces_of_updatePayloadsFor now _ _ hafter
            have hput : (u.trucesByPair.set (pairKey p request.fromPlayerId)
              (acceptedTruce now p request (u.runningTruce now p request.fromPlayerId))).get key
                = some truce := hput
            rw [InsertionMap.get_set] at hput
            split at hput
            next hkey =>
              rw [get_truceRequests_sweepExpired, Option.filter_eq_some_iff] at hget
              rw [not_or, hlocks, hlocks] at hfree
              refine ⟨request, hget.1, hto, ?_, ?_, ?_⟩
              · rw [hto]
                exact hkey.symm
              · rw [hto]
                exact Bool.eq_false_iff.mpr hfree.1
              · exact Bool.eq_false_iff.mpr hfree.2
            next => exact absurd hput hutruces

end Steps

theorem invariant_blank (store : SocialStore) (drawn : Nat) : Invariant (blank store drawn) where
  allies_symm := fun _ _ h => (by cases h)
  allies_irrefl := fun _ h => (by cases h)
  one_alliance_request := fun _ _ _ _ h => (by cases h)
  one_truce_request := fun _ _ _ _ h => (by cases h)
  no_request_between_allies := fun _ _ h => (by cases h)
  notice_between_allies := fun _ _ h => (by cases h)
  truce_lifetime := fun _ _ h => (by cases h)
  alliance_keyed := fun _ _ h => (by cases h)
  truce_keyed := fun _ _ h => (by cases h)
  kinds_apart := fun _ _ _ h => (by cases h)
  parties_differ := fun _ _ h => (by cases h)
  notice_keyed := fun _ _ h => (by cases h)
  any_truce_lifetime := fun _ _ h => (by cases h)

theorem invariant_seedPlayers (players : List (PlayerId × String)) {s : SocialState}
    (hs : Invariant s) : Invariant (s.seedPlayers players) := by
  have hkeeps : Keeps (fun _ _ => True) s (s.seedPlayers players) :=
    Keeps.foldl (fun s player => s.keeps_ensurePlayer player.1 (some player.2)) players s
  exact (hkeeps hs).1

theorem invariant_run (lower : String → String) (ops : List TimedOp) :
    ∀ s : SocialState, Invariant s → Invariant (ops.foldl (socialStep lower) s) := by
  induction ops with
  | nil => exact fun s hs => hs
  | cons t ops ih => exact fun s hs => ih _ (invariant_step lower hs t)

end SocialState

open SocialState

/-- **The social state along every run.**  From any seeded players on, after
any operations: the state makes sense, an offer in settlement goes only by
its own accept or discard, and an accept that makes or extends a truce finds
neither player locked out. -/
theorem social_operations_sound (toLocaleLowerCase : String → String)
    (players : List (PlayerId × String)) (store : SocialStore) (drawn : Nat)
    (ops : List TimedOp) :
    let s := ops.foldl (socialStep toLocaleLowerCase) ((blank store drawn).seedPlayers players)
    s.Sound
      ∧ (∀ t kind id, s.Locked kind id → ¬ t.op.Settles kind id →
          ((socialStep toLocaleLowerCase s t).offerFor kind id).isSome = true)
      ∧ (∀ now playerId requestId key truce,
          (s.acceptTruce now playerId requestId).1.trucesByPair.get key = some truce →
          s.trucesByPair.get key ≠ some truce →
          ∃ request, s.truceRequests.get requestId = some request
            ∧ request.toPlayerId = playerId
            ∧ key = pairKey request.toPlayerId request.fromPlayerId
            ∧ s.lockedOut now request.toPlayerId = false
            ∧ s.lockedOut now request.fromPlayerId = false) := by
  intro s
  have hs : Invariant s :=
    invariant_run toLocaleLowerCase ops _ (invariant_seedPlayers players (invariant_blank _ _))
  refine ⟨hs.toSound, ?_, ?_⟩
  · intro t kind id hlocked hown
    exact lockedOffer_step toLocaleLowerCase hs t hlocked hown
  · exact acceptTruce_not_lockedOut s

end BorderEmpires.Social
