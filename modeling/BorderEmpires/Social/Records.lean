/-
  BorderEmpires.Social.Records
  **OFFERS, TRUCES, NOTICES AND THEIR LOOKUPS.**

  The records of the gateway's social state and the pure rules over them:
  the text key of a pair of players, the offer pending between two players,
  the truce that runs between them, and how far an extension may carry it.

  Times are milliseconds.  A request id is a UUID, and the model numbers
  the draws.
-/
import BorderEmpires.Trades.Agreements
import BorderEmpires.Lib.InsertionMap
import BorderEmpires.Lib.Utf16

namespace BorderEmpires.Social

open BorderEmpires.Trades

/-! ## §1. Constants. -/

def TRUCE_REQUEST_TTL_MS : ℤ := 7 * 24 * 60 * 60000
def TRUCE_BREAK_LOCKOUT_MS : ℤ := 24 * 60 * 60000
def TRUCE_MAX_LIFETIME_MS : ℤ := 48 * 60 * 60000
def ALLIANCE_BREAK_NOTICE_MS : ℤ := 24 * 60 * 60000
def COMPLETED_ALLIANCE_BREAK_NOTIFICATION_TTL_MS : ℤ := 7 * 24 * 60 * 60000
def OFFER_REJECTED_COOLDOWN_MS : ℤ := 30 * 60000
def OFFER_EXPIRED_COOLDOWN_MS : ℤ := 10 * 60000
def FORCED_TRUCE_DURATION_MS : ℤ := 12 * 60 * 60000
def FORCED_TRUCE_COOLDOWN_MS : ℤ := 48 * 60 * 60000
def MAX_TRUCE_BREAKS_PER_PLAYER : Nat := 20
def MAX_OFFER_COOLDOWNS : Nat := 20000
def AFC_CAMPAIGN_RECORD_LIMIT : Nat := 4096

/-! ## §2. Records. -/

/-- `crypto.randomUUID()`: two draws are never the same text. -/
structure RequestId where
  draw : Nat
  deriving DecidableEq

/-- `durationHours: 12 | 24`. -/
inductive DurationHours where
  | twelve | twentyFour
  deriving DecidableEq

def DurationHours.hours : DurationHours → ℤ
  | .twelve => 12
  | .twentyFour => 24

/-- Coin settles once; resource slots are a continuing supply. -/
structure DiplomacyGoods where
  gold : Nat
  resources : Option ResourceSupplyOffer

/-- From the proposer's point of view. -/
structure DiplomacyTerms where
  give : DiplomacyGoods
  ask : DiplomacyGoods
  supplyDurationHours : Option DurationHours

def hasResourceSupplyOffer (offer : Option ResourceSupplyOffer) : Bool :=
  TRADABLE_SUPPLY_RESOURCES.any (fun r => 0 < ((offer.bind (fun slots => slots r)).getD 0))

def diplomacyTermsAreEmpty (terms : DiplomacyTerms) : Bool :=
  terms.give.gold = 0 ∧ terms.ask.gold = 0
    ∧ ! hasResourceSupplyOffer terms.give.resources ∧ ! hasResourceSupplyOffer terms.ask.resources

/-- Terms that move nothing are left off an offer. -/
def termsField (terms : Option DiplomacyTerms) : Option DiplomacyTerms :=
  terms.filter (fun t => ! diplomacyTermsAreEmpty t)

inductive TreatySettlementPhase where
  | paying | refunding
  deriving DecidableEq

inductive SocialOfferKind where
  | truce | alliance
  deriving DecidableEq

structure SocialAllianceRequest where
  id : RequestId
  fromPlayerId : PlayerId
  toPlayerId : PlayerId
  createdAt : ℤ
  fromName : String
  toName : String
  terms : Option DiplomacyTerms
  settlementPhase : Option TreatySettlementPhase

structure SocialTruceRequest where
  id : RequestId
  fromPlayerId : PlayerId
  toPlayerId : PlayerId
  createdAt : ℤ
  expiresAt : ℤ
  durationHours : DurationHours
  fromName : String
  toName : String
  terms : Option DiplomacyTerms
  extendsTruce : Bool
  settlementPhase : Option TreatySettlementPhase

/-- `court` is the only origin a truce can name. -/
structure SocialActiveTruce where
  court : Bool
  playerAId : PlayerId
  playerBId : PlayerId
  startedAt : ℤ
  endsAt : ℤ
  createdByPlayerId : PlayerId
  deriving DecidableEq

structure SocialAllianceBreak where
  playerAId : PlayerId
  playerBId : PlayerId
  startedAt : ℤ
  endsAt : ℤ
  createdByPlayerId : PlayerId
  deriving DecidableEq

structure SocialCompletedAllianceBreak extends SocialAllianceBreak where
  finalizedAt : ℤ
  notificationExpiresAt : ℤ
  deriving DecidableEq

structure SocialTruceBreakRecord where
  targetPlayerId : PlayerId
  targetPlayerName : String
  brokenAt : ℤ
  deriving DecidableEq

structure SocialOfferCooldown where
  kind : SocialOfferKind
  fromPlayerId : PlayerId
  toPlayerId : PlayerId
  cooldownUntil : ℤ
  deriving DecidableEq

structure SocialPlayerRecord where
  name : String
  allies : List PlayerId

/-! ## §3. Pairs. -/

def orderedPair (a b : PlayerId) : PlayerId × PlayerId :=
  if ¬ Utf16.utf16Le b.text a.text then (a, b) else (b, a)

/-- The key is a text, so ids with a colon can share one. -/
def pairKey (a b : PlayerId) : String := (orderedPair a b).1.text ++ ":" ++ (orderedPair a b).2.text

theorem orderedPair_comm (a b : PlayerId) : orderedPair a b = orderedPair b a := by
  unfold orderedPair
  by_cases hba : Utf16.utf16Le b.text a.text
  · by_cases hab : Utf16.utf16Le a.text b.text
    · have htext : a.text = b.text := Utf16.utf16Le_antisymm hab hba
      have heq : a = b := by
        obtain ⟨_, _⟩ := a
        obtain ⟨_, _⟩ := b
        simpa using htext
      rw [heq]
    · rw [if_neg (not_not.mpr hba), if_pos hab]
  · have hab : Utf16.utf16Le a.text b.text := (Utf16.utf16Le_total _ _).resolve_right hba
    rw [if_pos hba, if_neg (not_not.mpr hab)]

theorem pairKey_comm (a b : PlayerId) : pairKey a b = pairKey b a := by
  unfold pairKey
  rw [orderedPair_comm]

/-- The same two players, in either order. -/
def SamePair (a b c d : PlayerId) : Prop := (a = c ∧ b = d) ∨ (a = d ∧ b = c)

instance decidableSamePair (a b c d : PlayerId) : Decidable (SamePair a b c d) :=
  inferInstanceAs (Decidable (_ ∨ _))

theorem SamePair.pairKey_eq {a b c d : PlayerId} (h : SamePair a b c d) :
    pairKey a b = pairKey c d := by
  rcases h with ⟨rfl, rfl⟩ | ⟨rfl, rfl⟩
  · rfl
  · exact pairKey_comm a b

theorem SamePair.symm {a b c d : PlayerId} (h : SamePair a b c d) : SamePair c d a b := by
  rcases h with ⟨rfl, rfl⟩ | ⟨rfl, rfl⟩
  · exact Or.inl ⟨rfl, rfl⟩
  · exact Or.inr ⟨rfl, rfl⟩

/-! ## §4. Lookups. -/

abbrev AllianceRequests := InsertionMap RequestId SocialAllianceRequest
abbrev TruceRequests := InsertionMap RequestId SocialTruceRequest
abbrev ActiveTruces := InsertionMap String SocialActiveTruce

def findAllianceRequestBetweenPlayers (requests : AllianceRequests) (playerAId playerBId : PlayerId) :
    Option SocialAllianceRequest :=
  requests.values.find? (fun request =>
    SamePair request.fromPlayerId request.toPlayerId playerAId playerBId)

def findTruceRequestBetweenPlayers (requests : TruceRequests) (playerAId playerBId : PlayerId) :
    Option SocialTruceRequest :=
  requests.values.find? (fun request =>
    SamePair request.fromPlayerId request.toPlayerId playerAId playerBId)

theorem findAllianceRequestBetweenPlayers_eq_none {requests : AllianceRequests} {a b : PlayerId}
    (h : findAllianceRequestBetweenPlayers requests a b = none) {id : RequestId}
    {request : SocialAllianceRequest} (hget : requests.get id = some request) :
    ¬ SamePair request.fromPlayerId request.toPlayerId a b := by
  have hall := List.find?_eq_none.mp h request ((requests.mem_values_iff request).mpr ⟨id, hget⟩)
  simpa using hall

theorem findTruceRequestBetweenPlayers_eq_none {requests : TruceRequests} {a b : PlayerId}
    (h : findTruceRequestBetweenPlayers requests a b = none) {id : RequestId}
    {request : SocialTruceRequest} (hget : requests.get id = some request) :
    ¬ SamePair request.fromPlayerId request.toPlayerId a b := by
  have hall := List.find?_eq_none.mp h request ((requests.mem_values_iff request).mpr ⟨id, hget⟩)
  simpa using hall

def activeTruceBetween (playerAId playerBId : PlayerId) (trucesByPair : ActiveTruces) (now : ℤ) :
    Option SocialActiveTruce :=
  (trucesByPair.get (pairKey playerAId playerBId)).filter (fun truce => now < truce.endsAt)

theorem activeTruceBetween_eq_some {a b : PlayerId} {truces : ActiveTruces} {now : ℤ}
    {truce : SocialActiveTruce} (h : activeTruceBetween a b truces now = some truce) :
    truces.get (pairKey a b) = some truce ∧ now < truce.endsAt := by
  unfold activeTruceBetween at h
  rw [Option.filter_eq_some_iff] at h
  simpa using h

def playerIsTruceLockedOut (playerId : PlayerId) (lockoutUntilByPlayerId : InsertionMap PlayerId ℤ)
    (now : ℤ) : Bool :=
  (lockoutUntilByPlayerId.get playerId).any (fun lockoutUntil => now < lockoutUntil)

/-! ## §5. Extensions. -/

def extendedTruceEndsAt (startedAt endsAt : ℤ) (durationHours : DurationHours) (now : ℤ) : ℤ :=
  max endsAt (min (max endsAt now + durationHours.hours * 60 * 60000)
    (startedAt + TRUCE_MAX_LIFETIME_MS))

def truceExtensionFits (startedAt endsAt : ℤ) (durationHours : DurationHours) (now : ℤ) : Bool :=
  max endsAt now + durationHours.hours * 60 * 60000 ≤ startedAt + TRUCE_MAX_LIFETIME_MS

theorem extendedTruceEndsAt_le {startedAt endsAt : ℤ}
    (h : endsAt - startedAt ≤ TRUCE_MAX_LIFETIME_MS) (durationHours : DurationHours) (now : ℤ) :
    extendedTruceEndsAt startedAt endsAt durationHours now - startedAt ≤ TRUCE_MAX_LIFETIME_MS := by
  unfold extendedTruceEndsAt
  omega

/-- Whether a truce offer cannot be made against the running truce. -/
def truceExtensionRequestError (running : Option SocialActiveTruce) (durationHours : DurationHours)
    (now : ℤ) : Bool :=
  running.any (fun truce => ! truceExtensionFits truce.startedAt truce.endsAt durationHours now)

/-- The offer was made for a running truce and none runs, or the other way round. -/
def truceOfferIsStale (request : SocialTruceRequest) (running : Option SocialActiveTruce) : Bool :=
  request.extendsTruce != running.isSome

/-- Extending a Court armistice makes it an ordinary truce. -/
def extendTruce (running : SocialActiveTruce) (durationHours : DurationHours) (now : ℤ) :
    SocialActiveTruce :=
  { running with
    court := false
    endsAt := extendedTruceEndsAt running.startedAt running.endsAt durationHours now }

end BorderEmpires.Social
