/-
  BorderEmpires.Trades.Ledger
  **THE LEDGER OF SUPPLY AGREEMENTS.**

  The ledger keeps the agreements, serves their allocation from a cache that
  holds until the next start or deadline, and retires agreements at their
  exact deadlines whenever it is touched.  Whoever is affected is settled
  before a change through a callback, and the callback may read the ledger:
  it then sees the allocation of the time being settled.

  A callback's reads are the times it asks for.  `moment` is the source's
  `at`; an absent `cachedUntil` is its `Infinity`.
-/
import BorderEmpires.Lib.Utf16
import BorderEmpires.Trades.Passes

namespace BorderEmpires.Trades

/-! ## §1. What may be stored. -/

def MAX_RESOURCE_SUPPLY_AGREEMENTS_PER_PLAYER : Nat := 16
def MAX_RESOURCE_TRADE_SLOTS : Nat := 10000

/-- `text.length` of the source, in code units. -/
def textLength (text : String) : Nat := (Utf16.units text).length

def offerParses (offer : ResourceSupplyOffer) : Bool :=
  TRADABLE_SUPPLY_RESOURCES.all (fun r => (offer r).all (fun slots =>
    slots ≤ MAX_RESOURCE_TRADE_SLOTS))

/-- The checks of `ResourceSupplyAgreementSchema` on a record of its shape. -/
def agreementParses (row : ResourceSupplyAgreement) : Bool :=
  1 ≤ textLength row.id && textLength row.id ≤ 160
    && 1 ≤ textLength row.proposerId.text && textLength row.proposerId.text ≤ 128
    && 1 ≤ textLength row.targetId.text && textLength row.targetId.text ≤ 128
    && offerParses row.proposerGives && offerParses row.targetGives
    && row.proposerId ≠ row.targetId
    && row.expiresAt.all (fun expiresAt => row.startedAt < expiresAt)
    && TRADABLE_SUPPLY_RESOURCES.any (fun r =>
      0 < offeredSlots row.proposerGives r + offeredSlots row.targetGives r)

/-- `safeParse`; a value of another shape is no record at all. -/
def safeParse (raw : Option ResourceSupplyAgreement) : Option ResourceSupplyAgreement :=
  raw.filter agreementParses

/-! ## §2. The ledger. -/

structure SupplyLedger where
  agreements : List ResourceSupplyAgreement
  cached : Option ResourceSupplyAllocation
  cachedAt : Option Int
  cachedUntil : Option Int
  advancing : Bool
  valuationTime : Option Int

def SupplyLedger.empty : SupplyLedger := ⟨[], none, none, none, false, none⟩

inductive AgreementAction where
  | created | cancelled | expired
  deriving DecidableEq

/-- What the ledger does to the outside: it calls back before a change, with
its valuation time, hands out an allocation of its rows at a moment, and
tells of a change. -/
inductive LedgerEvent where
  | beforeChange (moment valuationTime : Int) (ids : List PlayerId)
  | returned (allocation : Except String ResourceSupplyAllocation) (moment : Int)
      (rows : List ResourceSupplyAgreement)
  | changed (action : AgreementAction) (agreement : ResourceSupplyAgreement)
  | invalidated (ids : List PlayerId)

structure SupplyLedgerContext where
  localeCompare : String → String → Int
  capacityFor : ResourceSupplyCapacity
  /-- The times at which a settlement callback asks for the allocation. -/
  asks : Int → List PlayerId → List Int

variable (s : SupplyLedger) (ctx : SupplyLedgerContext)

def agreementsOf (agreements : List ResourceSupplyAgreement) (id : PlayerId) : Nat :=
  agreements.countP (fun entry => entry.proposerId = id || entry.targetId = id)

def SupplyLedger.hasCapacity (row : ResourceSupplyAgreement) : Bool :=
  s.agreements.length < MAX_RESOURCE_SUPPLY_AGREEMENTS
    && [row.proposerId, row.targetId].all (fun id =>
      agreementsOf s.agreements id < MAX_RESOURCE_SUPPLY_AGREEMENTS_PER_PLAYER)

def SupplyLedger.has (id : String) : Bool := s.agreements.any (fun entry => entry.id = id)

/-- The constructor. -/
def SupplyLedger.restoreAll : SupplyLedger → List (Option ResourceSupplyAgreement) →
    Except String SupplyLedger
  | s, [] => .ok s
  | s, raw :: rest =>
      match safeParse raw with
      -- the parser's own error
      | none => .error "ZodError"
      | some row =>
          if s.has row.id || !s.hasCapacity row then
            .error "Invalid saved resource agreement capacity or identity"
          else SupplyLedger.restoreAll { s with agreements := s.agreements ++ [row] } rest

def SupplyLedger.restore (restored : List (Option ResourceSupplyAgreement)) :
    Except String SupplyLedger :=
  if MAX_RESOURCE_SUPPLY_AGREEMENTS < restored.length then
    .error "Too many saved resource agreements"
  else SupplyLedger.restoreAll .empty restored

def SupplyLedger.invalidate : SupplyLedger :=
  { s with cached := none, cachedAt := none, cachedUntil := none }

def parties (rows : List ResourceSupplyAgreement) : List PlayerId :=
  rows.flatMap (fun row => [row.proposerId, row.targetId])

/-- One round over the agreements: a contract with one affected party affects
the other. -/
def spreadAffected (agreements : List ResourceSupplyAgreement) (affected : List PlayerId) :
    List PlayerId :=
  agreements.foldl (fun affected row =>
    if row.proposerId ∈ affected ∨ row.targetId ∈ affected then
      InsertionSet.add (InsertionSet.add affected row.proposerId) row.targetId
    else affected) affected

def spreadRounds (agreements : List ResourceSupplyAgreement) : Nat → List PlayerId → List PlayerId
  | 0, affected => affected
  | rounds + 1, affected =>
      let next := spreadAffected agreements affected
      if next.length = affected.length then next else spreadRounds agreements rounds next

/-- Only a connected chain of contracts transmits a shortage. -/
def affectedParticipantIds (agreements : List ResourceSupplyAgreement) (seeds : List PlayerId) :
    List PlayerId :=
  spreadRounds agreements (agreements.length + 1) (InsertionSet.addAll [] seeds)

/-! ## §3. Reading the allocation. -/

/-- The next start or deadline. -/
def nextChange (rows : List ResourceSupplyAgreement) (moment : Int) : Option Int :=
  ((rows.flatMap (fun row =>
    (row.startedAt : Int) :: row.expiresAt.toList.map (fun expiresAt => (expiresAt : Int)))).filter
      (fun deadline => moment < deadline)).min?

def SupplyLedger.fill (moment : Int) : Except String (ResourceSupplyAllocation × SupplyLedger) :=
  match allocateResourceSupplyAgreements ctx.localeCompare s.agreements moment ctx.capacityFor with
  | .error message => .error message
  | .ok allocation => .ok (allocation, { s with
      cached := some allocation, cachedAt := some moment
      cachedUntil := nextChange s.agreements moment })

/-- The allocation at a moment: the cached one inside its window. -/
def SupplyLedger.current (moment : Int) : Except String (ResourceSupplyAllocation × SupplyLedger) :=
  match s.cached with
  | none => s.fill ctx moment
  | some allocation =>
      if moment < s.cachedAt.getD moment ∨ s.cachedUntil.any (fun bound => bound ≤ moment) then
        s.fill ctx moment
      else .ok (allocation, s)

/-- The reads of a callback.  The valuation time is set while it runs, so
`advanceTo` returns at once in each of them. -/
def SupplyLedger.readAll (ctx : SupplyLedgerContext) : SupplyLedger → List Int →
    Except String (SupplyLedger × List LedgerEvent)
  | s, [] => .ok (s, [])
  | s, ask :: rest =>
      match s.current ctx (s.valuationTime.getD ask) with
      | .error message => .error message
      | .ok (allocation, s') =>
          match SupplyLedger.readAll ctx s' rest with
          | .error message => .error message
          | .ok (s'', log) =>
              .ok (s'', .returned (.ok allocation) (s.valuationTime.getD ask) s.agreements :: log)

/-! ## §4. Deadlines. -/

def isDue (now : Int) (row : ResourceSupplyAgreement) : Bool :=
  row.expiresAt.any (fun (expiresAt : Nat) => (expiresAt : Int) ≤ now)

/-- One pass of `advanceTo`: the earliest deadline that is due. -/
def SupplyLedger.expireNext (now : Int) :
    Except String (Option (SupplyLedger × List LedgerEvent)) :=
  match (((s.agreements.filter (isDue now)).mergeSort (fun a b =>
      a.expiresAt.getD 0 ≤ b.expiresAt.getD 0)).head?.bind (·.expiresAt)) with
  | none => .ok none
  | some 0 => .ok none
  | some (instant + 1) =>
      let deadline : Int := instant + 1
      let ids := affectedParticipantIds s.agreements (parties (s.agreements.filter (isDue deadline)))
      match SupplyLedger.readAll ctx { s.invalidate with valuationTime := some (deadline - 1) }
          (ctx.asks deadline ids) with
      | .error message => .error message
      | .ok (s', log) => .ok (some (
          { s'.invalidate with
            agreements := s'.agreements.filter (fun row => !isDue deadline row)
            valuationTime := none },
          .beforeChange deadline (deadline - 1) ids :: log
            ++ (s'.agreements.filter (isDue deadline)).map (.changed .expired)
            ++ [.invalidated ids]))

def SupplyLedger.expirePasses (ctx : SupplyLedgerContext) (now : Int) : Nat → SupplyLedger →
    Except String (SupplyLedger × List LedgerEvent)
  | 0, s => .ok (s, [])
  | passes + 1, s =>
      match s.expireNext ctx now with
      | .error message => .error message
      | .ok none => .ok (s, [])
      | .ok (some (s', log)) =>
          match SupplyLedger.expirePasses ctx now passes s' with
          | .error message => .error message
          | .ok (s'', log') => .ok (s'', log ++ log')

def SupplyLedger.advanceTo (now : Int) : Except String (SupplyLedger × List LedgerEvent) :=
  if s.advancing ∨ s.valuationTime.isSome then .ok (s, [])
  else
    match SupplyLedger.expirePasses ctx now MAX_RESOURCE_SUPPLY_AGREEMENTS
        { s with advancing := true } with
    | .error message => .error message
    | .ok (s', log) => .ok ({ s' with advancing := false, valuationTime := none }, log)

/-! ## §5. The calls. -/

def SupplyLedger.allocation (s : SupplyLedger) (ctx : SupplyLedgerContext) (now : Int) :
    Except String (ResourceSupplyAllocation × SupplyLedger × List LedgerEvent) :=
  match s.advanceTo ctx (s.valuationTime.getD now) with
  | .error message => .error message
  | .ok (s', log) =>
      match s'.current ctx (s'.valuationTime.getD now) with
      | .error message => .error message
      | .ok (allocation, s'') => .ok (allocation, s'',
          log ++ [.returned (.ok allocation) (s'.valuationTime.getD now) s'.agreements])

def SupplyLedger.preview (row : ResourceSupplyAgreement) (now : Int) :
    Except String (ResourceSupplyAllocation × SupplyLedger × List LedgerEvent) :=
  match s.advanceTo ctx now with
  | .error message => .error message
  | .ok (s', log) =>
      match allocateResourceSupplyAgreements ctx.localeCompare (s'.agreements ++ [row]) now
          ctx.capacityFor with
      | .error message => .error message
      | .ok allocation => .ok (allocation, s', log)

/-- Settle the affected at the old rates. -/
def SupplyLedger.settleBeforeChange (moment : Int) (ids : List PlayerId) :
    Except String (SupplyLedger × List LedgerEvent) :=
  match SupplyLedger.readAll ctx { s with valuationTime := some moment } (ctx.asks moment ids) with
  | .error message => .error message
  | .ok (s', log) =>
      .ok ({ s' with valuationTime := s.valuationTime }, .beforeChange moment moment ids :: log)

inductive SupplyLedgerResult where
  | ok
  | rejected (message : String)
  deriving DecidableEq

def SupplyLedger.add (raw : Option ResourceSupplyAgreement) (now : Int) :
    Except String (SupplyLedgerResult × SupplyLedger × List LedgerEvent) :=
  match s.advanceTo ctx now with
  | .error message => .error message
  | .ok (s₁, log₁) =>
      match safeParse raw with
      | none => .ok (.rejected "Invalid resource supply agreement.", s₁, log₁)
      | some row =>
          if s₁.has row.id then
            .ok (.rejected "This resource agreement already exists.", s₁, log₁)
          else if !s₁.hasCapacity row then
            .ok (.rejected "Too many active resource agreements.", s₁, log₁)
          else
            match s₁.allocation ctx now with
            | .error message => .error message
            | .ok (before, s₂, log₂) =>
                match s₂.preview ctx row now with
                | .error message => .error message
                | .ok (after, s₃, log₃) =>
                    if row.id ∉ after.fulfilled ∨ before.fulfilled.any (fun id => id ∉ after.fulfilled)
                    then
                      .ok (.rejected "The promised resource supply is no longer available.", s₃,
                        log₁ ++ log₂ ++ log₃)
                    else
                      let ids := affectedParticipantIds s₃.agreements [row.proposerId, row.targetId]
                      match s₃.settleBeforeChange ctx now ids with
                      | .error message => .error message
                      | .ok (s₄, log₄) => .ok (.ok,
                          { s₄.invalidate with agreements := s₄.agreements ++ [row] },
                          log₁ ++ log₂ ++ log₃ ++ log₄ ++ [.changed .created row, .invalidated ids])

def SupplyLedger.remove (id : String) (now : Int) :
    Except String (Bool × SupplyLedger × List LedgerEvent) :=
  match s.advanceTo ctx now with
  | .error message => .error message
  | .ok (s₁, log₁) =>
      match s₁.agreements.find? (fun row => row.id = id) with
      | none => .ok (false, s₁, log₁)
      | some row =>
          let ids := affectedParticipantIds s₁.agreements [row.proposerId, row.targetId]
          match s₁.settleBeforeChange ctx now ids with
          | .error message => .error message
          | .ok (s₂, log₂) => .ok (true,
              { s₂.invalidate with agreements := s₂.agreements.filter (fun row => row.id ≠ id) },
              log₁ ++ log₂ ++ [.changed .cancelled row, .invalidated ids])

/-! ## §6. Runs. -/

inductive LedgerOp where
  | allocation
  | advanceTo
  | add (raw : Option ResourceSupplyAgreement)
  | remove (id : String)

/-- A call, its time, and what the settlement callbacks ask during it. -/
structure LedgerCall where
  op : LedgerOp
  now : Int
  asks : Int → List PlayerId → List Int

inductive LedgerAnswer where
  | allocation (allocation : ResourceSupplyAllocation)
  | advanced
  | added (result : SupplyLedgerResult)
  | removed (found : Bool)

/-- The ledger and the capacities outside it. -/
structure LedgerState where
  ledger : SupplyLedger
  capacityFor : ResourceSupplyCapacity

def LedgerState.context (st : LedgerState) (localeCompare : String → String → Int)
    (call : LedgerCall) : SupplyLedgerContext :=
  ⟨localeCompare, st.capacityFor, call.asks⟩

def runCall (localeCompare : String → String → Int) (st : LedgerState) (call : LedgerCall) :
    Except String (LedgerAnswer × LedgerState × List LedgerEvent) :=
  let ctx := st.context localeCompare call
  match call.op with
  | .allocation =>
      match st.ledger.allocation ctx call.now with
      | .error message => .error message
      | .ok (allocation, s, log) => .ok (.allocation allocation, ⟨s, st.capacityFor⟩, log)
  | .advanceTo =>
      match st.ledger.advanceTo ctx call.now with
      | .error message => .error message
      | .ok (s, log) => .ok (.advanced, ⟨s, st.capacityFor⟩, log)
  | .add raw =>
      match st.ledger.add ctx raw call.now with
      | .error message => .error message
      | .ok (result, s, log) => .ok (.added result, ⟨s, st.capacityFor⟩, log)
  | .remove id =>
      match st.ledger.remove ctx id call.now with
      | .error message => .error message
      | .ok (found, s, log) => .ok (.removed found, ⟨s, st.capacityFor⟩, log)

/-- The states of the runs from a restored ledger, with the time of the last
call: calls come at non-decreasing times, and a capacity changes right after
an invalidation only. -/
inductive LedgerReachable (localeCompare : String → String → Int) :
    Option Int → LedgerState → Prop
  | restored {saved : List (Option ResourceSupplyAgreement)} {s : SupplyLedger}
      (capacityFor : ResourceSupplyCapacity) : SupplyLedger.restore saved = .ok s →
      LedgerReachable localeCompare none ⟨s, capacityFor⟩
  | recapacitated {last : Option Int} {st : LedgerState} (capacityFor : ResourceSupplyCapacity) :
      LedgerReachable localeCompare last st →
      LedgerReachable localeCompare last ⟨st.ledger.invalidate, capacityFor⟩
  | called {last : Option Int} {st st' : LedgerState} {call : LedgerCall} {answer : LedgerAnswer}
      {log : List LedgerEvent} : LedgerReachable localeCompare last st →
      (∀ time ∈ last, time ≤ call.now) → runCall localeCompare st call = .ok (answer, st', log) →
      LedgerReachable localeCompare (some call.now) st'

end BorderEmpires.Trades
