/-
  BorderEmpires.Trades.LedgerRuns
  **WHAT THE LEDGER HANDS OUT IS FRESH, AND DEADLINES ARE SETTLED IN ORDER.**

  Between two changes of the set of agreements in force the allocation is one
  and the same, so a cached one serves until the next start or deadline.
  `advanceTo` settles the due deadlines one by one, earliest first, each
  under the valuation of the instant before it.
-/
import BorderEmpires.Trades.Ledger

namespace BorderEmpires.Trades

/-! ## §1. The allocation between two changes. -/

variable (localeCompare : String → String → Int) (capacityFor : ResourceSupplyCapacity)
  {rows : List ResourceSupplyAgreement}

theorem rows_upkeepPhase (s : PassState) :
    (upkeepPhase capacityFor s).deliveries.map (·.row) = s.deliveries.map (·.row) := by
  unfold upkeepPhase
  dsimp only
  split
  · exact rows_deliverRows _ _ _ _
  · rfl

theorem rows_networkPhase (s : PassState) :
    (networkPhase localeCompare capacityFor s).deliveries.map (·.row)
      = s.deliveries.map (·.row) := by
  unfold networkPhase
  dsimp only
  split
  · exact rows_deliverRows _ _ _ _
  · rfl

/-- **The passes end**, whatever the capacities are. -/
theorem allocatePasses_ok (passes : Nat) :
    ∀ (memo : CapacityMemo) (remaining : List ResourceSupplyAgreement) (suspended : List String),
      remaining.length < passes →
      ∃ a, allocatePasses localeCompare capacityFor passes memo remaining suspended = .ok a := by
  induction passes with
  | zero =>
      intro memo remaining suspended h
      omega
  | succ passes ih =>
      intro memo remaining suspended h
      unfold allocatePasses
      dsimp only
      split
      · exact ⟨_, rfl⟩
      next d hfind =>
        refine ih _ _ _ ?_
        have hmem : d.row ∈ remaining := by
          have hrows : (runPass localeCompare capacityFor memo remaining).deliveries.map
              (·.row) = remaining := by
            unfold runPass
            rw [rows_networkPhase, rows_upkeepPhase]
            exact (booked_open remaining).1.rows
          rw [← hrows]
          exact List.mem_map_of_mem (List.mem_of_find?_eq_some hfind)
        have hdrop : (remaining.filter (fun row => row.id ≠ d.row.id)).length < remaining.length :=
          List.length_filter_lt_length_iff_exists.mpr ⟨d.row, hmem, by simp⟩
        omega

theorem allocate_ok (moment : Int) (hlength : rows.length ≤ MAX_RESOURCE_SUPPLY_AGREEMENTS)
    (hids : (rows.map (·.id)).Nodup) :
    ∃ a, allocateResourceSupplyAgreements localeCompare rows moment capacityFor = .ok a := by
  obtain ⟨a, hrun⟩ := allocatePasses_ok localeCompare capacityFor
    ((activeRows localeCompare rows moment).length + 1) .empty
    (activeRows localeCompare rows moment) [] (Nat.lt_succ_self _)
  exact ⟨a, (allocate_eq_passes hlength hids).trans hrun⟩

def boundaries (row : ResourceSupplyAgreement) : List Int :=
  (row.startedAt : Int) :: row.expiresAt.toList.map (fun expiresAt => (expiresAt : Int))

theorem isActive_congr {row : ResourceSupplyAgreement} {moment moment' : Int}
    (hle : moment ≤ moment')
    (hnone : ∀ boundary ∈ boundaries row, moment < boundary → moment' < boundary) :
    isActive moment row = isActive moment' row := by
  have hstart := hnone row.startedAt List.mem_cons_self
  have hstarted : (row.startedAt : Int) ≤ moment ↔ (row.startedAt : Int) ≤ moment' := by omega
  unfold isActive
  rw [decide_eq_decide.mpr hstarted]
  cases hexpires : row.expiresAt with
  | none => rfl
  | some expiresAt =>
      have hend := hnone expiresAt (by simp [boundaries, hexpires])
      have hlater : moment < (expiresAt : Int) ↔ moment' < (expiresAt : Int) := by omega
      simp [hlater]

theorem nextChange_le {moment boundary : Int} {row : ResourceSupplyAgreement} (hrow : row ∈ rows)
    (hboundary : boundary ∈ boundaries row) (hlt : moment < boundary) :
    ∃ bound, nextChange rows moment = some bound ∧ bound ≤ boundary := by
  have hmem : boundary ∈ (rows.flatMap boundaries).filter (fun deadline => moment < deadline) :=
    List.mem_filter.mpr ⟨List.mem_flatMap.mpr ⟨row, hrow, hboundary⟩, decide_eq_true hlt⟩
  obtain ⟨bound, hbound⟩ := Option.isSome_iff_exists.mp (List.isSome_min?_of_mem hmem)
  exact ⟨bound, hbound, (List.min?_eq_some_iff.mp hbound).2 boundary hmem⟩

/-- **The allocation does not change inside the window.** -/
theorem allocate_window {moment moment' : Int} (hle : moment ≤ moment')
    (hwindow : (nextChange rows moment).all (fun bound => moment' < bound)) :
    allocateResourceSupplyAgreements localeCompare rows moment capacityFor
      = allocateResourceSupplyAgreements localeCompare rows moment' capacityFor := by
  have hactive : activeRows localeCompare rows moment = activeRows localeCompare rows moment' := by
    unfold activeRows
    refine congrArg (List.mergeSort · _) (List.filter_congr (fun row hrow => ?_))
    refine isActive_congr hle (fun boundary hboundary hlt => ?_)
    obtain ⟨bound, hbound, hbelow⟩ := nextChange_le hrow hboundary hlt
    rw [hbound] at hwindow
    have hlater : moment' < bound := by simpa using hwindow
    omega
  unfold allocateResourceSupplyAgreements
  rw [hactive]

/-! ## §2. Reads. -/

/-- What may be in the ledger. -/
structure Stored (rows : List ResourceSupplyAgreement) : Prop where
  bounded : rows.length ≤ MAX_RESOURCE_SUPPLY_AGREEMENTS
  boundedEach : ∀ p, agreementsOf rows p ≤ MAX_RESOURCE_SUPPLY_AGREEMENTS_PER_PLAYER
  ids : (rows.map (·.id)).Nodup
  parses : ∀ row ∈ rows, agreementParses row = true

theorem Stored.sublist {rows rows' : List ResourceSupplyAgreement} (h : Stored rows)
    (hsub : rows'.Sublist rows) : Stored rows' where
  bounded := le_trans hsub.length_le h.bounded
  boundedEach := fun p => le_trans (hsub.countP_le) (h.boundedEach p)
  ids := (hsub.map _).nodup h.ids
  parses := fun row hrow => h.parses row (hsub.subset hrow)

/-- What is cached is the allocation of the rows, until the next change. -/
def CacheTrue (ctx : SupplyLedgerContext) (s : SupplyLedger) : Prop :=
  ∀ allocation, s.cached = some allocation → ∃ moment, s.cachedAt = some moment
    ∧ allocateResourceSupplyAgreements ctx.localeCompare s.agreements moment ctx.capacityFor
      = .ok allocation
    ∧ s.cachedUntil = nextChange s.agreements moment

theorem cacheTrue_of_none {ctx : SupplyLedgerContext} {s : SupplyLedger} (h : s.cached = none) :
    CacheTrue ctx s := by
  intro allocation hcached
  rw [h] at hcached
  cases hcached

/-- Two ledgers that differ in the cache alone. -/
structure SameBut (s s' : SupplyLedger) : Prop where
  agreements : s'.agreements = s.agreements
  advancing : s'.advancing = s.advancing
  valuationTime : s'.valuationTime = s.valuationTime

section Reads

variable {ctx : SupplyLedgerContext} {s : SupplyLedger}

/-- **The allocation served** is a fresh one. -/
theorem current_spec (hcache : CacheTrue ctx s) (hstored : Stored s.agreements) (moment : Int) :
    ∃ allocation s', s.current ctx moment = .ok (allocation, s')
      ∧ allocateResourceSupplyAgreements ctx.localeCompare s.agreements moment ctx.capacityFor
        = .ok allocation
      ∧ CacheTrue ctx s' ∧ SameBut s s' := by
  have hfill : ∃ allocation s', s.fill ctx moment = .ok (allocation, s')
      ∧ allocateResourceSupplyAgreements ctx.localeCompare s.agreements moment ctx.capacityFor
        = .ok allocation
      ∧ CacheTrue ctx s' ∧ SameBut s s' := by
    obtain ⟨allocation, hrun⟩ :=
      allocate_ok ctx.localeCompare ctx.capacityFor moment hstored.bounded hstored.ids
    refine ⟨allocation, { s with
      cached := some allocation, cachedAt := some moment
      cachedUntil := nextChange s.agreements moment }, ?_, hrun, ?_, ⟨rfl, rfl, rfl⟩⟩
    · unfold SupplyLedger.fill
      rw [hrun]
    · intro allocation' h
      obtain rfl := Option.some.inj h
      exact ⟨moment, rfl, hrun, rfl⟩
  unfold SupplyLedger.current
  split
  · exact hfill
  next allocation hcached =>
    split
    · exact hfill
    next hinside =>
      obtain ⟨moment₀, hat, hrun, huntil⟩ := hcache allocation hcached
      rw [hat, huntil] at hinside
      have hafter : moment₀ ≤ moment := by
        by_contra hlt
        exact hinside (Or.inl (by simpa using hlt))
      have hwindow : (nextChange s.agreements moment₀).all (fun bound => moment < bound) := by
        cases hbound : nextChange s.agreements moment₀ with
        | none => rfl
        | some bound =>
            rw [hbound] at hinside
            simp only [not_or, Option.any_some, decide_eq_true_eq, not_le] at hinside
            simpa using hinside.2
      refine ⟨allocation, s, rfl, ?_, hcache, ⟨rfl, rfl, rfl⟩⟩
      rw [← allocate_window _ _ hafter hwindow]
      exact hrun

end Reads

def freshRead (ctx : SupplyLedgerContext) (rows : List ResourceSupplyAgreement) (moment : Int) :
    LedgerEvent :=
  .returned (allocateResourceSupplyAgreements ctx.localeCompare rows moment ctx.capacityFor) moment
    rows

/-- **What a callback is shown**: the allocation of the valuation time, whatever
times it asks for. -/
theorem readAll_spec {ctx : SupplyLedgerContext} {moment : Int} (asks : List Int) :
    ∀ {s : SupplyLedger}, CacheTrue ctx s → Stored s.agreements → s.valuationTime = some moment →
      ∃ s', SupplyLedger.readAll ctx s asks
          = .ok (s', asks.map (fun _ => freshRead ctx s.agreements moment))
        ∧ CacheTrue ctx s' ∧ SameBut s s' := by
  induction asks with
  | nil =>
      intro s hcache _ _
      exact ⟨s, rfl, hcache, ⟨rfl, rfl, rfl⟩⟩
  | cons ask rest ih =>
      intro s hcache hstored htime
      obtain ⟨allocation, s₁, hcurrent, hrun, hcache₁, hsame₁⟩ := current_spec hcache hstored moment
      obtain ⟨s₂, hrest, hcache₂, hsame₂⟩ := ih hcache₁ (by rw [hsame₁.agreements]; exact hstored)
        (hsame₁.valuationTime.trans htime)
      refine ⟨s₂, ?_, hcache₂, ⟨hsame₂.agreements.trans hsame₁.agreements,
        hsame₂.advancing.trans hsame₁.advancing, hsame₂.valuationTime.trans hsame₁.valuationTime⟩⟩
      have hmoment : s.valuationTime.getD ask = moment := by rw [htime]; rfl
      unfold SupplyLedger.readAll
      rw [hmoment, hcurrent]
      dsimp only
      rw [hrest]
      dsimp only
      rw [hsame₁.agreements, List.map_cons]
      unfold freshRead
      rw [hrun]

/-! ## §3. Deadlines. -/

def liveAt (rows : List ResourceSupplyAgreement) (deadline : Nat) : List ResourceSupplyAgreement :=
  rows.filter (fun row => row.expiresAt.all (fun expiresAt => deadline ≤ expiresAt))

/-- **The settlement of a deadline**: the callback runs at the deadline, shows
the agreements that live up to it under the valuation of the instant before,
and only then those that end at it are gone. -/
def settledDeadline (ctx : SupplyLedgerContext) (rows : List ResourceSupplyAgreement)
    (deadline : Nat) : List LedgerEvent :=
  let live := liveAt rows deadline
  let ids := affectedParticipantIds live (parties (live.filter (isDue deadline)))
  .beforeChange deadline (deadline - 1) ids
    :: (ctx.asks deadline ids).map (fun _ => freshRead ctx live (deadline - 1))
    ++ (live.filter (isDue deadline)).map (.changed .expired) ++ [.invalidated ids]

theorem mem_spreadAffected (agreements : List ResourceSupplyAgreement) {p : PlayerId} :
    ∀ {affected : List PlayerId}, p ∈ affected → p ∈ spreadAffected agreements affected := by
  induction agreements with
  | nil =>
      intro affected h
      exact h
  | cons row rest ih =>
      intro affected h
      refine ih ?_
      dsimp only
      split
      · simp [InsertionSet.mem_add, h]
      · exact h

theorem mem_affectedParticipantIds (agreements : List ResourceSupplyAgreement)
    {seeds : List PlayerId} {p : PlayerId} (h : p ∈ seeds) :
    p ∈ affectedParticipantIds agreements seeds := by
  have hrounds : ∀ (rounds : Nat) (affected : List PlayerId), p ∈ affected →
      p ∈ spreadRounds agreements rounds affected := by
    intro rounds
    induction rounds with
    | zero =>
        intro affected hin
        exact hin
    | succ rounds ih =>
        intro affected hin
        unfold spreadRounds
        dsimp only
        split
        · exact mem_spreadAffected agreements hin
        · exact ih _ (mem_spreadAffected agreements hin)
  refine hrounds _ _ ?_
  rw [InsertionSet.mem_addAll]
  exact Or.inr h

theorem isDue_iff {now : Int} {row : ResourceSupplyAgreement} :
    isDue now row = true ↔ ∃ expiresAt, row.expiresAt = some expiresAt ∧ (expiresAt : Int) ≤ now := by
  unfold isDue
  rw [Option.any_eq_true]
  simp only [decide_eq_true_eq]

structure AtRest (ctx : SupplyLedgerContext) (s : SupplyLedger) : Prop where
  cache : CacheTrue ctx s
  stored : Stored s.agreements
  valuationTime : s.valuationTime = none

theorem earliest_spec (rows : List ResourceSupplyAgreement) (now : Int) :
    (rows.filter (isDue now) = []
      ∧ ((rows.filter (isDue now)).mergeSort (fun a b =>
        a.expiresAt.getD 0 ≤ b.expiresAt.getD 0)).head?.bind (·.expiresAt) = none)
    ∨ ∃ deadline next, ((rows.filter (isDue now)).mergeSort (fun a b =>
        a.expiresAt.getD 0 ≤ b.expiresAt.getD 0)).head?.bind (·.expiresAt) = some deadline
      ∧ next ∈ rows ∧ next.expiresAt = some deadline ∧ (deadline : Int) ≤ now
      ∧ ∀ row ∈ rows, ∀ expiresAt, row.expiresAt = some expiresAt → deadline ≤ expiresAt := by
  have hsorted := @List.pairwise_mergeSort _
    (fun a b : ResourceSupplyAgreement => decide (a.expiresAt.getD 0 ≤ b.expiresAt.getD 0))
    (fun a b c hab hbc => by simp only [decide_eq_true_eq] at *; omega)
    (fun a b => by simp only [Bool.or_eq_true, decide_eq_true_eq]; omega)
    (rows.filter (isDue now))
  have hmem : ∀ row, row ∈ (rows.filter (isDue now)).mergeSort (fun a b =>
      a.expiresAt.getD 0 ≤ b.expiresAt.getD 0) ↔ row ∈ rows ∧ isDue now row = true := by
    intro row
    rw [List.mem_mergeSort, List.mem_filter]
  cases hlist : (rows.filter (isDue now)).mergeSort (fun a b =>
      a.expiresAt.getD 0 ≤ b.expiresAt.getD 0) with
  | nil =>
      refine Or.inl ⟨?_, rfl⟩
      have hperm := List.mergeSort_perm (rows.filter (isDue now)) (fun a b =>
        decide (a.expiresAt.getD 0 ≤ b.expiresAt.getD 0))
      rw [hlist] at hperm
      exact hperm.symm.eq_nil
  | cons next rest =>
      rw [hlist] at hsorted hmem
      obtain ⟨hin, hdue⟩ := (hmem next).mp List.mem_cons_self
      obtain ⟨deadline, hdeadline, hle⟩ := isDue_iff.mp hdue
      refine Or.inr ⟨deadline, next, hdeadline, hin, hdeadline, hle, ?_⟩
      intro row hrow expiresAt hexpires
      by_cases hrowdue : isDue now row = true
      · rcases List.mem_cons.mp ((hmem row).mpr ⟨hrow, hrowdue⟩) with rfl | hrest
        · rw [hdeadline] at hexpires
          exact le_of_eq (Option.some.inj hexpires)
        · have hbefore := (List.pairwise_cons.mp hsorted).1 row hrest
          rw [hdeadline, hexpires] at hbefore
          simpa using hbefore
      · -- an agreement that is not due yet ends after every one that is
        have hlater : ¬ (expiresAt : Int) ≤ now := fun h =>
          hrowdue (isDue_iff.mpr ⟨expiresAt, hexpires, h⟩)
        omega

theorem not_isDue_iff {now : Int} {row : ResourceSupplyAgreement} :
    (!isDue now row) = true
      ↔ ∀ expiresAt, row.expiresAt = some expiresAt → now < (expiresAt : Int) := by
  rw [Bool.not_eq_true', Bool.eq_false_iff, ne_eq, isDue_iff]
  constructor
  · intro h expiresAt hexpires
    by_contra hle
    exact h ⟨expiresAt, hexpires, by omega⟩
  · rintro h ⟨expiresAt, hexpires, hle⟩
    have := h expiresAt hexpires
    omega

theorem Stored.deadline_pos (h : Stored rows) {row : ResourceSupplyAgreement} (hrow : row ∈ rows)
    {expiresAt : Nat} (hexpires : row.expiresAt = some expiresAt) : row.startedAt < expiresAt := by
  have hparses := h.parses row hrow
  unfold agreementParses at hparses
  simp only [Bool.and_eq_true] at hparses
  have hall := hparses.1.2
  rw [hexpires] at hall
  simpa using hall

section Passes

variable {ctx : SupplyLedgerContext} {now : Int}

/-- **One pass** settles the earliest due deadline. -/
theorem expireNext_spec {s : SupplyLedger} (h : AtRest ctx s) :
    (s.agreements.filter (isDue now) = [] ∧ s.expireNext ctx now = .ok none)
    ∨ ∃ (deadline : Nat) (s' : SupplyLedger),
      s.expireNext ctx now = .ok (some (s', settledDeadline ctx s.agreements deadline))
      ∧ (deadline : Int) ≤ now ∧ (∃ row ∈ s.agreements, row.expiresAt = some deadline)
      ∧ (∀ row ∈ s.agreements, ∀ expiresAt, row.expiresAt = some expiresAt → deadline ≤ expiresAt)
      ∧ s'.agreements = s.agreements.filter (fun row => !isDue deadline row)
      ∧ AtRest ctx s' ∧ s'.advancing = s.advancing := by
  rcases earliest_spec s.agreements now with ⟨hnone, hhead⟩ | ⟨deadline, next, hhead, hin, hnext, hle,
    hmin⟩
  · refine Or.inl ⟨hnone, ?_⟩
    unfold SupplyLedger.expireNext
    rw [hhead]
  · have hpos := h.stored.deadline_pos hin hnext
    obtain ⟨instant, rfl⟩ : ∃ instant, deadline = instant + 1 := ⟨deadline - 1, by omega⟩
    have hlive : liveAt s.agreements (instant + 1) = s.agreements := by
      refine List.filter_eq_self.mpr (fun row hrow => ?_)
      cases hexpires : row.expiresAt with
      | none => rfl
      | some expiresAt => simpa using hmin row hrow expiresAt hexpires
    have hcast : ((instant + 1 : Nat) : Int) = (instant : Int) + 1 := by omega
    obtain ⟨s₁, hread, hcache₁, hsame₁⟩ := @readAll_spec ctx ((instant : Int) + 1 - 1)
      (ctx.asks ((instant : Int) + 1) (affectedParticipantIds s.agreements
        (parties (s.agreements.filter (isDue ((instant : Int) + 1))))))
      { s.invalidate with valuationTime := some ((instant : Int) + 1 - 1) }
      (cacheTrue_of_none rfl) h.stored rfl
    refine Or.inr ⟨instant + 1, { s₁.invalidate with
      agreements := s₁.agreements.filter (fun row => !isDue ((instant : Int) + 1) row)
      valuationTime := none }, ?_, hle, ⟨next, hin, hnext⟩, hmin, ?_, ⟨?_, ?_, rfl⟩,
      hsame₁.advancing⟩
    · unfold SupplyLedger.expireNext
      rw [hhead]
      dsimp only
      rw [hread]
      dsimp only
      rw [hsame₁.agreements]
      unfold settledDeadline
      rw [hlive, hcast]
      rfl
    · show s₁.agreements.filter _ = _
      rw [hsame₁.agreements, hcast]
      rfl
    · exact cacheTrue_of_none rfl
    · show Stored (s₁.agreements.filter _)
      rw [hsame₁.agreements]
      exact h.stored.sublist List.filter_sublist

theorem liveAt_of_settled {rows : List ResourceSupplyAgreement} {deadline later : Nat}
    (hlt : deadline < later) :
    liveAt (rows.filter (fun row => !isDue deadline row)) later = liveAt rows later := by
  unfold liveAt
  rw [List.filter_filter]
  refine List.filter_congr (fun row _ => ?_)
  cases hexpires : row.expiresAt with
  | none => simp [isDue, hexpires]
  | some expiresAt =>
      simp only [isDue, hexpires, Option.all_some, Option.any_some]
      by_cases hle : later ≤ expiresAt
      · have hnot : ¬ (expiresAt : Int) ≤ deadline := by omega
        simp [hle, hnot]
      · simp [hle]

/-- **The due deadlines**, by induction on the passes: each pass removes an
agreement, so as many passes as agreements are enough. -/
theorem expirePasses_spec (passes : Nat) :
    ∀ {s : SupplyLedger}, AtRest ctx s → (s.agreements.filter (isDue now)).length ≤ passes →
      ∃ (deadlines : List Nat) (s' : SupplyLedger),
        SupplyLedger.expirePasses ctx now passes s
          = .ok (s', deadlines.flatMap (settledDeadline ctx s.agreements))
        ∧ deadlines.Pairwise (· < ·)
        ∧ (∀ deadline : Nat, deadline ∈ deadlines
          ↔ (deadline : Int) ≤ now ∧ ∃ row ∈ s.agreements, row.expiresAt = some deadline)
        ∧ s'.agreements = s.agreements.filter (fun row => !isDue now row)
        ∧ AtRest ctx s' ∧ s'.advancing = s.advancing := by
  -- once nothing is due the passes are over
  have hidle : ∀ {s : SupplyLedger}, AtRest ctx s → s.agreements.filter (isDue now) = [] →
      (∀ deadline : Nat, deadline ∈ ([] : List Nat)
        ↔ (deadline : Int) ≤ now ∧ ∃ row ∈ s.agreements, row.expiresAt = some deadline)
      ∧ s.agreements = s.agreements.filter (fun row => !isDue now row) := by
    intro s _ hnone
    have hall : ∀ row ∈ s.agreements, ¬ isDue now row = true := List.filter_eq_nil_iff.mp hnone
    refine ⟨fun deadline => ⟨fun h => absurd h List.not_mem_nil, ?_⟩, ?_⟩
    · rintro ⟨hle, row, hrow, hexpires⟩
      exact absurd (isDue_iff.mpr ⟨deadline, hexpires, hle⟩) (hall row hrow)
    · refine (List.filter_eq_self.mpr (fun row hrow => ?_)).symm
      simpa using hall row hrow
  induction passes with
  | zero =>
      intro s h hfew
      obtain ⟨hdeadlines, hrows⟩ := hidle h (List.eq_nil_of_length_eq_zero (by omega))
      exact ⟨[], s, rfl, List.Pairwise.nil, hdeadlines, hrows, h, rfl⟩
  | succ passes ih =>
      intro s h hfew
      unfold SupplyLedger.expirePasses
      rcases @expireNext_spec ctx now s h with ⟨hnone, hrun⟩ | ⟨deadline, s₁, hrun, hle, hhas, hmin,
        hrows₁, hrest₁, hadvancing₁⟩
      · rw [hrun]
        obtain ⟨hdeadlines, hrows⟩ := hidle h hnone
        exact ⟨[], s, rfl, List.Pairwise.nil, hdeadlines, hrows, h, rfl⟩
      · rw [hrun]
        dsimp only
        obtain ⟨row, hrow, hexpires⟩ := hhas
        have hfewer : (s₁.agreements.filter (isDue now)).length ≤ passes := by
          have hdrop : (s₁.agreements.filter (isDue now)).length
              < (s.agreements.filter (isDue now)).length := by
            rw [hrows₁, List.filter_comm]
            refine List.length_filter_lt_length_iff_exists.mpr ⟨row, ?_, ?_⟩
            · exact List.mem_filter.mpr ⟨hrow, isDue_iff.mpr ⟨deadline, hexpires, hle⟩⟩
            · simp [isDue, hexpires]
          omega
        obtain ⟨deadlines, s₂, hrun₂, hincreasing, hdeadlines, hrows₂, hrest₂, hadvancing₂⟩ :=
          ih hrest₁ hfewer
        have hleft : ∀ row', row' ∈ s₁.agreements ↔ row' ∈ s.agreements
            ∧ ∀ expiresAt, row'.expiresAt = some expiresAt → deadline < expiresAt := by
          intro row'
          rw [hrows₁, List.mem_filter, not_isDue_iff]
          simp
        have hafter : ∀ later ∈ deadlines, deadline < later := by
          intro later hlater
          obtain ⟨_, row', hrow', hexpires'⟩ := (hdeadlines later).mp hlater
          exact ((hleft row').mp hrow').2 later hexpires'
        refine ⟨deadline :: deadlines, s₂, ?_, List.pairwise_cons.mpr ⟨hafter, hincreasing⟩, ?_, ?_,
          hrest₂, hadvancing₂.trans hadvancing₁⟩
        · rw [hrun₂]
          dsimp only
          have hlog : deadlines.flatMap (settledDeadline ctx s₁.agreements)
              = deadlines.flatMap (settledDeadline ctx s.agreements) := by
            refine List.flatMap_congr (fun later hlater => ?_)
            unfold settledDeadline
            rw [hrows₁, liveAt_of_settled (hafter later hlater)]
          rw [hlog, List.flatMap_cons]
        · intro deadline'
          rw [List.mem_cons, hdeadlines]
          constructor
          · rintro (rfl | ⟨hle', row', hrow', hexpires'⟩)
            · exact ⟨hle, row, hrow, hexpires⟩
            · exact ⟨hle', row', ((hleft row').mp hrow').1, hexpires'⟩
          · rintro ⟨hle', row', hrow', hexpires'⟩
            rcases Nat.lt_or_eq_of_le (hmin row' hrow' deadline' hexpires') with hlt | heq
            · refine Or.inr ⟨hle', row', (hleft row').mpr ⟨hrow', fun expiresAt h => ?_⟩, hexpires'⟩
              rw [hexpires'] at h
              have hsame := Option.some.inj h
              omega
            · exact Or.inl heq.symm
        · rw [hrows₂, hrows₁, List.filter_filter]
          refine List.filter_congr (fun row' _ => ?_)
          cases hexpires' : row'.expiresAt with
          | none => simp [isDue, hexpires']
          | some expiresAt =>
              simp only [isDue, hexpires', Option.any_some]
              by_cases hlater : (expiresAt : Int) ≤ now
              · simp [hlater]
              · have hnot : ¬ (expiresAt : Int) ≤ deadline := by omega
                simp [hlater, hnot]

def unexpired (rows : List ResourceSupplyAgreement) (now : Int) : List ResourceSupplyAgreement :=
  rows.filter (fun row => !isDue now row)

/-- Between two calls. -/
structure Idle (ctx : SupplyLedgerContext) (s : SupplyLedger) : Prop extends AtRest ctx s where
  advancing : s.advancing = false

/-- What `advanceTo` does: it settles the due deadlines in order. -/
structure Advances (ctx : SupplyLedgerContext) (now : Int) (s s' : SupplyLedger)
    (log : List LedgerEvent) : Prop where
  settled : ∃ deadlines : List Nat, log = deadlines.flatMap (settledDeadline ctx s.agreements)
    ∧ deadlines.Pairwise (· < ·) ∧ ∀ deadline : Nat, deadline ∈ deadlines
      ↔ (deadline : Int) ≤ now ∧ ∃ row ∈ s.agreements, row.expiresAt = some deadline
  agreements : s'.agreements = unexpired s.agreements now
  idle : Idle ctx s'

theorem advanceTo_spec {s : SupplyLedger} (h : Idle ctx s) (now : Int) :
    ∃ s' log, s.advanceTo ctx now = .ok (s', log) ∧ Advances ctx now s s' log := by
  have hrest : AtRest ctx { s with advancing := true } := ⟨h.cache, h.stored, h.valuationTime⟩
  have hfew : (s.agreements.filter (isDue now)).length ≤ MAX_RESOURCE_SUPPLY_AGREEMENTS :=
    le_trans (List.length_filter_le _ _) h.stored.bounded
  obtain ⟨deadlines, s₁, hrun, hincreasing, hdeadlines, hrows, hrest₁, _⟩ :=
    @expirePasses_spec ctx now MAX_RESOURCE_SUPPLY_AGREEMENTS _ hrest hfew
  refine ⟨{ s₁ with advancing := false, valuationTime := none }, _, ?_,
    ⟨⟨deadlines, rfl, hincreasing, hdeadlines⟩, hrows, ⟨⟨hrest₁.cache, hrest₁.stored, rfl⟩, rfl⟩⟩⟩
  unfold SupplyLedger.advanceTo
  rw [if_neg (by simp [h.advancing, h.valuationTime]), hrun]

theorem unexpired_unexpired (rows : List ResourceSupplyAgreement) (now : Int) :
    unexpired (unexpired rows now) now = unexpired rows now := by
  unfold unexpired
  rw [List.filter_filter]
  simp

/-- **Advancing again** to the same time does nothing. -/
theorem Advances.nothing {s s' : SupplyLedger} {log : List LedgerEvent}
    (h : Advances ctx now s s' log) (hdone : unexpired s.agreements now = s.agreements) :
    log = [] ∧ s'.agreements = s.agreements := by
  refine ⟨?_, h.agreements.trans hdone⟩
  obtain ⟨deadlines, rfl, _, hdeadlines⟩ := h.settled
  have hnone : deadlines = [] := by
    refine List.eq_nil_iff_forall_not_mem.mpr (fun deadline hmem => ?_)
    obtain ⟨hle, row, hrow, hexpires⟩ := (hdeadlines deadline).mp hmem
    rw [← hdone] at hrow
    have hlater := not_isDue_iff.mp (List.mem_filter.mp hrow).2 deadline hexpires
    omega
  rw [hnone, List.flatMap_nil]

end Passes

/-! ## §4. The calls. -/

section Calls

variable {ctx : SupplyLedgerContext} {now : Int} {s : SupplyLedger}

/-- **An allocation** is a fresh one of the agreements that are left. -/
theorem allocation_spec (h : Idle ctx s) (now : Int) :
    ∃ allocation s₁ s₂ log, s.allocation ctx now
        = .ok (allocation, s₂, log ++ [freshRead ctx s₂.agreements now])
      ∧ Advances ctx now s s₁ log ∧ s₂.agreements = s₁.agreements ∧ Idle ctx s₂
      ∧ allocateResourceSupplyAgreements ctx.localeCompare s₂.agreements now ctx.capacityFor
        = .ok allocation := by
  obtain ⟨s₁, log, hrun, hadvances⟩ := advanceTo_spec h now
  obtain ⟨allocation, s₂, hcurrent, hfresh, hcache, hsame⟩ :=
    current_spec hadvances.idle.cache hadvances.idle.stored now
  have hidle : Idle ctx s₂ := by
    refine ⟨⟨hcache, ?_, hsame.valuationTime.trans hadvances.idle.valuationTime⟩,
      hsame.advancing.trans hadvances.idle.advancing⟩
    rw [hsame.agreements]
    exact hadvances.idle.stored
  refine ⟨allocation, s₁, s₂, log, ?_, hadvances, hsame.agreements, hidle, ?_⟩
  · unfold SupplyLedger.allocation
    rw [h.valuationTime]
    dsimp only [Option.getD_none]
    rw [hrun]
    dsimp only
    rw [hadvances.idle.valuationTime]
    dsimp only [Option.getD_none]
    rw [hcurrent]
    dsimp only
    unfold freshRead
    rw [hsame.agreements, hfresh]
  · rw [hsame.agreements]
    exact hfresh

/-- **A settlement before a change** shows the callback the old allocation. -/
theorem settleBeforeChange_spec (h : Idle ctx s) (now : Int) (ids : List PlayerId) :
    ∃ s', s.settleBeforeChange ctx now ids = .ok (s', .beforeChange now now ids
        :: (ctx.asks now ids).map (fun _ => freshRead ctx s.agreements now))
      ∧ s'.agreements = s.agreements ∧ Idle ctx s' := by
  obtain ⟨s₁, hread, hcache, hsame⟩ := @readAll_spec ctx now (ctx.asks now ids)
    { s with valuationTime := some now } h.cache h.stored rfl
  refine ⟨{ s₁ with valuationTime := s.valuationTime }, ?_, hsame.agreements,
    ⟨⟨hcache, ?_, h.valuationTime⟩, hsame.advancing.trans h.advancing⟩⟩
  · unfold SupplyLedger.settleBeforeChange
    rw [hread]
  · show Stored s₁.agreements
    rw [hsame.agreements]
    exact h.stored

theorem agreementsOf_append (rows : List ResourceSupplyAgreement) (row : ResourceSupplyAgreement)
    (p : PlayerId) : agreementsOf (rows ++ [row]) p
      = agreementsOf rows p + if row.proposerId = p ∨ row.targetId = p then 1 else 0 := by
  unfold agreementsOf
  rw [List.countP_append]
  simp [List.countP_cons]

theorem Stored.append {row : ResourceSupplyAgreement} (h : Stored s.agreements)
    (hnew : s.has row.id = false) (hroom : s.hasCapacity row = true)
    (hparses : agreementParses row = true) : Stored (s.agreements ++ [row]) := by
  unfold SupplyLedger.hasCapacity at hroom
  rw [Bool.and_eq_true, decide_eq_true_iff] at hroom
  obtain ⟨htotal, heach⟩ := hroom
  refine ⟨?_, ?_, ?_, ?_⟩
  · rw [List.length_append]
    exact htotal
  · intro p
    rw [agreementsOf_append]
    split
    next hparty =>
      have hmem : p ∈ [row.proposerId, row.targetId] := by
        rcases hparty with rfl | rfl <;> simp
      have hfew := of_decide_eq_true (List.all_eq_true.mp heach p hmem)
      omega
    · have hfew := h.boundedEach p
      omega
  · rw [List.map_append]
    refine List.nodup_append.mpr ⟨h.ids, by simp, ?_⟩
    intro id hid id' hid' heq
    obtain ⟨other, hother, rfl⟩ := List.mem_map.mp hid
    have hsame : other.id = row.id := by simpa [heq] using hid'
    have hno := List.any_eq_false.mp hnew other hother
    simp [hsame] at hno
  · intro row' hrow'
    rcases List.mem_append.mp hrow' with hold | hlast
    · exact h.parses row' hold
    · rw [List.mem_singleton.mp hlast]
      exact hparses

structure KeepsFulfilled (ctx : SupplyLedgerContext) (rows : List ResourceSupplyAgreement)
    (row : ResourceSupplyAgreement) (now : Int) : Prop where
  kept : ∃ before after,
    allocateResourceSupplyAgreements ctx.localeCompare rows now ctx.capacityFor = .ok before
      ∧ allocateResourceSupplyAgreements ctx.localeCompare (rows ++ [row]) now ctx.capacityFor
        = .ok after
      ∧ row.id ∈ after.fulfilled ∧ ∀ id ∈ before.fulfilled, id ∈ after.fulfilled

/-- What happens after the due deadlines: nothing but fresh reads, one
settlement, and the change. -/
def FreshTail (ctx : SupplyLedgerContext) (rows : List ResourceSupplyAgreement) (now : Int)
    (tail : List LedgerEvent) : Prop :=
  ∀ event ∈ tail, event = freshRead ctx rows now
    ∨ (∃ ids, event = .beforeChange now now ids ∨ event = .invalidated ids)
    ∨ ∃ action row, event = .changed action row ∧ action ≠ .expired

theorem FreshTail.append {rows : List ResourceSupplyAgreement} {tail tail' : List LedgerEvent}
    (h : FreshTail ctx rows now tail) (h' : FreshTail ctx rows now tail') :
    FreshTail ctx rows now (tail ++ tail') := by
  intro event hevent
  rcases List.mem_append.mp hevent with hmem | hmem
  · exact h event hmem
  · exact h' event hmem

theorem freshTail_read (ctx : SupplyLedgerContext) (rows : List ResourceSupplyAgreement)
    (now : Int) : FreshTail ctx rows now [freshRead ctx rows now] := by
  intro event hevent
  exact Or.inl (List.mem_singleton.mp hevent)

theorem freshTail_settlement (ctx : SupplyLedgerContext) (rows : List ResourceSupplyAgreement)
    (now : Int) (ids : List PlayerId) :
    FreshTail ctx rows now (.beforeChange now now ids
      :: (ctx.asks now ids).map (fun _ => freshRead ctx rows now)) := by
  intro event hevent
  rcases List.mem_cons.mp hevent with rfl | hmem
  · exact Or.inr (Or.inl ⟨ids, Or.inl rfl⟩)
  · obtain ⟨_, _, rfl⟩ := List.mem_map.mp hmem
    exact Or.inl rfl

theorem freshTail_change (ctx : SupplyLedgerContext) (rows : List ResourceSupplyAgreement)
    (now : Int) {action : AgreementAction} (haction : action ≠ .expired)
    (row : ResourceSupplyAgreement) (ids : List PlayerId) :
    FreshTail ctx rows now [.changed action row, .invalidated ids] := by
  intro event hevent
  rcases List.mem_cons.mp hevent with rfl | hmem
  · exact Or.inr (Or.inr ⟨action, row, rfl, haction⟩)
  · exact Or.inr (Or.inl ⟨ids, Or.inr (List.mem_singleton.mp hmem)⟩)

/-- **Adding**: it is rejected and the agreements are the unexpired ones, or it
is accepted, costs no fulfilled agreement anything, and is the last of them. -/
theorem add_spec (h : Idle ctx s) (raw : Option ResourceSupplyAgreement) (now : Int) :
    ∃ result s₁ s' log tail, s.add ctx raw now = .ok (result, s', log ++ tail)
      ∧ Advances ctx now s s₁ log ∧ FreshTail ctx s₁.agreements now tail ∧ Idle ctx s'
      ∧ ((∃ message, result = .rejected message) ∧ s'.agreements = s₁.agreements
        ∨ ∃ row, result = .ok ∧ raw = some row ∧ s'.agreements = s₁.agreements ++ [row]
          ∧ KeepsFulfilled ctx s₁.agreements row now) := by
  obtain ⟨s₁, log, hrun₁, hadvances⟩ := advanceTo_spec h now
  have hdone : unexpired s₁.agreements now = s₁.agreements := by
    rw [hadvances.agreements, unexpired_unexpired]
  have hnothing : FreshTail ctx s₁.agreements now [] :=
    fun event hevent => absurd hevent List.not_mem_nil
  unfold SupplyLedger.add
  rw [hrun₁]
  dsimp only
  split
  · exact ⟨_, s₁, s₁, log, [], by rw [List.append_nil], hadvances, hnothing, hadvances.idle,
      Or.inl ⟨⟨_, rfl⟩, rfl⟩⟩
  next row hparsed =>
    obtain ⟨hraw, hparses⟩ : raw = some row ∧ agreementParses row = true := by
      unfold safeParse at hparsed
      exact Option.filter_eq_some_iff.mp hparsed
    split
    · exact ⟨_, s₁, s₁, log, [], by rw [List.append_nil], hadvances, hnothing, hadvances.idle,
        Or.inl ⟨⟨_, rfl⟩, rfl⟩⟩
    next hnew =>
      split
      · exact ⟨_, s₁, s₁, log, [], by rw [List.append_nil], hadvances, hnothing, hadvances.idle,
          Or.inl ⟨⟨_, rfl⟩, rfl⟩⟩
      next hroom =>
        have hroom' : s₁.hasCapacity row = true := by simpa using hroom
        have hstored := hadvances.idle.stored.append (Bool.eq_false_iff.mpr hnew) hroom' hparses
        obtain ⟨before, s₁', s₂, log₂, hrun₂, hadvances₂, hrows₂, hidle₂, hbefore⟩ :=
          allocation_spec hadvances.idle now
        obtain ⟨rfl, hrows₁⟩ := hadvances₂.nothing hdone
        rw [hrows₁] at hrows₂
        rw [hrows₂] at hbefore hrun₂
        obtain ⟨s₃, log₃, hrun₃, hadvances₃⟩ := advanceTo_spec hidle₂ now
        obtain ⟨rfl, hrows₃⟩ := hadvances₃.nothing (by rw [hrows₂]; exact hdone)
        rw [hrows₂] at hrows₃
        obtain ⟨after, hafter⟩ := allocate_ok ctx.localeCompare ctx.capacityFor now
          hstored.bounded hstored.ids
        have hpreview : s₂.preview ctx row now = .ok (after, s₃, []) := by
          unfold SupplyLedger.preview
          rw [hrun₃]
          dsimp only
          rw [hrows₃, hafter]
        rw [hrun₂]
        dsimp only
        rw [hpreview]
        dsimp only
        split
        · refine ⟨.rejected "The promised resource supply is no longer available.", s₁, s₃, log,
            [freshRead ctx s₁.agreements now], ?_, hadvances, freshTail_read _ _ _,
            hadvances₃.idle, Or.inl ⟨⟨_, rfl⟩, hrows₃⟩⟩
          rw [List.append_nil, List.nil_append]
        next hkeeps =>
          rw [not_or, not_not, Bool.not_eq_true] at hkeeps
          have hkept : ∀ id ∈ before.fulfilled, id ∈ after.fulfilled := by
            intro id hid
            have hin := List.any_eq_false.mp hkeeps.2 id hid
            simpa using hin
          obtain ⟨s₄, hrun₄, hrows₄, hidle₄⟩ := settleBeforeChange_spec hadvances₃.idle now
            (affectedParticipantIds s₃.agreements [row.proposerId, row.targetId])
          rw [hrun₄]
          dsimp only
          rw [hrows₃] at hrows₄ ⊢
          refine ⟨.ok, s₁, { s₄.invalidate with agreements := s₁.agreements ++ [row] }, log,
            [freshRead ctx s₁.agreements now] ++ ((.beforeChange now now
                (affectedParticipantIds s₁.agreements [row.proposerId, row.targetId])
              :: (ctx.asks now (affectedParticipantIds s₁.agreements
                [row.proposerId, row.targetId])).map (fun _ => freshRead ctx s₁.agreements now))
              ++ [.changed .created row, .invalidated (affectedParticipantIds s₁.agreements
                [row.proposerId, row.targetId])]),
            ?_, hadvances, (freshTail_read _ _ _).append ((freshTail_settlement _ _ _ _).append
              (freshTail_change _ _ _ (by decide) _ _)), ?_, Or.inr ⟨row, rfl, hraw, rfl,
                ⟨before, after, hbefore, hafter, hkeeps.1, hkept⟩⟩⟩
          · rw [hrows₄]
            simp only [List.nil_append, List.append_nil, List.append_assoc]
          · exact ⟨⟨cacheTrue_of_none rfl, hstored, hidle₄.valuationTime⟩, hidle₄.advancing⟩

/-- **Removing**: the agreement is gone, if it was there. -/
theorem remove_spec (h : Idle ctx s) (id : String) (now : Int) :
    ∃ found s₁ s' log tail, s.remove ctx id now = .ok (found, s', log ++ tail)
      ∧ Advances ctx now s s₁ log ∧ FreshTail ctx s₁.agreements now tail ∧ Idle ctx s'
      ∧ (found = true ↔ ∃ row ∈ s₁.agreements, row.id = id)
      ∧ s'.agreements = s₁.agreements.filter (fun row => row.id ≠ id) := by
  obtain ⟨s₁, log, hrun₁, hadvances⟩ := advanceTo_spec h now
  unfold SupplyLedger.remove
  rw [hrun₁]
  dsimp only
  split
  next hnone =>
    have hno : ∀ row ∈ s₁.agreements, row.id ≠ id := by
      intro row hrow
      simpa using List.find?_eq_none.mp hnone row hrow
    refine ⟨false, s₁, s₁, log, [], by rw [List.append_nil], hadvances,
      fun event hevent => absurd hevent List.not_mem_nil, hadvances.idle, ?_, ?_⟩
    · simpa using hno
    · exact (List.filter_eq_self.mpr (fun row hrow => decide_eq_true (hno row hrow))).symm
  next row hfind =>
    obtain ⟨s₂, hrun₂, hrows₂, hidle₂⟩ := settleBeforeChange_spec hadvances.idle now
      (affectedParticipantIds s₁.agreements [row.proposerId, row.targetId])
    rw [hrun₂]
    dsimp only
    refine ⟨true, s₁, { s₂.invalidate with
      agreements := s₂.agreements.filter (fun row => row.id ≠ id) }, log,
      (.beforeChange now now (affectedParticipantIds s₁.agreements [row.proposerId, row.targetId])
        :: (ctx.asks now (affectedParticipantIds s₁.agreements
          [row.proposerId, row.targetId])).map (fun _ => freshRead ctx s₁.agreements now))
        ++ [.changed .cancelled row, .invalidated (affectedParticipantIds s₁.agreements
          [row.proposerId, row.targetId])],
      by rw [List.append_assoc], hadvances, (freshTail_settlement _ _ _ _).append
        (freshTail_change _ _ _ (by decide) _ _), ⟨⟨cacheTrue_of_none rfl, ?_,
          hidle₂.valuationTime⟩, hidle₂.advancing⟩, ?_, ?_⟩
    · show Stored (s₂.agreements.filter _)
      exact hidle₂.stored.sublist List.filter_sublist
    · have hid : row.id = id := by simpa using List.find?_some hfind
      exact ⟨fun _ => ⟨row, List.mem_of_find?_eq_some hfind, hid⟩, fun _ => rfl⟩
    · show s₂.agreements.filter _ = _
      rw [hrows₂]

end Calls

/-! ## §5. Runs. -/

theorem restoreAll_stored (saved : List (Option ResourceSupplyAgreement)) :
    ∀ {s s' : SupplyLedger}, SupplyLedger.restoreAll s saved = .ok s' → Stored s.agreements →
      Stored s'.agreements ∧ s'.cached = s.cached ∧ s'.valuationTime = s.valuationTime
        ∧ s'.advancing = s.advancing := by
  induction saved with
  | nil =>
      intro s s' h hstored
      obtain rfl := Except.ok.inj h
      exact ⟨hstored, rfl, rfl, rfl⟩
  | cons raw rest ih =>
      intro s s' h hstored
      unfold SupplyLedger.restoreAll at h
      split at h
      · cases h
      next row hparsed =>
        split at h
        · cases h
        next hfits =>
          rw [Bool.or_eq_true, not_or, Bool.not_eq_true] at hfits
          have hparses : agreementParses row = true := by
            unfold safeParse at hparsed
            exact (Option.filter_eq_some_iff.mp hparsed).2
          exact @ih { s with agreements := s.agreements ++ [row] } s' h
            (hstored.append hfits.1 (by simpa using hfits.2) hparses)

theorem restore_idle {saved : List (Option ResourceSupplyAgreement)} {s : SupplyLedger}
    (h : SupplyLedger.restore saved = .ok s) (ctx : SupplyLedgerContext) : Idle ctx s := by
  unfold SupplyLedger.restore at h
  split at h
  · cases h
  have hempty : Stored SupplyLedger.empty.agreements :=
    ⟨Nat.zero_le _, fun _ => Nat.zero_le _, List.nodup_nil,
      fun row hrow => absurd hrow List.not_mem_nil⟩
  obtain ⟨hstored, hcached, htime, hadvancing⟩ := restoreAll_stored saved h hempty
  exact ⟨⟨cacheTrue_of_none hcached, hstored, htime⟩, hadvancing⟩

theorem Idle.of_context {ctx ctx' : SupplyLedgerContext} {s : SupplyLedger} (h : Idle ctx s)
    (hlocale : ctx'.localeCompare = ctx.localeCompare)
    (hcapacity : ctx'.capacityFor = ctx.capacityFor) : Idle ctx' s := by
  refine ⟨⟨?_, h.stored, h.valuationTime⟩, h.advancing⟩
  intro allocation hcached
  rw [hlocale, hcapacity]
  exact h.cache allocation hcached

/-- **A sound call**, at its time and after the last one's. -/
structure CallSound (localeCompare : String → String → Int) (last : Option Int) (st : LedgerState)
    (call : LedgerCall) (answer : LedgerAnswer) (st' : LedgerState) (log : List LedgerEvent) :
    Prop where
  /-- Every allocation handed out is a fresh one. -/
  fresh : ∀ allocation moment rows, .returned allocation moment rows ∈ log →
    allocation = allocateResourceSupplyAgreements localeCompare rows moment st.capacityFor
      ∧ ∃ a, allocation = .ok a
  answered : ∀ a, answer = .allocation a →
    allocateResourceSupplyAgreements localeCompare st'.ledger.agreements call.now st.capacityFor
      = .ok a
  /-- The due deadlines are settled first, each at its time, in order. -/
  settled : ∃ (deadlines : List Nat) (rest : List LedgerEvent),
    log = deadlines.flatMap (settledDeadline (st.context localeCompare call) st.ledger.agreements)
        ++ rest
      ∧ deadlines.Pairwise (· < ·)
      ∧ (∀ deadline : Nat, deadline ∈ deadlines ↔ (deadline : Int) ≤ call.now
        ∧ ∃ row ∈ st.ledger.agreements, row.expiresAt = some deadline)
      ∧ (∀ deadline ∈ deadlines, ∀ time ∈ last, time < (deadline : Int))
      ∧ ∀ row, .changed .expired row ∉ rest
  /-- Whoever is in an agreement that ends is settled at its deadline. -/
  told : ∀ (deadline : Nat), ∀ row ∈ liveAt st.ledger.agreements deadline, isDue deadline row = true →
    ∀ p ∈ [row.proposerId, row.targetId],
      p ∈ affectedParticipantIds (liveAt st.ledger.agreements deadline)
        (parties ((liveAt st.ledger.agreements deadline).filter (isDue deadline)))
  gone : ∀ row ∈ st'.ledger.agreements, isDue call.now row = false
  /-- An accepted agreement costs no other one its fulfilment. -/
  accepted : answer = .added .ok → ∃ row, call.op = .add (some row)
    ∧ st'.ledger.agreements = unexpired st.ledger.agreements call.now ++ [row]
    ∧ KeepsFulfilled (st.context localeCompare call) (unexpired st.ledger.agreements call.now) row
      call.now
  rejected : ∀ message, answer = .added (.rejected message) →
    st'.ledger.agreements = unexpired st.ledger.agreements call.now
  bounded : st'.ledger.agreements.length ≤ MAX_RESOURCE_SUPPLY_AGREEMENTS
  boundedEach : ∀ p, agreementsOf st'.ledger.agreements p
    ≤ MAX_RESOURCE_SUPPLY_AGREEMENTS_PER_PLAYER

def EndsAfter (last : Option Int) (rows : List ResourceSupplyAgreement) : Prop :=
  ∀ row ∈ rows, ∀ time ∈ last, isDue time row = false

theorem fulfilled_of_passes {localeCompare : String → String → Int}
    {capacityFor : ResourceSupplyCapacity} (passes : Nat) :
    ∀ {memo : CapacityMemo} {remaining : List ResourceSupplyAgreement} {suspended : List String}
      {a : ResourceSupplyAllocation},
      allocatePasses localeCompare capacityFor passes memo remaining suspended = .ok a →
      ∀ id ∈ a.fulfilled, ∃ row ∈ remaining, row.id = id := by
  induction passes with
  | zero =>
      intro memo remaining suspended a h
      cases h
  | succ passes ih =>
      intro memo remaining suspended a h id hid
      unfold allocatePasses at h
      dsimp only at h
      split at h
      · obtain rfl := Except.ok.inj h
        exact List.mem_map.mp hid
      · obtain ⟨row, hrow, heq⟩ := ih h id hid
        exact ⟨row, List.mem_of_mem_filter hrow, heq⟩

theorem fulfilled_active {localeCompare : String → String → Int}
    {capacityFor : ResourceSupplyCapacity} {moment : Int} {a : ResourceSupplyAllocation}
    (h : allocateResourceSupplyAgreements localeCompare rows moment capacityFor = .ok a) :
    ∀ id ∈ a.fulfilled, ∃ row ∈ rows, isActive moment row = true ∧ row.id = id := by
  unfold allocateResourceSupplyAgreements at h
  split at h
  · cases h
  split at h
  · cases h
  intro id hid
  obtain ⟨row, hrow, heq⟩ := fulfilled_of_passes _ h id hid
  have hmem := (List.mergeSort_perm _ _).mem_iff.mp hrow
  exact ⟨row, (List.mem_filter.mp hmem).1, (List.mem_filter.mp hmem).2, heq⟩

theorem not_isDue_of_active {moment : Int} {row : ResourceSupplyAgreement}
    (h : isActive moment row = true) : isDue moment row = false := by
  unfold isActive at h
  rw [Bool.and_eq_true] at h
  unfold isDue
  cases hexpires : row.expiresAt with
  | none => rfl
  | some expiresAt =>
      rw [hexpires] at h
      have hlater : moment < (expiresAt : Int) := by simpa using h.2
      simpa using hlater

section Sound

variable {ctx : SupplyLedgerContext} {now : Int} {s s₁ : SupplyLedger}
  {log tail : List LedgerEvent}

theorem Advances.fresh (h : Advances ctx now s s₁ log) (hstored : Stored s.agreements)
    (htail : FreshTail ctx s₁.agreements now tail) :
    ∀ allocation moment rows, .returned allocation moment rows ∈ log ++ tail →
      allocation = allocateResourceSupplyAgreements ctx.localeCompare rows moment ctx.capacityFor
        ∧ ∃ a, allocation = .ok a := by
  -- a fresh read of stored agreements has an allocation
  have hread : ∀ {rows' : List ResourceSupplyAgreement} {moment' : Int}, Stored rows' →
      ∀ allocation moment rows, .returned allocation moment rows = freshRead ctx rows' moment' →
      allocation = allocateResourceSupplyAgreements ctx.localeCompare rows moment ctx.capacityFor
        ∧ ∃ a, allocation = .ok a := by
    intro rows' moment' hrows allocation moment rows heq
    unfold freshRead at heq
    obtain ⟨rfl, rfl, rfl⟩ := LedgerEvent.returned.inj heq
    obtain ⟨a, ha⟩ := allocate_ok ctx.localeCompare ctx.capacityFor moment hrows.bounded hrows.ids
    exact ⟨rfl, a, ha⟩
  intro allocation moment rows hmem
  rcases List.mem_append.mp hmem with hlog | hin
  · obtain ⟨deadlines, rfl, _, _⟩ := h.settled
    obtain ⟨deadline, _, hevent⟩ := List.mem_flatMap.mp hlog
    unfold settledDeadline at hevent
    simp only [List.cons_append, List.mem_cons, List.mem_append, List.mem_map, reduceCtorEq,
      List.not_mem_nil, or_false, and_false, exists_false, false_or] at hevent
    obtain ⟨_, _, heq⟩ := hevent
    exact hread (hstored.sublist List.filter_sublist) allocation moment rows heq.symm
  · rcases htail _ hin with heq | ⟨ids, heq | heq⟩ | ⟨action, row, heq, _⟩
    · exact hread h.idle.stored allocation moment rows heq
    · cases heq
    · cases heq
    · cases heq

theorem Advances.deadlines (h : Advances ctx now s s₁ log) {last : Option Int}
    (hends : EndsAfter last s.agreements) (htail : FreshTail ctx s₁.agreements now tail) :
    ∃ (deadlines : List Nat) (rest : List LedgerEvent),
      log ++ tail = deadlines.flatMap (settledDeadline ctx s.agreements) ++ rest
        ∧ deadlines.Pairwise (· < ·)
        ∧ (∀ deadline : Nat, deadline ∈ deadlines ↔ (deadline : Int) ≤ now
          ∧ ∃ row ∈ s.agreements, row.expiresAt = some deadline)
        ∧ (∀ deadline ∈ deadlines, ∀ time ∈ last, time < (deadline : Int))
        ∧ ∀ row, .changed .expired row ∉ rest := by
  obtain ⟨deadlines, rfl, hincreasing, hdeadlines⟩ := h.settled
  refine ⟨deadlines, tail, rfl, hincreasing, hdeadlines, ?_, ?_⟩
  · intro deadline hmem time htime
    obtain ⟨_, row, hrow, hexpires⟩ := (hdeadlines deadline).mp hmem
    have hlater := not_isDue_iff.mp (by rw [hends row hrow time htime]; rfl) deadline hexpires
    exact hlater
  · intro row hmem
    rcases htail _ hmem with heq | ⟨ids, heq | heq⟩ | ⟨action, row', heq, haction⟩
    · cases heq
    · cases heq
    · cases heq
    · obtain ⟨rfl, _⟩ := LedgerEvent.changed.inj heq
      exact haction rfl

theorem unexpired_not_due {rows : List ResourceSupplyAgreement} {row : ResourceSupplyAgreement}
    (h : row ∈ unexpired rows now) : isDue now row = false := by
  simpa using (List.mem_filter.mp h).2

end Sound

section Calls

variable {localeCompare : String → String → Int} {last : Option Int} {st : LedgerState}

/-- What every state between calls has. -/
structure LedgerInv (localeCompare : String → String → Int) (last : Option Int)
    (st : LedgerState) : Prop where
  idle : Idle ⟨localeCompare, st.capacityFor, fun _ _ => []⟩ st.ledger
  ends : EndsAfter last st.ledger.agreements

/-- **One call** is sound and leaves the ledger between calls. -/
theorem runCall_spec (h : LedgerInv localeCompare last st) (call : LedgerCall) :
    ∃ answer st' log, runCall localeCompare st call = .ok (answer, st', log)
      ∧ CallSound localeCompare last st call answer st' log
      ∧ LedgerInv localeCompare (some call.now) st' := by
  obtain ⟨op, now, asks⟩ := call
  have hidle : Idle (st.context localeCompare ⟨op, now, asks⟩) st.ledger :=
    h.idle.of_context rfl rfl
  have hafter : ∀ {s : SupplyLedger}, Idle (st.context localeCompare ⟨op, now, asks⟩) s →
      (∀ row ∈ s.agreements, isDue now row = false) →
      LedgerInv localeCompare (some now) ⟨s, st.capacityFor⟩ := by
    intro s hs hgone
    refine ⟨hs.of_context rfl rfl, fun row hrow time htime => ?_⟩
    obtain rfl := Option.some.inj htime
    exact hgone row hrow
  have htold : ∀ (deadline : Nat), ∀ row ∈ liveAt st.ledger.agreements deadline,
      isDue deadline row = true → ∀ p ∈ [row.proposerId, row.targetId],
        p ∈ affectedParticipantIds (liveAt st.ledger.agreements deadline)
          (parties ((liveAt st.ledger.agreements deadline).filter (isDue deadline))) := by
    intro deadline row hrow hdue p hp
    exact mem_affectedParticipantIds _
      (List.mem_flatMap.mpr ⟨row, List.mem_filter.mpr ⟨hrow, hdue⟩, hp⟩)
  unfold runCall
  dsimp only
  cases op with
  | allocation =>
      obtain ⟨a, s₁, s₂, log, hrun, hadvances, hrows, hidle₂, hfresh⟩ := allocation_spec hidle now
      dsimp only
      rw [hrun]
      have hgone : ∀ row ∈ s₂.agreements, isDue now row = false := by
        intro row hrow
        rw [hrows, hadvances.agreements] at hrow
        exact unexpired_not_due hrow
      have htail : FreshTail (st.context localeCompare ⟨.allocation, now, asks⟩) s₁.agreements now
          [freshRead (st.context localeCompare ⟨.allocation, now, asks⟩) s₂.agreements now] := by
        rw [hrows]
        exact freshTail_read _ _ _
      refine ⟨_, _, _, rfl, ⟨hadvances.fresh hidle.stored htail, ?_, hadvances.deadlines h.ends htail, htold,
        hgone, fun heq => (nomatch heq), fun _ heq => (nomatch heq), hidle₂.stored.bounded,
        hidle₂.stored.boundedEach⟩, hafter hidle₂ hgone⟩
      intro a' heq
      obtain rfl := LedgerAnswer.allocation.inj heq
      exact hfresh
  | advanceTo =>
      obtain ⟨s₁, log, hrun, hadvances⟩ := advanceTo_spec hidle now
      dsimp only
      rw [hrun]
      have hgone : ∀ row ∈ s₁.agreements, isDue now row = false := by
        intro row hrow
        rw [hadvances.agreements] at hrow
        exact unexpired_not_due hrow
      have htail : FreshTail (st.context localeCompare ⟨.advanceTo, now, asks⟩) s₁.agreements now
          [] := fun event hevent => absurd hevent List.not_mem_nil
      refine ⟨.advanced, ⟨s₁, st.capacityFor⟩, log ++ [], by rw [List.append_nil], ⟨hadvances.fresh hidle.stored htail,
        fun _ heq => (nomatch heq), hadvances.deadlines h.ends htail, htold, hgone, fun heq => (nomatch heq),
        fun _ heq => (nomatch heq), hadvances.idle.stored.bounded,
        hadvances.idle.stored.boundedEach⟩, hafter hadvances.idle hgone⟩
  | add raw =>
      obtain ⟨result, s₁, s', log, tail, hrun, hadvances, htail, hidle', hresult⟩ :=
        add_spec hidle raw now
      dsimp only
      rw [hrun]
      have hgone : ∀ row ∈ s'.agreements, isDue now row = false := by
        intro row hrow
        rcases hresult with ⟨_, hrows⟩ | ⟨new, _, _, hrows, ⟨_, after, _, hrunAfter, hin, _⟩⟩
        · rw [hrows, hadvances.agreements] at hrow
          exact unexpired_not_due hrow
        · rw [hrows] at hrow
          rcases List.mem_append.mp hrow with hold | hlast
          · rw [hadvances.agreements] at hold
            exact unexpired_not_due hold
          · -- the new agreement is fulfilled now, so it is in force now
            obtain ⟨row', hrow', hactive, hid⟩ := fulfilled_active hrunAfter _ hin
            have hids := hidle'.stored.ids
            rw [hrows] at hids
            have hsame := List.inj_on_of_nodup_map hids hrow' (by simp) hid
            rw [List.mem_singleton.mp hlast, ← hsame]
            exact not_isDue_of_active hactive
      refine ⟨_, _, _, rfl, ⟨hadvances.fresh hidle.stored htail, fun _ heq => (nomatch heq),
        hadvances.deadlines h.ends htail, htold, hgone, ?_, ?_, hidle'.stored.bounded,
        hidle'.stored.boundedEach⟩, hafter hidle' hgone⟩
      · intro heq
        obtain rfl := LedgerAnswer.added.inj heq
        rcases hresult with ⟨⟨_, hno⟩, _⟩ | ⟨row, _, rfl, hrows, hkeeps⟩
        · cases hno
        · rw [hadvances.agreements] at hrows hkeeps
          exact ⟨row, rfl, hrows, hkeeps⟩
      · intro message heq
        obtain rfl := LedgerAnswer.added.inj heq
        rcases hresult with ⟨_, hrows⟩ | ⟨_, hno, _⟩
        · rw [← hadvances.agreements]
          exact hrows
        · cases hno
  | remove id =>
      obtain ⟨found, s₁, s', log, tail, hrun, hadvances, htail, hidle', _, hrows⟩ :=
        remove_spec hidle id now
      dsimp only
      rw [hrun]
      have hgone : ∀ row ∈ s'.agreements, isDue now row = false := by
        intro row hrow
        rw [hrows, hadvances.agreements] at hrow
        exact unexpired_not_due (List.mem_of_mem_filter hrow)
      exact ⟨_, _, _, rfl, ⟨hadvances.fresh hidle.stored htail, fun _ heq => (nomatch heq),
        hadvances.deadlines h.ends htail, htold, hgone, fun heq => (nomatch heq), fun _ heq => (nomatch heq),
        hidle'.stored.bounded, hidle'.stored.boundedEach⟩, hafter hidle' hgone⟩

/-- **Run lemma**: every run stays between calls. -/
theorem LedgerReachable.inv (h : LedgerReachable localeCompare last st) :
    LedgerInv localeCompare last st := by
  induction h with
  | restored capacityFor hrestored =>
      exact ⟨restore_idle hrestored _, fun row _ time htime => by cases htime⟩
  | recapacitated capacityFor _ ih =>
      exact ⟨⟨⟨cacheTrue_of_none rfl, ih.idle.stored, ih.idle.valuationTime⟩, ih.idle.advancing⟩,
        ih.ends⟩
  | @called last st st' call answer log _ _ hrun ih =>
      obtain ⟨answer', st'', log', hrun', _, hinv⟩ := runCall_spec ih call
      rw [hrun] at hrun'
      obtain ⟨rfl, rfl, rfl⟩ : answer = answer' ∧ st' = st'' ∧ log = log' := by
        simpa using Except.ok.inj hrun'
      exact hinv

/-- **Every call of every run is sound**: it ends, hands out fresh allocations
only, settles the due deadlines in order under the instant before each, and
keeps what is fulfilled and the bounds. -/
theorem ledger_calls_sound (h : LedgerReachable localeCompare last st) (call : LedgerCall) :
    ∃ answer st' log, runCall localeCompare st call = .ok (answer, st', log)
      ∧ CallSound localeCompare last st call answer st' log := by
  obtain ⟨answer, st', log, hrun, hsound, _⟩ := runCall_spec h.inv call
  exact ⟨answer, st', log, hrun, hsound⟩

end Calls

def foodUntilFive : ResourceSupplyAgreement :=
  { id := "food-until-five", proposerId := playerOne, targetId := playerTwo
    proposerGives := fun r => if r = .FOOD then some 1 else none
    targetGives := fun _ => none
    startedAt := 1, expiresAt := some 5 }

def restoredLedger : LedgerState :=
  ⟨{ SupplyLedger.empty with agreements := [foodUntilFive] }, wakingCapacity⟩

theorem restoredLedger_reachable : LedgerReachable compareText none restoredLedger :=
  @LedgerReachable.restored compareText [some foodUntilFive] _ wakingCapacity (by rfl)

theorem ledger_calls_sound_at_ten :
    ∃ answer st' log,
      runCall compareText restoredLedger ⟨.allocation, 10, fun _ _ => [3]⟩ = .ok (answer, st', log)
        ∧ CallSound compareText none restoredLedger ⟨.allocation, 10, fun _ _ => [3]⟩ answer st'
          log :=
  ledger_calls_sound restoredLedger_reachable _

/-- **A rejected agreement can still retire others**: whatever is due is gone
by the time the new one is looked at. -/
theorem rejected_add_retires_due :
    ¬ ∀ last st call message st' log, LedgerReachable compareText last st →
      runCall compareText st call = .ok (.added (.rejected message), st', log) →
      st'.ledger.agreements = st.ledger.agreements := by
  intro hsame
  have hrun : (match runCall compareText restoredLedger ⟨.add none, 10, fun _ _ => []⟩ with
    | .ok (.added (.rejected _), st', _) => st'.ledger.agreements.isEmpty
    | _ => false) = true := by decide +kernel
  split at hrun
  next message st' log hok =>
    have hkept := hsame none restoredLedger _ message st' log restoredLedger_reachable hok
    rw [hkept] at hrun
    cases hrun
  · cases hrun

end BorderEmpires.Trades
