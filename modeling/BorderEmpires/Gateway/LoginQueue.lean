/-
  BorderEmpires.Gateway.LoginQueue
  **LOGINS ADMITTED TO BOOTSTRAP.**

  A login attempt takes a slot when fewer than the cap are taken, waits in
  the queue otherwise, and is turned away when it comes too soon or the queue
  is full.  A release frees a slot and grants the first waiter, which takes
  the slot only when its await resumes; newcomers may have taken it by then.
-/
import BorderEmpires.World
import BorderEmpires.Lib.InsertionMap
import BorderEmpires.Lib.Run

namespace BorderEmpires.Gateway

/-! ## §1. The gate. -/

/-- The limits; the cap is at least one. -/
structure LoginGate where
  maxConcurrentBootstraps : Nat
  minBootstrapIntervalMs : ℤ
  maxLoginQueueSize : Nat
  one_le : 1 ≤ maxConcurrentBootstraps

structure LoginQueueEntry where
  attempt : Nat
  playerId : PlayerId
  bootstrapNowMs : ℤ

inductive RejectionReason where
  | rate | queue_full | queue_socket_closed
  deriving DecidableEq, Repr

/-- `arrivals` are the attempts that were ever queued, `resolved` the calls of
`resolve` that were not ignored, `granted` the granted waiters whose await has
not resumed, and `holding` the grants not yet released. -/
structure LoginState where
  nextAttempt : Nat
  bootstrapsInFlight : Nat
  lastBootstrapAtByPlayerId : InsertionMap PlayerId ℤ
  entries : List LoginQueueEntry
  granted : List LoginQueueEntry
  holding : List Nat
  arrivals : List Nat
  resolved : List (Nat × Bool)
  rejected : List (Nat × RejectionReason)

namespace LoginState

def initial : LoginState := ⟨0, 0, .empty, [], [], [], [], [], []⟩

def takeSlot (s : LoginState) (attempt : Nat) (playerId : PlayerId) (bootstrapNowMs : ℤ) :
    LoginState :=
  let last :=
    if s.lastBootstrapAtByPlayerId.entries.length > 5000 then .empty
    else s.lastBootstrapAtByPlayerId
  { s with
    lastBootstrapAtByPlayerId := last.set playerId bootstrapNowMs
    bootstrapsInFlight := s.bootstrapsInFlight + 1
    holding := s.holding ++ [attempt] }

def reject (s : LoginState) (attempt : Nat) (reason : RejectionReason) : LoginState :=
  { s with rejected := s.rejected ++ [(attempt, reason)] }

def enqueueAndWait (s : LoginState) (entry : LoginQueueEntry) : LoginState :=
  { s with
    entries := s.entries ++ [entry]
    arrivals := s.arrivals ++ [entry.attempt] }

def admitBootstrap (gate : LoginGate) (s : LoginState) (playerId : PlayerId)
    (bootstrapNowMs : ℤ) : LoginState :=
  let attempt := s.nextAttempt
  let s := { s with nextAttempt := s.nextAttempt + 1 }
  let lastBootstrapAtMs := (s.lastBootstrapAtByPlayerId.get playerId).getD 0
  if bootstrapNowMs - lastBootstrapAtMs < gate.minBootstrapIntervalMs then s.reject attempt .rate
  else if gate.maxConcurrentBootstraps ≤ s.bootstrapsInFlight then
    if gate.maxLoginQueueSize ≤ s.entries.length then s.reject attempt .queue_full
    else s.enqueueAndWait ⟨attempt, playerId, bootstrapNowMs⟩
  else s.takeSlot attempt playerId bootstrapNowMs

/-- The first waiter is granted, if there is one and a slot is free. -/
def drain (gate : LoginGate) (s : LoginState) : LoginState :=
  if gate.maxConcurrentBootstraps ≤ s.bootstrapsInFlight then s
  else
    match s.entries with
    | [] => s
    | next :: rest =>
        { s with
          entries := rest
          granted := s.granted ++ [next]
          resolved := s.resolved ++ [(next.attempt, true)] }

/-- The socket of a waiter closes; a promise that is resolved stays so. -/
def closeSocket (s : LoginState) (attempt : Nat) : LoginState :=
  if attempt ∈ s.arrivals then
    let s := { s with entries := s.entries.filter (fun entry => entry.attempt ≠ attempt) }
    if attempt ∈ s.resolved.map Prod.fst then s
    else
      { s with
        resolved := s.resolved ++ [(attempt, false)]
        rejected := s.rejected ++ [(attempt, .queue_socket_closed)] }
  else s

def resume (s : LoginState) (attempt : Nat) : LoginState :=
  match s.granted.find? (fun entry => entry.attempt = attempt) with
  | none => s
  | some entry =>
      { s with granted := s.granted.eraseP (fun entry => entry.attempt = attempt) }.takeSlot
        entry.attempt entry.playerId entry.bootstrapNowMs

/-- A grant is released, once. -/
def release (gate : LoginGate) (s : LoginState) (attempt : Nat) : LoginState :=
  if attempt ∈ s.holding then
    { s with
      holding := s.holding.erase attempt
      bootstrapsInFlight := s.bootstrapsInFlight - 1 }.drain gate
  else s

end LoginState

inductive LoginStep where
  | attempt (playerId : PlayerId) (nowMs : ℤ)
  | close (attempt : Nat)
  | resume (attempt : Nat)
  | release (attempt : Nat)

def loginStep (gate : LoginGate) (s : LoginState) : LoginStep → LoginState
  | .attempt playerId nowMs => s.admitBootstrap gate playerId nowMs
  | .close attempt => s.closeSocket attempt
  | .resume attempt => s.resume attempt
  | .release attempt => s.release gate attempt

/-! ## §2. What is wanted. -/

namespace LoginState

/-- The waiters that were granted, in order. -/
def grants (s : LoginState) : List Nat := (s.resolved.filter (·.2)).map Prod.fst

def Waiting (s : LoginState) (attempt : Nat) : Prop :=
  attempt ∈ s.entries.map LoginQueueEntry.attempt

/-- **Waiters are granted in arrival order**, and none while an earlier one
waits. -/
def InArrivalOrder (s : LoginState) : Prop :=
  s.grants.Sublist s.arrivals
    ∧ s.arrivals.Pairwise (fun earlier later => later ∈ s.grants → ¬ s.Waiting earlier)

end LoginState

/-- **Sound admission.** -/
structure AdmissionSound (gate : LoginGate) (s : LoginState) : Prop where
  capped : s.bootstrapsInFlight ≤ gate.maxConcurrentBootstraps
  resolvedOnce : (s.resolved.map Prod.fst).Nodup
  ordered : s.InArrivalOrder
  noneLeft : s.bootstrapsInFlight = 0 → s.granted = [] → s.entries = []

def ResumesIntoSlot (gate : LoginGate) (s : LoginState) : LoginStep → Prop
  | .resume attempt => attempt ∈ s.granted.map LoginQueueEntry.attempt →
      s.bootstrapsInFlight < gate.maxConcurrentBootstraps
  | _ => True

/-! ## §3. The books. -/

def LoginState.resolvedIds (s : LoginState) : List Nat := s.resolved.map Prod.fst

structure QueueBooks (s : LoginState) : Prop where
  counted : s.bootstrapsInFlight = s.holding.length
  fresh : ∀ attempt ∈ s.arrivals, attempt < s.nextAttempt
  arrivedOnce : s.arrivals.Nodup
  queued : s.entries.map LoginQueueEntry.attempt
    = s.arrivals.filter (fun attempt => attempt ∉ s.resolvedIds)
  resolvedOnce : s.resolvedIds.Nodup
  arrived : ∀ attempt ∈ s.resolvedIds, attempt ∈ s.arrivals
  grantsOrdered : s.grants = s.arrivals.filter (fun attempt => attempt ∈ s.grants)
  firstServed : s.arrivals.Pairwise
    (fun earlier later => later ∈ s.grants → earlier ∈ s.resolvedIds)

/-- Somebody will wake the queue. -/
def Woken (s : LoginState) : Prop := s.entries ≠ [] → s.holding ≠ [] ∨ s.granted ≠ []

section Steps

variable {gate : LoginGate} {s : LoginState}

theorem mem_resolvedIds_of_grants {attempt : Nat} (h : attempt ∈ s.grants) :
    attempt ∈ s.resolvedIds := by
  obtain ⟨call, hcall, rfl⟩ := List.mem_map.mp h
  exact List.mem_map_of_mem (List.mem_filter.mp hcall).1

theorem QueueBooks.takeSlot (h : QueueBooks s) (attempt : Nat) (playerId : PlayerId) (now : ℤ) :
    QueueBooks (s.takeSlot attempt playerId now) := by
  refine { h with counted := ?_ }
  show s.bootstrapsInFlight + 1 = (s.holding ++ [attempt]).length
  rw [h.counted]
  simp

theorem QueueBooks.enqueueAndWait (h : QueueBooks s) (playerId : PlayerId) (now : ℤ) :
    QueueBooks ({ s with nextAttempt := s.nextAttempt + 1 }.enqueueAndWait
      ⟨s.nextAttempt, playerId, now⟩) := by
  have hnew : s.nextAttempt ∉ s.arrivals := fun hmem => absurd (h.fresh _ hmem) (by omega)
  have hunresolved : s.nextAttempt ∉ s.resolvedIds := fun hmem => hnew (h.arrived _ hmem)
  have hungranted : s.nextAttempt ∉ s.grants :=
    fun hmem => hunresolved (mem_resolvedIds_of_grants hmem)
  refine
    { counted := h.counted
      fresh := ?_
      arrivedOnce := ?_
      queued := ?_
      resolvedOnce := h.resolvedOnce
      arrived := fun attempt hmem => List.mem_append_left _ (h.arrived attempt hmem)
      grantsOrdered := ?_
      firstServed := ?_ }
  · intro attempt hmem
    show attempt < s.nextAttempt + 1
    rcases List.mem_append.mp hmem with hold | hlast
    · have := h.fresh attempt hold
      omega
    · rw [List.mem_singleton.mp hlast]
      show s.nextAttempt < s.nextAttempt + 1
      omega
  · show (s.arrivals ++ [s.nextAttempt]).Nodup
    rw [List.nodup_append]
    refine ⟨h.arrivedOnce, List.nodup_singleton _, fun a ha b hb hab => hnew ?_⟩
    rw [← List.mem_singleton.mp hb, ← hab]
    exact ha
  · show (s.entries ++ [_]).map LoginQueueEntry.attempt
      = (s.arrivals ++ [s.nextAttempt]).filter (fun attempt => attempt ∉ s.resolvedIds)
    rw [List.map_append, h.queued, List.filter_append]
    simp [hunresolved]
  · show s.grants = (s.arrivals ++ [s.nextAttempt]).filter (fun attempt => attempt ∈ s.grants)
    rw [List.filter_append, ← h.grantsOrdered]
    simp [hungranted]
  · show (s.arrivals ++ [s.nextAttempt]).Pairwise
      (fun earlier later => later ∈ s.grants → earlier ∈ s.resolvedIds)
    rw [List.pairwise_append]
    refine ⟨h.firstServed, List.pairwise_singleton _ _, fun earlier _ later hlater hgrant => ?_⟩
    -- the newcomer is not granted
    rw [List.mem_singleton.mp hlater] at hgrant
    exact absurd hgrant hungranted

theorem QueueBooks.reject (h : QueueBooks s) (attempt : Nat) (reason : RejectionReason) :
    QueueBooks (s.reject attempt reason) := { h with }

theorem QueueBooks.number (h : QueueBooks s) :
    QueueBooks { s with nextAttempt := s.nextAttempt + 1 } :=
  { h with fresh := fun attempt hmem => Nat.lt_succ_of_lt (h.fresh attempt hmem) }

/-- **A grant** goes to the waiter that arrived first. -/
theorem QueueBooks.grant (h : QueueBooks s) {next : LoginQueueEntry}
    {rest : List LoginQueueEntry} (hentries : s.entries = next :: rest) :
    QueueBooks { s with
      entries := rest
      granted := s.granted ++ [next]
      resolved := s.resolved ++ [(next.attempt, true)] } := by
  have hqueued := h.queued
  rw [hentries, List.map_cons] at hqueued
  obtain ⟨before, after, harrivals, hbefore, hnext, hafter⟩ :=
    List.filter_eq_cons_iff.mp hqueued.symm
  have hunresolved : next.attempt ∉ s.resolvedIds := of_decide_eq_true hnext
  have hungranted : next.attempt ∉ s.grants :=
    fun hmem => hunresolved (mem_resolvedIds_of_grants hmem)
  have hserved : ∀ attempt ∈ before, attempt ∈ s.resolvedIds := by
    intro attempt hmem
    have := hbefore attempt hmem
    simpa using this
  have hnodup := h.arrivedOnce
  rw [harrivals, List.nodup_append, List.nodup_cons] at hnodup
  obtain ⟨_, ⟨hnotAfter, _⟩, hdisjoint⟩ := hnodup
  have hnotBefore : next.attempt ∉ before := fun hmem => hdisjoint _ hmem _ List.mem_cons_self rfl
  have hfirst := h.firstServed
  rw [harrivals, List.pairwise_append, List.pairwise_cons] at hfirst
  have hnone : ∀ attempt ∈ after, attempt ∉ s.grants :=
    fun attempt hmem hgrant => hunresolved (hfirst.2.1.1 attempt hmem hgrant)
  have hids : ({ s with
      entries := rest
      granted := s.granted ++ [next]
      resolved := s.resolved ++ [(next.attempt, true)] } : LoginState).resolvedIds
      = s.resolvedIds ++ [next.attempt] := List.map_append
  have hgrants : ({ s with
      entries := rest
      granted := s.granted ++ [next]
      resolved := s.resolved ++ [(next.attempt, true)] } : LoginState).grants
      = s.grants ++ [next.attempt] := by
    show ((s.resolved ++ [(next.attempt, true)]).filter (·.2)).map Prod.fst = _
    rw [List.filter_append, List.map_append]
    rfl
  refine
    { counted := h.counted
      fresh := h.fresh
      arrivedOnce := h.arrivedOnce
      queued := ?_
      resolvedOnce := ?_
      arrived := ?_
      grantsOrdered := ?_
      firstServed := ?_ }
  · rw [hids]
    show rest.map LoginQueueEntry.attempt = s.arrivals.filter _
    rw [harrivals, ← hafter, List.filter_append, List.filter_cons]
    have hgone : before.filter (fun attempt => attempt ∉ s.resolvedIds ++ [next.attempt]) = [] := by
      rw [List.filter_eq_nil_iff]
      intro attempt hmem
      simp [hserved attempt hmem]
    have hsame : after.filter (fun attempt => attempt ∉ s.resolvedIds ++ [next.attempt])
        = after.filter (fun attempt => attempt ∉ s.resolvedIds) := by
      refine List.filter_congr (fun attempt hmem => ?_)
      have hne : attempt ≠ next.attempt := fun heq => hnotAfter (heq ▸ hmem)
      simp [hne]
    rw [hgone, hsame]
    simp
  · rw [hids, List.nodup_append]
    refine ⟨h.resolvedOnce, List.nodup_singleton _, fun a ha b hb hab => hunresolved ?_⟩
    rw [← List.mem_singleton.mp hb, ← hab]
    exact ha
  · rw [hids]
    intro attempt hmem
    rcases List.mem_append.mp hmem with hold | hlast
    · exact h.arrived attempt hold
    · rw [List.mem_singleton.mp hlast]
      show next.attempt ∈ s.arrivals
      rw [harrivals]
      simp
  · rw [hgrants]
    show s.grants ++ [next.attempt] = s.arrivals.filter _
    have hold := h.grantsOrdered
    rw [harrivals, List.filter_append, List.filter_cons] at hold
    have hlate : after.filter (fun attempt => attempt ∈ s.grants) = [] := by
      rw [List.filter_eq_nil_iff]
      intro attempt hmem
      simp [hnone attempt hmem]
    have hlate' : after.filter (fun attempt => attempt ∈ s.grants ++ [next.attempt]) = [] := by
      rw [List.filter_eq_nil_iff]
      intro attempt hmem
      have hne : attempt ≠ next.attempt := fun heq => hnotAfter (heq ▸ hmem)
      simp [hnone attempt hmem, hne]
    have hearly : before.filter (fun attempt => attempt ∈ s.grants ++ [next.attempt])
        = before.filter (fun attempt => attempt ∈ s.grants) := by
      refine List.filter_congr (fun attempt hmem => ?_)
      have hne : attempt ≠ next.attempt := fun heq => hnotBefore (heq ▸ hmem)
      simp [hne]
    rw [hlate] at hold
    simp only [hungranted, decide_false, Bool.false_eq_true, if_false, List.append_nil] at hold
    rw [harrivals, List.filter_append, List.filter_cons, hearly, hlate', ← hold]
    simp
  · rw [hids, hgrants]
    show s.arrivals.Pairwise _
    -- whoever came before the waiter that is granted now has left the queue
    have hturn : s.arrivals.Pairwise
        (fun earlier later => later = next.attempt → earlier ∈ s.resolvedIds) := by
      rw [harrivals, List.pairwise_append, List.pairwise_cons]
      refine ⟨?_, ⟨?_, ?_⟩, fun earlier hearlier _ _ _ => hserved earlier hearlier⟩
      · exact List.pairwise_of_forall_mem_list
          (fun earlier hearlier _ _ _ => hserved earlier hearlier)
      · exact fun later hlater heq => absurd (heq ▸ hlater) hnotAfter
      · exact List.pairwise_of_forall_mem_list
          (fun _ _ later hlater heq => absurd (heq ▸ hlater) hnotAfter)
    refine (h.firstServed.and hturn).imp ?_
    rintro earlier later ⟨hold, hnow⟩ hgrant
    rcases List.mem_append.mp hgrant with hbefore | hlast
    · exact List.mem_append_left _ (hold hbefore)
    · exact List.mem_append_left _ (hnow (List.mem_singleton.mp hlast))

theorem QueueBooks.drain (h : QueueBooks s) : QueueBooks (s.drain gate) := by
  unfold LoginState.drain
  split
  · exact h
  · split
    · exact h
    next next rest hentries => exact h.grant hentries

theorem woken_drain (h : QueueBooks s) : Woken (s.drain gate) := by
  unfold LoginState.drain
  split
  next hfull =>
    refine fun _ => Or.inl (fun hnone => ?_)
    have hcount := h.counted
    have hcap := gate.one_le
    rw [hnone, List.length_nil] at hcount
    omega
  · split
    next hempty => exact fun hne => absurd hempty hne
    · refine fun _ => Or.inr ?_
      show s.granted ++ [_] ≠ []
      simp

/-- **A socket closes.** -/
theorem QueueBooks.closeSocket (h : QueueBooks s) (attempt : Nat) :
    QueueBooks (s.closeSocket attempt) := by
  unfold LoginState.closeSocket
  split
  next harrived =>
    have hleft : (s.entries.filter (fun entry => entry.attempt ≠ attempt)).map
        LoginQueueEntry.attempt
        = (s.arrivals.filter (fun a => a ∉ s.resolvedIds)).filter (fun a => a ≠ attempt) := by
      rw [← h.queued, List.filter_map]
      rfl
    dsimp only
    split
    next hresolved =>
      refine { h with queued := ?_ }
      show (s.entries.filter (fun entry => entry.attempt ≠ attempt)).map LoginQueueEntry.attempt
        = s.arrivals.filter (fun a => a ∉ s.resolvedIds)
      rw [hleft, List.filter_eq_self]
      intro a ha
      have hunresolved : a ∉ s.resolvedIds := of_decide_eq_true (List.mem_filter.mp ha).2
      refine decide_eq_true (fun heq => hunresolved ?_)
      rw [heq]
      exact hresolved
    next hunresolved =>
      have hids : (s.resolved ++ [(attempt, false)]).map Prod.fst = s.resolvedIds ++ [attempt] :=
        List.map_append
      have hgrants : ((s.resolved ++ [(attempt, false)]).filter (·.2)).map Prod.fst
          = s.grants := by
        rw [List.filter_append, List.map_append]
        exact List.append_nil _
      refine
        { counted := h.counted
          fresh := h.fresh
          arrivedOnce := h.arrivedOnce
          queued := ?_
          resolvedOnce := ?_
          arrived := ?_
          grantsOrdered := ?_
          firstServed := ?_ }
      · show (s.entries.filter (fun entry => entry.attempt ≠ attempt)).map LoginQueueEntry.attempt
          = s.arrivals.filter (fun a => a ∉ (s.resolved ++ [(attempt, false)]).map Prod.fst)
        rw [hleft, hids, List.filter_filter]
        refine List.filter_congr (fun a _ => ?_)
        simp [and_comm]
      · show ((s.resolved ++ [(attempt, false)]).map Prod.fst).Nodup
        rw [hids, List.nodup_append]
        refine ⟨h.resolvedOnce, List.nodup_singleton _, fun a ha b hb hab => hunresolved ?_⟩
        rw [← List.mem_singleton.mp hb, ← hab]
        exact ha
      · show ∀ a ∈ (s.resolved ++ [(attempt, false)]).map Prod.fst, a ∈ s.arrivals
        rw [hids]
        intro a hmem
        rcases List.mem_append.mp hmem with hold | hlast
        · exact h.arrived a hold
        · rw [List.mem_singleton.mp hlast]
          exact harrived
      · show ((s.resolved ++ [(attempt, false)]).filter (·.2)).map Prod.fst
          = s.arrivals.filter (fun a => a ∈
            ((s.resolved ++ [(attempt, false)]).filter (·.2)).map Prod.fst)
        rw [hgrants]
        exact h.grantsOrdered
      · show s.arrivals.Pairwise (fun earlier later =>
          later ∈ ((s.resolved ++ [(attempt, false)]).filter (·.2)).map Prod.fst →
            earlier ∈ (s.resolved ++ [(attempt, false)]).map Prod.fst)
        rw [hgrants, hids]
        exact h.firstServed.imp (fun hold hgrant => List.mem_append_left _ (hold hgrant))
  · exact h

theorem closeSocket_fields (s : LoginState) (attempt : Nat) :
    (s.closeSocket attempt).holding = s.holding ∧ (s.closeSocket attempt).granted = s.granted
      ∧ (s.closeSocket attempt).bootstrapsInFlight = s.bootstrapsInFlight
      ∧ (s.closeSocket attempt).entries ⊆ s.entries := by
  unfold LoginState.closeSocket
  split
  · dsimp only
    split
    · exact ⟨rfl, rfl, rfl, fun _ hmem => (List.mem_filter.mp hmem).1⟩
    · exact ⟨rfl, rfl, rfl, fun _ hmem => (List.mem_filter.mp hmem).1⟩
  · exact ⟨rfl, rfl, rfl, fun _ hmem => hmem⟩

structure LoginBooks (s : LoginState) : Prop where
  queue : QueueBooks s
  woken : Woken s

/-- **The step lemma.** -/
theorem books_step (h : LoginBooks s) (l : LoginStep) : LoginBooks (loginStep gate s l) := by
  cases l with
  | attempt playerId nowMs =>
      show LoginBooks (s.admitBootstrap gate playerId nowMs)
      unfold LoginState.admitBootstrap
      dsimp only
      split
      · exact ⟨h.queue.number.reject _ _, h.woken⟩
      split
      next hfull =>
        split
        · exact ⟨h.queue.number.reject _ _, h.woken⟩
        refine ⟨h.queue.enqueueAndWait playerId nowMs, fun _ => Or.inl (fun hnone => ?_)⟩
        -- the slots are taken, and there is at least one
        have hcount := h.queue.counted
        have hcap := gate.one_le
        have hnone' : s.holding = [] := hnone
        rw [hnone', List.length_nil] at hcount
        omega
      · refine ⟨h.queue.number.takeSlot _ _ _, fun _ => Or.inl ?_⟩
        show s.holding ++ [_] ≠ []
        simp
  | close attempt =>
      obtain ⟨hholding, hgranted, _, hentries⟩ := closeSocket_fields s attempt
      refine ⟨h.queue.closeSocket attempt, fun hne => ?_⟩
      show (s.closeSocket attempt).holding ≠ [] ∨ (s.closeSocket attempt).granted ≠ []
      rw [hholding, hgranted]
      refine h.woken (fun hempty => hne ?_)
      have hnil := hentries
      rw [hempty] at hnil
      exact List.eq_nil_of_subset_nil hnil
  | resume attempt =>
      show LoginBooks (s.resume attempt)
      unfold LoginState.resume
      split
      · exact h
      have hqueue : QueueBooks
          { s with granted := s.granted.eraseP (fun entry => entry.attempt = attempt) } :=
        { h.queue with }
      refine ⟨hqueue.takeSlot _ _ _, fun _ => Or.inl ?_⟩
      show s.holding ++ [_] ≠ []
      simp
  | release attempt =>
      show LoginBooks (s.release gate attempt)
      unfold LoginState.release
      split
      next hholds =>
        have hreleased : QueueBooks { s with
            holding := s.holding.erase attempt
            bootstrapsInFlight := s.bootstrapsInFlight - 1 } := by
          refine { h.queue with counted := ?_ }
          show s.bootstrapsInFlight - 1 = (s.holding.erase attempt).length
          rw [List.length_erase_of_mem hholds, h.queue.counted]
        exact ⟨hreleased.drain, woken_drain hreleased⟩
      · exact h

end Steps

/-! ## §4. Every run. -/

theorem books_initial : LoginBooks LoginState.initial :=
  ⟨{ counted := rfl
     fresh := fun _ hmem => absurd hmem List.not_mem_nil
     arrivedOnce := List.nodup_nil
     queued := rfl
     resolvedOnce := List.nodup_nil
     arrived := fun _ hmem => absurd hmem List.not_mem_nil
     grantsOrdered := rfl
     firstServed := List.Pairwise.nil }, fun hne => absurd rfl hne⟩

theorem sound_iff_capped {gate : LoginGate} {s : LoginState} (h : LoginBooks s) :
    AdmissionSound gate s ↔ s.bootstrapsInFlight ≤ gate.maxConcurrentBootstraps := by
  refine ⟨fun hsound => hsound.capped, fun hcapped => ⟨hcapped, h.queue.resolvedOnce, ⟨?_, ?_⟩, ?_⟩⟩
  · rw [h.queue.grantsOrdered]
    exact List.filter_sublist
  · refine h.queue.firstServed.imp (fun hserved hgrant hwaiting => ?_)
    unfold LoginState.Waiting at hwaiting
    rw [h.queue.queued, List.mem_filter] at hwaiting
    exact of_decide_eq_true hwaiting.2 (hserved hgrant)
  · intro hidle hnone
    by_contra hne
    rcases h.woken hne with hholding | hgranted
    · have hcount := h.queue.counted
      rw [hidle] at hcount
      exact hholding (List.length_eq_zero_iff.mp hcount.symm)
    · exact hgranted hnone

theorem drain_bootstrapsInFlight (gate : LoginGate) (s : LoginState) :
    (s.drain gate).bootstrapsInFlight = s.bootstrapsInFlight := by
  unfold LoginState.drain
  split
  · rfl
  · split <;> rfl

/-- **One step** keeps the cap exactly when it lets no waiter resume without a
slot. -/
theorem capped_step_iff {gate : LoginGate} {s : LoginState}
    (hcapped : s.bootstrapsInFlight ≤ gate.maxConcurrentBootstraps) (l : LoginStep) :
    (loginStep gate s l).bootstrapsInFlight ≤ gate.maxConcurrentBootstraps
      ↔ ResumesIntoSlot gate s l := by
  cases l with
  | attempt playerId nowMs =>
      refine ⟨fun _ => trivial, fun _ => ?_⟩
      show (s.admitBootstrap gate playerId nowMs).bootstrapsInFlight ≤ _
      unfold LoginState.admitBootstrap
      dsimp only
      split
      · exact hcapped
      split
      · split
        · exact hcapped
        · exact hcapped
      next hfree =>
        show s.bootstrapsInFlight + 1 ≤ _
        omega
  | close attempt =>
      refine ⟨fun _ => trivial, fun _ => ?_⟩
      show (s.closeSocket attempt).bootstrapsInFlight ≤ _
      rw [(closeSocket_fields s attempt).2.2.1]
      exact hcapped
  | resume attempt =>
      show (s.resume attempt).bootstrapsInFlight ≤ _ ↔ _
      unfold LoginState.resume ResumesIntoSlot
      split
      next hnone =>
        refine ⟨fun _ hmem => ?_, fun _ => hcapped⟩
        obtain ⟨entry, hentry, hattempt⟩ := List.mem_map.mp hmem
        exact absurd (decide_eq_true hattempt) (List.find?_eq_none.mp hnone entry hentry)
      next entry hfound =>
        show s.bootstrapsInFlight + 1 ≤ _ ↔ _
        have hentry : entry.attempt = attempt := by simpa using List.find?_some hfound
        have hmem : attempt ∈ s.granted.map LoginQueueEntry.attempt :=
          hentry ▸ List.mem_map_of_mem (List.mem_of_find?_eq_some hfound)
        exact ⟨fun hnext _ => hnext, fun hslot => hslot hmem⟩
  | release attempt =>
      refine ⟨fun _ => trivial, fun _ => ?_⟩
      show (s.release gate attempt).bootstrapsInFlight ≤ _
      unfold LoginState.release
      split
      · rw [drain_bootstrapsInFlight]
        show s.bootstrapsInFlight - 1 ≤ _
        omega
      · exact hcapped

/-- **When admission is sound**: in every state of a run the cap is kept, every
waiter is resolved once and granted in its turn, and none is left behind,
exactly when every granted waiter of the run resumes into a free slot. -/
theorem admission_sound_iff (gate : LoginGate) (steps : List LoginStep) :
    Run.Along (loginStep gate) (AdmissionSound gate) LoginState.initial steps
      ↔ Run.StepsMeet (loginStep gate) (ResumesIntoSlot gate) LoginState.initial steps := by
  refine Run.along_iff_stepsMeet (I := LoginBooks) (fun s l h _ _ => books_step h l)
    (fun s l h hsound => ?_) steps
    LoginState.initial books_initial ((sound_iff_capped books_initial).mpr (Nat.zero_le _))
  rw [sound_iff_capped (books_step h l)]
  exact capped_step_iff hsound.capped l

/-- **Waiters are served in their turn in every run**, one over the cap too:
the counter is the number of bootstraps held, a waiter is resolved once and
granted in its turn, and while any waits a release or a resumption is due. -/
theorem waiters_served_along (gate : LoginGate) (steps : List LoginStep) :
    Run.Along (loginStep gate) (fun s => s.bootstrapsInFlight = s.holding.length
      ∧ (s.resolved.map Prod.fst).Nodup ∧ s.InArrivalOrder
      ∧ (s.entries ≠ [] → s.holding ≠ [] ∨ s.granted ≠ [])) LoginState.initial steps := by
  have hbooks : Run.Along (loginStep gate) LoginBooks LoginState.initial steps :=
    Run.along_of_step (fun _ l h => books_step h l) steps _ books_initial
  refine hbooks.mono (fun s h => ⟨h.queue.counted, h.queue.resolvedOnce, ?_, h.woken⟩)
  -- a gate wide enough for the state has nothing to say about its cap
  have hwide : AdmissionSound ⟨s.bootstrapsInFlight + 1, 0, 0, by omega⟩ s :=
    (sound_iff_capped h).mpr (Nat.le_succ _)
  exact hwide.ordered

/-! ## §5. A newcomer in the gap. -/

/-- One slot, and nobody comes too soon. -/
def narrowGate : LoginGate := ⟨1, 0, 50, le_rfl⟩

/-- The slot is taken, a second login waits and is granted when the slot is
released; a newcomer takes it before the waiter resumes. -/
def newcomerInGap : List LoginStep :=
  [.attempt playerOne 0, .attempt playerTwo 0, .release 0, .attempt playerOne 1, .resume 1]

theorem newcomer_exceeds_cap :
    ¬ Run.Along (loginStep narrowGate) (AdmissionSound narrowGate) LoginState.initial
      newcomerInGap := by
  rintro ⟨_, _, _, _, _, hlast⟩
  have hcapped := hlast.capped
  exact absurd hcapped (by decide)

end BorderEmpires.Gateway
