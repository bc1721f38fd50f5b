/-
  BorderEmpires.Persistence.WriterChannel
  **THE CHANNEL TO THE SQLITE WRITER THREAD.**

  `SqliteWriterChannel` numbers the messages it posts, keeps one entry per
  message until the worker acknowledges it, and lets callers wait while
  the table of entries is full.  An event here is one `post` call, one
  acknowledgement, or the worker's error or exit; the continuation of a
  released waiter runs within the acknowledgement that released it.

  `post` records its entry before `postMessage` is called.  Where that call
  throws, the entry stays: nobody will acknowledge a message that was never
  handed over, and its slot is lost until the worker dies.
-/
import BorderEmpires.Lib.InsertionMap
import BorderEmpires.Lib.Run
import Mathlib.Algebra.Order.Ring.Nat
import Mathlib.Data.List.Pairwise

universe u

namespace BorderEmpires.WriterChannel

/-! ## §1. The channel. -/

/-- An `Error` object, by its message. -/
structure WriterError where
  message : String
  deriving DecidableEq

/-- How the promise of a `post` call settles. -/
inductive Outcome where
  | resolved
  | rejected (err : WriterError)
  deriving DecidableEq

/-- A message in the hands of the worker: its id, the number of the `post`
call it came from, and the message. -/
structure Handed (M : Type u) where
  id : ℕ
  call : ℕ
  msg : M

def Handed.row {M : Type u} (h : Handed M) : ℕ × M := (h.call, h.msg)

/-- The fields of the channel, with promises named by the number of their
`post` call, and below them what has happened so far. -/
structure Channel (M : Type u) where
  nextId : ℕ
  pending : InsertionMap ℕ ℕ
  drainWaiters : List (ℕ × M)
  fatalError : Option WriterError
  /-- The messages of all `post` calls, first call first. -/
  posted : List M
  /-- What `postMessage` took, in that order. -/
  handed : List (Handed M)
  settled : List (ℕ × Outcome)
  /-- How many messages had been handed over when the worker died. -/
  handedAtDeath : Option ℕ

variable {M : Type u}

def fresh : Channel M where
  nextId := 0
  pending := .empty
  drainWaiters := []
  fatalError := none
  posted := []
  handed := []
  settled := []
  handedAtDeath := none

def DEFAULT_MAX_PENDING : ℕ := 500

/-- `Math.max(1, options.maxPending ?? DEFAULT_MAX_PENDING)`. -/
def maxPending (option : Option ℕ) : ℕ := max 1 (option.getD DEFAULT_MAX_PENDING)

/-- A promise settles once: later calls of `resolve` and `reject` do nothing. -/
def settle (call : ℕ) (outcome : Outcome) (settled : List (ℕ × Outcome)) : List (ℕ × Outcome) :=
  if call ∈ settled.map Prod.fst then settled else settled ++ [(call, outcome)]

/-- `for (const entry of …) entry.reject(err)`. -/
def rejectAll (calls : List ℕ) (err : WriterError) (settled : List (ℕ × Outcome)) :
    List (ℕ × Outcome) :=
  calls.foldl (fun done call => settle call (.rejected err) done) settled

/-- The second half of `post`: from `const id = this.nextId++` on.  `throws`
is what `postMessage` (or `trackSync` around it) throws. -/
def send (s : Channel M) (call : ℕ) (msg : M) (throws : Option WriterError) : Channel M :=
  let recorded : Channel M :=
    { s with
      nextId := s.nextId + 1
      pending := s.pending.set s.nextId call }
  match throws with
  | none => { recorded with handed := s.handed ++ [⟨s.nextId, call, msg⟩] }
  | some err => { recorded with settled := settle call (.rejected err) s.settled }

/-- `post`, up to the `await` of a call that has to wait. -/
def post (limit : ℕ) (s : Channel M) (msg : M) (throws : Option WriterError) : Channel M :=
  let call := s.posted.length
  let called : Channel M := { s with posted := s.posted ++ [msg] }
  match s.fatalError with
  | some err => { called with settled := settle call (.rejected err) s.settled }
  | none =>
      if limit ≤ s.pending.size then
        { called with drainWaiters := s.drainWaiters ++ [(call, msg)] }
      else
        send called call msg throws

/-- `releaseDrainWaiterIfRoom`, with the continuation of the waiter it
resolves. -/
def releaseDrainWaiterIfRoom (limit : ℕ) (s : Channel M) (throws : Option WriterError) :
    Channel M :=
  match s.drainWaiters with
  | [] => s
  | waiter :: rest =>
      if limit ≤ s.pending.size then s
      else send { s with drainWaiters := rest } waiter.1 waiter.2 throws

/-- `AckMessage`. -/
structure AckMessage where
  id : ℕ
  /-- `none` for `ok: true`. -/
  error : Option String

def AckMessage.outcome (ack : AckMessage) : Outcome :=
  match ack.error with
  | none => .resolved
  | some text => .rejected ⟨text⟩

/-- The entry of an acknowledgement is deleted and its promise settles. -/
def acked (s : Channel M) (ack : AckMessage) (call : ℕ) : Channel M :=
  { s with
    pending := s.pending.erase ack.id
    settled := settle call ack.outcome s.settled }

/-- `worker.on("message")`. -/
def onMessage (limit : ℕ) (s : Channel M) (ack : AckMessage) (throws : Option WriterError) :
    Channel M :=
  match s.pending.get ack.id with
  | none => s
  | some call => releaseDrainWaiterIfRoom limit (acked s ack call) throws

/-- What both death handlers do: reject every entry and every waiter. -/
def die (s : Channel M) (fatal err : WriterError) : Channel M :=
  { s with
    pending := .empty
    drainWaiters := []
    fatalError := some fatal
    settled := rejectAll (s.pending.values ++ s.drainWaiters.map Prod.fst) err s.settled
    handedAtDeath := some (s.handedAtDeath.getD s.handed.length) }

/-- `worker.on("error")`. -/
def onError (s : Channel M) (err : WriterError) : Channel M := die s err err

def exitError (code : ℤ) : WriterError :=
  ⟨s!"sqlite-writer-worker exited unexpectedly (code {code})"⟩

/-- `worker.on("exit")`: an earlier error is kept in `fatalError`. -/
def onExit (s : Channel M) (code : ℤ) : Channel M :=
  die s (s.fatalError.getD (exitError code)) (exitError code)

/-- What can happen to a channel.  `throws` is for the one `postMessage` that
the event may lead to. -/
inductive ChannelEvent (M : Type u) where
  | post (msg : M) (throws : Option WriterError)
  | message (ack : AckMessage) (throws : Option WriterError)
  | error (err : WriterError)
  | exit (code : ℤ)

def step (limit : ℕ) (s : Channel M) : ChannelEvent M → Channel M
  | .post msg throws => post limit s msg throws
  | .message ack throws => onMessage limit s ack throws
  | .error err => onError s err
  | .exit code => onExit s code

/-! ## §2. What the channel should keep. -/

/-- The messages that have reached the worker, then those that wait. -/
def line (s : Channel M) : List (ℕ × M) := s.handed.map Handed.row ++ s.drainWaiters

def Settled (s : Channel M) (call : ℕ) : Prop := call ∈ s.settled.map Prod.fst

/-- **Bound, order, waiting and death.** -/
structure Orderly (limit : ℕ) (s : Channel M) : Prop where
  bounded : s.pending.size ≤ limit
  /-- The worker gets the messages of the calls, in the order of the calls. -/
  inOrder : (s.handed.map Handed.call).Pairwise (· < ·)
  ofCalls : ∀ h ∈ s.handed, s.posted[h.call]? = some h.msg
  waitsWhenFull : s.drainWaiters ≠ [] → s.pending.size = limit
  settledAtDeath : s.fatalError.isSome → ∀ call < s.posted.length, Settled s call
  silentAfterDeath : s.fatalError.isSome → s.handedAtDeath = some s.handed.length

/-- **Every entry is that of a message in the hands of the worker.** -/
def EntriesHanded (s : Channel M) : Prop :=
  ∀ id call, s.pending.get id = some call → ∃ h ∈ s.handed, h.id = id ∧ h.call = call

/-- No `postMessage` that the event leads to throws. -/
def PostMessageReturns (limit : ℕ) (s : Channel M) : ChannelEvent M → Prop
  | .post _ throws =>
      throws.isSome → s.fatalError.isSome ∨ limit ≤ s.pending.size
  | .message ack throws =>
      throws.isSome → s.pending.has ack.id → s.drainWaiters = []
  | .error _ => True
  | .exit _ => True

/-- The invariant that carries `Orderly`. -/
structure Inv (limit : ℕ) (s : Channel M) : Prop where
  bounded : s.pending.size ≤ limit
  waitsWhenFull : s.drainWaiters ≠ [] → s.pending.size = limit
  numbered : ∀ id call, s.pending.get id = some call → id < s.nextId
  handedNumbered : ∀ h ∈ s.handed, h.id < s.nextId
  inOrder : ((line s).map Prod.fst).Pairwise (· < ·)
  ofCalls : ∀ row ∈ line s, s.posted[row.1]? = some row.2
  /-- A call that is not settled has an entry or waits. -/
  accounted : ∀ call < s.posted.length,
    Settled s call ∨ (∃ id, s.pending.get id = some call) ∨ call ∈ s.drainWaiters.map Prod.fst
  emptyAtDeath : s.fatalError.isSome → s.pending = .empty ∧ s.drainWaiters = []
  silentAfterDeath : s.handedAtDeath = if s.fatalError.isSome then some s.handed.length else none

variable {limit : ℕ} {s : Channel M}

theorem Inv.orderly (hinv : Inv limit s) : Orderly limit s := by
  have hcalls : s.handed.map Handed.call = (s.handed.map Handed.row).map Prod.fst := by
    rw [List.map_map]
    rfl
  refine ⟨hinv.bounded, ?_, ?_, hinv.waitsWhenFull, ?_, ?_⟩
  · have h := hinv.inOrder
    unfold line at h
    rw [List.map_append] at h
    rw [hcalls]
    exact (List.pairwise_append.mp h).1
  · intro h hmem
    have hrow : h.row ∈ line s := List.mem_append_left _ (List.mem_map_of_mem hmem)
    exact hinv.ofCalls h.row hrow
  · intro hdead call hlt
    obtain ⟨hpending, hwaiters⟩ := hinv.emptyAtDeath hdead
    have h := hinv.accounted call hlt
    rw [hpending, hwaiters] at h
    simpa using h
  · intro hdead
    rw [hinv.silentAfterDeath, if_pos hdead]

/-! ## §3. Settling, recording, handing over. -/

theorem mem_calls_settle (settled : List (ℕ × Outcome)) (call other : ℕ) (outcome : Outcome) :
    other ∈ (settle call outcome settled).map Prod.fst
      ↔ other = call ∨ other ∈ settled.map Prod.fst := by
  unfold settle
  by_cases h : call ∈ settled.map Prod.fst
  · rw [if_pos h]
    constructor
    · exact Or.inr
    · intro hor
      rcases hor with heq | hmem
      · rw [heq]
        exact h
      · exact hmem
  · rw [if_neg h, List.map_append, List.mem_append]
    simp [or_comm]

theorem mem_calls_rejectAll (calls : List ℕ) (err : WriterError) (other : ℕ) :
    ∀ settled, other ∈ (rejectAll calls err settled).map Prod.fst
      ↔ other ∈ calls ∨ other ∈ settled.map Prod.fst := by
  induction calls with
  | nil =>
      intro settled
      simp [rejectAll]
  | cons call calls ih =>
      intro settled
      show other ∈ (rejectAll calls err (settle call (.rejected err) settled)).map Prod.fst ↔ _
      rw [ih, mem_calls_settle, List.mem_cons]
      constructor
      · rintro (h | h | h)
        · exact Or.inl (Or.inr h)
        · exact Or.inl (Or.inl h)
        · exact Or.inr h
      · rintro ((h | h) | h)
        · exact Or.inr (Or.inl h)
        · exact Or.inl h
        · exact Or.inr (Or.inr h)

theorem get_send (s : Channel M) (call : ℕ) (msg : M) (throws : Option WriterError) (id : ℕ) :
    (send s call msg throws).pending.get id
      = if s.nextId = id then some call else s.pending.get id := by
  cases throws with
  | none => exact s.pending.get_set s.nextId id call
  | some err => exact s.pending.get_set s.nextId id call

/-- **A message is sent**: it comes after all messages in the hands of the
worker and before those that wait, the channel has room, and is alive. -/
theorem Inv.send (call : ℕ) (msg : M) (throws : Option WriterError) (hroom : s.pending.size < limit)
    (halive : s.fatalError = none) (hfull : s.drainWaiters ≠ [] → s.pending.size + 1 = limit)
    (hnumbered : ∀ id c, s.pending.get id = some c → id < s.nextId)
    (hhanded : ∀ h ∈ s.handed, h.id < s.nextId)
    (horder : ((s.handed.map Handed.row ++ (call, msg) :: s.drainWaiters).map Prod.fst).Pairwise
      (· < ·))
    (hcalls : ∀ row ∈ s.handed.map Handed.row ++ (call, msg) :: s.drainWaiters,
      s.posted[row.1]? = some row.2)
    (haccounted : ∀ c < s.posted.length, c = call ∨ Settled s c
      ∨ (∃ id, s.pending.get id = some c) ∨ c ∈ s.drainWaiters.map Prod.fst)
    (hsilent : s.handedAtDeath = none) :
    Inv limit (BorderEmpires.WriterChannel.send s call msg throws) := by
  have hunused : s.pending.get s.nextId = none := by
    cases h : s.pending.get s.nextId with
    | none => rfl
    | some c =>
        have hlt := hnumbered s.nextId c h
        omega
  have hsize : (s.pending.set s.nextId call).size = s.pending.size + 1 :=
    InsertionMap.size_set_new hunused call
  have hget := get_send s call msg throws
  have hnext : (WriterChannel.send s call msg throws).nextId = s.nextId + 1 := by
    cases throws <;> rfl
  have hentry : (WriterChannel.send s call msg throws).pending
      = s.pending.set s.nextId call := by
    cases throws <;> rfl
  have hwaiters : (WriterChannel.send s call msg throws).drainWaiters = s.drainWaiters := by
    cases throws <;> rfl
  have hposted : (WriterChannel.send s call msg throws).posted = s.posted := by
    cases throws <;> rfl
  have hfatal : (WriterChannel.send s call msg throws).fatalError = none := by
    cases throws <;> exact halive
  have hdeath : (WriterChannel.send s call msg throws).handedAtDeath = none := by
    cases throws <;> exact hsilent
  -- with the message handed over, or with the line without it
  have hline : (line (WriterChannel.send s call msg throws)).Sublist
      (s.handed.map Handed.row ++ (call, msg) :: s.drainWaiters) := by
    cases throws with
    | none =>
        show ((s.handed ++ [(⟨s.nextId, call, msg⟩ : Handed M)]).map Handed.row ++ s.drainWaiters).Sublist _
        rw [List.map_append, List.append_assoc]
        exact List.Sublist.refl _
    | some err =>
        show (s.handed.map Handed.row ++ s.drainWaiters).Sublist _
        exact List.Sublist.append_left (List.sublist_cons_self _ _) _
  refine ⟨?_, ?_, ?_, ?_, ?_, ?_, ?_, ?_, ?_⟩
  · rw [hentry, hsize]
    omega
  · rw [hwaiters, hentry, hsize]
    exact hfull
  · intro id c hc
    rw [hnext]
    rw [hget] at hc
    by_cases hid : s.nextId = id
    · omega
    · rw [if_neg hid] at hc
      have hlt := hnumbered id c hc
      omega
  · intro h hmem
    rw [hnext]
    cases throws with
    | none =>
        rcases List.mem_append.mp hmem with hold | hnew
        · have hlt := hhanded h hold
          omega
        · rw [List.mem_singleton.mp hnew]
          show s.nextId < s.nextId + 1
          omega
    | some err =>
        have hlt := hhanded h hmem
        omega
  · exact horder.sublist (hline.map Prod.fst)
  · intro row hrow
    rw [hposted]
    exact hcalls row (hline.subset hrow)
  · intro c hc
    rw [hposted] at hc
    rcases haccounted c hc with heq | hdone | ⟨id, hid⟩ | hwait
    · right; left
      refine ⟨s.nextId, ?_⟩
      rw [hget, if_pos rfl, heq]
    · left
      cases throws with
      | none => exact hdone
      | some err => exact (mem_calls_settle _ _ _ _).mpr (Or.inr hdone)
    · right; left
      refine ⟨id, ?_⟩
      have hlt := hnumbered id c hid
      rw [hget, if_neg (by omega)]
      exact hid
    · right; right
      rw [hwaiters]
      exact hwait
  · rw [hfatal]
    intro h
    cases h
  · rw [hdeath, hfatal]
    rfl

/-! ## §4. One step. -/

theorem inv_fresh (limit : ℕ) : Inv limit (fresh : Channel M) := by
  refine ⟨Nat.zero_le _, fun h => absurd rfl h, ?_, ?_, List.Pairwise.nil, ?_, ?_, ?_, rfl⟩
  · intro id call h
    cases h
  · intro h hmem
    cases hmem
  · intro row hrow
    cases hrow
  · intro call hlt
    cases hlt
  · intro h
    cases h

theorem post_dead {err : WriterError} (h : s.fatalError = some err) (msg : M)
    (throws : Option WriterError) :
    post limit s msg throws
      = { s with
          posted := s.posted ++ [msg]
          settled := settle s.posted.length (.rejected err) s.settled } := by
  unfold post
  rw [h]

theorem post_full (h : s.fatalError = none) (hfull : limit ≤ s.pending.size) (msg : M)
    (throws : Option WriterError) :
    post limit s msg throws
      = { s with
          posted := s.posted ++ [msg]
          drainWaiters := s.drainWaiters ++ [(s.posted.length, msg)] } := by
  unfold post
  rw [h]
  exact if_pos hfull

theorem post_room (h : s.fatalError = none) (hroom : ¬ limit ≤ s.pending.size) (msg : M)
    (throws : Option WriterError) :
    post limit s msg throws
      = send { s with posted := s.posted ++ [msg] } s.posted.length msg throws := by
  unfold post
  rw [h]
  exact if_neg hroom

theorem onMessage_known {ack : AckMessage} {call : ℕ} (h : s.pending.get ack.id = some call)
    (throws : Option WriterError) :
    onMessage limit s ack throws = releaseDrainWaiterIfRoom limit (acked s ack call) throws := by
  unfold onMessage
  rw [h]

theorem onMessage_unknown {ack : AckMessage} (h : s.pending.get ack.id = none)
    (throws : Option WriterError) : onMessage limit s ack throws = s := by
  unfold onMessage
  rw [h]

theorem release_nil (h : s.drainWaiters = []) (limit : ℕ) (throws : Option WriterError) :
    releaseDrainWaiterIfRoom limit s throws = s := by
  unfold releaseDrainWaiterIfRoom
  rw [h]

theorem release_cons {waiter : ℕ × M} {rest : List (ℕ × M)} (h : s.drainWaiters = waiter :: rest)
    (hroom : ¬ limit ≤ s.pending.size) (throws : Option WriterError) :
    releaseDrainWaiterIfRoom limit s throws
      = send { s with drainWaiters := rest } waiter.1 waiter.2 throws := by
  unfold releaseDrainWaiterIfRoom
  rw [h]
  exact if_neg hroom

theorem Inv.order_snoc (hinv : Inv limit s) (msg : M) :
    ((line s ++ [(s.posted.length, msg)]).map Prod.fst).Pairwise (· < ·)
      ∧ ∀ row ∈ line s ++ [(s.posted.length, msg)], (s.posted ++ [msg])[row.1]? = some row.2 := by
  have hbefore : ∀ row ∈ line s, row.1 < s.posted.length := by
    intro row hrow
    exact (List.getElem?_eq_some_iff.mp (hinv.ofCalls row hrow)).1
  constructor
  · rw [List.map_append, List.pairwise_append]
    refine ⟨hinv.inOrder, List.pairwise_singleton _ _, ?_⟩
    intro call hcall other hother
    obtain ⟨row, hrow, rfl⟩ := List.mem_map.mp hcall
    rw [List.map_singleton, List.mem_singleton] at hother
    rw [hother]
    exact hbefore row hrow
  · intro row hrow
    rcases List.mem_append.mp hrow with hold | hnew
    · rw [List.getElem?_append_left (hbefore row hold)]
      exact hinv.ofCalls row hold
    · rw [List.mem_singleton.mp hnew]
      simp

theorem post_inv (hinv : Inv limit s) (msg : M) (throws : Option WriterError) :
    Inv limit (post limit s msg throws) := by
  obtain ⟨horder, hcalls⟩ := hinv.order_snoc msg
  have hlast : ∀ c, c < (s.posted ++ [msg]).length → c = s.posted.length ∨ c < s.posted.length := by
    intro c hc
    rw [List.length_append, List.length_singleton] at hc
    omega
  cases hdead : s.fatalError with
  | some err =>
      rw [post_dead hdead]
      -- the call is rejected at once and leaves no other trace
      refine ⟨hinv.bounded, hinv.waitsWhenFull, hinv.numbered, hinv.handedNumbered,
        hinv.inOrder, ?_, ?_, ?_, ?_⟩
      · intro row hrow
        exact hcalls row (List.mem_append_left _ hrow)
      · intro c hc
        rcases hlast c hc with heq | hlt
        · exact Or.inl ((mem_calls_settle _ _ _ _).mpr (Or.inl heq))
        · rcases hinv.accounted c hlt with hdone | hrest
          · exact Or.inl ((mem_calls_settle _ _ _ _).mpr (Or.inr hdone))
          · exact Or.inr hrest
      · intro _
        apply hinv.emptyAtDeath
        rw [hdead]
        rfl
      · exact hinv.silentAfterDeath
  | none =>
      have hsilent : s.handedAtDeath = none := by
        rw [hinv.silentAfterDeath, hdead]
        rfl
      by_cases hfull : limit ≤ s.pending.size
      · rw [post_full hdead hfull]
        have hline : line ({ s with
            posted := s.posted ++ [msg]
            drainWaiters := s.drainWaiters ++ [(s.posted.length, msg)] } : Channel M)
            = line s ++ [(s.posted.length, msg)] := (List.append_assoc _ _ _).symm
        refine ⟨hinv.bounded, ?_, hinv.numbered, hinv.handedNumbered, ?_, ?_, ?_, ?_, ?_⟩
        · intro _
          exact Nat.le_antisymm hinv.bounded hfull
        · rw [hline]
          exact horder
        · rw [hline]
          exact hcalls
        · intro c hc
          rcases hlast c hc with heq | hlt
          · right; right
            rw [heq]
            simp
          · rcases hinv.accounted c hlt with hdone | hentry | hwait
            · exact Or.inl hdone
            · exact Or.inr (Or.inl hentry)
            · right; right
              rw [List.map_append]
              exact List.mem_append_left _ hwait
        · intro h
          rw [hdead] at h
          cases h
        · exact hinv.silentAfterDeath
      · rw [post_room hdead hfull]
        -- a channel with room has no waiters, so the line ends with what was handed over
        have hnone : s.drainWaiters = [] := by
          by_contra hne
          have hsize := hinv.waitsWhenFull hne
          omega
        have hline : line s = s.handed.map Handed.row := by
          unfold line
          rw [hnone, List.append_nil]
        rw [hline] at horder hcalls
        apply Inv.send s.posted.length msg throws
        · show s.pending.size < limit
          omega
        · exact hdead
        · intro h
          exact absurd hnone h
        · exact hinv.numbered
        · exact hinv.handedNumbered
        · show ((s.handed.map Handed.row ++ (s.posted.length, msg) :: s.drainWaiters).map _).Pairwise _
          rw [hnone]
          exact horder
        · show ∀ row ∈ s.handed.map Handed.row ++ (s.posted.length, msg) :: s.drainWaiters, _
          rw [hnone]
          exact hcalls
        · intro c hc
          rcases hlast c hc with heq | hlt
          · exact Or.inl heq
          · exact Or.inr (hinv.accounted c hlt)
        · exact hsilent

theorem onMessage_inv (hinv : Inv limit s) (ack : AckMessage) (throws : Option WriterError) :
    Inv limit (onMessage limit s ack throws) := by
  cases hget : s.pending.get ack.id with
  | none =>
      rw [onMessage_unknown hget]
      exact hinv
  | some call =>
      rw [onMessage_known hget]
      have hsize := InsertionMap.size_erase_add_one hget
      have hbounded := hinv.bounded
      have halive : s.fatalError = none := by
        cases hdead : s.fatalError with
        | none => rfl
        | some err =>
            have hempty := (hinv.emptyAtDeath (by rw [hdead]; rfl)).1
            rw [hempty] at hget
            cases hget
      have hsilent : s.handedAtDeath = none := by
        rw [hinv.silentAfterDeath, halive]
        rfl
      have hnumbered : ∀ id c, (s.pending.erase ack.id).get id = some c → id < s.nextId := by
        intro id c hc
        rw [InsertionMap.get_erase] at hc
        by_cases hid : ack.id = id
        · rw [if_pos hid] at hc
          cases hc
        · rw [if_neg hid] at hc
          exact hinv.numbered id c hc
      have haccounted : ∀ c < s.posted.length,
          c ∈ (settle call ack.outcome s.settled).map Prod.fst
            ∨ (∃ id, (s.pending.erase ack.id).get id = some c)
            ∨ c ∈ s.drainWaiters.map Prod.fst := by
        intro c hc
        rcases hinv.accounted c hc with hdone | ⟨id, hid⟩ | hwait
        · exact Or.inl ((mem_calls_settle _ _ _ _).mpr (Or.inr hdone))
        · by_cases hsame : ack.id = id
          · -- the acknowledged entry settles its own call
            rw [← hsame, hget] at hid
            exact Or.inl ((mem_calls_settle _ _ _ _).mpr (Or.inl (Option.some.inj hid).symm))
          · right; left
            refine ⟨id, ?_⟩
            rw [InsertionMap.get_erase, if_neg hsame]
            exact hid
        · exact Or.inr (Or.inr hwait)
      cases hwaiters : s.drainWaiters with
      | nil =>
          have hnone : (acked s ack call).drainWaiters = [] := hwaiters
          rw [release_nil hnone]
          refine ⟨?_, ?_, hnumbered, hinv.handedNumbered, hinv.inOrder, hinv.ofCalls, haccounted,
            ?_, hinv.silentAfterDeath⟩
          · show (s.pending.erase ack.id).size ≤ limit
            omega
          · intro h
            exact absurd hwaiters h
          · intro h
            have hdead : s.fatalError.isSome := h
            rw [halive] at hdead
            cases hdead
      | cons waiter rest =>
          have hfull : s.pending.size = limit := hinv.waitsWhenFull (by rw [hwaiters]; simp)
          have hroom : ¬ limit ≤ (acked s ack call).pending.size := by
            show ¬ limit ≤ (s.pending.erase ack.id).size
            omega
          have hfirst : (acked s ack call).drainWaiters = waiter :: rest := hwaiters
          rw [release_cons hfirst hroom]
          have hline : line s = s.handed.map Handed.row ++ (waiter.1, waiter.2) :: rest := by
            unfold line
            rw [hwaiters]
          have horder := hinv.inOrder
          have hcalls := hinv.ofCalls
          rw [hline] at horder hcalls
          apply Inv.send waiter.1 waiter.2 throws
          · show (s.pending.erase ack.id).size < limit
            omega
          · exact halive
          · intro _
            show (s.pending.erase ack.id).size + 1 = limit
            omega
          · exact hnumbered
          · exact hinv.handedNumbered
          · exact horder
          · exact hcalls
          · intro c hc
            have h := haccounted c hc
            rw [hwaiters, List.map_cons, List.mem_cons] at h
            rcases h with hdone | hentry | heq | hwait
            · exact Or.inr (Or.inl hdone)
            · exact Or.inr (Or.inr (Or.inl hentry))
            · exact Or.inl heq
            · exact Or.inr (Or.inr (Or.inr hwait))
          · exact hsilent

theorem die_inv (hinv : Inv limit s) (fatal err : WriterError) : Inv limit (die s fatal err) := by
  have hsub : (line (die s fatal err)).Sublist (line s) := by
    show (s.handed.map Handed.row ++ []).Sublist (s.handed.map Handed.row ++ s.drainWaiters)
    exact List.Sublist.append_left (List.nil_sublist _) _
  refine ⟨Nat.zero_le _, fun h => absurd rfl h, ?_, hinv.handedNumbered,
    hinv.inOrder.sublist (hsub.map Prod.fst), fun row hrow => hinv.ofCalls row (hsub.subset hrow),
    ?_, fun _ => ⟨rfl, rfl⟩, ?_⟩
  · intro id c hc
    cases hc
  · intro c hc
    left
    apply (mem_calls_rejectAll _ _ _ _).mpr
    rw [List.mem_append, InsertionMap.mem_values_iff]
    rcases hinv.accounted c hc with hdone | hentry | hwait
    · exact Or.inr hdone
    · exact Or.inl (Or.inl hentry)
    · exact Or.inl (Or.inr hwait)
  · show some (s.handedAtDeath.getD s.handed.length) = some s.handed.length
    rw [hinv.silentAfterDeath]
    cases s.fatalError <;> rfl

/-- **Every event keeps the invariant**, throwing ones included. -/
theorem step_inv (hinv : Inv limit s) (event : ChannelEvent M) :
    Inv limit (step limit s event) := by
  cases event with
  | post msg throws => exact post_inv hinv msg throws
  | message ack throws => exact onMessage_inv hinv ack throws
  | error err => exact die_inv hinv err err
  | exit code => exact die_inv hinv _ _

/-- What an event posts. -/
def ChannelEvent.messages : ChannelEvent M → List M
  | .post msg _ => [msg]
  | _ => []

theorem posted_send (s : Channel M) (call : ℕ) (msg : M) (throws : Option WriterError) :
    (send s call msg throws).posted = s.posted := by
  cases throws <;> rfl

theorem posted_onMessage (s : Channel M) (ack : AckMessage) (throws : Option WriterError) :
    (onMessage limit s ack throws).posted = s.posted := by
  unfold onMessage
  cases s.pending.get ack.id with
  | none => rfl
  | some call =>
      dsimp only
      unfold releaseDrainWaiterIfRoom
      split
      · rfl
      · split
        · rfl
        · exact posted_send _ _ _ _

theorem posted_step (s : Channel M) (event : ChannelEvent M) :
    (step limit s event).posted = s.posted ++ event.messages := by
  cases event with
  | post msg throws =>
      show (post limit s msg throws).posted = s.posted ++ [msg]
      cases hdead : s.fatalError with
      | some err => rw [post_dead hdead]
      | none =>
          by_cases hfull : limit ≤ s.pending.size
          · rw [post_full hdead hfull]
          · rw [post_room hdead hfull, posted_send]
  | message ack throws => exact (posted_onMessage s ack throws).trans (List.append_nil _).symm
  | error err => exact (List.append_nil _).symm
  | exit code => exact (List.append_nil _).symm

/-- **Bound, order, waiting and death are right in every run**, for the
messages that the run posts. -/
theorem orderly_along (limit : ℕ) (events : List (ChannelEvent M)) :
    Run.Along (step limit) (Orderly limit) fresh events
      ∧ (events.foldl (step limit) fresh).posted = events.flatMap ChannelEvent.messages :=
  ⟨Run.Along.mono (fun _ => Inv.orderly) events fresh
      (Run.along_of_step (fun _ event hinv => step_inv hinv event) events fresh (inv_fresh limit)),
    Run.log_foldl posted_step events fresh⟩

/-! ## §5. The entries. -/

/-- **The entry of a message that is sent** is that of a handed message
exactly when `postMessage` returns. -/
theorem entriesHanded_send_iff (hentries : EntriesHanded s)
    (hhanded : ∀ h ∈ s.handed, h.id < s.nextId) (call : ℕ) (msg : M) (throws : Option WriterError) :
    EntriesHanded (send s call msg throws) ↔ throws = none := by
  have hget := get_send s call msg throws
  constructor
  · intro hright
    cases throws with
    | none => rfl
    | some err =>
        have hentry : (send s call msg (some err)).pending.get s.nextId = some call := by
          rw [hget, if_pos rfl]
        obtain ⟨h, hmem, hid, _⟩ := hright s.nextId call hentry
        have hlt := hhanded h hmem
        omega
  · intro hreturns id c hc
    subst hreturns
    rw [hget] at hc
    by_cases hid : s.nextId = id
    · rw [if_pos hid] at hc
      exact ⟨⟨s.nextId, call, msg⟩, List.mem_append_right _ (List.mem_singleton_self _), hid,
        Option.some.inj hc⟩
    · rw [if_neg hid] at hc
      obtain ⟨h, hmem, hrow⟩ := hentries id c hc
      exact ⟨h, List.mem_append_left _ hmem, hrow⟩

theorem entriesHanded_post_iff (hinv : Inv limit s) (hentries : EntriesHanded s) (msg : M)
    (throws : Option WriterError) :
    EntriesHanded (post limit s msg throws)
      ↔ (throws.isSome → s.fatalError.isSome ∨ limit ≤ s.pending.size) := by
  cases hdead : s.fatalError with
  | some err =>
      rw [post_dead hdead]
      exact ⟨fun _ _ => Or.inl rfl, fun _ => hentries⟩
  | none =>
      by_cases hfull : limit ≤ s.pending.size
      · rw [post_full hdead hfull]
        exact ⟨fun _ _ => Or.inr hfull, fun _ => hentries⟩
      · rw [post_room hdead hfull, entriesHanded_send_iff (by exact hentries)
          (by exact hinv.handedNumbered)]
        cases throws with
        | none => simp
        | some err =>
            simp
            omega

theorem entriesHanded_onMessage_iff (hinv : Inv limit s) (hentries : EntriesHanded s)
    (ack : AckMessage) (throws : Option WriterError) :
    EntriesHanded (onMessage limit s ack throws)
      ↔ (throws.isSome → s.pending.has ack.id → s.drainWaiters = []) := by
  unfold InsertionMap.has
  cases hget : s.pending.get ack.id with
  | none =>
      rw [onMessage_unknown hget]
      simp [hentries]
  | some call =>
      rw [onMessage_known hget]
      have hkept : EntriesHanded (acked s ack call) := by
        intro id c hc
        have herase : (s.pending.erase ack.id).get id = some c := hc
        rw [InsertionMap.get_erase] at herase
        by_cases hid : ack.id = id
        · rw [if_pos hid] at herase
          cases herase
        · rw [if_neg hid] at herase
          exact hentries id c herase
      cases hwaiters : s.drainWaiters with
      | nil =>
          have hnone : (acked s ack call).drainWaiters = [] := hwaiters
          rw [release_nil hnone]
          simp [hkept]
      | cons waiter rest =>
          have hfirst : (acked s ack call).drainWaiters = waiter :: rest := hwaiters
          have hroom : ¬ limit ≤ (acked s ack call).pending.size := by
            have hsize := InsertionMap.size_erase_add_one hget
            have hbounded := hinv.bounded
            show ¬ limit ≤ (s.pending.erase ack.id).size
            omega
          rw [release_cons hfirst hroom, entriesHanded_send_iff (by exact hkept)
            (by exact hinv.handedNumbered)]
          cases throws <;> simp

/-- **One step**: right entries stay right exactly when no `postMessage` that
the event leads to throws. -/
theorem entriesHanded_step_iff (hinv : Inv limit s) (hentries : EntriesHanded s)
    (event : ChannelEvent M) :
    EntriesHanded (step limit s event) ↔ PostMessageReturns limit s event := by
  cases event with
  | post msg throws => exact entriesHanded_post_iff hinv hentries msg throws
  | message ack throws => exact entriesHanded_onMessage_iff hinv hentries ack throws
  | error err =>
      refine ⟨fun _ => trivial, fun _ id call h => ?_⟩
      cases h
  | exit code =>
      refine ⟨fun _ => trivial, fun _ id call h => ?_⟩
      cases h

/-- **The channel is right in every state of a run exactly when no
`postMessage` of the run throws.** -/
theorem writerChannel_right_iff (option : Option ℕ) (events : List (ChannelEvent M)) :
    Run.Along (step (maxPending option))
        (fun s => Orderly (maxPending option) s ∧ EntriesHanded s) fresh events
      ↔ Run.StepsMeet (step (maxPending option)) (PostMessageReturns (maxPending option))
          fresh events := by
  apply Run.along_iff_stepsMeet (I := Inv (maxPending option))
  · intro s event hinv _ _
    exact step_inv hinv event
  · intro s event hinv hright
    have hnext := (step_inv hinv event).orderly
    rw [← entriesHanded_step_iff hinv hright.2 event]
    exact ⟨fun h => h.2, fun h => ⟨hnext, h⟩⟩
  · exact inv_fresh _
  · refine ⟨(inv_fresh _).orderly, ?_⟩
    intro id call h
    cases h

/-- A first `post` whose message cannot be cloned: the call is rejected, its
entry stays, and the worker has nothing to acknowledge. -/
theorem throwing_post_keeps_entry :
    ¬ ∀ (option : Option ℕ) (events : List (ChannelEvent String)),
      Run.Along (step (maxPending option))
        (fun s => Orderly (maxPending option) s ∧ EntriesHanded s) fresh events := by
  intro hclaim
  have hrun := hclaim none [.post "appendEvent" (some ⟨"DataCloneError"⟩)]
  have hentries := hrun.2.2 0 0 (by decide)
  obtain ⟨h, hmem, _⟩ := hentries
  cases hmem

end BorderEmpires.WriterChannel
