/-
  BorderEmpires.Gateway.RateLimiter
  **COMMANDS THROTTLED BY A TOKEN BUCKET.**

  Every player has a bucket of tokens, filled up as time passes whenever the
  player sends a command.  A command takes one token or is refused, and a
  refusal says how long to wait.  The clock may jump in either direction:
  what is paid for is every step it takes forward.

  Tokens and times are exact rationals.
-/
import Mathlib.Algebra.Order.Field.Rat
import Mathlib.Algebra.Order.Floor.Ring
import Mathlib.Data.Rat.Floor
import Mathlib.Tactic.Linarith
import Mathlib.Tactic.Positivity
import BorderEmpires.Lib.InsertionMap
import BorderEmpires.World

namespace BorderEmpires.RateLimiter

/-! ## §1. The buckets. -/

structure CommandRateLimiterOptions where
  capacity : ℚ
  refillPerSecond : ℚ
  one_le_capacity : 1 ≤ capacity
  refill_pos : 0 < refillPerSecond

def gatewayOptions : CommandRateLimiterOptions := ⟨20, 5, Nat.one_le_ofNat, Nat.ofNat_pos⟩

structure BucketState where
  tokens : ℚ
  lastRefillAtMs : ℚ

abbrev Buckets := InsertionMap PlayerId BucketState

structure CommandRateLimitDecision where
  allowed : Bool
  retryAfterMs : Option ℤ

variable (options : CommandRateLimiterOptions)

/-- The tokens once the time since the last refill is credited. -/
def refilledTokens (bucket : BucketState) (nowMs : ℚ) : ℚ :=
  let elapsedSeconds := max 0 (nowMs - bucket.lastRefillAtMs) / 1000
  min options.capacity (bucket.tokens + elapsedSeconds * options.refillPerSecond)

def tryConsume (buckets : Buckets) (playerId : PlayerId) (nowMs : ℚ) :
    Buckets × CommandRateLimitDecision :=
  let bucket := (buckets.get playerId).getD ⟨options.capacity, nowMs⟩
  let tokens := refilledTokens options bucket nowMs
  if tokens < 1 then
    (buckets.set playerId ⟨tokens, nowMs⟩,
      ⟨false, some ⌈(1 - tokens) / options.refillPerSecond * 1000⌉⟩)
  else (buckets.set playerId ⟨tokens - 1, nowMs⟩, ⟨true, none⟩)

def releasePlayer (buckets : Buckets) (playerId : PlayerId) : Buckets := buckets.erase playerId

/-! ## §2. Runs. -/

inductive LimiterCall where
  | tryConsume (playerId : PlayerId) (nowMs : ℚ)
  | releasePlayer (playerId : PlayerId)
  deriving DecidableEq

def LimiterCall.playerId : LimiterCall → PlayerId
  | .tryConsume playerId _ | .releasePlayer playerId => playerId

def step (buckets : Buckets) : LimiterCall → Buckets
  | .tryConsume playerId nowMs => (tryConsume options buckets playerId nowMs).1
  | .releasePlayer playerId => releasePlayer buckets playerId

def run (buckets : Buckets) (calls : List LimiterCall) : Buckets := calls.foldl (step options) buckets

def letsThrough (p : PlayerId) (buckets : Buckets) : LimiterCall → Bool
  | .tryConsume playerId nowMs =>
      decide (playerId = p) && (tryConsume options buckets playerId nowMs).2.allowed
  | .releasePlayer _ => false

/-- How many commands of the player the calls let through. -/
def allowedCount (p : PlayerId) : Buckets → List LimiterCall → ℕ
  | _, [] => 0
  | buckets, call :: rest =>
      (if letsThrough options p buckets call = true then 1 else 0)
        + allowedCount p (step options buckets call) rest

def readings (p : PlayerId) (calls : List LimiterCall) : List ℚ :=
  calls.filterMap fun
    | .tryConsume playerId nowMs => if playerId = p then some nowMs else none
    | .releasePlayer _ => none

/-- The steps forward between the readings, added up. -/
def forwardMs : List ℚ → ℚ
  | t :: t' :: ts => max 0 (t' - t) + forwardMs (t' :: ts)
  | _ => 0

/-! ## §3. What a call does. -/

def Bounded (buckets : Buckets) : Prop :=
  ∀ p bucket, buckets.get p = some bucket → 0 ≤ bucket.tokens ∧ bucket.tokens ≤ options.capacity

variable {options} {buckets : Buckets} {p : PlayerId}

theorem capacity_pos (options : CommandRateLimiterOptions) : 0 < options.capacity := lt_of_lt_of_le one_pos options.one_le_capacity

theorem refilledTokens_nonneg {bucket : BucketState} (h : 0 ≤ bucket.tokens) (nowMs : ℚ) :
    0 ≤ refilledTokens options bucket nowMs := by
  have hrefill := options.refill_pos
  have hcap := capacity_pos options
  unfold refilledTokens
  exact le_min hcap.le (by positivity)

/-- The tokens the player's next call finds. -/
def found (options : CommandRateLimiterOptions) (p : PlayerId) (buckets : Buckets) (nowMs : ℚ) : ℚ :=
  refilledTokens options ((buckets.get p).getD ⟨options.capacity, nowMs⟩) nowMs

theorem tryConsume_refused {nowMs : ℚ} (h : found options p buckets nowMs < 1) :
    tryConsume options buckets p nowMs
      = (buckets.set p ⟨found options p buckets nowMs, nowMs⟩,
        ⟨false, some ⌈(1 - found options p buckets nowMs) / options.refillPerSecond * 1000⌉⟩) :=
  if_pos h

theorem tryConsume_granted {nowMs : ℚ} (h : ¬ found options p buckets nowMs < 1) :
    tryConsume options buckets p nowMs
      = (buckets.set p ⟨found options p buckets nowMs - 1, nowMs⟩, ⟨true, none⟩) :=
  if_neg h

theorem found_nonneg (h : Bounded options buckets) (nowMs : ℚ) :
    0 ≤ found options p buckets nowMs := by
  apply refilledTokens_nonneg
  cases hget : buckets.get p with
  | none => exact (capacity_pos options).le
  | some bucket => exact (h p bucket hget).1

theorem found_le_capacity (nowMs : ℚ) : found options p buckets nowMs ≤ options.capacity :=
  min_le_left _ _

/-- **One call of the player**: what is left and what was taken is what was
found. -/
theorem tryConsume_spec (h : Bounded options buckets) (nowMs : ℚ) :
    ∃ tokens, (tryConsume options buckets p nowMs).1.get p = some ⟨tokens, nowMs⟩ ∧ 0 ≤ tokens
      ∧ (((if (tryConsume options buckets p nowMs).2.allowed = true then 1 else 0 : ℕ)) : ℚ) + tokens
        = found options p buckets nowMs := by
  have hfound : 0 ≤ found options p buckets nowMs := found_nonneg h nowMs
  by_cases hshort : found options p buckets nowMs < 1
  · rw [tryConsume_refused hshort]
    exact ⟨_, InsertionMap.get_set_self _ _ _, hfound, by simp⟩
  · rw [tryConsume_granted hshort]
    refine ⟨_, InsertionMap.get_set_self _ _ _, ?_, by simp⟩
    linarith

/-- What other players do leaves the player's bucket alone. -/
theorem get_step_other {call : LimiterCall} (hother : call.playerId ≠ p) :
    (step options buckets call).get p = buckets.get p := by
  cases call with
  | tryConsume q nowMs =>
      unfold step
      dsimp only
      by_cases hshort : found options q buckets nowMs < 1
      · rw [tryConsume_refused hshort]
        exact InsertionMap.get_set_ne buckets hother _
      · rw [tryConsume_granted hshort]
        exact InsertionMap.get_set_ne buckets hother _
  | releasePlayer q => exact InsertionMap.get_erase_ne buckets hother

theorem letsThrough_other {call : LimiterCall} (hother : call.playerId ≠ p) :
    letsThrough options p buckets call = false := by
  cases call with
  | tryConsume q nowMs => simp [letsThrough, show q ≠ p from hother]
  | releasePlayer q => rfl

theorem bounded_step (h : Bounded options buckets) (call : LimiterCall) :
    Bounded options (step options buckets call) := by
  intro q bucket hget
  by_cases hq : call.playerId = q
  · cases call with
    | tryConsume r nowMs =>
        obtain rfl : r = q := hq
        obtain ⟨tokens, hafter, hnonneg, hsum⟩ := tryConsume_spec (p := r) h nowMs
        have hcap : found options r buckets nowMs ≤ options.capacity := found_le_capacity nowMs
        unfold step at hget
        dsimp only at hget
        rw [hafter, Option.some.injEq] at hget
        rw [← hget]
        refine ⟨hnonneg, ?_⟩
        dsimp only
        split_ifs at hsum <;> push_cast at hsum <;> linarith
    | releasePlayer r =>
        obtain rfl : r = q := hq
        unfold step releasePlayer at hget
        dsimp only at hget
        rw [InsertionMap.get_erase_self] at hget
        cases hget
  · rw [get_step_other hq] at hget
    exact h q bucket hget

/-! ## §4. The rate. -/

/-- What the player's next calls can be granted: what the first of them
finds, and the time that passes between them. -/
def credit (options : CommandRateLimiterOptions) (p : PlayerId) (buckets : Buckets) :
    List ℚ → ℚ
  | [] => 0
  | t :: ts => found options p buckets t + forwardMs (t :: ts) / 1000 * options.refillPerSecond

/-- What is found next was left, or has been paid for since. -/
theorem credit_le {tokens t : ℚ} (hget : buckets.get p = some ⟨tokens, t⟩) (htokens : 0 ≤ tokens)
    (ts : List ℚ) :
    credit options p buckets ts
      ≤ tokens + forwardMs (t :: ts) / 1000 * options.refillPerSecond := by
  cases ts with
  | nil => simpa [credit, forwardMs] using htokens
  | cons t' ts =>
      have hfound : found options p buckets t'
          ≤ tokens + max 0 (t' - t) / 1000 * options.refillPerSecond := by
        unfold found
        rw [hget]
        exact min_le_right _ _
      unfold credit
      rw [show forwardMs (t :: t' :: ts) = max 0 (t' - t) + forwardMs (t' :: ts) from rfl, add_div,
        add_mul]
      linarith

theorem allowedCount_le_credit (calls : List LimiterCall) :
    ∀ buckets : Buckets, Bounded options buckets → LimiterCall.releasePlayer p ∉ calls →
      (allowedCount options p buckets calls : ℚ) ≤ credit options p buckets (readings p calls) := by
  induction calls with
  | nil =>
      intro buckets _ _
      exact le_of_eq Nat.cast_zero
  | cons call calls ih =>
      intro buckets hbounded hkept
      have hrest := ih (step options buckets call) (bounded_step hbounded call)
        fun hmem => hkept (List.mem_cons_of_mem _ hmem)
      unfold allowedCount
      rw [Nat.cast_add]
      by_cases hp : call.playerId = p
      · cases call with
        | tryConsume q nowMs =>
            obtain rfl : q = p := hp
            obtain ⟨tokens, hafter, hnonneg, hsum⟩ := tryConsume_spec (p := q) hbounded nowMs
            have hpaid := hrest.trans (credit_le hafter hnonneg _)
            have hread : readings q (.tryConsume q nowMs :: calls) = nowMs :: readings q calls := by
              simp [readings]
            have hthrough : letsThrough options q buckets (.tryConsume q nowMs)
                = (tryConsume options buckets q nowMs).2.allowed := by simp [letsThrough]
            rw [hread, hthrough]
            unfold credit
            linarith
        | releasePlayer q =>
            obtain rfl : q = p := hp
            exact absurd List.mem_cons_self hkept
      · have hread : readings p (call :: calls) = readings p calls := by
          cases call with
          | tryConsume q nowMs => simp [readings, show q ≠ p from hp]
          | releasePlayer q => rfl
        have hsame : credit options p (step options buckets call) = credit options p buckets := by
          unfold credit found
          rw [get_step_other hp]
        rw [hsame] at hrest
        rw [letsThrough_other hp, hread]
        simpa using hrest

theorem get_run_other {calls : List LimiterCall} :
    ∀ buckets : Buckets, (∀ call ∈ calls, call.playerId ≠ p) →
      (run options buckets calls).get p = buckets.get p := by
  induction calls with
  | nil => exact fun _ _ => rfl
  | cons call calls ih =>
      intro buckets hothers
      have hrest := ih (step options buckets call)
        fun other hmem => hothers other (List.mem_cons_of_mem _ hmem)
      exact hrest.trans (get_step_other (hothers call List.mem_cons_self))

/-- **Waiting as told is enough**, whatever the other players do meanwhile. -/
theorem allowed_after_retry {nowMs later : ℚ} {retryAfterMs : ℤ} {calls : List LimiterCall}
    (hrefused : (tryConsume options buckets p nowMs).2.retryAfterMs = some retryAfterMs)
    (hothers : ∀ call ∈ calls, call.playerId ≠ p) (hwait : nowMs + retryAfterMs ≤ later) :
    (tryConsume options (run options (tryConsume options buckets p nowMs).1 calls) p later).2.allowed
      = true := by
  have hrefill := options.refill_pos
  by_cases hshort : found options p buckets nowMs < 1
  · rw [tryConsume_refused hshort] at hrefused ⊢
    have hget : (run options (buckets.set p ⟨found options p buckets nowMs, nowMs⟩) calls).get p
        = some ⟨found options p buckets nowMs, nowMs⟩ :=
      (get_run_other _ hothers).trans (InsertionMap.get_set_self _ _ _)
    have hretry := Option.some.inj hrefused
    generalize found options p buckets nowMs = tokens at hget hretry
    rw [tryConsume_granted]
    rw [not_lt]
    unfold found
    rw [hget]
    refine le_min options.one_le_capacity ?_
    dsimp only [Option.getD_some]
    -- the wait pays for what is missing
    have hceil : (1 - tokens) / options.refillPerSecond * 1000 ≤ retryAfterMs := by
      rw [← hretry]
      exact Int.le_ceil _
    have hmax : (retryAfterMs : ℚ) ≤ max 0 (later - nowMs) := le_max_of_le_right (by linarith)
    have hneed : (1 - tokens) / options.refillPerSecond ≤ max 0 (later - nowMs) / 1000 := by
      rw [le_div_iff₀ (by norm_num)]
      exact hceil.trans hmax
    rw [div_le_iff₀ hrefill] at hneed
    linarith
  · rw [tryConsume_granted hshort] at hrefused
    cases hrefused

/-- **The limiter keeps its rate and its word.**  After any calls: as long as a
player is not released, what it is granted is at most the capacity and what
the clock's steps forward pay for; and a refused player that waits as long as
it was told is granted its next command. -/
theorem limiter_sound (options : CommandRateLimiterOptions) (earlier calls : List LimiterCall)
    (p : PlayerId) :
    (LimiterCall.releasePlayer p ∉ calls →
        (allowedCount options p (run options .empty earlier) calls : ℚ)
          ≤ options.capacity + forwardMs (readings p calls) / 1000 * options.refillPerSecond)
      ∧ ∀ (nowMs later : ℚ) (retryAfterMs : ℤ),
        (tryConsume options (run options .empty earlier) p nowMs).2.retryAfterMs
            = some retryAfterMs →
          (∀ call ∈ calls, call.playerId ≠ p) → nowMs + retryAfterMs ≤ later →
          (tryConsume options
            (run options (tryConsume options (run options .empty earlier) p nowMs).1 calls)
            p later).2.allowed = true := by
  have hbounded : ∀ (l : List LimiterCall) (buckets : Buckets), Bounded options buckets →
      Bounded options (run options buckets l) := by
    intro l
    induction l with
    | nil => exact fun _ h => h
    | cons call l ih => exact fun _ h => ih _ (bounded_step h call)
  have hearlier := hbounded earlier .empty fun q bucket hget => by
    rw [InsertionMap.get_empty] at hget
    cases hget
  refine ⟨fun hkept => ?_, fun nowMs later retryAfterMs hrefused hothers hwait =>
    allowed_after_retry hrefused hothers hwait⟩
  refine (allowedCount_le_credit calls _ hearlier hkept).trans ?_
  cases readings p calls with
  | nil => simpa [credit, forwardMs] using (capacity_pos options).le
  | cons t ts => exact add_le_add_left (found_le_capacity t) _

/-- Of 21 commands at once the gateway grants 20, and tells the player to wait
a fifth of a second for the next. -/
theorem limiter_sound_gateway :
    ((allowedCount gatewayOptions playerOne (run gatewayOptions .empty [.tryConsume playerTwo 0])
          (List.replicate 21 (.tryConsume playerOne 0)) : ℚ)
        ≤ gatewayOptions.capacity
          + forwardMs (readings playerOne (List.replicate 21 (.tryConsume playerOne 0))) / 1000
            * gatewayOptions.refillPerSecond)
      ∧ (tryConsume gatewayOptions
          (run gatewayOptions
            (tryConsume gatewayOptions
              (run gatewayOptions .empty (List.replicate 20 (.tryConsume playerOne 0)))
              playerOne 0).1
            [.tryConsume playerTwo 50]) playerOne 200).2.allowed = true :=
  ⟨(limiter_sound gatewayOptions [.tryConsume playerTwo 0] _ playerOne).1 (by decide +kernel),
    (limiter_sound gatewayOptions (List.replicate 20 (.tryConsume playerOne 0))
      [.tryConsume playerTwo 50] playerOne).2 0 200 200 (by decide +kernel) (by decide +kernel)
      (by norm_num)⟩

end BorderEmpires.RateLimiter
