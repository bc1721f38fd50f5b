/-
  BorderEmpires.Gateway.Subscriptions
  **ONE SIMULATION SUBSCRIPTION FOR A PLAYER'S SOCKETS.**

  The gateway subscribes a player once for all its sockets.  Each subscribe
  has a generation of its own, and its key names that generation; the last
  socket to leave, and a refresh, drop the key and unsubscribe it.  An answer
  that comes late is dropped when no socket is left or a newer generation
  was asked for, but not when only its key was dropped.
-/
import BorderEmpires.World
import BorderEmpires.Lib.InsertionMap
import BorderEmpires.Lib.Run

namespace BorderEmpires.Gateway

/-! ## §1. The simulation's registry. -/

/-- The registry's entry of a player, for the one namespace of the gateway.
A key is its generation: namespace and player are the same in all of them. -/
structure SubscriptionRegistry where
  anonymousCount : Nat
  keyedCounts : InsertionMap Nat Nat
  cancelledGeneration : Nat

namespace SubscriptionRegistry

def empty : SubscriptionRegistry := ⟨0, .empty, 0⟩

def subscribe (r : SubscriptionRegistry) (generation : Nat) : SubscriptionRegistry :=
  if generation ≤ r.cancelledGeneration then r
  else
    { r with keyedCounts :=
        r.keyedCounts.set generation ((r.keyedCounts.get generation).getD 0 + 1) }

def unsubscribe (r : SubscriptionRegistry) : Option Nat → SubscriptionRegistry
  | none => { r with anonymousCount := r.anonymousCount - 1 }
  | some generation =>
      let nextCount := (r.keyedCounts.get generation).getD 0 - 1
      if 0 < nextCount then { r with keyedCounts := r.keyedCounts.set generation nextCount }
      else if r.keyedCounts.has generation then
        { r with keyedCounts := r.keyedCounts.erase generation }
      else { r with cancelledGeneration := max r.cancelledGeneration generation }

def Live (r : SubscriptionRegistry) (generation : Nat) : Prop :=
  (r.keyedCounts.get generation).isSome

def Single (r : SubscriptionRegistry) : Prop :=
  ∀ generation count, r.keyedCounts.get generation = some count → count = 1

variable {r : SubscriptionRegistry}

theorem subscribe_spec (h : r.Single) {generation : Nat} (hfresh : r.cancelledGeneration < generation)
    (hnew : ¬ r.Live generation) :
    (r.subscribe generation).Single
      ∧ (r.subscribe generation).cancelledGeneration = r.cancelledGeneration
      ∧ ∀ g, (r.subscribe generation).Live g ↔ g = generation ∨ r.Live g := by
  have hnone : r.keyedCounts.get generation = none := Option.not_isSome_iff_eq_none.mp hnew
  unfold SubscriptionRegistry.subscribe
  rw [if_neg (by omega), hnone]
  refine ⟨fun g count hget => ?_, rfl, fun g => ?_⟩
  · have hset : (r.keyedCounts.set generation 1).get g = some count := hget
    rw [InsertionMap.get_set] at hset
    split at hset
    next =>
      injection hset with hset
      omega
    next => exact h g count hset
  · show ((r.keyedCounts.set generation 1).get g).isSome ↔ _
    rw [InsertionMap.get_set]
    by_cases hg : generation = g
    · simp [hg]
    · rw [if_neg hg]
      exact ⟨Or.inr, fun hor => hor.resolve_left (Ne.symm hg)⟩

/-- **An unsubscribed key is not live**; the others are as they were. -/
theorem unsubscribe_spec (h : r.Single) (key : Option Nat) :
    (r.unsubscribe key).Single
      ∧ (∀ generation, key = some generation →
          (r.unsubscribe key).cancelledGeneration ≤ max r.cancelledGeneration generation)
      ∧ (key = none → (r.unsubscribe key).cancelledGeneration = r.cancelledGeneration)
      ∧ ∀ g, (r.unsubscribe key).Live g ↔ r.Live g ∧ key ≠ some g := by
  cases key with
  | none =>
      refine ⟨h, fun _ hkey => (by cases hkey), fun _ => rfl, fun g => ?_⟩
      exact ⟨fun hlive => ⟨hlive, fun hkey => (by cases hkey)⟩, fun hlive => hlive.1⟩
  | some generation =>
      unfold SubscriptionRegistry.unsubscribe
      dsimp only
      by_cases hlive : r.Live generation
      · obtain ⟨count, hget⟩ := Option.isSome_iff_exists.mp hlive
        have hone : count = 1 := h generation count hget
        have hhas : r.keyedCounts.has generation = true := hlive
        rw [hget, hone, if_neg (by decide), if_pos hhas]
        refine ⟨fun g count hgone => ?_, fun g _ => le_max_left _ _, fun hkey => (by cases hkey),
          fun g => ?_⟩
        · have herase : (r.keyedCounts.erase generation).get g = some count := hgone
          rw [InsertionMap.get_erase] at herase
          split at herase
          next => cases herase
          next => exact h g count herase
        · show ((r.keyedCounts.erase generation).get g).isSome ↔ _
          rw [InsertionMap.get_erase]
          by_cases hg : generation = g
          · simp [hg]
          · rw [if_neg hg]
            exact ⟨fun hlive => ⟨hlive, fun hkey => hg (Option.some.inj hkey)⟩,
              fun hlive => hlive.1⟩
      · have hnone : r.keyedCounts.get generation = none := Option.not_isSome_iff_eq_none.mp hlive
        have hhas : ¬ r.keyedCounts.has generation = true := hlive
        rw [hnone, if_neg (by decide), if_neg hhas]
        refine ⟨h, fun g hkey => ?_, fun hkey => (by cases hkey), fun g => ?_⟩
        · rw [← Option.some.inj hkey]
        · refine ⟨fun hlive' => ⟨hlive', fun hkey => hlive ?_⟩, fun hlive' => hlive'.1⟩
          rw [Option.some.inj hkey]
          exact hlive'

end SubscriptionRegistry

/-! ## §2. A player's subscription. -/

/-- A subscribe RPC that is not answered; `registered` says whether the
simulation took it on. -/
structure SubscribeCall where
  generation : Nat
  registered : Bool

/-- What the five maps hold for a player, and what is in flight: subscribes
without an answer, answered ones whose `finally` has not run, refreshes that
wait for their unsubscribe, and the unsubscribes of `removeSocket`.  The
simulation runs RPCs in the order they are issued, so `registry` is what it
holds when all issued so far are run. -/
structure PlayerSubscription (σ : Type*) where
  sockets : List Nat
  snapshot : Option σ
  subscribeInFlight : Option Nat
  generation : Nat
  subscriptionKey : Option Nat
  subscribed : Bool
  subscribing : List SubscribeCall
  finishing : List Nat
  refreshing : Nat
  removing : Nat
  registry : SubscriptionRegistry

namespace PlayerSubscription

variable {σ : Type*}

def initial : PlayerSubscription σ := ⟨[], none, none, 0, none, false, [], [], 0, 0, .empty⟩

/-- The part of `subscribeOnce` before its await. -/
def subscribeOnce (s : PlayerSubscription σ) (registered : Bool) : PlayerSubscription σ :=
  if s.subscribed = true ∧ s.snapshot.isSome then s
  else if s.subscribeInFlight.isSome then s
  else
    let generation := s.generation + 1
    { s with
      generation := generation
      subscriptionKey := some generation
      subscribeInFlight := some generation
      subscribing := s.subscribing ++ [⟨generation, registered⟩]
      registry := if registered then s.registry.subscribe generation else s.registry }

def attachSocket (s : PlayerSubscription σ) (socket : Nat) : PlayerSubscription σ :=
  { s with sockets := if socket ∈ s.sockets then s.sockets else s.sockets ++ [socket] }

def removeSocket (s : PlayerSubscription σ) (socket : Nat) : PlayerSubscription σ :=
  if s.sockets = [] then s
  else
    let sockets := s.sockets.erase socket
    if sockets ≠ [] then { s with sockets := sockets }
    else
      { s with
        sockets := []
        snapshot := none
        subscribeInFlight := none
        subscribed := false
        subscriptionKey := none
        removing := s.removing + 1
        registry := s.registry.unsubscribe s.subscriptionKey }

/-- The part of `refreshSnapshot` before its first await; without a key there
is none. -/
def refreshSnapshot (s : PlayerSubscription σ) (registered : Bool) : PlayerSubscription σ :=
  let dropped := { s with subscribed := false, subscribeInFlight := none, snapshot := none }
  match s.subscriptionKey with
  | some key =>
      { dropped with
        subscriptionKey := none
        refreshing := s.refreshing + 1
        registry := s.registry.unsubscribe (some key) }
  | none => dropped.subscribeOnce registered

/-- A subscribe is answered: the `then` of its promise. -/
def answered (s : PlayerSubscription σ) (generation : Nat) (snapshot : σ) : PlayerSubscription σ :=
  let s := { s with
    subscribing := s.subscribing.eraseP (fun call => call.generation = generation)
    finishing := s.finishing ++ [generation] }
  if s.sockets = [] ∨ s.generation ≠ generation then
    { s with registry := s.registry.unsubscribe (some generation) }
  else { s with subscribed := true, snapshot := some snapshot }

def failed (s : PlayerSubscription σ) (generation : Nat) : PlayerSubscription σ :=
  { s with
    subscribing := s.subscribing.eraseP (fun call => call.generation = generation)
    finishing := s.finishing ++ [generation] }

/-- The `finally` of a subscribe. -/
def finish (s : PlayerSubscription σ) (generation : Nat) : PlayerSubscription σ :=
  { s with
    finishing := s.finishing.erase generation
    subscribeInFlight := if s.generation = generation then none else s.subscribeInFlight }

/-- The unsubscribe of a refresh is answered. -/
def resumeRefresh (s : PlayerSubscription σ) (registered : Bool) : PlayerSubscription σ :=
  if 0 < s.refreshing then { s with refreshing := s.refreshing - 1 }.subscribeOnce registered else s

/-- No RPC of the player is in flight. -/
def Quiet (s : PlayerSubscription σ) : Prop :=
  s.subscribing = [] ∧ s.finishing = [] ∧ s.refreshing = 0 ∧ s.removing = 0

end PlayerSubscription

/-- A call, or the completion of an RPC.  Where a call may issue a subscribe,
`registered` says whether the simulation takes it on. -/
inductive SubscriptionStep (σ : Type*) where
  | attachSocket (socket : Nat)
  | addSocket (socket : Nat) (registered : Bool)
  | removeSocket (socket : Nat)
  | ensureSubscribed (registered : Bool)
  | refreshSnapshot (registered : Bool)
  | answered (generation : Nat) (snapshot : σ)
  | failed (generation : Nat)
  | finish (generation : Nat)
  | resumeRefresh (registered : Bool)
  | removed

variable {σ : Type*}

/-- A completion concerns an RPC in flight; only a subscribe that the simulation
took on is answered. -/
def playerStep (s : PlayerSubscription σ) : SubscriptionStep σ → PlayerSubscription σ
  | .attachSocket socket => s.attachSocket socket
  | .addSocket socket registered => (s.attachSocket socket).subscribeOnce registered
  | .removeSocket socket => s.removeSocket socket
  | .ensureSubscribed registered => s.subscribeOnce registered
  | .refreshSnapshot registered => s.refreshSnapshot registered
  | .answered generation snapshot =>
      if ∃ call ∈ s.subscribing, call.generation = generation ∧ call.registered = true then
        s.answered generation snapshot
      else s
  | .failed generation =>
      if ∃ call ∈ s.subscribing, call.generation = generation then s.failed generation else s
  | .finish generation => if generation ∈ s.finishing then s.finish generation else s
  | .resumeRefresh registered => s.resumeRefresh registered
  | .removed => { s with removing := s.removing - 1 }

abbrev Subscriptions (σ : Type*) := PlayerId → PlayerSubscription σ

def subscriptionStep (s : Subscriptions σ) (step : PlayerId × SubscriptionStep σ) :
    Subscriptions σ :=
  Function.update s step.1 (playerStep (s step.1) step.2)

/-! ## §3. What is wanted. -/

/-- **Sound subscriptions**: when no RPC is in flight, a player that is marked
as subscribed and has sockets has a live key, and one without sockets has
none. -/
def SubscriptionsSound (s : Subscriptions σ) : Prop :=
  ∀ playerId, (s playerId).Quiet →
    ((s playerId).subscribed = true → (s playerId).sockets ≠ [] →
      ∃ generation, (s playerId).registry.Live generation)
    ∧ ((s playerId).sockets = [] → ∀ generation, ¬ (s playerId).registry.Live generation)

/-- An answer of the current generation that finds sockets finds its key, and
no subscribe that the simulation took on is reported as failed. -/
def KeepsItsKey (s : Subscriptions σ) : PlayerId × SubscriptionStep σ → Prop
  | (playerId, .answered generation _) =>
      (s playerId).sockets ≠ [] → (s playerId).generation = generation →
        (s playerId).subscriptionKey = some generation
  | (playerId, .failed generation) =>
      ∀ call ∈ (s playerId).subscribing, call.generation = generation → call.registered = false
  | _ => True

/-! ## §4. The books of a player. -/

/-- What holds of keys, generations and the registry in every state. -/
structure SubscriptionBooks (s : PlayerSubscription σ) : Prop where
  single : s.registry.Single
  cancelled : s.registry.cancelledGeneration ≤ s.generation
  keyCurrent : ∀ g, s.subscriptionKey = some g → g = s.generation
  liveOld : ∀ g, s.registry.Live g → g ≤ s.generation
  issued : ∀ call ∈ s.subscribing, call.generation ≤ s.generation
  issuedOnce : (s.subscribing.map SubscribeCall.generation).Nodup
  awaited : ∀ g, s.registry.Live g →
    (∃ call ∈ s.subscribing, call.generation = g ∧ call.registered = true)
      ∨ (s.subscribed = true ∧ s.subscriptionKey = some g)
  takenOn : ∀ call ∈ s.subscribing, call.registered = true →
    s.subscriptionKey = some call.generation → s.registry.Live call.generation
  marked : s.subscribed = true → s.sockets ≠ [] ∧ s.snapshot.isSome
    ∧ ∃ g, s.subscriptionKey = some g ∧ s.registry.Live g

section Books

variable {s : PlayerSubscription σ}

theorem SubscriptionBooks.attachSocket (h : SubscriptionBooks s) (socket : Nat) :
    SubscriptionBooks (s.attachSocket socket) := by
  refine { h with marked := fun hmarked => ?_ }
  obtain ⟨hsockets, hrest⟩ := h.marked hmarked
  refine ⟨?_, hrest⟩
  show (if socket ∈ s.sockets then s.sockets else s.sockets ++ [socket]) ≠ []
  split
  · exact hsockets
  · simp

/-- **A new generation** gets a key of its own; keys of older ones are awaited
by their answers. -/
theorem SubscriptionBooks.subscribeOnce (h : SubscriptionBooks s) (registered : Bool) :
    SubscriptionBooks (s.subscribeOnce registered) := by
  unfold PlayerSubscription.subscribeOnce
  split
  next => exact h
  next hcold =>
    split
    next => exact h
    next =>
      have hunmarked : s.subscribed = false := by
        cases hsub : s.subscribed with
        | false => rfl
        | true => exact absurd ⟨hsub, (h.marked hsub).2.1⟩ hcold
      have hnew : ¬ s.registry.Live (s.generation + 1) := by
        intro hlive
        have := h.liveOld _ hlive
        omega
      have hregistry : (if registered then s.registry.subscribe (s.generation + 1)
            else s.registry).Single
          ∧ (if registered then s.registry.subscribe (s.generation + 1)
            else s.registry).cancelledGeneration = s.registry.cancelledGeneration
          ∧ ∀ g, (if registered then s.registry.subscribe (s.generation + 1)
              else s.registry).Live g
            ↔ (registered = true ∧ g = s.generation + 1) ∨ s.registry.Live g := by
        cases registered with
        | true =>
            obtain ⟨hsingle, hcancelled, hlive⟩ := SubscriptionRegistry.subscribe_spec h.single
              (Nat.lt_succ_of_le h.cancelled) hnew
            refine ⟨hsingle, hcancelled, fun g => (hlive g).trans ?_⟩
            simp
        | false => exact ⟨h.single, rfl, fun g => by simp⟩
      obtain ⟨hsingle, hcancelled, hlive⟩ := hregistry
      refine
        { single := hsingle
          cancelled := ?_
          keyCurrent := fun g hkey => (Option.some.inj hkey).symm
          liveOld := ?_
          issued := ?_
          issuedOnce := ?_
          awaited := ?_
          takenOn := ?_
          marked := fun hmarked => ?_ }
      · show (if registered then s.registry.subscribe (s.generation + 1)
          else s.registry).cancelledGeneration ≤ s.generation + 1
        have := h.cancelled
        omega
      · intro g hg
        show g ≤ s.generation + 1
        rcases (hlive g).mp hg with ⟨_, hnow⟩ | hold
        · omega
        · have := h.liveOld g hold
          omega
      · intro call hcall
        show call.generation ≤ s.generation + 1
        rcases List.mem_append.mp hcall with hold | hlast
        · have := h.issued call hold
          omega
        · rw [List.mem_singleton.mp hlast]
      · show ((s.subscribing ++ [_]).map SubscribeCall.generation).Nodup
        rw [List.map_append, List.nodup_append]
        refine ⟨h.issuedOnce, List.nodup_singleton _, fun a ha b hb => ?_⟩
        obtain ⟨call, hcall, rfl⟩ := List.mem_map.mp ha
        have hold := h.issued call hcall
        rw [List.map_singleton, List.mem_singleton] at hb
        rw [hb]
        show call.generation ≠ s.generation + 1
        omega
      · intro g hg
        rcases (hlive g).mp hg with ⟨hreg, hnow⟩ | hold
        · exact Or.inl ⟨⟨s.generation + 1, registered⟩,
            List.mem_append_right _ List.mem_cons_self, hnow.symm, hreg⟩
        · rcases h.awaited g hold with ⟨call, hcall, hg⟩ | ⟨hsub, _⟩
          · exact Or.inl ⟨call, List.mem_append_left _ hcall, hg⟩
          · rw [hunmarked] at hsub
            cases hsub
      · intro call hcall hreg hkey
        have hgeneration : s.generation + 1 = call.generation := Option.some.inj hkey
        rcases List.mem_append.mp hcall with hold | hlast
        · have := h.issued call hold
          omega
        · rw [List.mem_singleton.mp hlast] at hreg ⊢
          exact (hlive _).mpr (Or.inl ⟨hreg, rfl⟩)
      · have hsub : s.subscribed = true := hmarked
        rw [hunmarked] at hsub
        cases hsub

/-- **Dropping the key** unsubscribes it, and nothing is marked. -/
theorem SubscriptionBooks.drop (h : SubscriptionBooks s) {s' : PlayerSubscription σ}
    (hsubscribed : s'.subscribed = false) (hkey : s'.subscriptionKey = none)
    (hgeneration : s'.generation = s.generation) (hsubscribing : s'.subscribing = s.subscribing)
    (hregistry : s'.registry = s.registry.unsubscribe s.subscriptionKey) :
    SubscriptionBooks s' := by
  obtain ⟨hsingle, hsome, hnone, hlive⟩ :=
    SubscriptionRegistry.unsubscribe_spec h.single s.subscriptionKey
  refine
    { single := ?_
      cancelled := ?_
      keyCurrent := fun g hg => ?_
      liveOld := fun g hg => ?_
      issued := ?_
      issuedOnce := ?_
      awaited := fun g hg => ?_
      takenOn := fun call _ _ hg => ?_
      marked := fun hmarked => ?_ }
  · rw [hregistry]
    exact hsingle
  · rw [hregistry, hgeneration]
    have hold := h.cancelled
    cases hk : s.subscriptionKey with
    | none =>
        rw [hk] at hnone
        have := hnone rfl
        omega
    | some g =>
        have hcurrent := h.keyCurrent g hk
        have := hsome g hk
        rw [hk] at this
        omega
  · rw [hkey] at hg
    cases hg
  · rw [hregistry] at hg
    rw [hgeneration]
    exact h.liveOld g ((hlive g).mp hg).1
  · rw [hsubscribing, hgeneration]
    exact h.issued
  · rw [hsubscribing]
    exact h.issuedOnce
  · rw [hregistry] at hg
    obtain ⟨hold, hnot⟩ := (hlive g).mp hg
    rw [hsubscribing]
    exact Or.inl ((h.awaited g hold).resolve_right (fun hmarked => hnot hmarked.2))
  · rw [hkey] at hg
    cases hg
  · rw [hsubscribed] at hmarked
    cases hmarked

theorem SubscriptionBooks.removeSocket (h : SubscriptionBooks s) (socket : Nat) :
    SubscriptionBooks (s.removeSocket socket) := by
  unfold PlayerSubscription.removeSocket
  split
  next => exact h
  next =>
    dsimp only
    split
    next hleft => exact { h with marked := fun hmarked => ⟨hleft, (h.marked hmarked).2⟩ }
    next => exact h.drop rfl rfl rfl rfl rfl

theorem SubscriptionBooks.refreshSnapshot (h : SubscriptionBooks s) (registered : Bool) :
    SubscriptionBooks (s.refreshSnapshot registered) := by
  unfold PlayerSubscription.refreshSnapshot
  split
  next key hkey => exact h.drop rfl rfl rfl rfl (by rw [hkey])
  next hkey =>
    have hunmarked : s.subscribed = false := by
      cases hsub : s.subscribed with
      | false => rfl
      | true =>
          obtain ⟨_, _, g, hg, _⟩ := h.marked hsub
          rw [hkey] at hg
          cases hg
    have hdropped : SubscriptionBooks
        { s with subscribed := false, subscribeInFlight := none, snapshot := (none : Option σ) } := by
      refine { h with
        awaited := fun g hg => Or.inl ((h.awaited g hg).resolve_right (fun hmarked => ?_))
        marked := fun hmarked => (by cases hmarked) }
      rw [hunmarked] at hmarked
      cases hmarked.1
    exact hdropped.subscribeOnce registered

theorem mem_eraseP_generation {calls : List SubscribeCall} {g : Nat}
    (hnodup : (calls.map SubscribeCall.generation).Nodup) (call : SubscribeCall) :
    call ∈ calls.eraseP (fun call => call.generation = g) ↔ call ∈ calls ∧ call.generation ≠ g := by
  induction calls with
  | nil => simp
  | cons first calls ih =>
      rw [List.map_cons, List.nodup_cons] at hnodup
      by_cases hfirst : first.generation = g
      · rw [List.eraseP_cons_of_pos (by simpa using hfirst), List.mem_cons]
        refine ⟨fun hmem => ⟨Or.inr hmem, fun hg => hnodup.1 ?_⟩, fun hmem => ?_⟩
        · rw [hfirst, ← hg]
          exact List.mem_map_of_mem hmem
        · refine hmem.1.resolve_left (fun heq => hmem.2 ?_)
          rw [heq]
          exact hfirst
      · rw [List.eraseP_cons_of_neg (by simpa using hfirst), List.mem_cons, List.mem_cons,
          ih hnodup.2]
        constructor
        · rintro (rfl | ⟨hmem, hg⟩)
          · exact ⟨Or.inl rfl, hfirst⟩
          · exact ⟨Or.inr hmem, hg⟩
        · rintro ⟨rfl | hmem, hg⟩
          · exact Or.inl rfl
          · exact Or.inr ⟨hmem, hg⟩

/-- **A late answer** unsubscribes its own key, one that is in time marks the
player. -/
theorem SubscriptionBooks.answered (h : SubscriptionBooks s) {call : SubscribeCall}
    (hcall : call ∈ s.subscribing) (hregistered : call.registered = true) (snapshot : σ)
    (hkept : s.sockets ≠ [] → s.generation = call.generation →
      s.subscriptionKey = some call.generation) :
    SubscriptionBooks (s.answered call.generation snapshot) := by
  have hmem := fun c => mem_eraseP_generation (g := call.generation) h.issuedOnce c
  have honce : ((s.subscribing.eraseP
      (fun c => c.generation = call.generation)).map SubscribeCall.generation).Nodup :=
    h.issuedOnce.sublist (List.eraseP_sublist.map _)
  unfold PlayerSubscription.answered
  dsimp only
  split
  next hlate =>
    obtain ⟨hsingle, hsome, _, hlive⟩ :=
      SubscriptionRegistry.unsubscribe_spec h.single (some call.generation)
    refine
      { single := hsingle
        cancelled := ?_
        keyCurrent := h.keyCurrent
        liveOld := fun g hg => h.liveOld g ((hlive g).mp hg).1
        issued := fun c hc => h.issued c ((hmem c).mp hc).1
        issuedOnce := honce
        awaited := fun g hg => ?_
        takenOn := fun c hc hreg hkey => ?_
        marked := fun hmarked => ?_ }
    · have hcancelled := hsome call.generation rfl
      have hold := h.cancelled
      have hissued := h.issued call hcall
      show (s.registry.unsubscribe (some call.generation)).cancelledGeneration ≤ s.generation
      omega
    · obtain ⟨hold, hnot⟩ := (hlive g).mp hg
      rcases h.awaited g hold with ⟨c, hc, hcg, hreg⟩ | hmarked
      · refine Or.inl ⟨c, (hmem c).mpr ⟨hc, fun heq => hnot ?_⟩, hcg, hreg⟩
        rw [← hcg, heq]
      · exact Or.inr hmarked
    · obtain ⟨hold, hne⟩ := (hmem c).mp hc
      exact (hlive _).mpr ⟨h.takenOn c hold hreg hkey, fun heq => hne (Option.some.inj heq).symm⟩
    · obtain ⟨hsockets, hsnapshot, g, hkey, hg⟩ := h.marked hmarked
      refine ⟨hsockets, hsnapshot, g, hkey, (hlive g).mpr ⟨hg, fun heq => ?_⟩⟩
      -- the marked key is of the current generation
      have hcurrent := h.keyCurrent g hkey
      rw [← Option.some.inj heq] at hcurrent
      exact hlate.elim hsockets (fun hne => hne hcurrent.symm)
  next htimely =>
    obtain ⟨hsockets, hgeneration⟩ := not_or.mp htimely
    have hkey : s.subscriptionKey = some call.generation := hkept hsockets (not_not.mp hgeneration)
    refine { h with
      issued := fun c hc => h.issued c ((hmem c).mp hc).1
      issuedOnce := honce
      awaited := fun g hg => ?_
      takenOn := fun c hc => h.takenOn c ((hmem c).mp hc).1
      marked := fun _ => ⟨hsockets, rfl, call.generation, hkey, h.takenOn call hcall hregistered hkey⟩ }
    by_cases heq : g = call.generation
    · rw [heq]
      exact Or.inr ⟨rfl, hkey⟩
    · rcases h.awaited g hg with ⟨c, hc, hcg, hreg⟩ | hmarked
      · exact Or.inl ⟨c, (hmem c).mpr ⟨hc, fun hc' => heq (hcg.symm.trans hc')⟩, hcg, hreg⟩
      · exact Or.inr ⟨rfl, hmarked.2⟩

theorem SubscriptionBooks.failed (h : SubscriptionBooks s) {generation : Nat}
    (hrefused : ∀ call ∈ s.subscribing, call.generation = generation → call.registered = false) :
    SubscriptionBooks (s.failed generation) := by
  have hmem := fun c => mem_eraseP_generation (g := generation) h.issuedOnce c
  refine { h with
    issued := fun c hc => h.issued c ((hmem c).mp hc).1
    issuedOnce := h.issuedOnce.sublist (List.eraseP_sublist.map _)
    awaited := fun g hg => ?_
    takenOn := fun c hc => h.takenOn c ((hmem c).mp hc).1 }
  rcases h.awaited g hg with ⟨c, hc, hcg, hreg⟩ | hmarked
  · refine Or.inl ⟨c, (hmem c).mpr ⟨hc, fun heq => ?_⟩, hcg, hreg⟩
    rw [hrefused c hc heq] at hreg
    cases hreg
  · exact Or.inr hmarked

end Books

/-! ## §5. Every run. -/

def AllBooks (s : Subscriptions σ) : Prop := ∀ playerId, SubscriptionBooks (s playerId)

/-- **The step lemma.** -/
theorem books_playerStep {s : Subscriptions σ} (h : AllBooks s)
    {step : PlayerId × SubscriptionStep σ} (hkept : KeepsItsKey s step) :
    SubscriptionBooks (playerStep (s step.1) step.2) := by
  obtain ⟨playerId, step⟩ := step
  have hbooks := h playerId
  show SubscriptionBooks (playerStep (s playerId) step)
  cases step with
  | attachSocket socket => exact hbooks.attachSocket socket
  | addSocket socket registered => exact (hbooks.attachSocket socket).subscribeOnce registered
  | removeSocket socket => exact hbooks.removeSocket socket
  | ensureSubscribed registered => exact hbooks.subscribeOnce registered
  | refreshSnapshot registered => exact hbooks.refreshSnapshot registered
  | answered generation snapshot =>
      show SubscriptionBooks (if _ then _ else _)
      split
      next hflight =>
        obtain ⟨call, hcall, rfl, hregistered⟩ := hflight
        exact hbooks.answered hcall hregistered snapshot hkept
      next => exact hbooks
  | failed generation =>
      show SubscriptionBooks (if _ then _ else _)
      split
      next => exact hbooks.failed hkept
      next => exact hbooks
  | finish generation =>
      show SubscriptionBooks (if _ then _ else _)
      split
      next => exact { hbooks with }
      next => exact hbooks
  | resumeRefresh registered =>
      show SubscriptionBooks ((s playerId).resumeRefresh registered)
      unfold PlayerSubscription.resumeRefresh
      split
      next =>
        have hresumed : SubscriptionBooks
            { s playerId with refreshing := (s playerId).refreshing - 1 } := { hbooks with }
        exact hresumed.subscribeOnce registered
      next => exact hbooks
  | removed => exact { hbooks with }

theorem allBooks_subscriptionStep {s : Subscriptions σ} (h : AllBooks s)
    (step : PlayerId × SubscriptionStep σ) (hkept : KeepsItsKey s step) :
    AllBooks (subscriptionStep s step) := by
  intro playerId
  unfold subscriptionStep
  by_cases hplayer : playerId = step.1
  · subst hplayer
    rw [Function.update_self]
    exact books_playerStep h hkept
  · rw [Function.update_of_ne hplayer]
    exact h playerId

theorem allBooks_initial : AllBooks (fun _ => (.initial : PlayerSubscription σ)) := by
  intro playerId
  have hdead : ∀ g, ¬ SubscriptionRegistry.empty.Live g := fun g hg => (by cases hg)
  exact
    { single := fun _ _ hget => (by cases hget)
      cancelled := Nat.le_refl _
      keyCurrent := fun _ hkey => (by cases hkey)
      liveOld := fun g hg => absurd hg (hdead g)
      issued := fun _ hcall => absurd hcall List.not_mem_nil
      issuedOnce := List.nodup_nil
      awaited := fun g hg => absurd hg (hdead g)
      takenOn := fun _ hcall => absurd hcall List.not_mem_nil
      marked := fun hmarked => (by cases hmarked) }

theorem sound_of_books {s : Subscriptions σ} (h : AllBooks s) : SubscriptionsSound s := by
  intro playerId hquiet
  have hbooks := h playerId
  refine ⟨fun hmarked _ => ?_, fun hsockets g hg => ?_⟩
  · obtain ⟨_, _, g, _, hg⟩ := hbooks.marked hmarked
    exact ⟨g, hg⟩
  · rcases hbooks.awaited g hg with ⟨call, hcall, _⟩ | ⟨hmarked, _⟩
    · rw [hquiet.1] at hcall
      exact absurd hcall List.not_mem_nil
    · exact (hbooks.marked hmarked).1 hsockets

/-- **Every run that keeps its keys is sound**: when no answer of the current
generation finds sockets but its key dropped, and no subscribe that was taken
on is reported as failed, every state of the run is sound. -/
theorem subscriptions_sound (steps : List (PlayerId × SubscriptionStep σ))
    (h : Run.StepsMeet subscriptionStep KeepsItsKey (fun _ => (.initial : PlayerSubscription σ))
      steps) :
    Run.Along subscriptionStep SubscriptionsSound (fun _ => (.initial : PlayerSubscription σ))
      steps := by
  have hkept := Run.along_of_stepsMeet (I := AllBooks)
    (fun s step hs hstep => allBooks_subscriptionStep hs step hstep) steps _ allBooks_initial h
  exact Run.Along.mono (fun s hs => sound_of_books hs) steps _ hkept

/-! ## §6. A key dropped before the answer. -/

def comeAndGo : List (PlayerId × SubscriptionStep Unit) :=
  [(playerOne, .addSocket 0 true), (playerOne, .answered 1 ()), (playerOne, .finish 1),
    (playerOne, .removeSocket 0), (playerOne, .removed)]

theorem subscriptions_sound_comeAndGo :
    Run.Along subscriptionStep SubscriptionsSound (fun _ => .initial) comeAndGo := by
  refine subscriptions_sound comeAndGo ⟨trivial, fun _ _ => ?_, trivial, trivial, trivial, trivial⟩
  rfl

/-- The only socket leaves before the answer, and another is attached that
does not subscribe. -/
def attachedInGap : List (PlayerId × SubscriptionStep Unit) :=
  [(playerOne, .addSocket 0 true), (playerOne, .removeSocket 0), (playerOne, .attachSocket 1),
    (playerOne, .answered 1 ()), (playerOne, .finish 1), (playerOne, .removed)]

theorem attached_in_gap_unsubscribed :
    ¬ Run.Along subscriptionStep SubscriptionsSound (fun _ => .initial) attachedInGap := by
  rintro ⟨_, _, _, _, _, _, hlast⟩
  obtain ⟨generation, hlive⟩ := (hlast playerOne ⟨rfl, rfl, rfl, rfl⟩).1 rfl (by decide)
  exact absurd hlive (fun hget => (by cases hget))

end BorderEmpires.Gateway
