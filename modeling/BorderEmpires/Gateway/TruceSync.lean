/-
  BorderEmpires.Gateway.TruceSync
  **TRUCES TOLD TO THE SIMULATION.**

  The gateway owns truces; the simulation only knows what it is told.  Each
  sync call submits one command, and the gateway believes it when the submit
  is acknowledged, whether or not the simulation then rejects it.  A periodic
  pass tells the simulation again of every pair where that belief is not what
  the gateway has.

  The gateway knows every player who has logged in; the simulation has those
  who have joined the season.  A pair is known by its text key, and the pass
  reads the two players of a known key off that text.
-/
import BorderEmpires.Social.Records

namespace BorderEmpires.Gateway

open BorderEmpires.Social (SamePair SocialActiveTruce pairKey pairKey_comm)

/-! ## §1. Pairs. -/

/-- The same text as the social state's own key. -/
def truceSimPairKey (playerAId playerBId : PlayerId) : String := pairKey playerAId playerBId

/-- A piece of a split key, unless it is empty. -/
def playerNamed (piece : List Char) : Option PlayerId :=
  if h : String.ofList piece = "" then none else some ⟨String.ofList piece, h⟩

/-- `pairKey.split(":")`: what stands before the first colon and between it
and the next. -/
def truceSimPairNames (key : String) : Option (PlayerId × PlayerId) :=
  match key.toList.splitOn ':' with
  | first :: second :: _ =>
      (playerNamed first).bind (fun a => (playerNamed second).map (fun b => (a, b)))
  | _ => none

/-- The key is split into the two players, in either order. -/
def NamesPair (key : String) (a b : PlayerId) : Prop :=
  ∃ names ∈ truceSimPairNames key, SamePair a b names.1 names.2

instance decidableNamesPair (key : String) (a b : PlayerId) : Decidable (NamesPair key a b) :=
  inferInstanceAs (Decidable (∃ names ∈ truceSimPairNames key, _))

theorem truceSimPairKey_congr {a b a' b' : PlayerId} (h : SamePair a b a' b') :
    truceSimPairKey a b = truceSimPairKey a' b' :=
  h.pairKey_eq

theorem samePair_swap {a b c d : PlayerId} : SamePair b a c d ↔ SamePair a b c d :=
  ⟨fun h => (Or.comm.mp h).imp And.symm And.symm, fun h => (Or.comm.mp h).imp And.symm And.symm⟩

theorem playerNamed_toList (a : PlayerId) : playerNamed a.text.toList = some a := by
  unfold playerNamed
  rw [dif_neg (by rw [String.ofList_toList]; exact a.nonempty)]
  obtain ⟨text, _⟩ := a
  simp

/-- **Ids without a colon** are read off their key again. -/
theorem namesPair_truceSimPairKey {a b : PlayerId} (ha : ':' ∉ a.text.toList)
    (hb : ':' ∉ b.text.toList) : NamesPair (truceSimPairKey a b) a b := by
  have hsplit : ∀ {p q : PlayerId}, ':' ∉ p.text.toList → ':' ∉ q.text.toList →
      truceSimPairNames (p.text ++ ":" ++ q.text) = some (p, q) := by
    intro p q hp hq
    have hpieces : (p.text ++ ":" ++ q.text).toList.splitOn ':'
        = [p.text.toList, q.text.toList] := by
      rw [show (p.text ++ ":" ++ q.text).toList
          = List.intercalate [':'] [p.text.toList, q.text.toList] by
            simp [List.intercalate, List.intersperse]]
      exact List.splitOn_intercalate ':' (by simp [hp, hq]) (by simp)
    unfold truceSimPairNames
    rw [hpieces]
    simp only [playerNamed_toList, Option.bind_some, Option.map_some]
  unfold NamesPair truceSimPairKey pairKey Social.orderedPair
  split
  · exact ⟨(a, b), hsplit ha hb, Or.inl ⟨rfl, rfl⟩⟩
  · exact ⟨(b, a), hsplit hb ha, Or.inr ⟨rfl, rfl⟩⟩

/-! ## §2. The simulation's side. -/

structure SimPlayer where
  truces : PlayerId → Bool
  truceEndsAt : PlayerId → Option ℤ

/-- `player.truces` and `setTruceEndsAt` after a sync with the partner. -/
def SimPlayer.withTruce (player : SimPlayer) (partnerId : PlayerId) (truced : Bool)
    (endsAt : Option ℤ) : SimPlayer where
  truces := fun p => if p = partnerId then truced else player.truces p
  truceEndsAt := fun p =>
    if p = partnerId then (if truced then endsAt else none) else player.truceEndsAt p

abbrev SimPlayers := PlayerId → Option SimPlayer

/-- A player who joins the season starts without truces. -/
def SimPlayers.join (players : SimPlayers) (playerId : PlayerId) : SimPlayers :=
  fun p =>
    if p = playerId then some ((players p).getD ⟨fun _ => false, fun _ => none⟩) else players p

/-- A SYNC_TRUCE command and the call that submitted it. -/
structure SyncCall where
  callId : Nat
  playerId : PlayerId
  targetPlayerId : PlayerId
  truced : Bool
  endsAt : Option ℤ

/-- The command changes both players; with a player missing, or both the
same, it is rejected. -/
def handleSyncTruceCommand (players : SimPlayers) (command : SyncCall) : SimPlayers :=
  match players command.playerId, players command.targetPlayerId with
  | some actor, some target =>
      if command.targetPlayerId = command.playerId then players
      else fun p =>
        if p = command.playerId then
          some (actor.withTruce command.targetPlayerId command.truced command.endsAt)
        else if p = command.targetPlayerId then
          some (target.withTruce command.playerId command.truced command.endsAt)
        else players p
  | _, _ => players

/-- Whether the simulation holds `a` as truced with `b`, and until when. -/
def trucedUntil (players : SimPlayers) (a b : PlayerId) : Option (Option ℤ) :=
  (players a).bind (fun player =>
    if player.truces b then some (player.truceEndsAt b) else none)

/-- Both players have joined. -/
def BothPlay (players : SimPlayers) (a b : PlayerId) : Prop :=
  (players a).isSome ∧ (players b).isSome

instance decidableBothPlay (players : SimPlayers) (a b : PlayerId) :
    Decidable (BothPlay players a b) :=
  inferInstanceAs (Decidable (_ ∧ _))

/-! ## §3. The gateway's side. -/

/-- `wire` holds the submitted commands that have not arrived, `queue` those
the simulation accepted and has not run, `accepted` the ids of all it
accepted, and `awaiting` the calls whose promise is pending. -/
structure TruceSyncState where
  trucesByPair : InsertionMap String SocialActiveTruce
  simulation : SimPlayers
  knownSimTrucePairs : InsertionMap String (Option ℤ)
  initialPairsSeeded : Bool
  nextCallId : Nat
  wire : List SyncCall
  queue : List SyncCall
  accepted : List Nat
  awaiting : List SyncCall

/-- What a gateway starts with: the persisted truces, read before the expired
ones are dropped, and the simulation as it finds it. -/
structure TruceBoot where
  activeTruces : List SocialActiveTruce
  now : ℤ
  simulation : SimPlayers

/-- `persistedSocialSnapshot.activeTruces`, by their players. -/
def TruceBoot.initialTrucePairs (boot : TruceBoot) : List (PlayerId × PlayerId) :=
  boot.activeTruces.map (fun truce => (truce.playerAId, truce.playerBId))

namespace TruceSyncState

/-- Every persisted truce is set, then the expired ones are swept. -/
def boot (b : TruceBoot) : TruceSyncState where
  trucesByPair := (InsertionMap.ofEntries (b.activeTruces.map
    (fun truce => (pairKey truce.playerAId truce.playerBId, truce)))).eraseWhere
      (fun _ truce => truce.endsAt ≤ b.now)
  simulation := b.simulation
  knownSimTrucePairs := .empty
  initialPairsSeeded := false
  nextCallId := 0
  wire := []
  queue := []
  accepted := []
  awaiting := []

/-- `socialState.activeTruceEndsAt`. -/
def endsAtOf (s : TruceSyncState) (playerAId playerBId : PlayerId) : Option ℤ :=
  (s.trucesByPair.get (pairKey playerAId playerBId)).map SocialActiveTruce.endsAt

/-- `socialState.activeTrucePairs`. -/
def activeTrucePairs (s : TruceSyncState) : List (PlayerId × PlayerId) :=
  s.trucesByPair.entries.map (fun entry => (entry.2.playerAId, entry.2.playerBId))

def activeKeys (s : TruceSyncState) : List String :=
  s.activeTrucePairs.map (fun p => truceSimPairKey p.1 p.2)

/-- The call of `syncTruceToSimulation` up to its await. -/
def syncTruceToSimulation (s : TruceSyncState) (connected : Bool)
    (playerId targetPlayerId : PlayerId) (truced : Bool) : TruceSyncState :=
  if connected then
    let endsAt := if truced then s.endsAtOf playerId targetPlayerId else none
    let call : SyncCall := ⟨s.nextCallId, playerId, targetPlayerId, truced, endsAt⟩
    { s with
      nextCallId := s.nextCallId + 1
      wire := s.wire ++ [call]
      awaiting := s.awaiting ++ [call] }
  else s

/-- The command reaches the simulation, which acknowledges it on acceptance. -/
def arrive (s : TruceSyncState) (callId : Nat) : TruceSyncState :=
  match s.wire.find? (fun call => call.callId = callId) with
  | none => s
  | some call =>
      { s with
        wire := s.wire.eraseP (fun call => call.callId = callId)
        queue := s.queue ++ [call]
        accepted := s.accepted ++ [callId] }

/-- The command is lost on the way. -/
def lose (s : TruceSyncState) (callId : Nat) : TruceSyncState :=
  { s with wire := s.wire.eraseP (fun call => call.callId = callId) }

/-- The oldest accepted command is run, or rejected. -/
def runNext (s : TruceSyncState) : TruceSyncState :=
  match s.queue with
  | [] => s
  | command :: rest =>
      { s with
        simulation := handleSyncTruceCommand s.simulation command
        queue := rest }

/-- The promise of the call is settled: fulfilled only if the simulation has
accepted the command, rejected at any time. -/
def settle (s : TruceSyncState) (callId : Nat) (fulfilled : Bool) : TruceSyncState :=
  match s.awaiting.find? (fun call => call.callId = callId) with
  | none => s
  | some call =>
      let s := { s with awaiting := s.awaiting.eraseP (fun call => call.callId = callId) }
      if fulfilled = true ∧ callId ∈ s.accepted then
        let pairKey := truceSimPairKey call.playerId call.targetPlayerId
        { s with
          knownSimTrucePairs :=
            if call.truced then s.knownSimTrucePairs.set pairKey call.endsAt
            else s.knownSimTrucePairs.erase pairKey }
      else s

/-- The first pass takes the persisted truces that are over for known. -/
def seedInitialPairs (s : TruceSyncState) (initialTrucePairs : List (PlayerId × PlayerId)) :
    TruceSyncState :=
  if s.initialPairsSeeded then s
  else
    { s with
      knownSimTrucePairs := initialTrucePairs.foldl
        (fun known pair =>
          let key := truceSimPairKey pair.1 pair.2
          if key ∈ s.activeKeys then known else known.set key none)
        s.knownSimTrucePairs
      initialPairsSeeded := true }

/-- A call that is submitted, accepted, run and acknowledged at once. -/
def delivered (s : TruceSyncState) (playerId targetPlayerId : PlayerId) (truced : Bool) :
    TruceSyncState :=
  let callId := s.nextCallId
  (((s.syncTruceToSimulation true playerId targetPlayerId truced).arrive callId).runNext).settle
    callId true

/-- An active truce is told unless it is known with its end time. -/
def resync (s : TruceSyncState) (pair : PlayerId × PlayerId) : TruceSyncState :=
  if s.knownSimTrucePairs.get (truceSimPairKey pair.1 pair.2) = some (s.endsAtOf pair.1 pair.2) then s
  else s.delivered pair.1 pair.2 true

/-- A known key without an active truce ends the pair it is split into. -/
def clearKnown (activeKeys : List String) (s : TruceSyncState) (pairKey : String) :
    TruceSyncState :=
  if pairKey ∈ activeKeys then s
  else
    match truceSimPairNames pairKey with
    | none => s
    | some (playerAId, playerBId) => s.delivered playerAId playerBId false

/-- **A pass with every submit succeeding.** -/
def syncExpiredTruces (s : TruceSyncState) (initialTrucePairs : List (PlayerId × PlayerId)) :
    TruceSyncState :=
  let resynced := s.activeTrucePairs.foldl resync (s.seedInitialPairs initialTrucePairs)
  resynced.knownSimTrucePairs.keys.foldl (clearKnown s.activeKeys) resynced

end TruceSyncState

/-- What happens before the pass.  A truce starts, or is extended, between any
two players the gateway knows; it ends when it is broken or its time is over.
An earlier pass is its seeding and its calls. -/
inductive TruceStep where
  | starts (truce : SocialActiveTruce)
  | ends (playerAId playerBId : PlayerId)
  | joins (playerId : PlayerId)
  | sync (connected : Bool) (playerId targetPlayerId : PlayerId) (truced : Bool)
  | seed
  | arrive (callId : Nat)
  | lose (callId : Nat)
  | runNext
  | settle (callId : Nat) (fulfilled : Bool)

def truceStep (boot : TruceBoot) (s : TruceSyncState) : TruceStep → TruceSyncState
  | .starts truce =>
      if truce.playerAId = truce.playerBId then s
      else
        { s with
          trucesByPair := s.trucesByPair.set (pairKey truce.playerAId truce.playerBId) truce }
  | .ends a b => { s with trucesByPair := s.trucesByPair.erase (pairKey a b) }
  | .joins playerId => { s with simulation := s.simulation.join playerId }
  | .sync connected playerId targetPlayerId truced =>
      s.syncTruceToSimulation connected playerId targetPlayerId truced
  | .seed => s.seedInitialPairs boot.initialTrucePairs
  | .arrive callId => s.arrive callId
  | .lose callId => s.lose callId
  | .runNext => s.runNext
  | .settle callId fulfilled => s.settle callId fulfilled

def truceRun (boot : TruceBoot) (steps : List TruceStep) : TruceSyncState :=
  steps.foldl (truceStep boot) (.boot boot)

namespace TruceSyncState

variable (s : TruceSyncState)

/-- Nothing is in flight. -/
def Quiet : Prop := s.wire = [] ∧ s.queue = [] ∧ s.awaiting = []

/-- The end of the gateway's truce between the two players. -/
def truceBetween (a b : PlayerId) : Option ℤ :=
  ((s.trucesByPair.get (pairKey a b)).filter
    (fun truce => SamePair truce.playerAId truce.playerBId a b)).map SocialActiveTruce.endsAt

/-- **The simulation holds the gateway's truces**, with their end times, and
no others. -/
def Repaired : Prop := ∀ a b, a ≠ b → trucedUntil s.simulation a b = (s.truceBetween a b).map some

/-- The keys without an active truce that are known, or that a first pass
takes for known. -/
def staleKeys (initialTrucePairs : List (PlayerId × PlayerId)) : List String :=
  (s.knownSimTrucePairs.keys ++ if s.initialPairsSeeded then []
    else initialTrucePairs.map (fun p => truceSimPairKey p.1 p.2)).filter (· ∉ s.activeKeys)

/-- A stale key is split into the two players. -/
def EndsPair (initialTrucePairs : List (PlayerId × PlayerId)) (a b : PlayerId) : Prop :=
  ∃ key ∈ s.staleKeys initialTrucePairs, NamesPair key a b

instance decidableEndsPair (initialTrucePairs : List (PlayerId × PlayerId)) (a b : PlayerId) :
    Decidable (s.EndsPair initialTrucePairs a b) :=
  inferInstanceAs (Decidable (∃ key ∈ s.staleKeys initialTrucePairs, _))

/-- **What a pass needs of two players.**  A truce of theirs is between
players who have joined, no stale key is split into them, and if it is known
with its end time then the simulation holds it so.  Without a truce, what the
simulation holds of them is between players who have joined, and a stale key
is split into them. -/
structure Repairable (initialTrucePairs : List (PlayerId × PlayerId)) (a b : PlayerId) : Prop where
  truced : ∀ endsAt, s.truceBetween a b = some endsAt →
    BothPlay s.simulation a b ∧ ¬ s.EndsPair initialTrucePairs a b
      ∧ (s.knownSimTrucePairs.get (truceSimPairKey a b) = some (some endsAt) →
          trucedUntil s.simulation a b = some (some endsAt))
  ended : s.truceBetween a b = none → trucedUntil s.simulation a b ≠ none →
    BothPlay s.simulation a b ∧ s.EndsPair initialTrucePairs a b

end TruceSyncState

/-! ## §4. A command in the simulation. -/

section Simulation

variable {players : SimPlayers} {command : SyncCall}

theorem BothPlay.swap {a b : PlayerId} (h : BothPlay players a b) : BothPlay players b a :=
  ⟨h.2, h.1⟩

theorem handleSyncTruceCommand_of_present {actor target : SimPlayer}
    (hactor : players command.playerId = some actor)
    (htarget : players command.targetPlayerId = some target)
    (hne : command.targetPlayerId ≠ command.playerId) (p : PlayerId) :
    handleSyncTruceCommand players command p
      = if p = command.playerId then
          some (actor.withTruce command.targetPlayerId command.truced command.endsAt)
        else if p = command.targetPlayerId then
          some (target.withTruce command.playerId command.truced command.endsAt)
        else players p := by
  unfold handleSyncTruceCommand
  rw [hactor, htarget]
  dsimp only
  rw [if_neg hne]

theorem handleSyncTruceCommand_rejected
    (h : ¬ (BothPlay players command.playerId command.targetPlayerId
      ∧ command.targetPlayerId ≠ command.playerId)) :
    handleSyncTruceCommand players command = players := by
  unfold handleSyncTruceCommand
  split
  next actor target hactor htarget =>
    by_cases heq : command.targetPlayerId = command.playerId
    · rw [if_pos heq]
    · refine absurd ⟨⟨?_, ?_⟩, heq⟩ h
      · rw [hactor]
        rfl
      · rw [htarget]
        rfl
  next => rfl

/-- **No command adds or removes a player.** -/
theorem isSome_handleSyncTruceCommand (players : SimPlayers) (command : SyncCall) (p : PlayerId) :
    (handleSyncTruceCommand players command p).isSome = (players p).isSome := by
  by_cases hgood : BothPlay players command.playerId command.targetPlayerId
      ∧ command.targetPlayerId ≠ command.playerId
  · obtain ⟨⟨hactor, htarget⟩, hne⟩ := hgood
    obtain ⟨actor, hactor⟩ := Option.isSome_iff_exists.mp hactor
    obtain ⟨target, htarget⟩ := Option.isSome_iff_exists.mp htarget
    rw [handleSyncTruceCommand_of_present hactor htarget hne]
    split
    next hp =>
      rw [hp, hactor]
      rfl
    next =>
      split
      next hp =>
        rw [hp, htarget]
        rfl
      next => rfl
  · rw [handleSyncTruceCommand_rejected hgood]

theorem trucedUntil_withTruce {player : SimPlayer} {a : PlayerId} (h : players a = some player)
    {before : SimPlayers} (partnerId : PlayerId) (truced : Bool) (endsAt : Option ℤ)
    {old : SimPlayer} (hbefore : before a = some old)
    (hplayer : player = old.withTruce partnerId truced endsAt) (b : PlayerId) :
    trucedUntil players a b
      = if b = partnerId then (if truced then some endsAt else none) else trucedUntil before a b := by
  unfold trucedUntil
  rw [h, hbefore, hplayer]
  show (if (if b = partnerId then truced else old.truces b) = true then
      some (if b = partnerId then (if truced then endsAt else none) else old.truceEndsAt b)
    else none) = _
  by_cases hb : b = partnerId
  · rw [if_pos hb, if_pos hb, if_pos hb]
    cases truced with
    | true => rfl
    | false => rfl
  · rw [if_neg hb, if_neg hb, if_neg hb]
    rfl

/-- **What a command changes**: the pair it names, when both play; nothing
else. -/
theorem trucedUntil_handleSyncTruceCommand (players : SimPlayers) (command : SyncCall)
    {a b : PlayerId} (hab : a ≠ b) :
    trucedUntil (handleSyncTruceCommand players command) a b
      = if SamePair a b command.playerId command.targetPlayerId ∧ BothPlay players a b then
          (if command.truced then some command.endsAt else none)
        else trucedUntil players a b := by
  by_cases hgood : BothPlay players command.playerId command.targetPlayerId
      ∧ command.targetPlayerId ≠ command.playerId
  · have hplay : SamePair a b command.playerId command.targetPlayerId → BothPlay players a b := by
      rintro (⟨rfl, rfl⟩ | ⟨rfl, rfl⟩)
      · exact hgood.1
      · exact hgood.1.swap
    obtain ⟨⟨hactor, htarget⟩, hne⟩ := hgood
    obtain ⟨actor, hactor⟩ := Option.isSome_iff_exists.mp hactor
    obtain ⟨target, htarget⟩ := Option.isSome_iff_exists.mp htarget
    have hafter := handleSyncTruceCommand_of_present hactor htarget hne
    by_cases ha : a = command.playerId
    · subst ha
      rw [trucedUntil_withTruce ((hafter command.playerId).trans (if_pos rfl)) _ _ _ hactor rfl]
      by_cases hb : b = command.targetPlayerId
      · have hsame : SamePair command.playerId b command.playerId command.targetPlayerId :=
          Or.inl ⟨rfl, hb⟩
        rw [if_pos hb, if_pos (And.intro hsame (hplay hsame))]
      · have hother : ¬ SamePair command.playerId b command.playerId command.targetPlayerId :=
          fun h => h.elim (fun h => hb h.2) (fun h => hne h.1.symm)
        rw [if_neg hb, if_neg (not_and_of_not_left _ hother)]
    · by_cases ha' : a = command.targetPlayerId
      · subst ha'
        have hget := (hafter command.targetPlayerId).trans ((if_neg hne).trans (if_pos rfl))
        rw [trucedUntil_withTruce hget _ _ _ htarget rfl]
        by_cases hb : b = command.playerId
        · have hsame : SamePair command.targetPlayerId b command.playerId command.targetPlayerId :=
            Or.inr ⟨rfl, hb⟩
          rw [if_pos hb, if_pos (And.intro hsame (hplay hsame))]
        · have hother :
              ¬ SamePair command.targetPlayerId b command.playerId command.targetPlayerId :=
            fun h => h.elim (fun h => hne h.1) (fun h => hb h.2)
          rw [if_neg hb, if_neg (not_and_of_not_left _ hother)]
      · have hother : ¬ SamePair a b command.playerId command.targetPlayerId :=
          fun h => h.elim (fun h => ha h.1) (fun h => ha' h.1)
        rw [if_neg (not_and_of_not_left _ hother)]
        unfold trucedUntil
        rw [hafter, if_neg ha, if_neg ha']
  · rw [handleSyncTruceCommand_rejected hgood, if_neg]
    rintro ⟨⟨rfl, rfl⟩ | ⟨rfl, rfl⟩, hplay⟩
    · exact hgood ⟨hplay, hab.symm⟩
    · exact hgood ⟨hplay.swap, hab⟩

end Simulation

/-! ## §5. What every run keeps. -/

/-- Every truce stands under the key of its own players. -/
def Named (truces : InsertionMap String SocialActiveTruce) : Prop :=
  ∀ key truce, truces.get key = some truce → key = pairKey truce.playerAId truce.playerBId

theorem Named.set {truces : InsertionMap String SocialActiveTruce} (h : Named truces)
    (truce : SocialActiveTruce) :
    Named (truces.set (pairKey truce.playerAId truce.playerBId) truce) := by
  intro key other hget
  rcases (InsertionMap.get_set_eq_some _ _ _ _ _).mp hget with ⟨hkey, hother⟩ | ⟨_, hother⟩
  · rw [hkey, hother]
  · exact h key other hother

section Frames

variable (s : TruceSyncState)

theorem syncTruceToSimulation_truces (connected : Bool) (a b : PlayerId) (truced : Bool) :
    (s.syncTruceToSimulation connected a b truced).trucesByPair = s.trucesByPair := by
  unfold TruceSyncState.syncTruceToSimulation
  split
  · rfl
  · rfl

theorem arrive_truces (callId : Nat) : (s.arrive callId).trucesByPair = s.trucesByPair := by
  unfold TruceSyncState.arrive
  split
  · rfl
  · rfl

theorem runNext_truces : s.runNext.trucesByPair = s.trucesByPair := by
  unfold TruceSyncState.runNext
  split
  · rfl
  · rfl

theorem settle_truces (callId : Nat) (fulfilled : Bool) :
    (s.settle callId fulfilled).trucesByPair = s.trucesByPair := by
  unfold TruceSyncState.settle
  split
  · rfl
  dsimp only
  split
  · rfl
  · rfl

theorem seedInitialPairs_truces (pairs : List (PlayerId × PlayerId)) :
    (s.seedInitialPairs pairs).trucesByPair = s.trucesByPair := by
  unfold TruceSyncState.seedInitialPairs
  split
  · rfl
  · rfl

end Frames

variable {s : TruceSyncState}

/-- **The step lemma.** -/
theorem named_truceStep (boot : TruceBoot) (h : Named s.trucesByPair) (step : TruceStep) :
    Named (truceStep boot s step).trucesByPair := by
  cases step with
  | starts truce =>
      show Named (TruceSyncState.trucesByPair (if _ then _ else _))
      split
      · exact h
      · exact h.set truce
  | ends a b =>
      exact fun key truce hget => h key truce ((InsertionMap.get_erase_eq_some _ _ _ _).mp hget).2
  | joins playerId => exact h
  | sync connected a b truced =>
      exact (syncTruceToSimulation_truces s connected a b truced).symm ▸ h
  | seed => exact (seedInitialPairs_truces s boot.initialTrucePairs).symm ▸ h
  | arrive callId => exact (arrive_truces s callId).symm ▸ h
  | lose callId => exact h
  | runNext => exact (runNext_truces s).symm ▸ h
  | settle callId fulfilled => exact (settle_truces s callId fulfilled).symm ▸ h

theorem named_boot (boot : TruceBoot) : Named (TruceSyncState.boot boot).trucesByPair := by
  have hset : ∀ (l : List SocialActiveTruce) (m : InsertionMap String SocialActiveTruce), Named m →
      Named (m.setAll (l.map (fun truce => (pairKey truce.playerAId truce.playerBId, truce)))) := by
    intro l
    induction l with
    | nil => exact fun _ h => h
    | cons truce l ih => exact fun m h => ih _ (h.set truce)
  intro key truce hget
  have hkept := ((InsertionMap.get_eraseWhere_eq_some _ _ _ _).mp hget).1
  exact hset boot.activeTruces .empty (fun _ _ h => by cases h) key truce hkept

/-- **The run lemma.** -/
theorem named_truceRun (boot : TruceBoot) (steps : List TruceStep) :
    Named (truceRun boot steps).trucesByPair := by
  unfold truceRun
  generalize hs : TruceSyncState.boot boot = s
  have h : Named s.trucesByPair := hs ▸ named_boot boot
  clear hs
  induction steps generalizing s with
  | nil => exact h
  | cons step steps ih => exact ih _ (named_truceStep boot h step)

/-! ## §6. The gateway's truces. -/

/-- An active pair's truce is found under its key. -/
theorem get_of_active (h : Named s.trucesByPair) {a b : PlayerId}
    (hactive : ∃ pair ∈ s.activeTrucePairs, SamePair a b pair.1 pair.2) :
    ∃ truce, s.trucesByPair.get (pairKey a b) = some truce
      ∧ SamePair truce.playerAId truce.playerBId a b := by
  obtain ⟨pair, hpair, hsame⟩ := hactive
  obtain ⟨⟨key, truce⟩, hentry, rfl⟩ := List.mem_map.mp hpair
  have hget := (s.trucesByPair.mem_entries_iff key truce).mp hentry
  rw [h key truce hget, ← hsame.pairKey_eq] at hget
  exact ⟨truce, hget, hsame.symm⟩

/-- **The truce of two players** is that of an active pair. -/
theorem truceBetween_eq_some_iff (h : Named s.trucesByPair) {a b : PlayerId} {endsAt : ℤ} :
    s.truceBetween a b = some endsAt
      ↔ (∃ pair ∈ s.activeTrucePairs, SamePair a b pair.1 pair.2)
        ∧ s.endsAtOf a b = some endsAt := by
  unfold TruceSyncState.truceBetween TruceSyncState.endsAtOf
  constructor
  · intro hends
    obtain ⟨truce, hkept, hends⟩ := Option.map_eq_some_iff.mp hends
    obtain ⟨hget, hsame⟩ := Option.filter_eq_some_iff.mp hkept
    refine ⟨⟨_, List.mem_map_of_mem ((s.trucesByPair.mem_entries_iff _ truce).mpr hget), ?_⟩, ?_⟩
    · exact (of_decide_eq_true hsame).symm
    · rw [hget, ← hends]
      rfl
  · rintro ⟨hactive, hends⟩
    obtain ⟨truce, hget, hsame⟩ := get_of_active h hactive
    rw [hget] at hends ⊢
    rw [Option.filter_some, if_pos (decide_eq_true hsame)]
    exact hends

theorem truceBetween_swap (h : Named s.trucesByPair) (a b : PlayerId) :
    s.truceBetween b a = s.truceBetween a b := by
  refine Option.ext (fun endsAt => ?_)
  rw [truceBetween_eq_some_iff h, truceBetween_eq_some_iff h]
  simp only [samePair_swap, TruceSyncState.endsAtOf, pairKey_comm b a]

theorem activeKeys_nodup (h : Named s.trucesByPair) : s.activeKeys.Nodup := by
  have hkeys : s.activeKeys = s.trucesByPair.keys := by
    unfold TruceSyncState.activeKeys TruceSyncState.activeTrucePairs InsertionMap.keys
    rw [List.map_map]
    refine List.map_congr_left (fun entry hentry => ?_)
    exact (h entry.1 entry.2 ((s.trucesByPair.mem_entries_iff _ _).mp hentry)).symm
  rw [hkeys]
  exact s.trucesByPair.nodupKeys

/-! ## §7. A call that is delivered. -/

/-- What a pass leaves alone: nothing is in flight, and the gateway's truces
and the players of the simulation stay. -/
structure PassKeeps (s s' : TruceSyncState) : Prop where
  quiet : s'.Quiet
  truces : s'.trucesByPair = s.trucesByPair
  players : ∀ a b, BothPlay s'.simulation a b ↔ BothPlay s.simulation a b

theorem PassKeeps.refl (hquiet : s.Quiet) : PassKeeps s s := ⟨hquiet, rfl, fun _ _ => Iff.rfl⟩

theorem PassKeeps.trans {s s' s'' : TruceSyncState} (h : PassKeeps s s') (h' : PassKeeps s' s'') :
    PassKeeps s s'' :=
  ⟨h'.quiet, h'.truces.trans h.truces, fun a b => (h'.players a b).trans (h.players a b)⟩

theorem PassKeeps.endsAtOf {s s' : TruceSyncState} (h : PassKeeps s s') (a b : PlayerId) :
    s'.endsAtOf a b = s.endsAtOf a b := by
  unfold TruceSyncState.endsAtOf
  rw [h.truces]

def TruceSyncState.callOf (s : TruceSyncState) (a b : PlayerId) (truced : Bool) : SyncCall :=
  ⟨s.nextCallId, a, b, truced, if truced then s.endsAtOf a b else none⟩

/-- **With nothing in flight** the call is run and believed. -/
theorem delivered_eq (s : TruceSyncState) (a b : PlayerId) (truced : Bool) (hquiet : s.Quiet) :
    s.delivered a b truced = { s with
      simulation := handleSyncTruceCommand s.simulation (s.callOf a b truced)
      knownSimTrucePairs :=
        if truced then s.knownSimTrucePairs.set (truceSimPairKey a b) (s.callOf a b truced).endsAt
        else s.knownSimTrucePairs.erase (truceSimPairKey a b)
      nextCallId := s.nextCallId + 1
      accepted := s.accepted ++ [s.nextCallId] } := by
  obtain ⟨truces, simulation, known, seeded, next, wire, queue, accepted, awaiting⟩ := s
  obtain ⟨hwire, hqueue, hawaiting⟩ := hquiet
  dsimp only at hwire hqueue hawaiting
  subst hwire hqueue hawaiting
  simp [TruceSyncState.delivered, TruceSyncState.syncTruceToSimulation, TruceSyncState.arrive,
    TruceSyncState.runNext, TruceSyncState.settle, TruceSyncState.callOf,
    TruceSyncState.endsAtOf]

theorem delivered_keeps (hquiet : s.Quiet) (a b : PlayerId) (truced : Bool) :
    PassKeeps s (s.delivered a b truced) := by
  rw [delivered_eq s a b truced hquiet]
  refine ⟨hquiet, rfl, fun p q => ?_⟩
  show ((handleSyncTruceCommand s.simulation _ p).isSome ∧
    (handleSyncTruceCommand s.simulation _ q).isSome) ↔ _
  rw [isSome_handleSyncTruceCommand, isSome_handleSyncTruceCommand]
  exact Iff.rfl

/-- **What the simulation holds** after a delivered call. -/
theorem trucedUntil_delivered (hquiet : s.Quiet) (p q : PlayerId) (truced : Bool) {a b : PlayerId}
    (hab : a ≠ b) :
    trucedUntil (s.delivered p q truced).simulation a b
      = if SamePair a b p q ∧ BothPlay s.simulation a b then
          (if truced then some (s.endsAtOf p q) else none)
        else trucedUntil s.simulation a b := by
  rw [delivered_eq s p q truced hquiet]
  refine (trucedUntil_handleSyncTruceCommand s.simulation (s.callOf p q truced) hab).trans ?_
  unfold TruceSyncState.callOf
  cases truced with
  | true => rfl
  | false => rfl

/-! ## §8. The pass. -/

theorem resync_keeps (hquiet : s.Quiet) (pair : PlayerId × PlayerId) :
    PassKeeps s (s.resync pair) := by
  unfold TruceSyncState.resync
  split
  · exact .refl hquiet
  · exact delivered_keeps hquiet _ _ _

/-- The pair is told its end time, unless it is known with it. -/
theorem trucedUntil_resync (hquiet : s.Quiet) (pair : PlayerId × PlayerId) {a b : PlayerId}
    (hab : a ≠ b) :
    trucedUntil (s.resync pair).simulation a b
      = if SamePair a b pair.1 pair.2 ∧ BothPlay s.simulation a b
          ∧ s.knownSimTrucePairs.get (truceSimPairKey a b) ≠ some (s.endsAtOf a b) then
          some (s.endsAtOf a b)
        else trucedUntil s.simulation a b := by
  unfold TruceSyncState.resync
  by_cases hsame : SamePair a b pair.1 pair.2
  · have hends : s.endsAtOf pair.1 pair.2 = s.endsAtOf a b := by
      unfold TruceSyncState.endsAtOf
      rw [hsame.pairKey_eq]
    rw [← truceSimPairKey_congr hsame, hends]
    split
    next hknown => rw [if_neg (fun h => h.2.2 hknown)]
    next hknown =>
      rw [trucedUntil_delivered hquiet _ _ _ hab, hends]
      simp [hsame, hknown]
  · rw [if_neg (fun h : SamePair a b pair.1 pair.2 ∧ _ => hsame h.1)]
    split
    · rfl
    · rw [trucedUntil_delivered hquiet _ _ _ hab, if_neg (fun h => hsame h.1)]

theorem known_resync (hquiet : s.Quiet) (pair : PlayerId × PlayerId) {key : String}
    (hkey : key ≠ truceSimPairKey pair.1 pair.2) :
    (s.resync pair).knownSimTrucePairs.get key = s.knownSimTrucePairs.get key := by
  unfold TruceSyncState.resync
  split
  · rfl
  · rw [delivered_eq s _ _ _ hquiet]
    exact InsertionMap.get_set_ne _ (Ne.symm hkey) _

/-- **The first loop** tells every active pair that is not known with its end
time. -/
theorem foldl_resync_spec (pairs : List (PlayerId × PlayerId)) :
    ∀ {s : TruceSyncState}, s.Quiet → (pairs.map (fun p => truceSimPairKey p.1 p.2)).Nodup →
      PassKeeps s (pairs.foldl TruceSyncState.resync s)
        ∧ (∀ a b, a ≠ b → trucedUntil (pairs.foldl TruceSyncState.resync s).simulation a b
            = if (∃ pair ∈ pairs, SamePair a b pair.1 pair.2) ∧ BothPlay s.simulation a b
                ∧ s.knownSimTrucePairs.get (truceSimPairKey a b) ≠ some (s.endsAtOf a b) then
                some (s.endsAtOf a b)
              else trucedUntil s.simulation a b)
        ∧ ∀ key ∉ pairs.map (fun p => truceSimPairKey p.1 p.2),
            (pairs.foldl TruceSyncState.resync s).knownSimTrucePairs.get key
              = s.knownSimTrucePairs.get key := by
  induction pairs with
  | nil =>
      intro s hquiet _
      exact ⟨.refl hquiet, fun a b _ => by simp, fun _ _ => rfl⟩
  | cons pair pairs ih =>
      intro s hquiet hnodup
      obtain ⟨hnew, hnodup⟩ := List.nodup_cons.mp hnodup
      have hfirst := resync_keeps hquiet pair
      obtain ⟨hkeeps, hheld, hknown⟩ := ih hfirst.quiet hnodup
      refine ⟨hfirst.trans hkeeps, fun a b hab => ?_, fun key hkey => ?_⟩
      · simp only [List.foldl_cons, hheld a b hab, hfirst.endsAtOf, hfirst.players]
        by_cases hlater : ∃ later ∈ pairs, SamePair a b later.1 later.2
        · -- another key than the first pair's, so the first call left it alone
          obtain ⟨later, hmem, hsame⟩ := hlater
          have hkey : truceSimPairKey a b ≠ truceSimPairKey pair.1 pair.2 := by
            rw [truceSimPairKey_congr hsame]
            exact fun heq => hnew (List.mem_map.mpr ⟨later, hmem, heq⟩)
          have hother : ¬ SamePair a b pair.1 pair.2 := fun h => hkey (truceSimPairKey_congr h)
          have hin : ∃ p ∈ pair :: pairs, SamePair a b p.1 p.2 :=
            ⟨later, List.mem_cons_of_mem _ hmem, hsame⟩
          rw [known_resync hquiet pair hkey, trucedUntil_resync hquiet pair hab,
            if_neg (fun h : SamePair a b pair.1 pair.2 ∧ _ => hother h.1)]
          simp only [hin, true_and, show ∃ p ∈ pairs, SamePair a b p.1 p.2 from ⟨later, hmem, hsame⟩]
        · have hiff : (∃ p ∈ pair :: pairs, SamePair a b p.1 p.2) ↔ SamePair a b pair.1 pair.2 := by
            rw [List.exists_mem_cons_iff]
            exact or_iff_left hlater
          rw [if_neg (fun h => hlater h.1), trucedUntil_resync hquiet pair hab]
          simp only [hiff]
      · rw [List.map_cons, List.mem_cons, not_or] at hkey
        rw [List.foldl_cons, hknown key hkey.2, known_resync hquiet pair hkey.1]

theorem clearKnown_keeps (activeKeys : List String) (hquiet : s.Quiet) (key : String) :
    PassKeeps s (s.clearKnown activeKeys key) := by
  unfold TruceSyncState.clearKnown
  split
  · exact .refl hquiet
  · split
    · exact .refl hquiet
    · exact delivered_keeps hquiet _ _ _

theorem trucedUntil_clearKnown (activeKeys : List String) (hquiet : s.Quiet) (key : String)
    {a b : PlayerId} (hab : a ≠ b) :
    trucedUntil (s.clearKnown activeKeys key).simulation a b
      = if (key ∉ activeKeys ∧ NamesPair key a b) ∧ BothPlay s.simulation a b then none
        else trucedUntil s.simulation a b := by
  unfold TruceSyncState.clearKnown
  split
  next hactive => rw [if_neg (fun h => h.1.1 hactive)]
  next hactive =>
    split
    next hnames => simp [NamesPair, hnames]
    next p q hnames =>
      rw [trucedUntil_delivered hquiet p q false hab]
      simp [NamesPair, hnames, hactive]

/-- **The second loop** ends the pairs that known keys without an active
truce are split into. -/
theorem foldl_clearKnown_spec (activeKeys keys : List String) :
    ∀ {s : TruceSyncState}, s.Quiet → ∀ a b, a ≠ b →
      trucedUntil (keys.foldl (TruceSyncState.clearKnown activeKeys) s).simulation a b
        = if (∃ key ∈ keys, key ∉ activeKeys ∧ NamesPair key a b) ∧ BothPlay s.simulation a b then
            none
          else trucedUntil s.simulation a b := by
  induction keys with
  | nil =>
      intro s _ a b _
      simp
  | cons key keys ih =>
      intro s hquiet a b hab
      have hfirst := clearKnown_keeps activeKeys hquiet key
      simp only [List.foldl_cons, ih hfirst.quiet a b hab, hfirst.players,
        trucedUntil_clearKnown activeKeys hquiet key hab, List.exists_mem_cons_iff]
      by_cases hplay : BothPlay s.simulation a b
      · by_cases hlater : ∃ k ∈ keys, k ∉ activeKeys ∧ NamesPair k a b
        · simp [hplay, hlater]
        · simp [hplay, hlater]
      · simp [hplay]

theorem foldl_seed_get (activeKeys : List String) (pairs : List (PlayerId × PlayerId))
    (key : String) :
    ∀ known : InsertionMap String (Option ℤ),
      (pairs.foldl (fun known pair =>
        let key := truceSimPairKey pair.1 pair.2
        if key ∈ activeKeys then known else known.set key none) known).get key
        = if key ∉ activeKeys ∧ key ∈ pairs.map (fun p => truceSimPairKey p.1 p.2) then some none
          else known.get key := by
  induction pairs with
  | nil => simp
  | cons pair pairs ih =>
      intro known
      rw [List.foldl_cons, ih, List.map_cons]
      simp only [List.mem_cons]
      by_cases hfirst : truceSimPairKey pair.1 pair.2 ∈ activeKeys
      · by_cases hkey : key = truceSimPairKey pair.1 pair.2
        · simp [hkey, hfirst]
        · simp only [hkey, hfirst, if_true, false_or]
      · rw [if_neg hfirst, InsertionMap.get_set]
        by_cases hkey : key = truceSimPairKey pair.1 pair.2
        · simp [hkey, hfirst]
        · rw [if_neg (Ne.symm hkey)]
          simp only [hkey, false_or]

/-- **What is known once the first pass has seeded**: an active key stays as
it was, and the stale keys are the others. -/
theorem seedInitialPairs_known (pairs : List (PlayerId × PlayerId)) (key : String) :
    (key ∈ s.activeKeys → (s.seedInitialPairs pairs).knownSimTrucePairs.get key
        = s.knownSimTrucePairs.get key)
      ∧ (key ∈ s.staleKeys pairs
          ↔ key ∉ s.activeKeys ∧ key ∈ (s.seedInitialPairs pairs).knownSimTrucePairs.keys) := by
  rw [InsertionMap.mem_keys_iff]
  unfold TruceSyncState.seedInitialPairs TruceSyncState.staleKeys
  rw [List.mem_filter, List.mem_append, InsertionMap.mem_keys_iff, decide_eq_true_iff]
  split
  next hseeded => exact ⟨fun _ => rfl, by simp [and_comm]⟩
  next hseeded =>
    dsimp only
    rw [foldl_seed_get]
    refine ⟨fun hactive => if_neg (fun h => h.1 hactive), ?_⟩
    by_cases hactive : key ∈ s.activeKeys
    · simp [hactive]
    · by_cases hpair : key ∈ pairs.map (fun p => truceSimPairKey p.1 p.2)
      · rw [if_pos ⟨hactive, hpair⟩]
        simp only [hactive, hpair, or_true, not_false_iff, Option.isSome_some, and_self]
      · rw [if_neg (fun h => hpair h.2)]
        simp only [hactive, hpair, or_false, not_false_iff, and_comm]

theorem seedInitialPairs_keeps (hquiet : s.Quiet) (pairs : List (PlayerId × PlayerId)) :
    PassKeeps s (s.seedInitialPairs pairs)
      ∧ (s.seedInitialPairs pairs).simulation = s.simulation := by
  unfold TruceSyncState.seedInitialPairs
  split
  · exact ⟨.refl hquiet, rfl⟩
  · exact ⟨⟨hquiet, rfl, fun _ _ => Iff.rfl⟩, rfl⟩

/-- **What the simulation holds after the pass**, from the state before it. -/
theorem trucedUntil_syncExpiredTruces (h : Named s.trucesByPair) (hquiet : s.Quiet)
    (pairs : List (PlayerId × PlayerId)) {a b : PlayerId} (hab : a ≠ b) :
    trucedUntil (s.syncExpiredTruces pairs).simulation a b
      = if s.EndsPair pairs a b ∧ BothPlay s.simulation a b then none
        else if (∃ pair ∈ s.activeTrucePairs, SamePair a b pair.1 pair.2)
            ∧ BothPlay s.simulation a b
            ∧ s.knownSimTrucePairs.get (truceSimPairKey a b) ≠ some (s.endsAtOf a b) then
          some (s.endsAtOf a b)
        else trucedUntil s.simulation a b := by
  obtain ⟨hseed, hsimulation⟩ := seedInitialPairs_keeps hquiet pairs
  obtain ⟨hkeeps, hheld, hknown⟩ :=
    foldl_resync_spec s.activeTrucePairs hseed.quiet (activeKeys_nodup h)
  have hstale : (∃ key ∈ (s.activeTrucePairs.foldl TruceSyncState.resync
        (s.seedInitialPairs pairs)).knownSimTrucePairs.keys,
      key ∉ s.activeKeys ∧ NamesPair key a b) ↔ s.EndsPair pairs a b := by
    refine exists_congr (fun key => ?_)
    rw [(seedInitialPairs_known pairs key).2, InsertionMap.mem_keys_iff, InsertionMap.mem_keys_iff]
    constructor
    · rintro ⟨hkey, hnew, hnames⟩
      rw [hknown key hnew] at hkey
      exact ⟨⟨hnew, hkey⟩, hnames⟩
    · rintro ⟨⟨hnew, hkey⟩, hnames⟩
      rw [← hknown key hnew] at hkey
      exact ⟨hkey, hnew, hnames⟩
  have htold : (∃ pair ∈ s.activeTrucePairs, SamePair a b pair.1 pair.2) →
      (s.seedInitialPairs pairs).knownSimTrucePairs.get (truceSimPairKey a b)
        = s.knownSimTrucePairs.get (truceSimPairKey a b) := by
    rintro ⟨pair, hpair, hsame⟩
    refine (seedInitialPairs_known pairs _).1 ?_
    rw [truceSimPairKey_congr hsame]
    exact List.mem_map.mpr ⟨pair, hpair, rfl⟩
  unfold TruceSyncState.syncExpiredTruces
  dsimp only
  rw [foldl_clearKnown_spec s.activeKeys _ hkeeps.quiet a b hab]
  simp only [hstale, hkeeps.players, hheld a b hab, hseed.endsAtOf, hsimulation]
  by_cases hactive : ∃ pair ∈ s.activeTrucePairs, SamePair a b pair.1 pair.2
  · simp only [htold hactive]
  · simp only [hactive, false_and, if_false]

theorem bothPlay_of_truced {players : SimPlayers} {a b : PlayerId} {x y : Option ℤ}
    (hab : trucedUntil players a b = some x) (hba : trucedUntil players b a = some y) :
    BothPlay players a b :=
  ⟨Option.isSome_of_isSome_bind (Option.isSome_iff_exists.mpr ⟨x, hab⟩),
    Option.isSome_of_isSome_bind (Option.isSome_iff_exists.mpr ⟨y, hba⟩)⟩

theorem syncExpiredTruces_truces (h : Named s.trucesByPair) (hquiet : s.Quiet)
    (pairs : List (PlayerId × PlayerId)) :
    (s.syncExpiredTruces pairs).trucesByPair = s.trucesByPair := by
  have hseed := (seedInitialPairs_keeps hquiet pairs).1
  have hfirst := (foldl_resync_spec s.activeTrucePairs hseed.quiet (activeKeys_nodup h)).1
  have hclear : ∀ (keys : List String) {t : TruceSyncState}, t.Quiet →
      (keys.foldl (TruceSyncState.clearKnown s.activeKeys) t).trucesByPair = t.trucesByPair := by
    intro keys
    induction keys with
    | nil => exact fun _ => rfl
    | cons key keys ih =>
        intro t ht
        have hkeeps := clearKnown_keeps s.activeKeys ht key
        rw [List.foldl_cons, ih hkeeps.quiet, hkeeps.truces]
  unfold TruceSyncState.syncExpiredTruces
  dsimp only
  rw [hclear _ hfirst.quiet, hfirst.truces, hseed.truces]

/-- **A pass repairs the simulation** exactly when it can repair every two
players. -/
theorem repaired_iff (h : Named s.trucesByPair) (hquiet : s.Quiet)
    (pairs : List (PlayerId × PlayerId)) :
    (s.syncExpiredTruces pairs).Repaired ↔ ∀ a b, a ≠ b → s.Repairable pairs a b := by
  have hafter : ∀ a b, (s.syncExpiredTruces pairs).truceBetween a b = s.truceBetween a b := by
    intro a b
    unfold TruceSyncState.truceBetween
    rw [syncExpiredTruces_truces h hquiet]
  constructor
  · intro hrepaired a b hab
    have hpair := hrepaired a b hab
    have hswap := hrepaired b a hab.symm
    rw [hafter, trucedUntil_syncExpiredTruces h hquiet pairs hab] at hpair
    rw [hafter, trucedUntil_syncExpiredTruces h hquiet pairs hab.symm] at hswap
    constructor
    · intro endsAt hends
      rw [truceBetween_swap h] at hswap
      rw [hends, Option.map_some] at hpair hswap
      have hplay : BothPlay s.simulation a b := by
        by_contra hplay
        have hplay' : ¬ BothPlay s.simulation b a := fun h => hplay h.swap
        simp only [hplay, hplay', and_false, false_and, if_false] at hpair hswap
        exact hplay (bothPlay_of_truced hpair hswap)
      have hends' : ¬ s.EndsPair pairs a b := by
        intro hends'
        rw [if_pos (And.intro hends' hplay)] at hpair
        cases hpair
      refine ⟨hplay, hends', fun hknown => ?_⟩
      have htold := ((truceBetween_eq_some_iff h).mp hends).2
      rw [if_neg (fun h => hends' h.1), if_neg (fun h => h.2.2 (by rw [hknown, htold]))] at hpair
      exact hpair
    · intro hnone hheld
      rw [hnone, Option.map_none] at hpair
      by_contra hneither
      rw [if_neg (fun h => hneither h.symm)] at hpair
      split at hpair
      · cases hpair
      · exact hheld hpair
  · intro hall a b hab
    obtain ⟨htruced, hover⟩ := hall a b hab
    rw [hafter, trucedUntil_syncExpiredTruces h hquiet pairs hab]
    cases hends : s.truceBetween a b with
    | some endsAt =>
        obtain ⟨hplay, hends', hknown⟩ := htruced endsAt hends
        obtain ⟨hactive, htold⟩ := (truceBetween_eq_some_iff h).mp hends
        rw [if_neg (fun h => hends' h.1), htold]
        split
        next => rfl
        next hsame =>
          refine hknown (by_contra (fun hnew => hsame ⟨hactive, hplay, hnew⟩))
    | none =>
        have hidle : ¬ ∃ pair ∈ s.activeTrucePairs, SamePair a b pair.1 pair.2 := by
          intro hactive
          obtain ⟨truce, hget, _⟩ := get_of_active h hactive
          have hsome := (truceBetween_eq_some_iff h).mpr ⟨hactive, congrArg _ hget⟩
          rw [hends] at hsome
          cases hsome
        rw [if_neg (fun h : (∃ _, _) ∧ _ => hidle h.1), Option.map_none]
        split
        next => rfl
        next hstays =>
          by_contra hheld
          exact hstays (hover hends hheld).symm

/-- **When a quiet pass repairs the simulation**: after any history, with
nothing in flight, a pass whose submits all succeed leaves the simulation with
the gateway's truces exactly when every two players are `Repairable`. -/
theorem expired_truces_repair_iff (boot : TruceBoot) (steps : List TruceStep)
    (hquiet : (truceRun boot steps).Quiet) :
    ((truceRun boot steps).syncExpiredTruces boot.initialTrucePairs).Repaired
      ↔ ∀ a b, a ≠ b → (truceRun boot steps).Repairable boot.initialTrucePairs a b :=
  repaired_iff (named_truceRun boot steps) hquiet boot.initialTrucePairs

/-! ## §9. An acknowledgement that is lost. -/

/-- Two players of the simulation, without truces. -/
def peace : TruceBoot where
  activeTruces := []
  now := 0
  simulation := fun p =>
    if p = playerOne ∨ p = playerTwo then some ⟨fun _ => false, fun _ => none⟩ else none

def truceUntil (a b : PlayerId) (endsAt : ℤ) : SocialActiveTruce := ⟨false, a, b, 0, endsAt, a⟩

/-- A truce is told, extended, and told again by a call that is lost; a third
player makes one before joining. -/
def toldTruce : List TruceStep :=
  [.starts (truceUntil playerOne playerTwo 100), .sync true playerOne playerTwo true, .arrive 0,
    .runNext, .settle 0 true, .starts (truceUntil playerOne playerTwo 200),
    .sync true playerTwo playerOne true, .lose 1, .settle 1 false,
    .starts (truceUntil playerOne playerThree 300), .joins playerThree]

theorem expired_truces_repair_told :
    ((truceRun peace toldTruce).syncExpiredTruces peace.initialTrucePairs).Repaired
      ↔ ∀ a b, a ≠ b → (truceRun peace toldTruce).Repairable peace.initialTrucePairs a b :=
  expired_truces_repair_iff peace toldTruce ⟨rfl, rfl, rfl⟩

/-- The truce is run but its submit times out; it is broken while the
simulation is unreachable. -/
def forgottenTruce : List TruceStep :=
  [.starts (truceUntil playerOne playerTwo 100), .sync true playerOne playerTwo true, .arrive 0,
    .runNext, .settle 0 false, .ends playerOne playerTwo, .sync false playerTwo playerOne false]

theorem forgotten_truce_is_kept :
    (truceRun peace forgottenTruce).Quiet
      ∧ ¬ ((truceRun peace forgottenTruce).syncExpiredTruces peace.initialTrucePairs).Repaired := by
  refine ⟨⟨rfl, rfl, rfl⟩, fun h => ?_⟩
  have hheld := h playerOne playerTwo (by decide)
  exact absurd hheld (by decide)

end BorderEmpires.Gateway
