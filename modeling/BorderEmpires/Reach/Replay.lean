/-
  BorderEmpires.Reach.Replay
  **SNAPSHOT PLUS DIFFS IS THE LIVE BORDER.**

  Border mutations re-enter: an activation's callbacks unsettle tiles,
  which deactivates rival anchors, which mutates the border again.  The
  machine below runs the apply path one step at a time with an explicit
  stack of pending work, so that a snapshot can be taken between any two
  steps.  What the callbacks do to the world, and which anchor changes
  they cause, is left open.

  `replay_from_snapshot`: the border at any moment, with the diffs emitted
  after it applied in emission order, is the live border.
-/
import Mathlib.Logic.Relation
import BorderEmpires.Reach.Apply

namespace BorderEmpires

variable {W : WorldSize}

/-! ## §1. The machine. -/

/-- What the apply path reads from the runtime. -/
structure ReachWorld (W : WorldSize) where
  anchors : List ReachAnchor
  rivalOwnerIds : List PlayerId
  tileOwnership : TileKey W → Option TileOwnership

inductive AnchorCall where
  | activation (anchor : ReachAnchor) (skipNeutralAutoClaim : Bool)
  | deactivation (anchor : ReachAnchor)

inductive Task (W : WorldSize) where
  | call (c : AnchorCall)
  /-- Mutated in place; vision sync and the diff come next. -/
  | onBorderMutated (anchor : ReachAnchor) (m : BorderMutation W)
  | autoClaim (anchor : ReachAnchor) (m : BorderMutation W) (skipNeutralAutoClaim : Bool)
  | settleOvertaken (overtaken : List (OvertakenTile W))

/-- A `REACH_BORDER_CHANGED` event. -/
structure ReachBorderChanged (W : WorldSize) where
  playerId : PlayerId
  changes : List (ReachBorderChange W)

structure LifecycleState (W : WorldSize) where
  border : ReachBorder W
  emitted : List (ReachBorderChanged W)
  world : ReachWorld W
  pending : List (Task W)

def Task.isUnsent : Task W → Bool
  | .onBorderMutated _ _ => true
  | _ => false

/-- The events a diff is sent as: none when it is empty. -/
def borderChanged (anchor : ReachAnchor) (before after : ReachBorder W)
    (keys : List (TileKey W)) : List (ReachBorderChanged W) :=
  let changes := diffReachBorder before after keys
  if changes.length > 0 then [⟨anchor.ownerId, changes⟩] else []

inductive LifecycleStep (landConnectivity : Option (LandConnectivityQuery W)) :
    LifecycleState W → LifecycleState W → Prop
  /-- Anything but the border may change between two steps. -/
  | world (s : LifecycleState W) (world : ReachWorld W) :
      LifecycleStep landConnectivity s { s with world := world }
  /-- An idle runtime takes up a new call. -/
  | enter (s : LifecycleState W) (c : AnchorCall) (idle : s.pending = []) :
      LifecycleStep landConnectivity s { s with pending := [.call c] }
  | activate (s : LifecycleState W) (anchor : ReachAnchor) (skip : Bool)
      (rest : List (Task W)) (m : BorderMutation W)
      (next : s.pending = .call (.activation anchor skip) :: rest)
      (mutated : m = mutateForActivation landConnectivity s.border anchor s.world.anchors
        s.world.tileOwnership) :
      LifecycleStep landConnectivity s
        { s with
          border := m.border
          pending := .onBorderMutated anchor m :: .autoClaim anchor m skip
            :: .settleOvertaken m.overtaken :: rest }
  | deactivate (s : LifecycleState W) (anchor : ReachAnchor) (rest : List (Task W))
      (m : BorderMutation W) (next : s.pending = .call (.deactivation anchor) :: rest)
      (mutated : m = mutateForDeactivation landConnectivity s.border anchor s.world.anchors
        s.world.rivalOwnerIds) :
      LifecycleStep landConnectivity s
        { s with
          border := m.border
          pending := .onBorderMutated anchor m :: .settleOvertaken m.overtaken :: rest }
  | emit (s : LifecycleState W) (anchor : ReachAnchor) (m : BorderMutation W)
      (rest : List (Task W)) (next : s.pending = .onBorderMutated anchor m :: rest) :
      LifecycleStep landConnectivity s
        { s with
          emitted := s.emitted ++ borderChanged anchor m.before s.border m.diskKeys
          pending := rest }
  /-- Claiming neutral ground may set off any anchor calls. -/
  | claim (s : LifecycleState W) (anchor : ReachAnchor) (m : BorderMutation W) (skip : Bool)
      (rest : List (Task W)) (calls : List AnchorCall)
      (next : s.pending = .autoClaim anchor m skip :: rest)
      (quiet : autoClaimKeys anchor m s.border s.world.tileOwnership skip = [] → calls = []) :
      LifecycleStep landConnectivity s { s with pending := calls.map .call ++ rest }
  /-- Unsettling a tile may set off any anchor calls, before the next tile. -/
  | settle (s : LifecycleState W) (o : OvertakenTile W) (os : List (OvertakenTile W))
      (rest : List (Task W)) (calls : List AnchorCall)
      (next : s.pending = .settleOvertaken (o :: os) :: rest)
      (quiet : unsettles s.world.tileOwnership o = false → calls = []) :
      LifecycleStep landConnectivity s
        { s with pending := calls.map .call ++ .settleOvertaken os :: rest }
  | settled (s : LifecycleState W) (rest : List (Task W))
      (next : s.pending = .settleOvertaken [] :: rest) :
      LifecycleStep landConnectivity s { s with pending := rest }

/-! ## §2. Replay. -/

def replay (border : ReachBorder W) (events : List (ReachBorderChanged W)) : ReachBorder W :=
  events.foldl (fun b event => applyReachBorderChanges b event.changes) border

/-- The diff that is due: empty except between a mutation in place and the
emission right after it. -/
def LifecycleState.due (s : LifecycleState W) : List (ReachBorderChanged W) :=
  match s.pending with
  | .onBorderMutated anchor m :: _ => borderChanged anchor m.before s.border m.diskKeys
  | _ => []

theorem replay_append (border : ReachBorder W) (xs ys : List (ReachBorderChanged W)) :
    replay border (xs ++ ys) = replay (replay border xs) ys := by
  unfold replay
  rw [List.foldl_append]

theorem replay_borderChanged (base : ReachBorder W) (anchor : ReachAnchor)
    (before after : ReachBorder W) (keys : List (TileKey W)) :
    replay base (borderChanged anchor before after keys)
      = applyReachBorderChanges base (diffReachBorder before after keys) := by
  unfold borderChanged
  dsimp only
  split
  next h => rfl
  next h =>
    have hnil : diffReachBorder before after keys = [] := List.eq_nil_of_length_eq_zero (by omega)
    rw [hnil]
    rfl

/-- **Catching up** with `base` at log position `n`: what was emitted since,
and what is due, turns `base` into the live border; only the next task can
be an unsent diff. -/
structure CatchesUp (base : ReachBorder W) (n : Nat) (s : LifecycleState W) : Prop where
  logged : n ≤ s.emitted.length
  tail_sent : ∀ task ∈ s.pending.tail, task.isUnsent = false
  get : ∀ k, (replay base (s.emitted.drop n ++ s.due)).get k = s.border.get k

variable {base : ReachBorder W} {s : LifecycleState W}

theorem due_eq_nil (h : ∀ task ∈ s.pending, task.isUnsent = false) : s.due = [] := by
  unfold LifecycleState.due
  cases hp : s.pending with
  | nil => rfl
  | cons task rest =>
      have htask := h task (by rw [hp]; exact List.mem_cons_self)
      cases task with
      | onBorderMutated anchor m => cases htask
      | call c => rfl
      | autoClaim anchor m skip => rfl
      | settleOvertaken os => rfl

theorem isUnsent_calls (calls : List AnchorCall) :
    ∀ task ∈ calls.map (Task.call (W := W)), task.isUnsent = false := by
  intro task htask
  obtain ⟨c, _, rfl⟩ := List.mem_map.mp htask
  rfl

theorem catchesUp_self (h : ∀ task ∈ s.pending.tail, task.isUnsent = false) :
    CatchesUp s.border s.emitted.length s where
  logged := Nat.le_refl _
  tail_sent := h
  get := by
    intro k
    rw [List.drop_length, List.nil_append]
    unfold LifecycleState.due
    split
    next anchor m rest hp =>
      rw [replay_borderChanged]
      exact apply_diff_get (fun _ _ => rfl) (fun _ _ => Or.inr rfl) k
    next hp => rfl

theorem CatchesUp.keep {n : Nat} (h : CatchesUp base n s) {task : Task W}
    {rest pending : List (Task W)} (hp : s.pending = task :: rest) (hsent : task.isUnsent = false)
    (hnew : ∀ t ∈ pending, t.isUnsent = false) :
    CatchesUp base n { s with pending := pending } where
  logged := h.logged
  tail_sent := fun t ht => hnew t (List.mem_of_mem_tail ht)
  get := by
    intro k
    have hdue : s.due = [] := by
      apply due_eq_nil
      intro t ht
      rw [hp] at ht
      rcases List.mem_cons.mp ht with ht | ht
      · rw [ht]
        exact hsent
      · exact h.tail_sent t (by rw [hp]; exact ht)
    have hdue' : ({ s with pending := pending } : LifecycleState W).due = [] := due_eq_nil hnew
    have hget := h.get k
    rw [hdue] at hget
    rw [hdue']
    exact hget

/-- **A mutation in place** leaves a due diff that closes the gap. -/
theorem CatchesUp.mutate {n : Nat} (h : CatchesUp base n s) {c : AnchorCall} {rest : List (Task W)}
    (hp : s.pending = .call c :: rest) (frames : List (Task W))
    (hframes : ∀ t ∈ frames, t.isUnsent = false) (anchor : ReachAnchor) (m : BorderMutation W)
    (hbefore : m.before = ownersBefore s.border m.diskKeys)
    (hframe : ∀ k, k ∉ m.diskKeys → m.border.get k = s.border.get k) :
    CatchesUp base n
      { s with border := m.border, pending := .onBorderMutated anchor m :: (frames ++ rest) } where
  logged := h.logged
  tail_sent := by
    intro t ht
    rcases List.mem_append.mp ht with ht | ht
    · exact hframes t ht
    · exact h.tail_sent t (by rw [hp]; exact ht)
  get := by
    intro k
    have hdue : s.due = [] := by
      unfold LifecycleState.due
      rw [hp]
    have hlive : ∀ k, (replay base (s.emitted.drop n)).get k = s.border.get k := by
      intro k
      have := h.get k
      rw [hdue, List.append_nil] at this
      exact this
    show (replay base (s.emitted.drop n
      ++ borderChanged anchor m.before m.border m.diskKeys)).get k = m.border.get k
    rw [replay_append, replay_borderChanged]
    refine apply_diff_get ?_ ?_ k
    · intro k hk
      rw [hlive, hframe k hk]
    · -- inside the disk the replayed border holds the before-image
      intro k hk
      left
      rw [hlive, hbefore, ownersBefore_get, if_pos hk]

/-- **Step lemma**: every step keeps catching up. -/
theorem catchesUp_step {landConnectivity : Option (LandConnectivityQuery W)} {n : Nat}
    {s t : LifecycleState W} (h : CatchesUp base n s) (hstep : LifecycleStep landConnectivity s t) :
    CatchesUp base n t := by
  cases hstep with
  | world world => exact ⟨h.logged, h.tail_sent, h.get⟩
  | enter c idle =>
      refine ⟨h.logged, fun t ht => absurd ht List.not_mem_nil, ?_⟩
      intro k
      have hget := h.get k
      unfold LifecycleState.due at hget
      rw [idle] at hget
      exact hget
  | activate anchor skip rest m next mutated =>
      refine h.mutate next [.autoClaim anchor m skip, .settleOvertaken m.overtaken]
        ?_ anchor m ?_ ?_
      · intro t ht
        rcases List.mem_cons.mp ht with rfl | ht
        · rfl
        · rw [List.mem_singleton.mp ht]
          rfl
      · rw [mutated]
        rfl
      · intro k hk
        subst mutated
        exact mutateForActivation_frame _ _ _ _ _ k hk
  | deactivate anchor rest m next mutated =>
      refine h.mutate next [.settleOvertaken m.overtaken] ?_ anchor m ?_ ?_
      · intro t ht
        rw [List.mem_singleton.mp ht]
        rfl
      · rw [mutated]
        rfl
      · intro k hk
        subst mutated
        exact mutateForDeactivation_frame _ _ _ _ _ k hk
  | emit anchor m rest next =>
      have hrest : ∀ t ∈ rest, t.isUnsent = false := by
        intro t ht
        exact h.tail_sent t (by rw [next]; exact ht)
      refine ⟨?_, fun t ht => hrest t (List.mem_of_mem_tail ht), ?_⟩
      · show n ≤ (s.emitted ++ _).length
        rw [List.length_append]
        have := h.logged
        omega
      · intro k
        have hget := h.get k
        have hdue : s.due = borderChanged anchor m.before s.border m.diskKeys := by
          unfold LifecycleState.due
          rw [next]
        rw [hdue] at hget
        rw [due_eq_nil hrest, List.append_nil]
        show (replay base ((s.emitted ++ _).drop n)).get k = s.border.get k
        rw [List.drop_append_of_le_length h.logged]
        exact hget
  | claim anchor m skip rest calls next quiet =>
      refine h.keep next rfl ?_
      intro t ht
      rcases List.mem_append.mp ht with ht | ht
      · exact isUnsent_calls calls t ht
      · exact h.tail_sent t (by rw [next]; exact ht)
  | settle o os rest calls next quiet =>
      refine h.keep next rfl ?_
      intro t ht
      rcases List.mem_append.mp ht with ht | ht
      · exact isUnsent_calls calls t ht
      · rcases List.mem_cons.mp ht with ht | ht
        · rw [ht]
          rfl
        · exact h.tail_sent t (by rw [next]; exact ht)
  | settled rest next =>
      refine h.keep next rfl ?_
      intro t ht
      exact h.tail_sent t (by rw [next]; exact ht)

theorem catchesUp_run {landConnectivity : Option (LandConnectivityQuery W)} {n : Nat}
    {s t : LifecycleState W} (h : CatchesUp base n s)
    (hrun : Relation.ReflTransGen (LifecycleStep landConnectivity) s t) : CatchesUp base n t := by
  induction hrun with
  | refl => exact h
  | tail _ hstep ih => exact catchesUp_step ih hstep

/-! ## §3. The replay theorem. -/

/-- A runtime that has just booted: nothing emitted, nothing under way. -/
def LifecycleState.boot (border : ReachBorder W) (world : ReachWorld W) : LifecycleState W :=
  ⟨border, [], world, []⟩

/-- **A snapshot taken at any moment, plus every diff emitted after it, is
the live border.**  `s` is the moment of the snapshot, also inside nested
callbacks; `t` any later one.  `t.due` is the diff of a mutation made in
place and not yet emitted, empty at any other moment. -/
theorem replay_from_snapshot (landConnectivity : Option (LandConnectivityQuery W))
    (border : ReachBorder W) (world : ReachWorld W) (s t : LifecycleState W)
    (hs : Relation.ReflTransGen (LifecycleStep landConnectivity)
      (LifecycleState.boot border world) s)
    (ht : Relation.ReflTransGen (LifecycleStep landConnectivity) s t) (key : TileKey W) :
    (replay s.border (t.emitted.drop s.emitted.length ++ t.due)).get key = t.border.get key := by
  have hboot : CatchesUp border 0 (LifecycleState.boot border world) :=
    ⟨Nat.le_refl _, fun t ht => absurd ht List.not_mem_nil, fun _ => rfl⟩
  have hsent := (catchesUp_run hboot hs).tail_sent
  exact (catchesUp_run (catchesUp_self hsent) ht).get key

/-- The state right after an idle runtime mutated for an activation and
emitted its diff. -/
def afterActivation (world : ReachWorld W) (anchor : ReachAnchor)
    (skip : Bool) (m : BorderMutation W) : LifecycleState W :=
  ⟨m.border, [] ++ borderChanged anchor m.before m.border m.diskKeys, world,
    [.autoClaim anchor m skip, .settleOvertaken m.overtaken]⟩

theorem reaches_afterActivation (landConnectivity : Option (LandConnectivityQuery W))
    (border : ReachBorder W) (world : ReachWorld W) (anchor : ReachAnchor) (skip : Bool)
    (m : BorderMutation W) (mutated : m = mutateForActivation landConnectivity border anchor
      world.anchors world.tileOwnership) :
    Relation.ReflTransGen (LifecycleStep landConnectivity) (LifecycleState.boot border world)
      (afterActivation world anchor skip m) := by
  refine .head (.enter _ (.activation anchor skip) rfl) ?_
  refine .head (.activate _ anchor skip [] m rfl mutated) ?_
  exact .single (.emit _ anchor m _ rfl)

/-- One town raised in an idle world: the diff of its grant rebuilds the
border from the empty snapshot. -/
theorem replay_from_snapshot_town :
    let town := ReachAnchor.plain 10 10 playerOne 1 .TOWN
    let world : ReachWorld smallestWorld := ⟨[town], [playerOne], fun _ => none⟩
    let m := mutateForActivation none InsertionMap.empty town [town] world.tileOwnership
    let t := afterActivation world town true m
    let key := wrappedTile smallestWorld 12 11
    (replay InsertionMap.empty (t.emitted.drop 0 ++ t.due)).get key = t.border.get key :=
  replay_from_snapshot none InsertionMap.empty _ (LifecycleState.boot InsertionMap.empty _) _
    .refl (reaches_afterActivation none InsertionMap.empty _ _ true _ rfl) _

end BorderEmpires
