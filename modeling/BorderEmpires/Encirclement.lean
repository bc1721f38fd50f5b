/-
  BorderEmpires.Encirclement
  **CONNECTIVITY-BASED FRONTIER LOSS.**

  A FRONTIER tile is connected when a walk over its owner's frontier tiles
  ends at a supply terminal: settled ground, or a frontier dock.
  `isFrontierConnected` searches from one tile; `computeEncirclementDeltas`
  floods the frontier components around a change and classifies each as a
  whole.
-/
import BorderEmpires.Lib.InsertionMap
import BorderEmpires.Lib.Worklist
import BorderEmpires.World

namespace BorderEmpires.Encirclement

variable {W : WorldSize}

/-! ## §1. Tiles and neighbours. -/

inductive FrontierDecayKind where
  | ENCIRCLEMENT
  | OUT_OF_REACH
  deriving DecidableEq, Repr

/-- The tile shape the encirclement code needs. -/
structure EncirclementTileView extends TileOwnership where
  frontierDecayAt : Option Int
  frontierDecayKind : Option FrontierDecayKind
  dockId : Option String
  deriving DecidableEq

/-- `Boolean(tile.dockId)`. -/
def EncirclementTileView.hasDock (tile : EncirclementTileView) : Bool :=
  match tile.dockId with
  | some dockId => decide (dockId ≠ "")
  | none => false

def isSupplyTerminal (tile : EncirclementTileView) : Bool :=
  decide (tile.ownershipState = some .SETTLED)
    || (decide (tile.ownershipState = some .FRONTIER) && tile.hasDock)

def connectedNeighborKeys (extraNeighborKeys : TileKey W → List (TileKey W))
    (key : TileKey W) : List (TileKey W) :=
  key.neighbors ++ extraNeighborKeys key

theorem connectedNeighborKeys_symm {extraNeighborKeys : TileKey W → List (TileKey W)}
    (hsymm : ∀ a b, b ∈ extraNeighborKeys a → a ∈ extraNeighborKeys b) :
    ∀ a b, b ∈ connectedNeighborKeys extraNeighborKeys a →
      a ∈ connectedNeighborKeys extraNeighborKeys b := by
  intro a b h
  rcases List.mem_append.mp h with h | h
  · exact List.mem_append_left _ (TileKey.mem_neighbors_symm h)
  · exact List.mem_append_right _ (hsymm a b h)

section Search

variable (playerId : PlayerId) (getTile : TileKey W → Option EncirclementTileView)
  (extraNeighborKeys : TileKey W → List (TileKey W))

def isOwnFrontier (key : TileKey W) : Bool :=
  match getTile key with
  | some tile => decide (tile.ownerId = some playerId)
      && decide (tile.ownershipState = some .FRONTIER)
  | none => false

/-- The tile is the player's and ends a supply walk. -/
def isOwnTerminal (key : TileKey W) : Bool :=
  match getTile key with
  | some tile => decide (tile.ownerId = some playerId) && isSupplyTerminal tile
  | none => false

def hasDockAt (key : TileKey W) : Bool :=
  match getTile key with
  | some tile => tile.hasDock
  | none => false

/-! ## §2. The search from one tile. -/

structure ConnectedSearch (W : WorldSize) where
  visited : List (TileKey W)
  connected : Bool

/-- One neighbour in the search; `return true` sets the flag and abandons
the queue. -/
def searchVisit (st : ConnectedSearch W × List (TileKey W)) (nk : TileKey W) :
    ConnectedSearch W × List (TileKey W) :=
  if st.1.connected then st
  else if nk ∈ st.1.visited then st
  else
    match getTile nk with
    | none => st
    | some neighbor =>
        if neighbor.ownerId ≠ some playerId then st
        else if isSupplyTerminal neighbor then ({ st.1 with connected := true }, [])
        else if neighbor.ownershipState = some .FRONTIER then
          ({ st.1 with visited := st.1.visited ++ [nk] }, st.2 ++ [nk])
        else st

def searchExpand (current : TileKey W) (st : ConnectedSearch W) :
    ConnectedSearch W × List (TileKey W) :=
  (connectedNeighborKeys extraNeighborKeys current).foldl (searchVisit playerId getTile) (st, [])

def isFrontierConnected (tileKey : TileKey W) : Bool :=
  match getTile tileKey with
  | none => false
  | some tile =>
      if tile.ownerId ≠ some playerId ∨ tile.ownershipState ≠ some .FRONTIER then false
      else if tile.hasDock then true
      else (Worklist.drain ConnectedSearch.connected
        (searchExpand playerId getTile extraNeighborKeys) (W.width * W.height) [tileKey]
        ⟨[tileKey], false⟩).connected

/-! ## §3. The sweep around a change. -/

inductive ComponentStatus where
  | supplied
  | unsupplied
  | unknown
  deriving DecidableEq, Repr

structure FrontierComponent (W : WorldSize) where
  keys : List (TileKey W)
  status : ComponentStatus

/-- One turn of the seed loop: `st` is (seeds, seen). -/
def collectSeed (st : List (TileKey W) × List (TileKey W)) (candidate : TileKey W) :
    List (TileKey W) × List (TileKey W) :=
  if candidate ∈ st.2 then st
  else
    (if isOwnFrontier playerId getTile candidate then st.1 ++ [candidate] else st.1,
      st.2 ++ [candidate])

/-- Every changed tile and its neighbours that is one of the player's
frontier tiles. -/
def encirclementSeeds (changedKeys : List (TileKey W)) : List (TileKey W) :=
  ((changedKeys.flatMap (fun key => key :: connectedNeighborKeys extraNeighborKeys key)).foldl
    (collectSeed playerId getTile) ([], [])).1

structure ComponentFlood (W : WorldSize) where
  componentOf : InsertionMap (TileKey W) Nat
  keys : List (TileKey W)
  supplied : Bool
  joinsUnknown : Bool
  capped : Bool
  lookups : Nat

/-- One neighbour in the flood of component `index`. -/
def visitNeighbor (components : List (FrontierComponent W)) (index : Nat)
    (st : ComponentFlood W × List (TileKey W)) (nk : TileKey W) :
    ComponentFlood W × List (TileKey W) :=
  match st.1.componentOf.get nk with
  | some earlier =>
      if earlier = index then st
      else if (components[earlier]?).map FrontierComponent.status = some .supplied then
        ({ st.1 with supplied := true }, st.2)
      else ({ st.1 with joinsUnknown := true }, st.2)
  | none =>
      match getTile nk with
      | none => st
      | some neighbor =>
          if neighbor.ownerId ≠ some playerId then st
          else if neighbor.ownershipState = some .FRONTIER then
            ({ st.1 with
                componentOf := st.1.componentOf.set nk index
                keys := st.1.keys ++ [nk]
                supplied := st.1.supplied || neighbor.hasDock }, st.2 ++ [nk])
          else if isSupplyTerminal neighbor then ({ st.1 with supplied := true }, st.2)
          else st

/-- One turn of the flood; the cap is checked after the neighbours. -/
def expandComponent (bfsCap : Nat) (components : List (FrontierComponent W)) (index : Nat)
    (current : TileKey W) (st : ComponentFlood W) : ComponentFlood W × List (TileKey W) :=
  let neighborKeys := connectedNeighborKeys extraNeighborKeys current
  let lookups := st.lookups + neighborKeys.length
  let r := neighborKeys.foldl (visitNeighbor playerId getTile components index)
    ({ st with lookups := lookups }, [])
  ({ r.1 with capped := r.1.capped || (decide (bfsCap > 0) && decide (lookups > bfsCap)) }, r.2)

/-- The components classified so far; `capped` records that some flood hit
its cap. -/
structure Sweep (W : WorldSize) where
  components : List (FrontierComponent W)
  componentOf : InsertionMap (TileKey W) Nat
  capped : Bool

def floodComponent (bfsCap : Nat) (st : Sweep W) (seed : TileKey W) : ComponentFlood W :=
  let index := st.components.length
  Worklist.drain ComponentFlood.capped
    (expandComponent playerId getTile extraNeighborKeys bfsCap st.components index)
    (W.width * W.height) [seed]
    ⟨st.componentOf.set seed index, [seed], hasDockAt getTile seed, false, false, 0⟩

def sweepSeed (bfsCap : Nat) (st : Sweep W) (seed : TileKey W) : Sweep W :=
  if st.componentOf.has seed then st
  else
    let flood := floodComponent playerId getTile extraNeighborKeys bfsCap st seed
    let status :=
      if flood.supplied then ComponentStatus.supplied
      else if flood.capped || flood.joinsUnknown then .unknown
      else .unsupplied
    ⟨st.components ++ [⟨flood.keys, status⟩], flood.componentOf, st.capped || flood.capped⟩

structure EncirclementDeltas (W : WorldSize) where
  cutOff : List (TileKey W)
  reconnected : List (TileKey W)
  capped : Bool

/-- A tile left over from a timed cut-off. -/
def isStamped (tile : EncirclementTileView) : Bool :=
  tile.frontierDecayAt.isSome && decide (tile.frontierDecayKind = some .ENCIRCLEMENT)

def isStampedAt (key : TileKey W) : Bool :=
  match getTile key with
  | some tile => isStamped tile
  | none => false

def cutOffKeys (skipCutOff : Bool) (component : FrontierComponent W) : List (TileKey W) :=
  if component.status = .unsupplied ∧ skipCutOff = false then component.keys else []

def reconnectedKeys (component : FrontierComponent W) : List (TileKey W) :=
  if component.status = .supplied then component.keys.filter (isStampedAt getTile) else []

def ENCIRCLEMENT_BFS_CAP : Nat := 10000

def computeEncirclementDeltas (changedKeys : List (TileKey W)) (bfsCap : Option Nat)
    (skipCutOff : Bool) : EncirclementDeltas W :=
  let bfsCap := bfsCap.getD ENCIRCLEMENT_BFS_CAP
  let sweep := (encirclementSeeds playerId getTile extraNeighborKeys changedKeys).foldl
    (sweepSeed playerId getTile extraNeighborKeys bfsCap) ⟨[], InsertionMap.empty, false⟩
  ⟨sweep.components.flatMap (cutOffKeys skipCutOff),
    sweep.components.flatMap (reconnectedKeys getTile), sweep.capped⟩

/-! ## §4. Components and supply. -/

/-- `w` is in the frontier component of `key`. -/
abbrev Linked (key w : TileKey W) : Prop :=
  Worklist.Floods (connectedNeighborKeys extraNeighborKeys) (isOwnFrontier playerId getTile)
    (isOwnFrontier playerId getTile) key w

/-- A frontier tile touches supply: its own dock, or a neighbouring terminal. -/
def SupplyAt (key : TileKey W) : Prop :=
  hasDockAt getTile key = true
    ∨ ∃ nk ∈ connectedNeighborKeys extraNeighborKeys key, isOwnTerminal playerId getTile nk = true

/-- The component of `key` touches supply. -/
def Supplied (key : TileKey W) : Prop :=
  ∃ w, Linked playerId getTile extraNeighborKeys key w
    ∧ SupplyAt playerId getTile extraNeighborKeys w

variable {playerId getTile extraNeighborKeys}

theorem isOwnFrontier_iff {key : TileKey W} :
    isOwnFrontier playerId getTile key = true
      ↔ ∃ tile, getTile key = some tile ∧ tile.ownerId = some playerId
          ∧ tile.ownershipState = some .FRONTIER := by
  unfold isOwnFrontier
  cases getTile key with
  | none => simp
  | some tile => simp

theorem isOwnTerminal_iff {key : TileKey W} :
    isOwnTerminal playerId getTile key = true
      ↔ ∃ tile, getTile key = some tile ∧ tile.ownerId = some playerId
          ∧ isSupplyTerminal tile = true := by
  unfold isOwnTerminal
  cases getTile key with
  | none => simp
  | some tile => simp

theorem isOwnTerminal_of_frontier {key : TileKey W}
    (h : isOwnFrontier playerId getTile key = true) :
    isOwnTerminal playerId getTile key = hasDockAt getTile key := by
  obtain ⟨tile, htile, hown, hstate⟩ := isOwnFrontier_iff.mp h
  unfold isOwnTerminal hasDockAt isSupplyTerminal
  rw [htile]
  simp [hown, hstate]

/-! ## §5. The search decides supply. -/

section Floods

variable (playerId getTile extraNeighborKeys)

/-- The flood over a player's own frontier, one neighbour and one tile. -/
abbrev ownVisit : List (TileKey W) × List (TileKey W) → TileKey W →
    List (TileKey W) × List (TileKey W) :=
  Worklist.floodVisit (isOwnFrontier playerId getTile) (isOwnFrontier playerId getTile)

abbrev ownExpand : TileKey W → List (TileKey W) → List (TileKey W) × List (TileKey W) :=
  Worklist.floodExpand (connectedNeighborKeys extraNeighborKeys) (isOwnFrontier playerId getTile)
    (isOwnFrontier playerId getTile)

end Floods

variable (playerId getTile) in
/-- A neighbour ends the search when it is the player's terminal; any other
is a flood step. -/
theorem searchVisit_eq (vis found : List (TileKey W)) (nk : TileKey W) :
    (nk ∉ vis ∧ isOwnTerminal playerId getTile nk = true
        ∧ searchVisit playerId getTile (⟨vis, false⟩, found) nk = (⟨vis, true⟩, []))
      ∨ ((nk ∉ vis → isOwnTerminal playerId getTile nk = false)
        ∧ searchVisit playerId getTile (⟨vis, false⟩, found) nk
          = (⟨(ownVisit playerId getTile (vis, found) nk).1, false⟩,
              (ownVisit playerId getTile (vis, found) nk).2)) := by
  unfold searchVisit ownVisit Worklist.floodVisit isOwnTerminal isOwnFrontier
  by_cases hv : nk ∈ vis
  · right
    simp [hv]
  · cases ht : getTile nk with
    | none =>
        right
        simp [hv]
    | some tile =>
        by_cases hown : tile.ownerId = some playerId
        · by_cases hterm : isSupplyTerminal tile = true
          · left
            simp [hv, hown, hterm]
          · right
            by_cases hfr : tile.ownershipState = some .FRONTIER
            · simp [hv, hown, hterm, hfr]
            · simp [hv, hown, hterm, hfr]
        · right
          simp [hv, hown]

theorem searchVisit_connected (l : List (TileKey W)) (vis found : List (TileKey W)) :
    l.foldl (searchVisit playerId getTile) (⟨vis, true⟩, found) = (⟨vis, true⟩, found) := by
  induction l with
  | nil => rfl
  | cons a l ih => exact ih

variable (playerId getTile) in
/-- One turn of the search: it ends at a terminal, or is a flood turn past
neighbours none of which is one. -/
theorem foldl_searchVisit (l : List (TileKey W)) :
    ∀ vis found : List (TileKey W),
      (∃ vis', l.foldl (searchVisit playerId getTile) (⟨vis, false⟩, found) = (⟨vis', true⟩, [])
          ∧ vis.length ≤ vis'.length ∧ ∃ nk ∈ l, isOwnTerminal playerId getTile nk = true)
        ∨ (l.foldl (searchVisit playerId getTile) (⟨vis, false⟩, found)
            = (⟨(l.foldl (ownVisit playerId getTile) (vis, found)).1, false⟩,
                (l.foldl (ownVisit playerId getTile) (vis, found)).2)
          ∧ ∀ nk ∈ l, nk ∉ vis → isOwnTerminal playerId getTile nk = false) := by
  induction l with
  | nil =>
      intro vis found
      right
      exact ⟨rfl, fun nk h => absurd h List.not_mem_nil⟩
  | cons a l ih =>
      intro vis found
      rw [List.foldl_cons, List.foldl_cons]
      rcases searchVisit_eq playerId getTile vis found a with
        ⟨_, hterm, heq⟩ | ⟨hnt, heq⟩
      · left
        rw [heq, searchVisit_connected]
        exact ⟨vis, rfl, Nat.le_refl _, a, List.mem_cons_self, hterm⟩
      · rw [heq]
        have hgrow : vis.length ≤ (ownVisit playerId getTile (vis, found) a).1.length := by
          unfold ownVisit Worklist.floodVisit
          split
          · simp
          · exact Nat.le_refl _
        have hnew : ∀ nk, nk ∈ (ownVisit playerId getTile (vis, found) a).1 → nk ∈ vis ∨ nk = a := by
          intro nk hnk
          unfold ownVisit Worklist.floodVisit at hnk
          split at hnk
          · rcases List.mem_append.mp hnk with h | h
            · exact Or.inl h
            · exact Or.inr (List.mem_singleton.mp h)
          · exact Or.inl hnk
        rcases ih (ownVisit playerId getTile (vis, found) a).1 _ with
          ⟨vis', hfold, hlen, nk, hnk, hterm⟩ | ⟨hfold, hall⟩
        · left
          exact ⟨vis', hfold, by omega, nk, List.mem_cons_of_mem _ hnk, hterm⟩
        · right
          refine ⟨hfold, ?_⟩
          intro nk hnk hnv
          rcases List.mem_cons.mp hnk with rfl | hnk
          · exact hnt hnv
          · by_cases hna : nk = a
            · rw [hna] at hnv ⊢
              exact hnt hnv
            · refine hall nk hnk (fun hmem => ?_)
              rcases hnew nk hmem with h | h
              · exact hnv h
              · exact hna h

/-- The invariant of the search from `key`. -/
structure SearchInv (playerId : PlayerId) (getTile : TileKey W → Option EncirclementTileView)
    (extraNeighborKeys : TileKey W → List (TileKey W)) (key : TileKey W)
    (q : List (TileKey W)) (st : ConnectedSearch W) : Prop where
  found : st.connected = true → ∃ w, Linked playerId getTile extraNeighborKeys key w
    ∧ ∃ nk ∈ connectedNeighborKeys extraNeighborKeys w, isOwnTerminal playerId getTile nk = true
  flood : st.connected = false → Worklist.FloodInv (connectedNeighborKeys extraNeighborKeys)
    (isOwnFrontier playerId getTile) (isOwnFrontier playerId getTile) key q st.visited
  dockless : st.connected = false → ∀ v ∈ st.visited, hasDockAt getTile v = false
  dry : st.connected = false → ∀ v ∈ st.visited,
    v ∈ q ∨ ∀ nk ∈ connectedNeighborKeys extraNeighborKeys v,
      isOwnTerminal playerId getTile nk = false

theorem searchInv_step {key v : TileKey W} {rest : List (TileKey W)} {st : ConnectedSearch W}
    (hroot : isOwnFrontier playerId getTile key = true)
    (h : SearchInv playerId getTile extraNeighborKeys key (v :: rest) st)
    (hstop : st.connected = false) :
    SearchInv playerId getTile extraNeighborKeys key
        (rest ++ (searchExpand playerId getTile extraNeighborKeys v st).2)
        (searchExpand playerId getTile extraNeighborKeys v st).1
      ∧ (searchExpand playerId getTile extraNeighborKeys v st).2.length
          + (Fintype.card (TileKey W)
            - (searchExpand playerId getTile extraNeighborKeys v st).1.visited.length)
        ≤ Fintype.card (TileKey W) - st.visited.length := by
  obtain ⟨vis, connected⟩ := st
  cases hstop
  have hflood := h.flood rfl
  have hvis := hflood.pending v List.mem_cons_self
  have hfr : ∀ w ∈ vis, isOwnFrontier playerId getTile w = true :=
    fun w hw => (hflood.sound w hw).accepted hroot
  obtain ⟨hflood', hlen⟩ := Worklist.floodInv_step hflood
  unfold searchExpand
  rcases foldl_searchVisit playerId getTile
      (connectedNeighborKeys extraNeighborKeys v) vis [] with
    ⟨vis', hfold, hgrow, nk, hnk, hterm⟩ | ⟨hfold, hall⟩
  · -- a terminal next to `v`
    rw [hfold]
    refine ⟨⟨fun _ => ⟨v, hflood.sound v hvis.1, nk, hnk, hterm⟩, ?_, ?_, ?_⟩, ?_⟩
    · intro hc
      cases hc
    · intro hc
      cases hc
    · intro hc
      cases hc
    · show 0 + (Fintype.card (TileKey W) - vis'.length) ≤ Fintype.card (TileKey W) - vis.length
      omega
  · rw [hfold]
    have hdry : ∀ nk ∈ connectedNeighborKeys extraNeighborKeys v,
        isOwnTerminal playerId getTile nk = false := by
      intro nk hnk
      by_cases hin : nk ∈ vis
      · rw [isOwnTerminal_of_frontier (hfr nk hin)]
        exact h.dockless rfl nk hin
      · exact hall nk hnk hin
    refine ⟨⟨?_, fun _ => hflood', ?_, ?_⟩, ?_⟩
    · intro hc
      cases hc
    · intro _ w hw
      rcases Worklist.mem_floodExpand hw with hw' | ⟨hnb, hacc, _⟩
      · exact h.dockless rfl w hw'
      · rw [← isOwnTerminal_of_frontier hacc]
        exact hdry w hnb
    · intro _ w hw
      rcases Worklist.mem_floodExpand hw with hin | ⟨_, hacc, hpend⟩
      · rcases h.dry rfl w hin with hq | hd
        · rcases List.mem_cons.mp hq with rfl | hq
          · exact Or.inr hdry
          · exact Or.inl (List.mem_append_left _ hq)
        · exact Or.inr hd
      · -- a tile visited in this turn is pending
        exact Or.inl (List.mem_append_right _ (hpend hacc))
    · have hcard := hflood'.nodup.length_le_card
      unfold Worklist.floodExpand at hlen hcard
      dsimp only at hlen hcard ⊢
      unfold ownVisit
      omega

/-- **The search decides supply**: a tile is reported connected exactly
when it is the player's frontier and its component touches supply. -/
theorem isFrontierConnected_iff (key : TileKey W) :
    isFrontierConnected playerId getTile extraNeighborKeys key = true
      ↔ isOwnFrontier playerId getTile key = true
        ∧ Supplied playerId getTile extraNeighborKeys key := by
  by_cases hroot : isOwnFrontier playerId getTile key = true
  · obtain ⟨tile, htile, hown, hstate⟩ := isOwnFrontier_iff.mp hroot
    unfold isFrontierConnected
    rw [htile]
    dsimp only
    rw [if_neg (by simp [hown, hstate])]
    by_cases hdock : tile.hasDock = true
    · rw [if_pos hdock]
      have hat : hasDockAt getTile key = true := by
        unfold hasDockAt
        rw [htile]
        exact hdock
      exact ⟨fun _ => ⟨hroot, key, .root, Or.inl hat⟩, fun _ => rfl⟩
    · rw [if_neg hdock]
      have hnodock : hasDockAt getTile key = false := by
        unfold hasDockAt
        rw [htile]
        simpa using hdock
      have hinit : SearchInv playerId getTile extraNeighborKeys key [key] ⟨[key], false⟩ := by
        refine ⟨?_, fun _ => Worklist.floodInv_init key, ?_, ?_⟩
        · intro hc
          cases hc
        · intro _ v hv
          rw [List.mem_singleton.mp hv]
          exact hnodock
        · intro _ v hv
          exact Or.inl hv
      obtain ⟨q', hinv, hend⟩ := Worklist.drain_rule ConnectedSearch.connected
        (searchExpand playerId getTile extraNeighborKeys)
        (SearchInv playerId getTile extraNeighborKeys key)
        (fun st => Fintype.card (TileKey W) - st.visited.length)
        (fun v rest st hI hs => searchInv_step hroot hI hs) _ _ _ hinit key.fuel_le
      constructor
      · intro hc
        obtain ⟨w, hw, hterm⟩ := hinv.found hc
        exact ⟨hroot, w, hw, Or.inr hterm⟩
      · rintro ⟨_, w, hw, hsup⟩
        by_contra hc
        have hc' : (Worklist.drain ConnectedSearch.connected
            (searchExpand playerId getTile extraNeighborKeys) (W.width * W.height) [key]
            ⟨[key], false⟩).connected = false := by simpa using hc
        have hq : q' = [] := by
          rcases hend with hq | hs
          · exact hq
          · exact absurd hs hc
        subst hq
        have hwv := ((hinv.flood hc').mem_iff w).mpr hw
        rcases hsup with hd | ⟨nk, hnk, hterm⟩
        · rw [hinv.dockless hc' w hwv] at hd
          cases hd
        · rcases hinv.dry hc' w hwv with hq | hd
          · cases hq
          · rw [hd nk hnk] at hterm
            cases hterm
  · constructor
    · intro hc
      exfalso
      apply hroot
      unfold isFrontierConnected at hc
      unfold isOwnFrontier
      cases ht : getTile key with
      | none =>
          rw [ht] at hc
          cases hc
      | some tile =>
          rw [ht] at hc
          dsimp only at hc ⊢
          split at hc
          next => cases hc
          next hne =>
            rw [not_or, not_not, not_not] at hne
            simp [hne.1, hne.2]
    · intro h
      exact absurd h.1 hroot

/-! ## §6. The flood of one component. -/

/-- The claims on tiles: this component's keys, and the earlier ones. -/
def ClaimInv (earlier : InsertionMap (TileKey W) Nat) (index : Nat) (st : ComponentFlood W) :
    Prop :=
  ∀ k, st.componentOf.get k = if k ∈ st.keys then some index else earlier.get k

variable (playerId getTile) in
/-- A neighbour no earlier component claims is one flood step, and marks
supply when it is a terminal met for the first time. -/
theorem visitNeighbor_eq (components : List (FrontierComponent W))
    {earlier : InsertionMap (TileKey W) Nat} {index : Nat} {st : ComponentFlood W}
    (hclaim : ClaimInv earlier index st) (found : List (TileKey W)) {nk : TileKey W}
    (hfree : earlier.get nk = none) :
    ∃ st', visitNeighbor playerId getTile components index (st, found) nk
        = (st', (ownVisit playerId getTile (st.keys, found) nk).2)
      ∧ st'.keys = (ownVisit playerId getTile (st.keys, found) nk).1
      ∧ ClaimInv earlier index st' ∧ st'.joinsUnknown = st.joinsUnknown
      ∧ st'.supplied = (st.supplied
          || (decide (nk ∉ st.keys) && isOwnTerminal playerId getTile nk)) := by
  have hget := hclaim nk
  unfold visitNeighbor ownVisit Worklist.floodVisit isOwnTerminal isOwnFrontier
  dsimp only
  by_cases hk : nk ∈ st.keys
  · rw [if_pos hk] at hget
    rw [hget]
    exact ⟨st, by simp [hk], by simp [hk], hclaim, rfl, by simp [hk]⟩
  · rw [if_neg hk, hfree] at hget
    rw [hget]
    cases ht : getTile nk with
    | none => exact ⟨st, by simp, by simp, hclaim, rfl, by simp⟩
    | some tile =>
        by_cases hown : tile.ownerId = some playerId
        · by_cases hfr : tile.ownershipState = some .FRONTIER
          · refine ⟨{ st with
              componentOf := st.componentOf.set nk index
              keys := st.keys ++ [nk]
              supplied := st.supplied || tile.hasDock }, ?_, ?_, ?_, rfl, ?_⟩
            · simp [hown, hfr, hk]
            · simp [hown, hfr, hk]
            · intro k
              show (st.componentOf.set nk index).get k = _
              rw [InsertionMap.get_set, hclaim k]
              by_cases hkn : nk = k
              · subst hkn
                simp
              · have hkn' : k ≠ nk := fun h => hkn h.symm
                simp [hkn, hkn']
            · simp [hown, hfr, hk, isSupplyTerminal]
          · by_cases hterm : isSupplyTerminal tile = true
            · refine ⟨{ st with supplied := true }, ?_, ?_, hclaim, rfl, ?_⟩
              · simp [hown, hfr, hterm]
              · simp [hown, hfr]
              · simp [hown, hterm, hk]
            · refine ⟨st, ?_, ?_, hclaim, rfl, ?_⟩
              · simp [hown, hfr, hterm]
              · simp [hown, hfr]
              · simp [hown, hterm]
        · refine ⟨st, ?_, ?_, hclaim, rfl, ?_⟩
          · simp [hown]
          · simp [hown]
          · simp [hown]

variable (playerId getTile) in
theorem foldl_visitNeighbor (components : List (FrontierComponent W))
    {earlier : InsertionMap (TileKey W) Nat} {index : Nat} (l : List (TileKey W)) :
    ∀ (st : ComponentFlood W) (found : List (TileKey W)), ClaimInv earlier index st →
      (∀ nk ∈ l, earlier.get nk = none) →
      ∃ st', l.foldl (visitNeighbor playerId getTile components index) (st, found)
          = (st', (l.foldl (ownVisit playerId getTile) (st.keys, found)).2)
        ∧ st'.keys = (l.foldl (ownVisit playerId getTile) (st.keys, found)).1
        ∧ ClaimInv earlier index st' ∧ st'.joinsUnknown = st.joinsUnknown
        ∧ (st.supplied = true → st'.supplied = true)
        ∧ (st'.supplied = true → st.supplied = true
            ∨ ∃ nk ∈ l, isOwnTerminal playerId getTile nk = true)
        ∧ (∀ nk ∈ l, nk ∉ st.keys → isOwnTerminal playerId getTile nk = true →
            st'.supplied = true) := by
  induction l with
  | nil =>
      intro st found hclaim hfree
      exact ⟨st, rfl, rfl, hclaim, rfl, id, Or.inl, fun nk h => absurd h List.not_mem_nil⟩
  | cons a l ih =>
      intro st found hclaim hfree
      obtain ⟨st₁, heq, hkeys, hclaim₁, hjoin₁, hsup₁⟩ :=
        visitNeighbor_eq playerId getTile components hclaim found (hfree a List.mem_cons_self)
      obtain ⟨st₂, heq₂, hkeys₂, hclaim₂, hjoin₂, hmono, hsound, hcomplete⟩ :=
        ih st₁ (ownVisit playerId getTile (st.keys, found) a).2 hclaim₁
          (fun nk hnk => hfree nk (List.mem_cons_of_mem _ hnk))
      have hpair : (st₁.keys, (ownVisit playerId getTile (st.keys, found) a).2)
          = ownVisit playerId getTile (st.keys, found) a := by
        rw [hkeys]
      rw [hpair] at heq₂ hkeys₂
      refine ⟨st₂, ?_, ?_, hclaim₂, hjoin₂.trans hjoin₁, ?_, ?_, ?_⟩
      · rw [List.foldl_cons, heq, heq₂]
        rfl
      · exact hkeys₂
      · intro hs
        exact hmono (by rw [hsup₁, hs]; rfl)
      · intro hs
        rcases hsound hs with h | ⟨nk, hnk, hterm⟩
        · rw [hsup₁, Bool.or_eq_true, Bool.and_eq_true] at h
          rcases h with h | h
          · exact Or.inl h
          · exact Or.inr ⟨a, List.mem_cons_self, h.2⟩
        · exact Or.inr ⟨nk, List.mem_cons_of_mem _ hnk, hterm⟩
      · intro nk hnk hnew hterm
        by_cases hna : nk = a
        · subst hna
          apply hmono
          rw [hsup₁, hterm, decide_eq_true hnew]
          simp
        · have hnk' : nk ∈ l := (List.mem_cons.mp hnk).resolve_left hna
          refine hcomplete nk hnk' (fun hmem => ?_) hterm
          rw [hkeys] at hmem
          unfold ownVisit Worklist.floodVisit at hmem
          split at hmem
          · rcases List.mem_append.mp hmem with h | h
            · exact hnew h
            · exact hna (List.mem_singleton.mp h)
          · exact hnew hmem

/-- The invariant of the flood from `seed`. -/
structure ComponentInv (playerId : PlayerId)
    (getTile : TileKey W → Option EncirclementTileView)
    (extraNeighborKeys : TileKey W → List (TileKey W))
    (earlier : InsertionMap (TileKey W) Nat) (index : Nat) (seed : TileKey W)
    (q : List (TileKey W)) (st : ComponentFlood W) : Prop where
  claim : ClaimInv earlier index st
  flood : Worklist.FloodInv (connectedNeighborKeys extraNeighborKeys)
    (isOwnFrontier playerId getTile) (isOwnFrontier playerId getTile) seed q st.keys
  alone : st.joinsUnknown = false
  sound : st.supplied = true → ∃ w ∈ st.keys, SupplyAt playerId getTile extraNeighborKeys w
  docks : ∀ v ∈ st.keys, hasDockAt getTile v = true → st.supplied = true
  dry : ∀ v ∈ st.keys, v ∈ q ∨ ((∃ nk ∈ connectedNeighborKeys extraNeighborKeys v,
    isOwnTerminal playerId getTile nk = true) → st.supplied = true)

theorem componentInv_step (bfsCap : Nat) (components : List (FrontierComponent W))
    {earlier : InsertionMap (TileKey W) Nat} {index : Nat} {seed v : TileKey W}
    {rest : List (TileKey W)} {st : ComponentFlood W}
    (hroot : isOwnFrontier playerId getTile seed = true)
    (hfree : ∀ w, Linked playerId getTile extraNeighborKeys seed w →
      ∀ nk ∈ connectedNeighborKeys extraNeighborKeys w, earlier.get nk = none)
    (h : ComponentInv playerId getTile extraNeighborKeys earlier index seed (v :: rest) st) :
    ComponentInv playerId getTile extraNeighborKeys earlier index seed
        (rest ++ (expandComponent playerId getTile extraNeighborKeys bfsCap components index
          v st).2)
        (expandComponent playerId getTile extraNeighborKeys bfsCap components index v st).1
      ∧ (expandComponent playerId getTile extraNeighborKeys bfsCap components index
            v st).2.length
          + (Fintype.card (TileKey W) - (expandComponent playerId getTile extraNeighborKeys
            bfsCap components index v st).1.keys.length)
        ≤ Fintype.card (TileKey W) - st.keys.length := by
  have hv := h.flood.pending v List.mem_cons_self
  obtain ⟨hflood', hlen⟩ := Worklist.floodInv_step h.flood
  obtain ⟨st', heq, hkeys, hclaim, hjoin, hmono, hsound, hcomplete⟩ :=
    foldl_visitNeighbor playerId getTile components
      (connectedNeighborKeys extraNeighborKeys v)
      { st with lookups := st.lookups + (connectedNeighborKeys extraNeighborKeys v).length } []
      h.claim (hfree v (h.flood.sound v hv.1))
  unfold expandComponent
  dsimp only
  rw [heq]
  have hkeys' : st'.keys = (ownExpand playerId getTile extraNeighborKeys v st.keys).1 := hkeys
  have hold : ∀ w ∈ st.keys, w ∈ st'.keys := by
    intro w hw
    obtain ⟨new, hnew, _⟩ := Worklist.foldl_floodVisit (isOwnFrontier playerId getTile)
      (isOwnFrontier playerId getTile) (connectedNeighborKeys extraNeighborKeys v) st.keys []
    rw [hkeys']
    unfold ownExpand Worklist.floodExpand
    rw [hnew]
    exact List.mem_append_left _ hw
  -- a terminal next to `v` is new, or a dock of this component already
  have hterm : ∀ nk ∈ connectedNeighborKeys extraNeighborKeys v,
      isOwnTerminal playerId getTile nk = true → st'.supplied = true := by
    intro nk hnk ht
    by_cases hin : nk ∈ st.keys
    · rw [isOwnTerminal_of_frontier ((h.flood.sound nk hin).accepted hroot)] at ht
      exact hmono (h.docks nk hin ht)
    · exact hcomplete nk hnk hin ht
  refine ⟨⟨hclaim, ?_, hjoin.trans h.alone, ?_, ?_, ?_⟩, ?_⟩
  · show Worklist.FloodInv _ _ _ seed _ st'.keys
    rw [hkeys']
    exact hflood'
  · intro hs
    rcases hsound hs with hs | ⟨nk, hnk, ht⟩
    · obtain ⟨w, hw, hsup⟩ := h.sound hs
      exact ⟨w, hold w hw, hsup⟩
    · exact ⟨v, hold v hv.1, Or.inr ⟨nk, hnk, ht⟩⟩
  · intro w hw hdock
    have hw' : w ∈ (ownExpand playerId getTile extraNeighborKeys v st.keys).1 := hkeys' ▸ hw
    rcases Worklist.mem_floodExpand hw' with hin | ⟨hnb, hacc, _⟩
    · exact hmono (h.docks w hin hdock)
    · exact hterm w hnb (by rw [isOwnTerminal_of_frontier hacc]; exact hdock)
  · intro w hw
    have hw' : w ∈ (ownExpand playerId getTile extraNeighborKeys v st.keys).1 := hkeys' ▸ hw
    rcases Worklist.mem_floodExpand hw' with hin | ⟨_, hacc, hpend⟩
    · rcases h.dry w hin with hq | hd
      · rcases List.mem_cons.mp hq with rfl | hq
        · right
          rintro ⟨nk, hnk, ht⟩
          exact hterm nk hnk ht
        · exact Or.inl (List.mem_append_left _ hq)
      · right
        intro ht
        exact hmono (hd ht)
    · exact Or.inl (List.mem_append_right _ (hpend hacc))
  · have hcard := hflood'.nodup.length_le_card
    show (ownExpand playerId getTile extraNeighborKeys v st.keys).2.length
      + (Fintype.card (TileKey W) - st'.keys.length) ≤ _
    rw [hkeys']
    unfold ownExpand
    omega

def ClaimsClosed (playerId : PlayerId) (getTile : TileKey W → Option EncirclementTileView)
    (extraNeighborKeys : TileKey W → List (TileKey W))
    (claims : InsertionMap (TileKey W) Nat) : Prop :=
  ∀ k, (claims.get k).isSome = true → isOwnFrontier playerId getTile k = true
    ∧ ∀ nk ∈ connectedNeighborKeys extraNeighborKeys k,
        isOwnFrontier playerId getTile nk = true → (claims.get nk).isSome = true

-- a lane that leads over leads back
variable (hsymm : ∀ a b, b ∈ extraNeighborKeys a → a ∈ extraNeighborKeys b)

include hsymm in
/-- A component with an unclaimed tile is unclaimed throughout, and so are
the neighbours of its tiles. -/
theorem unclaimed_of_linked
    {claims : InsertionMap (TileKey W) Nat}
    (hclosed : ClaimsClosed playerId getTile extraNeighborKeys claims) {seed w : TileKey W}
    (hroot : isOwnFrontier playerId getTile seed = true) (hseed : claims.get seed = none)
    (h : Linked playerId getTile extraNeighborKeys seed w) :
    claims.get w = none ∧ ∀ nk ∈ connectedNeighborKeys extraNeighborKeys w,
      claims.get nk = none := by
  have hback : ∀ u, isOwnFrontier playerId getTile u = true → claims.get u = none →
      ∀ nk ∈ connectedNeighborKeys extraNeighborKeys u, claims.get nk = none := by
    intro u hu hnone nk hnk
    cases hc : claims.get nk with
    | none => rfl
    | some j =>
        -- a claimed neighbour would claim `u` back
        have := (hclosed nk (by rw [hc]; rfl)).2 u (connectedNeighborKeys_symm hsymm u nk hnk) hu
        rw [hnone] at this
        cases this
  have hw : claims.get w = none := by
    induction h with
    | root => exact hseed
    | step hv hexp hnb hacc ih => exact hback _ (hv.accepted hroot) ih _ hnb
  exact ⟨hw, hback w (h.accepted hroot) hw⟩

variable {st : Sweep W} {changedKeys : List (TileKey W)}

include hsymm in
/-- **The flood of a fresh seed, uncapped**: its keys are the seed's
component, and it is supplied exactly when the component is. -/
theorem floodComponent_spec
    {bfsCap : Nat} (hclosed : ClaimsClosed playerId getTile extraNeighborKeys st.componentOf)
    {seed : TileKey W} (hroot : isOwnFrontier playerId getTile seed = true)
    (hseed : st.componentOf.get seed = none)
    (hcap : (floodComponent playerId getTile extraNeighborKeys bfsCap st seed).capped = false) :
    (∀ w, w ∈ (floodComponent playerId getTile extraNeighborKeys bfsCap st seed).keys
        ↔ Linked playerId getTile extraNeighborKeys seed w)
      ∧ ClaimInv st.componentOf st.components.length
          (floodComponent playerId getTile extraNeighborKeys bfsCap st seed)
      ∧ (floodComponent playerId getTile extraNeighborKeys bfsCap st seed).joinsUnknown = false
      ∧ ((floodComponent playerId getTile extraNeighborKeys bfsCap st seed).supplied = true
          ↔ Supplied playerId getTile extraNeighborKeys seed) := by
  have hinit : ComponentInv playerId getTile extraNeighborKeys st.componentOf
      st.components.length seed [seed]
      ⟨st.componentOf.set seed st.components.length, [seed], hasDockAt getTile seed, false,
        false, 0⟩ := by
    refine ⟨?_, Worklist.floodInv_init seed, rfl, ?_, ?_, ?_⟩
    · intro k
      show (st.componentOf.set seed st.components.length).get k = _
      rw [InsertionMap.get_set]
      by_cases hk : seed = k
      · subst hk
        simp
      · have hk' : k ≠ seed := fun h => hk h.symm
        simp [hk, hk']
    · intro hs
      exact ⟨seed, List.mem_singleton.mpr rfl, Or.inl hs⟩
    · intro v hv hd
      rw [List.mem_singleton.mp hv] at hd
      exact hd
    · intro v hv
      exact Or.inl hv
  obtain ⟨q', hinv, hend⟩ := Worklist.drain_rule ComponentFlood.capped
    (expandComponent playerId getTile extraNeighborKeys bfsCap st.components st.components.length)
    (ComponentInv playerId getTile extraNeighborKeys st.componentOf st.components.length seed)
    (fun flood => Fintype.card (TileKey W) - flood.keys.length)
    (fun v rest flood hI _ => componentInv_step bfsCap st.components hroot
      (fun w hw => (unclaimed_of_linked hsymm hclosed hroot hseed hw).2) hI)
    (W.width * W.height) [seed] _ hinit seed.fuel_le
  have hq : q' = [] := by
    rcases hend with hq | hs
    · exact hq
    · unfold floodComponent at hcap
      rw [hs] at hcap
      cases hcap
  subst hq
  have hkeys := hinv.flood.mem_iff
  refine ⟨hkeys, hinv.claim, hinv.alone, ?_⟩
  constructor
  · intro hs
    obtain ⟨w, hw, hsup⟩ := hinv.sound hs
    exact ⟨w, (hkeys w).mp hw, hsup⟩
  · rintro ⟨w, hw, hsup⟩
    have hwk := (hkeys w).mpr hw
    rcases hsup with hd | ht
    · exact hinv.docks w hwk hd
    · rcases hinv.dry w hwk with hq | hdry
      · cases hq
      · exact hdry ht

/-! ## §7. The sweep. -/

/-- The component of `key` holds a frontier tile that changed or lies next
to a change. -/
def Touched (playerId : PlayerId) (getTile : TileKey W → Option EncirclementTileView)
    (extraNeighborKeys : TileKey W → List (TileKey W)) (changedKeys : List (TileKey W))
    (key : TileKey W) : Prop :=
  ∃ c ∈ changedKeys, ∃ seed ∈ c :: connectedNeighborKeys extraNeighborKeys c,
    isOwnFrontier playerId getTile seed = true ∧ Linked playerId getTile extraNeighborKeys seed key

include hsymm in
theorem supplied_of_linked
    {a b : TileKey W}
    (ha : isOwnFrontier playerId getTile a = true)
    (h : Linked playerId getTile extraNeighborKeys a b) :
    Supplied playerId getTile extraNeighborKeys a
      ↔ Supplied playerId getTile extraNeighborKeys b := by
  have hb : isOwnFrontier playerId getTile b = true := h.accepted ha
  have hback := h.symm (connectedNeighborKeys_symm hsymm) ha
  constructor
  · rintro ⟨w, hw, hsup⟩
    exact ⟨w, hback.trans (Or.inr ha) hw, hsup⟩
  · rintro ⟨w, hw, hsup⟩
    exact ⟨w, h.trans (Or.inr hb) hw, hsup⟩

variable (playerId getTile) in
theorem mem_foldl_collectSeed (key : TileKey W) (candidates : List (TileKey W)) :
    ∀ seeds seen : List (TileKey W),
      key ∈ (candidates.foldl (collectSeed playerId getTile) (seeds, seen)).1
        ↔ key ∈ seeds
          ∨ (key ∉ seen ∧ key ∈ candidates ∧ isOwnFrontier playerId getTile key = true) := by
  induction candidates with
  | nil =>
      intro seeds seen
      simp
  | cons a l ih =>
      intro seeds seen
      rw [List.foldl_cons]
      by_cases ha : a ∈ seen
      · have hstep : collectSeed playerId getTile (seeds, seen) a = (seeds, seen) := by
          unfold collectSeed
          exact if_pos ha
        rw [hstep, ih seeds seen]
        by_cases hka : key = a
        · simp [hka, ha]
        · simp [hka]
      · have hstep : collectSeed playerId getTile (seeds, seen) a
            = (if isOwnFrontier playerId getTile a then seeds ++ [a] else seeds, seen ++ [a]) := by
          unfold collectSeed
          exact if_neg ha
        rw [hstep, ih]
        by_cases hf : isOwnFrontier playerId getTile a = true
        · by_cases hka : key = a
          · simp [hka, hf, ha]
          · simp [hka, hf]
        · by_cases hka : key = a
          · simp [hka, hf]
          · simp [hka, hf]

theorem mem_encirclementSeeds {key : TileKey W} :
    key ∈ encirclementSeeds playerId getTile extraNeighborKeys changedKeys
      ↔ isOwnFrontier playerId getTile key = true
        ∧ ∃ c ∈ changedKeys, key ∈ c :: connectedNeighborKeys extraNeighborKeys c := by
  unfold encirclementSeeds
  rw [mem_foldl_collectSeed]
  simp only [List.not_mem_nil, false_or, not_false_eq_true, true_and, List.mem_flatMap]
  exact and_comm

/-- The invariant of the sweep once the seeds `done` are classified. -/
structure SweepInv (playerId : PlayerId) (getTile : TileKey W → Option EncirclementTileView)
    (extraNeighborKeys : TileKey W → List (TileKey W)) (done : List (TileKey W))
    (st : Sweep W) : Prop where
  closed : ClaimsClosed playerId getTile extraNeighborKeys st.componentOf
  held : ∀ k, (st.componentOf.get k).isSome = true → ∃ comp ∈ st.components, k ∈ comp.keys
  covered : ∀ seed ∈ done, ∃ comp ∈ st.components, seed ∈ comp.keys
  classified : ∀ comp ∈ st.components, ∃ seed ∈ done,
    isOwnFrontier playerId getTile seed = true
      ∧ (∀ w, w ∈ comp.keys ↔ Linked playerId getTile extraNeighborKeys seed w)
      ∧ ((comp.status = .supplied ∧ Supplied playerId getTile extraNeighborKeys seed)
        ∨ (comp.status = .unsupplied ∧ ¬ Supplied playerId getTile extraNeighborKeys seed))

theorem sweepInv_init :
    SweepInv playerId getTile extraNeighborKeys []
      (⟨[], InsertionMap.empty, false⟩ : Sweep W) where
  closed := fun k hk => by
    rw [InsertionMap.get_empty] at hk
    cases hk
  held := fun k hk => by
    rw [InsertionMap.get_empty] at hk
    cases hk
  covered := fun _ h => absurd h List.not_mem_nil
  classified := fun _ h => absurd h List.not_mem_nil

include hsymm in
/-- **One seed**: its component is classified, unless an earlier seed's
flood already did. -/
theorem sweepInv_step
    {bfsCap : Nat} {done : List (TileKey W)} {seed : TileKey W}
    (h : SweepInv playerId getTile extraNeighborKeys done st)
    (hroot : isOwnFrontier playerId getTile seed = true)
    (hcap : (sweepSeed playerId getTile extraNeighborKeys bfsCap st seed).capped = false) :
    SweepInv playerId getTile extraNeighborKeys (done ++ [seed])
      (sweepSeed playerId getTile extraNeighborKeys bfsCap st seed) := by
  unfold sweepSeed at hcap ⊢
  by_cases hhas : st.componentOf.has seed = true
  · rw [if_pos hhas]
    refine ⟨h.closed, h.held, ?_, ?_⟩
    · intro k hk
      rcases List.mem_append.mp hk with hk | hk
      · exact h.covered k hk
      · rw [List.mem_singleton.mp hk]
        exact h.held seed hhas
    · intro comp hcomp
      obtain ⟨s, hs, hrest⟩ := h.classified comp hcomp
      exact ⟨s, List.mem_append_left _ hs, hrest⟩
  · rw [if_neg hhas] at hcap ⊢
    have hseed : st.componentOf.get seed = none := by
      cases hget : st.componentOf.get seed with
      | none => rfl
      | some j =>
          exfalso
          apply hhas
          show (st.componentOf.get seed).isSome = true
          rw [hget]
          rfl
    rw [Bool.or_eq_false_iff] at hcap
    obtain ⟨hkeys, hclaim, hjoin, hsup⟩ := floodComponent_spec hsymm h.closed hroot hseed hcap.2
    set flood := floodComponent playerId getTile extraNeighborKeys bfsCap st seed
    have hmemSeed : seed ∈ flood.keys := (hkeys seed).mpr .root
    refine ⟨?_, ?_, ?_, ?_⟩
    · intro k hk
      rw [hclaim k] at hk
      by_cases hin : k ∈ flood.keys
      · have hlink := (hkeys k).mp hin
        have hown : isOwnFrontier playerId getTile k = true := hlink.accepted hroot
        refine ⟨hown, fun nk hnk hacc => ?_⟩
        have hin' := (hkeys nk).mpr (hlink.step (Or.inr hown) hnk hacc)
        show (flood.componentOf.get nk).isSome = true
        rw [hclaim nk, if_pos hin']
        rfl
      · rw [if_neg hin] at hk
        refine ⟨(h.closed k hk).1, fun nk hnk hacc => ?_⟩
        show (flood.componentOf.get nk).isSome = true
        rw [hclaim nk]
        split
        · rfl
        · exact (h.closed k hk).2 nk hnk hacc
    · intro k hk
      rw [hclaim k] at hk
      by_cases hin : k ∈ flood.keys
      · exact ⟨_, List.mem_append_right _ (List.mem_singleton.mpr rfl), hin⟩
      · rw [if_neg hin] at hk
        obtain ⟨comp, hcomp, hmem⟩ := h.held k hk
        exact ⟨comp, List.mem_append_left _ hcomp, hmem⟩
    · intro k hk
      rcases List.mem_append.mp hk with hk | hk
      · obtain ⟨comp, hcomp, hmem⟩ := h.covered k hk
        exact ⟨comp, List.mem_append_left _ hcomp, hmem⟩
      · rw [List.mem_singleton.mp hk]
        exact ⟨_, List.mem_append_right _ (List.mem_singleton.mpr rfl), hmemSeed⟩
    · intro comp hcomp
      rcases List.mem_append.mp hcomp with hcomp | hcomp
      · obtain ⟨s, hs, hrest⟩ := h.classified comp hcomp
        exact ⟨s, List.mem_append_left _ hs, hrest⟩
      · rw [List.mem_singleton.mp hcomp]
        refine ⟨seed, List.mem_append_right _ (List.mem_singleton.mpr rfl), hroot, hkeys, ?_⟩
        -- uncapped and meeting no other component, the verdict is supply alone
        by_cases hs : flood.supplied = true
        · left
          refine ⟨?_, hsup.mp hs⟩
          simp [hs]
        · right
          refine ⟨?_, fun hc => hs (hsup.mpr hc)⟩
          simp [hs, hcap.2, hjoin]

theorem sweepSeed_capped {bfsCap : Nat} {seed : TileKey W}
    (h : (sweepSeed playerId getTile extraNeighborKeys bfsCap st seed).capped = false) :
    st.capped = false := by
  unfold sweepSeed at h
  split at h
  · exact h
  · exact (Bool.or_eq_false_iff.mp h).1

variable (playerId getTile extraNeighborKeys) in
theorem foldl_sweepSeed_capped (bfsCap : Nat) (seeds : List (TileKey W)) :
    ∀ st : Sweep W,
      (seeds.foldl (sweepSeed playerId getTile extraNeighborKeys bfsCap) st).capped = false →
      st.capped = false := by
  induction seeds with
  | nil =>
      intro st h
      exact h
  | cons a l ih =>
      intro st h
      exact sweepSeed_capped (ih _ h)

include hsymm in
theorem sweepInv_foldl
    (bfsCap : Nat)
    (seeds : List (TileKey W)) (hseeds : ∀ s ∈ seeds, isOwnFrontier playerId getTile s = true) :
    ∀ (done : List (TileKey W)) (st : Sweep W),
      SweepInv playerId getTile extraNeighborKeys done st →
      (seeds.foldl (sweepSeed playerId getTile extraNeighborKeys bfsCap) st).capped = false →
      SweepInv playerId getTile extraNeighborKeys (done ++ seeds)
        (seeds.foldl (sweepSeed playerId getTile extraNeighborKeys bfsCap) st) := by
  induction seeds with
  | nil =>
      intro done st h _
      rw [List.append_nil]
      exact h
  | cons a l ih =>
      intro done st h hcap
      have hcap_a := foldl_sweepSeed_capped playerId getTile extraNeighborKeys bfsCap l _ hcap
      have hstep := sweepInv_step hsymm h (hseeds a List.mem_cons_self) hcap_a
      have hrest := ih (fun s hs => hseeds s (List.mem_cons_of_mem _ hs)) (done ++ [a]) _ hstep hcap
      rw [List.append_assoc] at hrest
      exact hrest

include hsymm in
theorem sweepInv_compute
    (bfsCap : Nat)
    (changedKeys : List (TileKey W))
    (hcap : ((encirclementSeeds playerId getTile extraNeighborKeys changedKeys).foldl
      (sweepSeed playerId getTile extraNeighborKeys bfsCap)
      ⟨[], InsertionMap.empty, false⟩).capped = false) :
    SweepInv playerId getTile extraNeighborKeys
      (encirclementSeeds playerId getTile extraNeighborKeys changedKeys)
      ((encirclementSeeds playerId getTile extraNeighborKeys changedKeys).foldl
        (sweepSeed playerId getTile extraNeighborKeys bfsCap) ⟨[], InsertionMap.empty, false⟩) :=
  sweepInv_foldl hsymm bfsCap _ (fun _ hs => (mem_encirclementSeeds.mp hs).1) [] _
    sweepInv_init hcap

include hsymm in
/-- **A component of an uncapped sweep is a touched component**, whole, with
the verdict the search gives each of its tiles. -/
theorem SweepInv.component
    (h : SweepInv playerId getTile extraNeighborKeys
      (encirclementSeeds playerId getTile extraNeighborKeys changedKeys) st)
    {comp : FrontierComponent W} (hcomp : comp ∈ st.components) {key : TileKey W}
    (hkey : key ∈ comp.keys) :
    Touched playerId getTile extraNeighborKeys changedKeys key
      ∧ (comp.status = .supplied
        ↔ isFrontierConnected playerId getTile extraNeighborKeys key = true)
      ∧ (comp.status = .unsupplied
        ↔ isFrontierConnected playerId getTile extraNeighborKeys key = false) := by
  obtain ⟨seed, hseed, hroot, hkeys, hstatus⟩ := h.classified comp hcomp
  obtain ⟨_, c, hc, hnear⟩ := mem_encirclementSeeds.mp hseed
  have hlink := (hkeys key).mp hkey
  have hown : isOwnFrontier playerId getTile key = true := hlink.accepted hroot
  have hiff : isFrontierConnected playerId getTile extraNeighborKeys key = true
      ↔ Supplied playerId getTile extraNeighborKeys seed := by
    rw [isFrontierConnected_iff, supplied_of_linked hsymm hroot hlink]
    exact and_iff_right hown
  refine ⟨⟨c, hc, seed, hnear, hroot, hlink⟩, ?_⟩
  rw [← Bool.not_eq_true, hiff]
  rcases hstatus with ⟨hst, hsup⟩ | ⟨hst, hsup⟩
  · simp [hst, hsup]
  · simp [hst, hsup]

theorem SweepInv.exists_component
    (h : SweepInv playerId getTile extraNeighborKeys
      (encirclementSeeds playerId getTile extraNeighborKeys changedKeys) st) {key : TileKey W}
    (ht : Touched playerId getTile extraNeighborKeys changedKeys key) :
    ∃ comp ∈ st.components, key ∈ comp.keys := by
  obtain ⟨c, hc, seed, hnear, hown, hlink⟩ := ht
  obtain ⟨comp, hcomp, hin⟩ := h.covered seed (mem_encirclementSeeds.mpr ⟨hown, c, hc, hnear⟩)
  obtain ⟨root, _, hroot, hkeys, _⟩ := h.classified comp hcomp
  have hseed := (hkeys seed).mp hin
  exact ⟨comp, hcomp, (hkeys key).mpr (hseed.trans (Or.inr hown) hlink)⟩

/-! ## §8. The verdict of one call. -/

/-- `clearCutOffFrontierTiles`: what is left of ownership once the cut-off
tiles are released. -/
def clearCutOffFrontierTiles (getTile : TileKey W → Option EncirclementTileView)
    (keys : List (TileKey W)) (key : TileKey W) : Option EncirclementTileView :=
  match getTile key with
  | none => none
  | some tile =>
      if key ∈ keys ∧ tile.ownershipState = some .FRONTIER then
        some { tile with
          ownerId := none
          ownershipState := none
          frontierDecayAt := none
          frontierDecayKind := none }
      else some tile

theorem clearCutOffFrontierTiles_of_notMem {keys : List (TileKey W)} {key : TileKey W}
    (h : key ∉ keys) : clearCutOffFrontierTiles getTile keys key = getTile key := by
  unfold clearCutOffFrontierTiles
  cases getTile key with
  | none => rfl
  | some tile =>
      dsimp only
      rw [if_neg (fun hc => h hc.1)]

theorem isOwnFrontier_clear {keys : List (TileKey W)} {key : TileKey W}
    (h : isOwnFrontier playerId (clearCutOffFrontierTiles getTile keys) key = true) :
    key ∉ keys ∧ isOwnFrontier playerId getTile key = true := by
  have hkey : key ∉ keys := by
    intro hin
    obtain ⟨tile, htile, hown, hstate⟩ := isOwnFrontier_iff.mp h
    unfold clearCutOffFrontierTiles at htile
    cases hget : getTile key with
    | none =>
        rw [hget] at htile
        cases htile
    | some t =>
        rw [hget] at htile
        dsimp only at htile
        split at htile
        next =>
          rw [← Option.some.inj htile] at hown
          cases hown
        next hne =>
          rw [← Option.some.inj htile] at hstate
          exact hne ⟨hin, hstate⟩
  refine ⟨hkey, ?_⟩
  unfold isOwnFrontier at h ⊢
  rw [clearCutOffFrontierTiles_of_notMem hkey] at h
  exact h

include hsymm in
theorem mem_cutOff_iff
    (changedKeys : List (TileKey W)) (bfsCap : Option Nat)
    (hcap : (computeEncirclementDeltas playerId getTile extraNeighborKeys changedKeys bfsCap
      false).capped = false) (key : TileKey W) :
    key ∈ (computeEncirclementDeltas playerId getTile extraNeighborKeys changedKeys bfsCap
        false).cutOff
      ↔ Touched playerId getTile extraNeighborKeys changedKeys key
        ∧ isFrontierConnected playerId getTile extraNeighborKeys key = false := by
  have hinv := sweepInv_compute hsymm (bfsCap.getD ENCIRCLEMENT_BFS_CAP) changedKeys hcap
  unfold computeEncirclementDeltas
  simp only [List.mem_flatMap]
  constructor
  · rintro ⟨comp, hcomp, hkey⟩
    unfold cutOffKeys at hkey
    split at hkey
    next hst =>
      have hc := hinv.component hsymm hcomp hkey
      exact ⟨hc.1, hc.2.2.mp hst.1⟩
    next => cases hkey
  · rintro ⟨ht, hdisc⟩
    obtain ⟨comp, hcomp, hkey⟩ := hinv.exists_component ht
    have hst := (hinv.component hsymm hcomp hkey).2.2.mpr hdisc
    refine ⟨comp, hcomp, ?_⟩
    unfold cutOffKeys
    rw [if_pos ⟨hst, rfl⟩]
    exact hkey

include hsymm in
theorem mem_reconnected
    (changedKeys : List (TileKey W)) (bfsCap : Option Nat) (skipCutOff : Bool)
    (hcap : (computeEncirclementDeltas playerId getTile extraNeighborKeys changedKeys bfsCap
      skipCutOff).capped = false) {key : TileKey W}
    (h : key ∈ (computeEncirclementDeltas playerId getTile extraNeighborKeys changedKeys bfsCap
      skipCutOff).reconnected) :
    isStampedAt getTile key = true
      ∧ isFrontierConnected playerId getTile extraNeighborKeys key = true := by
  have hinv := sweepInv_compute hsymm (bfsCap.getD ENCIRCLEMENT_BFS_CAP) changedKeys hcap
  unfold computeEncirclementDeltas at h
  simp only [List.mem_flatMap] at h
  obtain ⟨comp, hcomp, hkey⟩ := h
  unfold reconnectedKeys at hkey
  split at hkey
  next hst =>
    rw [List.mem_filter] at hkey
    exact ⟨hkey.2, (hinv.component hsymm hcomp hkey.1).2.1.mp hst⟩
  next => cases hkey

include hsymm in
theorem unchanged_of_untouched
    {key w : TileKey W} (hkey : isOwnFrontier playerId getTile key = true)
    (ht : ¬ Touched playerId getTile extraNeighborKeys changedKeys key)
    (hw : Linked playerId getTile extraNeighborKeys key w) :
    w ∉ changedKeys ∧ ∀ nk ∈ connectedNeighborKeys extraNeighborKeys w, nk ∉ changedKeys := by
  have hnbrs := connectedNeighborKeys_symm hsymm
  have hown : isOwnFrontier playerId getTile w = true := hw.accepted hkey
  have hback := hw.symm hnbrs hkey
  constructor
  · intro hc
    exact ht ⟨w, hc, w, List.mem_cons_self, hown, hback⟩
  · intro nk hnk hc
    exact ht ⟨nk, hc, w, List.mem_cons_of_mem _ (hnbrs w nk hnk), hown, hback⟩

include hsymm in
/-- **A change reaches only the components it touches**: an untouched
component that was supplied before still is. -/
theorem supplied_of_untouched
    {before : TileKey W → Option EncirclementTileView}
    (hframe : ∀ key, key ∉ changedKeys → before key = getTile key) {key : TileKey W}
    (hkey : isOwnFrontier playerId getTile key = true)
    (ht : ¬ Touched playerId getTile extraNeighborKeys changedKeys key)
    (h : Supplied playerId before extraNeighborKeys key) :
    Supplied playerId getTile extraNeighborKeys key := by
  obtain ⟨w, hw, hsup⟩ := h
  have hlink : Linked playerId getTile extraNeighborKeys key w := by
    clear hsup
    induction hw with
    | root => exact .root
    | step hv hexp hnb hacc ih =>
        obtain ⟨_, hfar⟩ := unchanged_of_untouched hsymm hkey ht ih
        refine ih.step (Or.inr (ih.accepted hkey)) hnb ?_
        unfold isOwnFrontier at hacc ⊢
        rw [hframe _ (hfar _ hnb)] at hacc
        exact hacc
  obtain ⟨hnear, hfar⟩ := unchanged_of_untouched hsymm hkey ht hlink
  refine ⟨w, hlink, ?_⟩
  rcases hsup with hd | ⟨nk, hnk, hterm⟩
  · left
    unfold hasDockAt at hd ⊢
    rw [hframe w hnear] at hd
    exact hd
  · right
    refine ⟨nk, hnk, ?_⟩
    unfold isOwnTerminal at hterm ⊢
    rw [hframe nk (hfar nk hnk)] at hterm
    exact hterm

include hsymm in
/-- **Releasing the cut-off components takes supply from nobody else.** -/
theorem supplied_clear
    {keys : List (TileKey W)}
    (hkeys : ∀ k ∈ keys, isFrontierConnected playerId getTile extraNeighborKeys k = false)
    {key : TileKey W} (hkey : isOwnFrontier playerId getTile key = true)
    (h : Supplied playerId getTile extraNeighborKeys key) :
    Supplied playerId (clearCutOffFrontierTiles getTile keys) extraNeighborKeys key := by
  -- a tile of a supplied component is connected, so it is not released
  have hkeep : ∀ w, Linked playerId getTile extraNeighborKeys key w → w ∉ keys := by
    intro w hw hin
    have hdisc := hkeys w hin
    have hconn : isFrontierConnected playerId getTile extraNeighborKeys w = true :=
      (isFrontierConnected_iff w).mpr ⟨hw.accepted hkey, (supplied_of_linked hsymm hkey hw).mp h⟩
    rw [hconn] at hdisc
    cases hdisc
  obtain ⟨w, hw, hsup⟩ := h
  have hlink : ∀ v, Linked playerId getTile extraNeighborKeys key v →
      Linked playerId (clearCutOffFrontierTiles getTile keys) extraNeighborKeys key v := by
    intro v hv
    have hsame : ∀ u, Linked playerId getTile extraNeighborKeys key u →
        isOwnFrontier playerId (clearCutOffFrontierTiles getTile keys) u = true := by
      intro u hu
      have hown : isOwnFrontier playerId getTile u = true := hu.accepted hkey
      unfold isOwnFrontier at hown ⊢
      rw [clearCutOffFrontierTiles_of_notMem (hkeep u hu)]
      exact hown
    induction hv with
    | root => exact .root
    | step hv hexp hnb hacc ih =>
        exact ih.step (Or.inr (hsame _ hv)) hnb (hsame _ (hv.step hexp hnb hacc))
  refine ⟨w, hlink w hw, ?_⟩
  rcases hsup with hd | ⟨nk, hnk, hterm⟩
  · left
    unfold hasDockAt at hd ⊢
    rw [clearCutOffFrontierTiles_of_notMem (hkeep w hw)]
    exact hd
  · right
    refine ⟨nk, hnk, ?_⟩
    -- a released tile is frontier: as a terminal it would be in the component
    by_cases hfr : isOwnFrontier playerId getTile nk = true
    · have hnot := hkeep nk (hw.step (Or.inr (hw.accepted hkey)) hnk hfr)
      unfold isOwnTerminal at hterm ⊢
      rw [clearCutOffFrontierTiles_of_notMem hnot]
      exact hterm
    · obtain ⟨tile, htile, hown, ht⟩ := isOwnTerminal_iff.mp hterm
      have hstate : tile.ownershipState ≠ some .FRONTIER := by
        intro hs
        exact hfr (isOwnFrontier_iff.mpr ⟨tile, htile, hown, hs⟩)
      refine isOwnTerminal_iff.mpr ⟨tile, ?_, hown, ht⟩
      unfold clearCutOffFrontierTiles
      rw [htile]
      dsimp only
      rw [if_neg (fun hc => hstate hc.2)]

/-- **The sweep agrees with the search.**  Uncapped, it cuts off exactly the
touched tiles the search reports disconnected, reconnects only stamped tiles
that are connected, and leaves no unstamped tile disconnected when only the
changed tiles could have been so before. -/
theorem encirclementDeltas_correct
    (playerId : PlayerId) (before getTile : TileKey W → Option EncirclementTileView)
    (extraNeighborKeys : TileKey W → List (TileKey W))
    (hsymm : ∀ a b, b ∈ extraNeighborKeys a → a ∈ extraNeighborKeys b)
    (changedKeys : List (TileKey W))
    (hframe : ∀ key, key ∉ changedKeys → before key = getTile key) (bfsCap : Option Nat)
    (deltas : EncirclementDeltas W)
    (hdeltas : deltas
      = computeEncirclementDeltas playerId getTile extraNeighborKeys changedKeys bfsCap false)
    (hcap : deltas.capped = false) :
    (∀ key, key ∈ deltas.cutOff
        ↔ Touched playerId getTile extraNeighborKeys changedKeys key
          ∧ isFrontierConnected playerId getTile extraNeighborKeys key = false)
      ∧ (∀ key ∈ deltas.reconnected, isStampedAt getTile key = true
          ∧ isFrontierConnected playerId getTile extraNeighborKeys key = true)
      ∧ ((∀ key, key ∉ changedKeys → isOwnFrontier playerId before key = true →
            isStampedAt before key = false →
            isFrontierConnected playerId before extraNeighborKeys key = true) →
          ∀ key, isOwnFrontier playerId (clearCutOffFrontierTiles getTile deltas.cutOff) key = true →
            isStampedAt (clearCutOffFrontierTiles getTile deltas.cutOff) key = false →
            isFrontierConnected playerId (clearCutOffFrontierTiles getTile deltas.cutOff)
              extraNeighborKeys key = true) := by
  subst hdeltas
  have hcut := mem_cutOff_iff hsymm changedKeys bfsCap hcap
  refine ⟨hcut, fun key h => mem_reconnected hsymm changedKeys bfsCap false hcap h, ?_⟩
  intro hbefore key hown hstamp
  obtain ⟨hkeep, hkey⟩ := isOwnFrontier_clear hown
  have hsup : Supplied playerId getTile extraNeighborKeys key := by
    by_cases ht : Touched playerId getTile extraNeighborKeys changedKeys key
    · -- touched and not cut off
      have hconn : isFrontierConnected playerId getTile extraNeighborKeys key = true := by
        by_contra hc
        exact hkeep ((hcut key).mpr ⟨ht, by simpa using hc⟩)
      exact ((isFrontierConnected_iff key).mp hconn).2
    · have hnear : key ∉ changedKeys := (unchanged_of_untouched hsymm hkey ht .root).1
      have hsame : before key = getTile key := hframe key hnear
      have hown' : isOwnFrontier playerId before key = true := by
        unfold isOwnFrontier at hkey ⊢
        rw [hsame]
        exact hkey
      have hstamp' : isStampedAt before key = false := by
        unfold isStampedAt at hstamp ⊢
        rw [clearCutOffFrontierTiles_of_notMem hkeep] at hstamp
        rw [hsame]
        exact hstamp
      have hconn := hbefore key hnear hown' hstamp'
      exact supplied_of_untouched hsymm hframe hkey ht ((isFrontierConnected_iff key).mp hconn).2
  refine (isFrontierConnected_iff key).mpr ⟨hown, ?_⟩
  exact supplied_clear hsymm (fun k hk => ((hcut k).mp hk).2) hkey hsup

/-! ## §9. A cap of zero is no cap. -/

theorem foldl_visitNeighbor_capped (components : List (FrontierComponent W)) (index : Nat)
    (l : List (TileKey W)) :
    ∀ st : ComponentFlood W × List (TileKey W),
      (l.foldl (visitNeighbor playerId getTile components index) st).1.capped = st.1.capped := by
  induction l with
  | nil =>
      intro st
      rfl
  | cons a l ih =>
      intro st
      rw [List.foldl_cons, ih]
      unfold visitNeighbor
      repeat' split
      all_goals rfl

theorem expandComponent_uncapped (components : List (FrontierComponent W)) (index : Nat)
    (current : TileKey W) (st : ComponentFlood W) (h : st.capped = false) :
    (expandComponent playerId getTile extraNeighborKeys 0 components index current st).1.capped
      = false := by
  unfold expandComponent
  simp [foldl_visitNeighbor_capped, h]

/-- **`bfsCap: 0` never caps.** -/
theorem computeEncirclementDeltas_uncapped (changedKeys : List (TileKey W)) (skipCutOff : Bool) :
    (computeEncirclementDeltas playerId getTile extraNeighborKeys changedKeys (some 0)
      skipCutOff).capped = false := by
  have hflood : ∀ (st : Sweep W) (seed : TileKey W),
      (floodComponent playerId getTile extraNeighborKeys 0 st seed).capped = false := by
    intro st seed
    unfold floodComponent
    apply Worklist.drain_keeps ComponentFlood.capped _ (fun flood => flood.capped = false)
    · intro v flood h
      exact expandComponent_uncapped st.components st.components.length v flood h
    · rfl
  have hseed : ∀ (st : Sweep W) (seed : TileKey W), st.capped = false →
      (sweepSeed playerId getTile extraNeighborKeys 0 st seed).capped = false := by
    intro st seed h
    unfold sweepSeed
    split
    · exact h
    show (st.capped || (floodComponent playerId getTile extraNeighborKeys 0 st seed).capped) = false
    rw [h, hflood]
    rfl
  have hfold : ∀ (seeds : List (TileKey W)) (st : Sweep W), st.capped = false →
      (seeds.foldl (sweepSeed playerId getTile extraNeighborKeys 0) st).capped = false := by
    intro seeds
    induction seeds with
    | nil =>
        intro st h
        exact h
    | cons a l ih =>
        intro st h
        exact ih _ (hseed st a h)
  exact hfold _ _ rfl

end Search

/-! ## §10. A lost town. -/

/-- One settled tile and one frontier tile beside it, or only the latter. -/
def outpost (townHeld : Bool) (key : TileKey smallestWorld) : Option EncirclementTileView :=
  if key = wrappedTile smallestWorld 10 10 then
    some ⟨⟨some playerOne, some .FRONTIER⟩, none, none, none⟩
  else if key = wrappedTile smallestWorld 11 10 ∧ townHeld = true then
    some ⟨⟨some playerOne, some .SETTLED⟩, none, none, none⟩
  else none

theorem isOwnFrontier_outpost {townHeld : Bool} {key : TileKey smallestWorld}
    (h : isOwnFrontier playerOne (outpost townHeld) key = true) :
    key = wrappedTile smallestWorld 10 10 := by
  by_contra hne
  unfold isOwnFrontier outpost at h
  rw [if_neg hne] at h
  by_cases ht : key = wrappedTile smallestWorld 11 10 ∧ townHeld = true
  · rw [if_pos ht] at h
    simp at h
  · rw [if_neg ht] at h
    cases h

/-- The town falls: the frontier tile beside it is cut off, and nothing
disconnected is left. -/
theorem encirclementDeltas_correct_lostTown :
    let deltas := computeEncirclementDeltas playerOne (outpost false) (fun _ => [])
      [wrappedTile smallestWorld 11 10] (some 0) false
    wrappedTile smallestWorld 10 10 ∈ deltas.cutOff
      ∧ ∀ key, isOwnFrontier playerOne (clearCutOffFrontierTiles (outpost false) deltas.cutOff) key
          = true →
        isStampedAt (clearCutOffFrontierTiles (outpost false) deltas.cutOff) key = false →
        isFrontierConnected playerOne (clearCutOffFrontierTiles (outpost false) deltas.cutOff)
          (fun _ => []) key = true := by
  have hfront : ∀ townHeld, isOwnFrontier playerOne (outpost townHeld)
      (wrappedTile smallestWorld 10 10) = true := by
    intro townHeld
    unfold isOwnFrontier outpost
    rw [if_pos rfl]
    decide
  have hnext : wrappedTile smallestWorld 11 10 ∈ connectedNeighborKeys (fun _ => [])
      (wrappedTile smallestWorld 10 10) := by decide
  have hframe : ∀ key, key ∉ [wrappedTile smallestWorld 11 10] →
      outpost true key = outpost false key := by
    intro key hkey
    have hne : key ≠ wrappedTile smallestWorld 11 10 := fun h => hkey (by simp [h])
    unfold outpost
    simp [hne]
  have h := encirclementDeltas_correct playerOne (outpost true) (outpost false) (fun _ => [])
    (fun _ _ h => absurd h List.not_mem_nil) [wrappedTile smallestWorld 11 10] hframe (some 0) _
    rfl (computeEncirclementDeltas_uncapped _ _)
  refine ⟨(h.1 _).mpr ⟨?_, ?_⟩, h.2.2 ?_⟩
  · exact ⟨_, List.mem_singleton.mpr rfl, _, List.mem_cons_of_mem _
      (connectedNeighborKeys_symm (fun _ _ h => absurd h List.not_mem_nil) _ _ hnext),
      hfront false, .root⟩
  · rw [← Bool.not_eq_true, isFrontierConnected_iff]
    rintro ⟨_, w, hw, hsup⟩
    have hwkey := isOwnFrontier_outpost (hw.accepted (hfront false))
    rcases hsup with hd | ⟨nk, _, hterm⟩
    · rw [hwkey] at hd
      exact absurd hd (by decide)
    · obtain ⟨tile, htile, _, ht⟩ := isOwnTerminal_iff.mp hterm
      unfold outpost at htile
      split at htile
      · rw [← Option.some.inj htile] at ht
        exact absurd ht (by decide)
      · simp at htile
  · intro key _ hown _
    rw [isFrontierConnected_iff]
    refine ⟨hown, key, .root, Or.inr ⟨wrappedTile smallestWorld 11 10, ?_, ?_⟩⟩
    · rw [isOwnFrontier_outpost hown]
      exact hnext
    · decide

end BorderEmpires.Encirclement
