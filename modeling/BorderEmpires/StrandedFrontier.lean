/-
  BorderEmpires.StrandedFrontier
  **FRONTIER THAT NOTHING RE-CHECKED.**

  `findStrandedFrontier` explores the frontier components of a list of
  seeds, stops a component at the first terminal, and returns the members
  of those that reach none.  It must say what `isFrontierConnected` says
  one tile at a time.
-/
import BorderEmpires.Encirclement

namespace BorderEmpires.StrandedFrontier

open BorderEmpires.Encirclement

variable {W : WorldSize}

/-! ## §1. One component. -/

/-- The state of `explore`: `search.visited` is both `component` and `seen`,
which gain the same keys in the same order. -/
structure Exploration (W : WorldSize) where
  search : ConnectedSearch W
  capped : Bool

/-- The result, with the tiles `classified` so far. -/
structure StrandedSearch (W : WorldSize) where
  classified : List (TileKey W)
  stranded : List (TileKey W)
  visited : Nat
  capped : Bool

section Finder

variable (ownerId : PlayerId) (getTile : TileKey W → Option EncirclementTileView)
  (extraNeighborKeys : TileKey W → List (TileKey W)) (maxVisited : Nat)

/-- One turn of `explore`.  The two neighbour loops run the checks of
`searchVisit`; the cap is looked at only when no terminal was met. -/
def exploreExpand (visited : Nat) (key : TileKey W) (st : Exploration W) :
    Exploration W × List (TileKey W) :=
  match getTile key with
  | none => (st, [])
  | some tile =>
      if tile.hasDock then ({ st with search := { st.search with connected := true } }, [])
      else
        let r := searchExpand ownerId getTile extraNeighborKeys key st.search
        (⟨r.1, !r.1.connected && decide (visited + r.1.visited.length > maxVisited)⟩, r.2)

def Exploration.stopped (st : Exploration W) : Bool := st.search.connected || st.capped

def exploreComponent (visited : Nat) (seed : TileKey W) : Exploration W :=
  Worklist.drain Exploration.stopped
    (exploreExpand ownerId getTile extraNeighborKeys maxVisited visited) (W.width * W.height)
    [seed] ⟨⟨[seed], false⟩, false⟩

/-- What one explored component adds; a capped one is left alone. -/
def StrandedSearch.record (st : StrandedSearch W) (component : Exploration W) : StrandedSearch W :=
  if component.capped then
    { st with
      visited := st.visited + component.search.visited.length
      capped := true }
  else
    { st with
      classified := st.classified ++ component.search.visited
      stranded :=
        if component.search.connected then st.stranded
        else st.stranded ++ component.search.visited
      visited := st.visited + component.search.visited.length }

/-- One turn of the seed loop; `return` leaves the other seeds alone. -/
def classifySeed (st : StrandedSearch W) (seed : TileKey W) : StrandedSearch W :=
  if st.capped then st
  else if seed ∈ st.classified then st
  else if isOwnFrontier ownerId getTile seed then
    st.record (exploreComponent ownerId getTile extraNeighborKeys maxVisited st.visited seed)
  else st

def findStrandedFrontier (seedKeys : List (TileKey W)) : StrandedSearch W :=
  seedKeys.foldl (classifySeed ownerId getTile extraNeighborKeys maxVisited) ⟨[], [], 0, false⟩

variable {ownerId getTile extraNeighborKeys maxVisited}

/-! ## §2. What an exploration finds. -/

variable (extraNeighborKeys maxVisited) in
theorem exploreExpand_search (visited : Nat) {key : TileKey W} (st : Exploration W)
    (hkey : isOwnFrontier ownerId getTile key = true) (hdock : hasDockAt getTile key = false) :
    (exploreExpand ownerId getTile extraNeighborKeys maxVisited visited key st).1.search
        = (searchExpand ownerId getTile extraNeighborKeys key st.search).1
      ∧ (exploreExpand ownerId getTile extraNeighborKeys maxVisited visited key st).2
        = (searchExpand ownerId getTile extraNeighborKeys key st.search).2 := by
  obtain ⟨tile, htile, -, -⟩ := isOwnFrontier_iff.mp hkey
  have hno : tile.hasDock = false := by
    unfold hasDockAt at hdock
    rw [htile] at hdock
    exact hdock
  unfold exploreExpand
  rw [htile]
  simp [hno]

variable (visited : Nat) {seed : TileKey W}

theorem exploreComponent_dock (hdock : hasDockAt getTile seed = true) :
    exploreComponent ownerId getTile extraNeighborKeys maxVisited visited seed
      = ⟨⟨[seed], true⟩, false⟩ := by
  have hexpand : exploreExpand ownerId getTile extraNeighborKeys maxVisited visited seed
      ⟨⟨[seed], false⟩, false⟩ = (⟨⟨[seed], true⟩, false⟩, []) := by
    unfold hasDockAt at hdock
    unfold exploreExpand
    cases htile : getTile seed with
    | none =>
        rw [htile] at hdock
        cases hdock
    | some tile =>
        rw [htile] at hdock
        simp [show tile.hasDock = true from hdock]
  have hcard : 0 < W.width * W.height := by
    rw [← TileKey.card]
    exact Fintype.card_pos_iff.mpr ⟨seed⟩
  obtain ⟨n, hn⟩ : ∃ n, W.width * W.height = n + 1 := ⟨W.width * W.height - 1, by omega⟩
  unfold exploreComponent
  rw [hn, Worklist.drain, if_neg (by simp [Exploration.stopped]), hexpand]
  -- the queue is empty now
  cases n with
  | zero => rfl
  | succ n => rfl

variable (ownerId getTile) in
theorem mem_foldl_searchVisit (l : List (TileKey W)) (w : TileKey W) :
    ∀ st : ConnectedSearch W × List (TileKey W),
      (w ∈ st.1.visited → w ∈ (l.foldl (searchVisit ownerId getTile) st).1.visited)
        ∧ (w ∈ (l.foldl (searchVisit ownerId getTile) st).1.visited →
            w ∈ st.1.visited ∨ (w ∈ l ∧ isOwnFrontier ownerId getTile w = true)) := by
  induction l with
  | nil =>
      intro st
      exact ⟨id, Or.inl⟩
  | cons a l ih =>
      intro st
      obtain ⟨hkeep, hnew⟩ := ih (searchVisit ownerId getTile st a)
      have hstep : (w ∈ st.1.visited → w ∈ (searchVisit ownerId getTile st a).1.visited)
          ∧ (w ∈ (searchVisit ownerId getTile st a).1.visited →
            w ∈ st.1.visited ∨ (w = a ∧ isOwnFrontier ownerId getTile w = true)) := by
        unfold searchVisit
        -- only the last branch, the player's frontier tile, sees a new key
        split
        · exact ⟨id, Or.inl⟩
        split
        · exact ⟨id, Or.inl⟩
        split
        · exact ⟨id, Or.inl⟩
        next neighbor htile =>
          split
          · exact ⟨id, Or.inl⟩
          next hown =>
            split
            · exact ⟨id, Or.inl⟩
            split
            next hfr =>
              refine ⟨fun h => List.mem_append_left _ h, fun h => ?_⟩
              rcases List.mem_append.mp h with h | h
              · exact Or.inl h
              · have hw : w = a := List.mem_singleton.mp h
                rw [hw]
                exact Or.inr ⟨rfl, isOwnFrontier_iff.mpr ⟨neighbor, htile, not_not.mp hown, hfr⟩⟩
            · exact ⟨id, Or.inl⟩
      refine ⟨fun h => hkeep (hstep.1 h), fun h => ?_⟩
      rcases hnew h with h | ⟨hl, hown⟩
      · rcases hstep.2 h with h | ⟨rfl, hown⟩
        · exact Or.inl h
        · exact Or.inr ⟨List.mem_cons_self, hown⟩
      · exact Or.inr ⟨List.mem_cons_of_mem _ hl, hown⟩

structure ExploreInv (ownerId : PlayerId) (getTile : TileKey W → Option EncirclementTileView)
    (extraNeighborKeys : TileKey W → List (TileKey W)) (seed : TileKey W)
    (q : List (TileKey W)) (st : Exploration W) : Prop where
  search : SearchInv ownerId getTile extraNeighborKeys seed q st.search
  seed_mem : seed ∈ st.search.visited
  linked : ∀ w ∈ st.search.visited, Linked ownerId getTile extraNeighborKeys seed w

theorem exploreInv_init (hdock : hasDockAt getTile seed = false) :
    ExploreInv ownerId getTile extraNeighborKeys seed [seed] ⟨⟨[seed], false⟩, false⟩ where
  search := by
    refine ⟨fun hc => (by cases hc), fun _ => Worklist.floodInv_init seed, ?_, ?_⟩
    · intro _ v hv
      rw [List.mem_singleton.mp hv]
      exact hdock
    · intro _ v hv
      exact Or.inl hv
  seed_mem := List.mem_singleton.mpr rfl
  linked := fun _ hw => List.mem_singleton.mp hw ▸ .root

theorem exploreInv_step {seed v : TileKey W} {rest : List (TileKey W)} {st : Exploration W}
    (hseed : isOwnFrontier ownerId getTile seed = true)
    (h : ExploreInv ownerId getTile extraNeighborKeys seed (v :: rest) st)
    (hstop : st.stopped = false) :
    ExploreInv ownerId getTile extraNeighborKeys seed
        (rest ++ (exploreExpand ownerId getTile extraNeighborKeys maxVisited visited v st).2)
        (exploreExpand ownerId getTile extraNeighborKeys maxVisited visited v st).1
      ∧ (exploreExpand ownerId getTile extraNeighborKeys maxVisited visited v st).2.length
          + (Fintype.card (TileKey W) - (exploreExpand ownerId getTile extraNeighborKeys
              maxVisited visited v st).1.search.visited.length)
        ≤ Fintype.card (TileKey W) - st.search.visited.length := by
  have hgo : st.search.connected = false := by
    unfold Exploration.stopped at hstop
    exact (Bool.or_eq_false_iff.mp hstop).1
  -- a pending tile is a frontier tile without a dock
  obtain ⟨hv, -⟩ := (h.search.flood hgo).pending v List.mem_cons_self
  have hown : isOwnFrontier ownerId getTile v = true := (h.linked v hv).accepted hseed
  obtain ⟨hsearch, hfound⟩ := exploreExpand_search extraNeighborKeys maxVisited visited
    st hown (h.search.dockless hgo v hv)
  obtain ⟨hinv, hmeasure⟩ := searchInv_step hseed h.search hgo
  have hseen : ∀ w, (w ∈ st.search.visited →
        w ∈ (searchExpand ownerId getTile extraNeighborKeys v st.search).1.visited)
      ∧ (w ∈ (searchExpand ownerId getTile extraNeighborKeys v st.search).1.visited →
        w ∈ st.search.visited ∨ (w ∈ connectedNeighborKeys extraNeighborKeys v
          ∧ isOwnFrontier ownerId getTile w = true)) :=
    fun w => mem_foldl_searchVisit ownerId getTile _ w (st.search, [])
  rw [hfound, hsearch]
  refine ⟨⟨?_, ?_, ?_⟩, hmeasure⟩
  · rw [hsearch]
    exact hinv
  · rw [hsearch]
    exact (hseen seed).1 h.seed_mem
  · rw [hsearch]
    intro w hw
    rcases (hseen w).2 hw with hw | ⟨hnb, hacc⟩
    · exact h.linked w hw
    · exact (h.linked v hv).step (Or.inr hown) hnb hacc

theorem exploreComponent_inv (hseed : isOwnFrontier ownerId getTile seed = true)
    (hdock : hasDockAt getTile seed = false) :
    ∃ q, ExploreInv ownerId getTile extraNeighborKeys seed q
        (exploreComponent ownerId getTile extraNeighborKeys maxVisited visited seed)
      ∧ (q = [] ∨ (exploreComponent ownerId getTile extraNeighborKeys maxVisited visited
          seed).stopped = true) := by
  unfold exploreComponent
  apply Worklist.drain_rule Exploration.stopped _
    (ExploreInv ownerId getTile extraNeighborKeys seed)
    (fun st => Fintype.card (TileKey W) - st.search.visited.length)
  · intro v rest st h hstop
    exact exploreInv_step visited hseed h hstop
  · exact exploreInv_init hdock
  · exact seed.fuel_le

theorem exploreComponent_seen (hseed : isOwnFrontier ownerId getTile seed = true) :
    seed ∈ (exploreComponent ownerId getTile extraNeighborKeys maxVisited visited
        seed).search.visited
      ∧ ∀ w ∈ (exploreComponent ownerId getTile extraNeighborKeys maxVisited visited
        seed).search.visited, Linked ownerId getTile extraNeighborKeys seed w := by
  by_cases hdock : hasDockAt getTile seed = true
  · rw [exploreComponent_dock visited hdock]
    exact ⟨List.mem_singleton.mpr rfl, fun w hw => List.mem_singleton.mp hw ▸ .root⟩
  · obtain ⟨q, hinv, -⟩ := exploreComponent_inv visited hseed (by simpa using hdock)
    exact ⟨hinv.seed_mem, hinv.linked⟩

/-- **What an uncapped exploration finds**: a terminal when the component
of the seed has supply, and all of the component when it has none. -/
theorem exploreComponent_spec (hseed : isOwnFrontier ownerId getTile seed = true)
    (component : Exploration W)
    (hcomponent : component
      = exploreComponent ownerId getTile extraNeighborKeys maxVisited visited seed)
    (hcap : component.capped = false) :
    (component.search.connected = true → Supplied ownerId getTile extraNeighborKeys seed)
      ∧ (component.search.connected = false →
          ¬ Supplied ownerId getTile extraNeighborKeys seed
            ∧ component.search.visited.Nodup
            ∧ ∀ w, w ∈ component.search.visited
                ↔ Linked ownerId getTile extraNeighborKeys seed w) := by
  by_cases hdock : hasDockAt getTile seed = true
  · rw [exploreComponent_dock visited hdock] at hcomponent
    subst hcomponent
    exact ⟨fun _ => ⟨seed, .root, Or.inl hdock⟩, fun hc => (by cases hc)⟩
  · obtain ⟨q, hinv, hend⟩ := exploreComponent_inv visited hseed (by simpa using hdock)
    rw [← hcomponent] at hinv hend
    constructor
    · intro hc
      obtain ⟨w, hw, hterm⟩ := hinv.search.found hc
      exact ⟨w, hw, Or.inr hterm⟩
    · intro hc
      have hq : q = [] := by
        rcases hend with hq | hstop
        · exact hq
        · unfold Exploration.stopped at hstop
          simp [hc, hcap] at hstop
      subst hq
      have hall := (hinv.search.flood hc).mem_iff
      refine ⟨?_, (hinv.search.flood hc).nodup, hall⟩
      rintro ⟨w, hw, hsup⟩
      have hwv := (hall w).mpr hw
      rcases hsup with hd | ⟨nk, hnk, hterm⟩
      · have hno := hinv.search.dockless hc w hwv
        simp [hd] at hno
      · rcases hinv.search.dry hc w hwv with hq | hdry
        · exact absurd hq List.not_mem_nil
        · have hno := hdry nk hnk
          simp [hterm] at hno

/-! ## §3. The seed loop. -/

/-- The books after the seeds `done`: what is returned is disconnected, and
a classified component either has supply or has been returned whole. -/
structure StrandedInv (ownerId : PlayerId) (getTile : TileKey W → Option EncirclementTileView)
    (extraNeighborKeys : TileKey W → List (TileKey W)) (done : List (TileKey W))
    (st : StrandedSearch W) : Prop where
  nodup : st.stranded.Nodup
  classified : ∀ k ∈ st.stranded, k ∈ st.classified
  disconnected : ∀ k ∈ st.stranded, ¬ Supplied ownerId getTile extraNeighborKeys k
  seeded : ∀ k ∈ st.stranded, ∃ seed ∈ done, isOwnFrontier ownerId getTile seed = true
    ∧ Linked ownerId getTile extraNeighborKeys seed k
  whole : ∀ k ∈ st.classified, Supplied ownerId getTile extraNeighborKeys k
    ∨ ∀ w, Linked ownerId getTile extraNeighborKeys k w → w ∈ st.stranded
  complete : st.capped = false → ∀ seed ∈ done, isOwnFrontier ownerId getTile seed = true →
    seed ∈ st.classified

theorem strandedInv_init :
    StrandedInv ownerId getTile extraNeighborKeys [] ⟨[], [], 0, false⟩ where
  nodup := List.nodup_nil
  classified := fun _ h => absurd h List.not_mem_nil
  disconnected := fun _ h => absurd h List.not_mem_nil
  seeded := fun _ h => absurd h List.not_mem_nil
  whole := fun _ h => absurd h List.not_mem_nil
  complete := fun _ _ h => absurd h List.not_mem_nil

theorem StrandedInv.seeded_snoc {done : List (TileKey W)} {st : StrandedSearch W}
    (h : StrandedInv ownerId getTile extraNeighborKeys done st) (seed : TileKey W) :
    ∀ k ∈ st.stranded, ∃ s ∈ done ++ [seed], isOwnFrontier ownerId getTile s = true
      ∧ Linked ownerId getTile extraNeighborKeys s k := by
  intro k hk
  obtain ⟨s, hs, hown, hlink⟩ := h.seeded k hk
  exact ⟨s, List.mem_append_left _ hs, hown, hlink⟩

theorem StrandedInv.skip {done : List (TileKey W)} {st : StrandedSearch W}
    (h : StrandedInv ownerId getTile extraNeighborKeys done st) (seed : TileKey W)
    (hseed : st.capped = false → isOwnFrontier ownerId getTile seed = true → seed ∈ st.classified) :
    StrandedInv ownerId getTile extraNeighborKeys (done ++ [seed]) st := by
  refine { h with seeded := h.seeded_snoc seed, complete := ?_ }
  intro hcap s hs hown
  rcases List.mem_append.mp hs with hs | hs
  · exact h.complete hcap s hs hown
  · rw [List.mem_singleton.mp hs] at hown ⊢
    exact hseed hcap hown

variable (hsymm : ∀ a b, b ∈ extraNeighborKeys a → a ∈ extraNeighborKeys b)

include hsymm in
theorem StrandedInv.fresh
    {done : List (TileKey W)} {st : StrandedSearch W}
    (h : StrandedInv ownerId getTile extraNeighborKeys done st)
    (hseed : isOwnFrontier ownerId getTile seed = true) (hknown : seed ∉ st.classified)
    {w : TileKey W} (hw : Linked ownerId getTile extraNeighborKeys seed w) : w ∉ st.stranded := by
  intro hin
  have hback : Linked ownerId getTile extraNeighborKeys w seed :=
    hw.symm (connectedNeighborKeys_symm hsymm) hseed
  rcases h.whole w (h.classified w hin) with hsup | hall
  · exact h.disconnected w hin hsup
  · exact hknown (h.classified seed (hall seed hback))

include hsymm in
/-- **An explored component is recorded rightly.** -/
theorem StrandedInv.record
    {done : List (TileKey W)} {st : StrandedSearch W}
    (h : StrandedInv ownerId getTile extraNeighborKeys done st)
    (hseed : isOwnFrontier ownerId getTile seed = true) (hknown : seed ∉ st.classified)
    (component : Exploration W)
    (hcomponent : component
      = exploreComponent ownerId getTile extraNeighborKeys maxVisited st.visited seed) :
    StrandedInv ownerId getTile extraNeighborKeys (done ++ [seed]) (st.record component) := by
  have hseen : seed ∈ component.search.visited ∧ ∀ w ∈ component.search.visited,
      Linked ownerId getTile extraNeighborKeys seed w := by
    rw [hcomponent]
    exact exploreComponent_seen st.visited hseed
  have hspec := exploreComponent_spec st.visited hseed component hcomponent
  unfold StrandedSearch.record
  by_cases hcap : component.capped = true
  · rw [if_pos hcap]
    exact { h with seeded := h.seeded_snoc seed, complete := fun hc => (by cases hc) }
  rw [if_neg hcap]
  have hcomplete : ∀ s ∈ done ++ [seed], isOwnFrontier ownerId getTile s = true →
      st.capped = false → s ∈ st.classified ++ component.search.visited := by
    intro s hs hown hc
    rcases List.mem_append.mp hs with hs | hs
    · exact List.mem_append_left _ (h.complete hc s hs hown)
    · rw [List.mem_singleton.mp hs]
      exact List.mem_append_right _ hseen.1
  obtain ⟨hfound, hmissed⟩ := hspec (by simpa using hcap)
  by_cases hconn : component.search.connected = true
  · rw [if_pos hconn]
    have hsup := hfound hconn
    refine ⟨h.nodup, ?_, h.disconnected, h.seeded_snoc seed, ?_, ?_⟩
    · intro k hk
      exact List.mem_append_left _ (h.classified k hk)
    · intro k hk
      rcases List.mem_append.mp hk with hk | hk
      · exact h.whole k hk
      · -- not expanded, perhaps, but of the same component
        exact Or.inl ((supplied_of_linked hsymm hseed (hseen.2 k hk)).mp hsup)
    · exact fun hc s hs hown => hcomplete s hs hown hc
  · rw [if_neg hconn]
    obtain ⟨hno, hnodup, hall⟩ := hmissed (by simpa using hconn)
    refine ⟨?_, ?_, ?_, ?_, ?_, ?_⟩
    · refine List.nodup_append.mpr ⟨h.nodup, hnodup, ?_⟩
      intro a ha b hb hab
      rw [hab] at ha
      exact h.fresh hsymm hseed hknown ((hall b).mp hb) ha
    · intro k hk
      rcases List.mem_append.mp hk with hk | hk
      · exact List.mem_append_left _ (h.classified k hk)
      · exact List.mem_append_right _ hk
    · intro k hk
      rcases List.mem_append.mp hk with hk | hk
      · exact h.disconnected k hk
      · rw [← supplied_of_linked hsymm hseed ((hall k).mp hk)]
        exact hno
    · intro k hk
      rcases List.mem_append.mp hk with hk | hk
      · exact h.seeded_snoc seed k hk
      · exact ⟨seed, by simp, hseed, (hall k).mp hk⟩
    · intro k hk
      rcases List.mem_append.mp hk with hk | hk
      · rcases h.whole k hk with hsup | hk
        · exact Or.inl hsup
        · exact Or.inr (fun w hw => List.mem_append_left _ (hk w hw))
      · right
        intro w hw
        have hlink : Linked ownerId getTile extraNeighborKeys seed w :=
          ((hall k).mp hk).trans (Or.inr (((hall k).mp hk).accepted hseed)) hw
        exact List.mem_append_right _ ((hall w).mpr hlink)
    · exact fun hc s hs hown => hcomplete s hs hown hc

variable (maxVisited) in
include hsymm in
/-- **One seed keeps the books.** -/
theorem StrandedInv.step
    {done : List (TileKey W)} {st : StrandedSearch W}
    (h : StrandedInv ownerId getTile extraNeighborKeys done st) (seed : TileKey W) :
    StrandedInv ownerId getTile extraNeighborKeys (done ++ [seed])
      (classifySeed ownerId getTile extraNeighborKeys maxVisited st seed) := by
  unfold classifySeed
  by_cases hstop : st.capped = true
  · rw [if_pos hstop]
    exact h.skip seed (fun hc => absurd hstop (by simp [hc]))
  rw [if_neg hstop]
  by_cases hknown : seed ∈ st.classified
  · rw [if_pos hknown]
    exact h.skip seed (fun _ _ => hknown)
  rw [if_neg hknown]
  by_cases hseed : isOwnFrontier ownerId getTile seed = true
  · rw [if_pos hseed]
    exact h.record hsymm hseed hknown _ rfl
  · rw [if_neg hseed]
    exact h.skip seed (fun _ hown => absurd hown hseed)

include hsymm in
theorem strandedInv_foldl
    (seeds : List (TileKey W)) :
    ∀ (done : List (TileKey W)) (st : StrandedSearch W),
      StrandedInv ownerId getTile extraNeighborKeys done st →
      StrandedInv ownerId getTile extraNeighborKeys (done ++ seeds)
        (seeds.foldl (classifySeed ownerId getTile extraNeighborKeys maxVisited) st) := by
  induction seeds with
  | nil =>
      intro done st h
      rw [List.append_nil]
      exact h
  | cons seed seeds ih =>
      intro done st h
      have hnext := ih (done ++ [seed]) _ (h.step maxVisited hsymm seed)
      rw [List.append_assoc] at hnext
      exact hnext

variable (ownerId getTile) in
include hsymm in
/-- **The seeds the call was given.** -/
theorem strandedInv_find
    (maxVisited : Nat) (seedKeys : List (TileKey W)) :
    StrandedInv ownerId getTile extraNeighborKeys seedKeys
      (findStrandedFrontier ownerId getTile extraNeighborKeys maxVisited seedKeys) :=
  strandedInv_foldl hsymm seedKeys [] _ strandedInv_init

include hsymm in
/-- **Stranded by either module**: uncapped, the finder returns the
disconnected tiles of the seeds' components. -/
theorem mem_findStrandedFrontier
    (seedKeys : List (TileKey W))
    (hcap : (findStrandedFrontier ownerId getTile extraNeighborKeys maxVisited seedKeys).capped
      = false) (key : TileKey W) :
    key ∈ (findStrandedFrontier ownerId getTile extraNeighborKeys maxVisited seedKeys).stranded
      ↔ (∃ seed ∈ seedKeys, isOwnFrontier ownerId getTile seed = true
          ∧ Linked ownerId getTile extraNeighborKeys seed key)
        ∧ isFrontierConnected ownerId getTile extraNeighborKeys key = false := by
  have hinv := strandedInv_find ownerId getTile hsymm maxVisited seedKeys
  rw [← Bool.not_eq_true, isFrontierConnected_iff]
  constructor
  · intro hkey
    exact ⟨hinv.seeded key hkey, fun hc => hinv.disconnected key hkey hc.2⟩
  · rintro ⟨⟨seed, hseed, hown, hlink⟩, hdisc⟩
    have hkey : isOwnFrontier ownerId getTile key = true := hlink.accepted hown
    rcases hinv.whole seed (hinv.complete hcap seed hseed hown) with hsup | hall
    · exact absurd ⟨hkey, (supplied_of_linked hsymm hown hlink).mp hsup⟩ hdisc
    · exact hall key hlink

/-! ## §4. The two modules agree. -/

/-- **The finder agrees with the per-tile search.**  Uncapped, it returns
each disconnected frontier tile of the seeds' components once, in whatever
order the seeds come; capped, all it returns is disconnected. -/
theorem findStrandedFrontier_correct
    (ownerId : PlayerId) (getTile : TileKey W → Option EncirclementTileView)
    (extraNeighborKeys : TileKey W → List (TileKey W))
    (hsymm : ∀ a b, b ∈ extraNeighborKeys a → a ∈ extraNeighborKeys b)
    (maxVisited : Nat) (seedKeys : List (TileKey W)) (result : StrandedSearch W)
    (hresult : result
      = findStrandedFrontier ownerId getTile extraNeighborKeys maxVisited seedKeys) :
    (result.capped = false →
        result.stranded.Nodup
          ∧ (∀ key, key ∈ result.stranded
              ↔ isOwnFrontier ownerId getTile key = true
                ∧ (∃ seed ∈ seedKeys, isOwnFrontier ownerId getTile seed = true
                  ∧ Linked ownerId getTile extraNeighborKeys seed key)
                ∧ isFrontierConnected ownerId getTile extraNeighborKeys key = false)
          ∧ ∀ reordered : List (TileKey W), reordered.Perm seedKeys →
              (findStrandedFrontier ownerId getTile extraNeighborKeys maxVisited
                reordered).capped = false →
              (findStrandedFrontier ownerId getTile extraNeighborKeys maxVisited
                reordered).stranded.Perm result.stranded)
      ∧ (result.capped = true → ∀ key ∈ result.stranded,
          isOwnFrontier ownerId getTile key = true
            ∧ isFrontierConnected ownerId getTile extraNeighborKeys key = false) := by
  subst hresult
  have hinv := strandedInv_find ownerId getTile hsymm maxVisited seedKeys
  constructor
  · intro hcap
    refine ⟨hinv.nodup, ?_, ?_⟩
    · intro key
      rw [mem_findStrandedFrontier hsymm seedKeys hcap]
      constructor
      · rintro ⟨⟨seed, hseed, hown, hlink⟩, hdisc⟩
        exact ⟨hlink.accepted hown, ⟨seed, hseed, hown, hlink⟩, hdisc⟩
      · rintro ⟨-, hseeded, hdisc⟩
        exact ⟨hseeded, hdisc⟩
    · intro reordered hperm hcap'
      have hinv' := strandedInv_find ownerId getTile hsymm maxVisited
        reordered
      refine (List.perm_ext_iff_of_nodup hinv'.nodup hinv.nodup).mpr ?_
      intro key
      rw [mem_findStrandedFrontier hsymm reordered hcap',
        mem_findStrandedFrontier hsymm seedKeys hcap]
      simp only [hperm.mem_iff]
  · intro _ key hkey
    obtain ⟨seed, -, hown, hlink⟩ := hinv.seeded key hkey
    refine ⟨hlink.accepted hown, ?_⟩
    rw [← Bool.not_eq_true, isFrontierConnected_iff]
    exact fun hc => hinv.disconnected key hkey hc.2
end Finder

/-! ## §5. An island and a bridge. -/

/-- Two frontier tiles that touch across the world's edge, a third far from
them, and a fourth beside a town. -/
def strandedIsland (key : TileKey smallestWorld) : Option EncirclementTileView :=
  if key = wrappedTile smallestWorld 0 5 ∨ key = wrappedTile smallestWorld 63 5
      ∨ key = wrappedTile smallestWorld 30 30 ∨ key = wrappedTile smallestWorld 10 10 then
    some ⟨⟨some playerOne, some .FRONTIER⟩, none, none, none⟩
  else if key = wrappedTile smallestWorld 11 10 then
    some ⟨⟨some playerOne, some .SETTLED⟩, none, none, none⟩
  else none

def islandBridge (key : TileKey smallestWorld) : List (TileKey smallestWorld) :=
  if key = wrappedTile smallestWorld 0 5 then [wrappedTile smallestWorld 30 30]
  else if key = wrappedTile smallestWorld 30 30 then [wrappedTile smallestWorld 0 5]
  else []

theorem islandBridge_symm : ∀ a b, b ∈ islandBridge a → a ∈ islandBridge b := by
  intro a b h
  unfold islandBridge at h
  split at h
  next ha =>
    rw [ha, List.mem_singleton.mp h]
    decide +kernel
  next =>
    split at h
    next ha =>
      rw [ha, List.mem_singleton.mp h]
      decide +kernel
    next => cases h

/-- The far tile and the edge are one component, seeded from either end; the
tile beside the town is left alone. -/
theorem findStrandedFrontier_correct_island :
    let found := (findStrandedFrontier playerOne strandedIsland islandBridge 512
      [wrappedTile smallestWorld 10 10, wrappedTile smallestWorld 30 30]).stranded
    found.Nodup
      ∧ (wrappedTile smallestWorld 0 5 ∈ found
        ↔ isOwnFrontier playerOne strandedIsland (wrappedTile smallestWorld 0 5) = true
          ∧ (∃ seed ∈ [wrappedTile smallestWorld 10 10, wrappedTile smallestWorld 30 30],
              isOwnFrontier playerOne strandedIsland seed = true
                ∧ Linked playerOne strandedIsland islandBridge seed
                  (wrappedTile smallestWorld 0 5))
          ∧ isFrontierConnected playerOne strandedIsland islandBridge
              (wrappedTile smallestWorld 0 5) = false) := by
  have hfinder := (findStrandedFrontier_correct playerOne strandedIsland islandBridge
    islandBridge_symm 512
    [wrappedTile smallestWorld 10 10, wrappedTile smallestWorld 30 30] _ rfl).1
      (by decide +kernel)
  exact ⟨hfinder.1, hfinder.2.1 _⟩

/-- What the call returns there. -/
example : (findStrandedFrontier playerOne strandedIsland islandBridge 512
    [wrappedTile smallestWorld 10 10, wrappedTile smallestWorld 30 30]).stranded
      = [wrappedTile smallestWorld 30 30, wrappedTile smallestWorld 0 5,
          wrappedTile smallestWorld 63 5] := by decide +kernel

end BorderEmpires.StrandedFrontier
