/-
  BorderEmpires.Lib.AStar
  **A* OVER MOVES OF COST ONE.**

  The search keeps a binary heap of nodes by label plus estimate, leaves
  stale entries in it and skips them when they come up, and stops at the
  goal, on an empty heap, or after `cap` expansions.  The path is read off
  the parents.
-/
import BorderEmpires.Lib.BestFirst
import BorderEmpires.Lib.BinaryHeap
import Mathlib.Algebra.Order.Ring.Nat

universe u

namespace AStar

open BestFirst (Frontier QueueSound ParentsPay Relaxed Route Consistent)

variable {N : Type u}

/-! ## §1. Paths. -/

structure IsPath (nbrs : N → List N) (a b : N) (path : List N) : Prop where
  starts : path.head? = some a
  ends : path.getLast? = some b
  moves : path.IsChain (fun u v => v ∈ nbrs u)

/-- A move costs one. -/
def Edge (nbrs : N → List N) (u v : N) (w : ℕ) : Prop := v ∈ nbrs u ∧ w = 1

theorem IsPath.route {nbrs : N → List N} {b : N} (path : List N) :
    ∀ a, IsPath nbrs a b path → Route (Edge nbrs) a b (path.length - 1) := by
  induction path with
  | nil =>
      intro a h
      cases h.starts
  | cons x rest ih =>
      intro a h
      obtain rfl : x = a := Option.some.inj h.starts
      cases rest with
      | nil =>
          obtain rfl : x = b := Option.some.inj h.ends
          exact .stay x
      | cons y rest =>
          have hmoves := h.moves
          rw [List.isChain_cons_cons] at hmoves
          have hrest : IsPath nbrs y b (y :: rest) := by
            refine ⟨rfl, ?_, hmoves.2⟩
            have hlast := h.ends
            rw [List.getLast?_cons_cons] at hlast
            exact hlast
          have hcost : (x :: y :: rest).length - 1 = 1 + ((y :: rest).length - 1) := by
            simp only [List.length_cons]
            omega
          rw [hcost]
          exact .go ⟨hmoves.1, rfl⟩ (ih y hrest)

/-! ## §2. The search. -/

structure Entry (N : Type u) where
  score : ℕ
  node : N

structure State (N : Type u) where
  gScore : N → Option ℕ
  cameFrom : N → Option N
  heap : BinaryHeap.MinHeap (fun entry : Entry N => entry.score)
  expanded : ℕ

variable [DecidableEq N]

section Searching

variable (nbrs : N → List N) (h : N → ℕ) (goal : N) (cap : ℕ)

def start (root : N) : State N where
  gScore := Function.update (fun _ => none) root (some 0)
  cameFrom := fun _ => none
  heap := BinaryHeap.MinHeap.empty.push ⟨h root, root⟩
  expanded := 0

/-- Below the label, or the node has none. -/
def improves (tentative : ℕ) : Option ℕ → Bool
  | none => true
  | some existing => decide (tentative < existing)

def record (s : State N) (current next : N) (tentative : ℕ) : State N :=
  { s with
    gScore := Function.update s.gScore next (some tentative)
    cameFrom := Function.update s.cameFrom next (some current)
    heap := s.heap.push ⟨tentative + h next, next⟩ }

def visit (current : N) (currentG : ℕ) (s : State N) (next : N) : State N :=
  if improves (currentG + 1) (s.gScore next) then record h s current next (currentG + 1) else s

def expand (s : State N) (current : N) (currentG : ℕ) : State N :=
  (nbrs current).foldl (visit h current currentG) { s with expanded := s.expanded + 1 }

/-- The loop: where the search stood when it ended, and whether at the goal. -/
def loop : ℕ → State N → State N × Bool
  | 0, s => (s, false)
  | fuel + 1, s =>
      if s.expanded < cap then
        match s.heap.pop with
        | none => (s, false)
        | some (popped, rest) =>
            let s := { s with heap := rest }
            match s.gScore popped.node with
            -- no node is queued without a label
            | none => loop fuel s
            | some currentG =>
                if currentG + h popped.node < popped.score then loop fuel s
                else if popped.node = goal then (s, true)
                else loop fuel (expand nbrs h s popped.node currentG)
      else (s, false)

end Searching

/-! ## §3. The invariant. -/

/-- What the labels and the parents say: every labelled node but the root was
reached by a move from a parent that pays for it. -/
structure Labels (nbrs : N → List N) (root : N) (s : State N) : Prop where
  rooted : s.gScore root = some 0
  moved : ∀ n p, s.cameFrom n = some p → n ∈ nbrs p
  parented : ∀ n k, s.gScore n = some k → s.cameFrom n = none → n = root
  pays : ParentsPay (fun _ _ => 1) s.gScore s.cameFrom

def State.queued (s : State N) (score : ℕ) (n : N) : Prop := ⟨score, n⟩ ∈ s.heap.entries

/-- The invariant of the search, waived at the nodes being expanded. -/
structure Inv (nbrs : N → List N) (h : N → ℕ) (goal root : N) (waived : N → Prop)
    (s : State N) : Prop where
  labels : Labels nbrs root s
  queueSound : QueueSound h s.gScore s.queued
  frontier : Frontier (Edge nbrs) h (fun n => n = goal) waived s.gScore s.queued

variable {nbrs : N → List N} {h : N → ℕ} {goal root : N} {cap : ℕ} {waived : N → Prop}

theorem le_of_improves {tentative : ℕ} {existing : Option ℕ}
    (himp : improves tentative existing = true) : ∀ k, existing = some k → tentative ≤ k := by
  intro k hk
  subst hk
  exact le_of_lt (of_decide_eq_true himp)

theorem queued_record (s : State N) (current next : N) (tentative score : ℕ) (n : N) :
    (record h s current next tentative).queued score n
      ↔ (score = tentative + h next ∧ n = next) ∨ s.queued score n := by
  unfold State.queued record
  rw [BinaryHeap.MinHeap.mem_push, Entry.mk.injEq]

theorem inv_start : Inv nbrs h goal root (fun _ => False) (start h root) := by
  have hroot : ∀ n k, (start h root).gScore n = some k → n = root ∧ k = 0 := by
    intro n k hk
    change Function.update (fun _ => none) root (some 0) n = some k at hk
    by_cases hn : n = root
    · rw [hn, Function.update_self] at hk
      exact ⟨hn, (Option.some.inj hk).symm⟩
    · rw [Function.update_of_ne hn] at hk
      cases hk
  have hlabel : (start h root).gScore root = some 0 := by
    show Function.update (fun _ => none) root (some 0) root = some 0
    rw [Function.update_self]
  have hqueued : ∀ score n, (start h root).queued score n ↔ score = h root ∧ n = root := by
    intro score n
    unfold State.queued start
    rw [BinaryHeap.MinHeap.mem_push]
    constructor
    · rintro (heq | hold)
      · exact ⟨congrArg Entry.score heq, congrArg Entry.node heq⟩
      · cases hold
    · rintro ⟨rfl, rfl⟩
      exact Or.inl rfl
  refine ⟨⟨hlabel, ?_, fun n k hk _ => (hroot n k hk).1, ?_⟩, ?_, ?_⟩
  · intro n p hparent
    cases hparent
  · intro n p hparent
    cases hparent
  · intro score n hq
    obtain ⟨hscore, hn⟩ := (hqueued score n).mp hq
    rw [hscore, hn]
    exact ⟨0, hlabel, by omega⟩
  · intro n k hk _
    obtain ⟨hn, hzero⟩ := hroot n k hk
    rw [hn, hzero]
    exact Or.inl ((hqueued _ _).mpr ⟨by omega, rfl⟩)

theorem Inv.record {s : State N} (hs : Inv nbrs h goal root waived s) {current next : N}
    {currentG : ℕ} (hmove : next ∈ nbrs current) (hlabel : s.gScore current = some currentG)
    (himp : improves (currentG + 1) (s.gScore next) = true) :
    Inv nbrs h goal root waived (record h s current next (currentG + 1)) := by
  have hle := le_of_improves himp
  -- a node is no improvement on itself, nor anything on the root
  have hne : current ≠ next := by
    intro heq
    have hself := hle currentG (by rw [← heq]; exact hlabel)
    omega
  have hroot : next ≠ root := by
    intro heq
    have hzero := hle 0 (by rw [heq]; exact hs.labels.rooted)
    omega
  refine ⟨⟨?_, ?_, ?_, hs.labels.pays.relax hlabel hne (le_refl _) hle⟩, ?_, ?_⟩
  · show Function.update s.gScore next _ root = some 0
    rw [Function.update_of_ne (Ne.symm hroot)]
    exact hs.labels.rooted
  · intro n p hparent
    change Function.update s.cameFrom next (some current) n = some p at hparent
    by_cases hn : n = next
    · rw [hn, Function.update_self] at hparent
      rw [hn, ← Option.some.inj hparent]
      exact hmove
    · rw [Function.update_of_ne hn] at hparent
      exact hs.labels.moved n p hparent
  · intro n k hk hparent
    change Function.update s.gScore next _ n = some k at hk
    change Function.update s.cameFrom next (some current) n = none at hparent
    by_cases hn : n = next
    · rw [hn, Function.update_self] at hparent
      cases hparent
    · rw [Function.update_of_ne hn] at hk hparent
      exact hs.labels.parented n k hk hparent
  · exact hs.queueSound.lower hle
      (fun score n hq => (queued_record s current next _ score n).mp hq)
  · exact hs.frontier.lower hle
      (fun score n hq => (queued_record s current next _ score n).mpr (Or.inr hq))
      ((queued_record s current next _ _ _).mpr (Or.inl ⟨rfl, rfl⟩))

def LabelsDrop (s s' : State N) : Prop :=
  ∀ n k, s.gScore n = some k → ∃ k', s'.gScore n = some k' ∧ k' ≤ k

/-- What one visit keeps, and what it reaches. -/
structure Visited (current : N) (currentG : ℕ) (next : List N) (s s' : State N) : Prop where
  drop : LabelsDrop s s'
  kept : s'.gScore current = some currentG
  reached : ∀ n ∈ next, ∃ k, s'.gScore n = some k ∧ k ≤ currentG + 1
  size : s'.heap.size ≤ s.heap.size + next.length
  expanded : s'.expanded = s.expanded

/-- **One neighbour.** -/
theorem Inv.visit {s : State N} (hs : Inv nbrs h goal root waived s) {current next : N}
    {currentG : ℕ} (hmove : next ∈ nbrs current) (hlabel : s.gScore current = some currentG) :
    Inv nbrs h goal root waived (visit h current currentG s next)
      ∧ Visited current currentG [next] s (visit h current currentG s next) := by
  unfold AStar.visit
  split
  · rename_i himp
    have hle := le_of_improves himp
    refine ⟨hs.record hmove hlabel himp, ?_, ?_, ?_, ?_, rfl⟩
    · intro n k hk
      show ∃ k', Function.update s.gScore next (some (currentG + 1)) n = some k' ∧ k' ≤ k
      by_cases hn : n = next
      · rw [hn] at hk ⊢
        exact ⟨_, Function.update_self _ _ _, hle k hk⟩
      · rw [Function.update_of_ne hn]
        exact ⟨k, hk, le_refl k⟩
    · show Function.update s.gScore next (some (currentG + 1)) current = some currentG
      rw [Function.update_of_ne]
      · exact hlabel
      · intro heq
        have hself := hle currentG (by rw [← heq]; exact hlabel)
        omega
    · intro n hn
      rw [List.mem_singleton.mp hn]
      exact ⟨_, Function.update_self _ _ _, le_refl _⟩
    · exact le_of_eq (BinaryHeap.MinHeap.size_push _ _)
  · rename_i hnot
    refine ⟨hs, fun n k hk => ⟨k, hk, le_refl k⟩, hlabel, ?_, Nat.le_succ _, rfl⟩
    intro n hn
    rw [List.mem_singleton.mp hn]
    cases hg : s.gScore next with
    | none =>
        rw [hg] at hnot
        exact absurd rfl hnot
    | some existing =>
        rw [hg] at hnot
        exact ⟨existing, rfl, le_of_not_gt (fun hlt => hnot (decide_eq_true hlt))⟩

theorem visits_spec {current : N} {currentG : ℕ} (l : List N) :
    ∀ s : State N, (∀ n ∈ l, n ∈ nbrs current) → Inv nbrs h goal root waived s →
      s.gScore current = some currentG →
      Inv nbrs h goal root waived (l.foldl (visit h current currentG) s)
        ∧ Visited current currentG l s (l.foldl (visit h current currentG) s) := by
  induction l with
  | nil =>
      intro s _ hs hlabel
      exact ⟨hs, fun n k hk => ⟨k, hk, le_refl k⟩, hlabel,
        fun n hn => absurd hn List.not_mem_nil, Nat.le_refl _, rfl⟩
  | cons next rest ih =>
      intro s hl hs hlabel
      obtain ⟨hs', hone⟩ := hs.visit (hl next List.mem_cons_self) hlabel
      obtain ⟨hend, hrest⟩ := ih _ (fun n hn => hl n (List.mem_cons_of_mem _ hn)) hs' hone.kept
      rw [List.foldl_cons]
      refine ⟨hend, ?_, hrest.kept, ?_, ?_, hrest.expanded.trans hone.expanded⟩
      · intro n k hk
        obtain ⟨k', hk', hle⟩ := hone.drop n k hk
        obtain ⟨k'', hk'', hle'⟩ := hrest.drop n k' hk'
        exact ⟨k'', hk'', le_trans hle' hle⟩
      · intro n hn
        rcases List.mem_cons.mp hn with rfl | hin
        · obtain ⟨k, hk, hle⟩ := hone.reached n (List.mem_singleton_self n)
          obtain ⟨k', hk', hle'⟩ := hrest.drop n k hk
          exact ⟨k', hk', le_trans hle' hle⟩
        · exact hrest.reached n hin
      · have h1 := hone.size
        have h2 := hrest.size
        rw [List.length_cons]
        rw [List.length_singleton] at h1
        omega

/-- **Expanding a node** gives its waiver back. -/
theorem Inv.expand {s : State N} {current : N} {currentG : ℕ}
    (hs : Inv nbrs h goal root (fun n => n = current) s)
    (hlabel : s.gScore current = some currentG) (hgoal : current ≠ goal) :
    Inv nbrs h goal root (fun _ => False) (expand nbrs h s current currentG)
      ∧ Visited current currentG (nbrs current) { s with expanded := s.expanded + 1 }
          (expand nbrs h s current currentG) := by
  have hcounted : Inv nbrs h goal root (fun n => n = current)
      { s with expanded := s.expanded + 1 } :=
    ⟨⟨hs.labels.rooted, hs.labels.moved, hs.labels.parented, hs.labels.pays⟩, hs.queueSound,
      hs.frontier⟩
  obtain ⟨hend, hvisited⟩ := visits_spec (nbrs current) _ (fun _ hn => hn) hcounted hlabel
  refine ⟨⟨hend.labels, hend.queueSound, hend.frontier.settle hgoal ?_⟩, hvisited⟩
  intro k hk n cost hedge
  obtain ⟨hn, rfl⟩ := hedge
  have hsame : k = currentG := Option.some.inj (hk.symm.trans hvisited.kept)
  rw [hsame]
  exact hvisited.reached n hn

omit [DecidableEq N] in
theorem mem_pop_queued {s : State N} {popped : Entry N}
    {rest : BinaryHeap.MinHeap (fun entry : Entry N => entry.score)}
    (hpop : s.heap.pop = some (popped, rest)) (score : ℕ) (n : N) :
    s.queued score n
      ↔ (score = popped.score ∧ n = popped.node) ∨ (⟨score, n⟩ : Entry N) ∈ rest.entries := by
  unfold State.queued
  rw [BinaryHeap.MinHeap.mem_pop hpop]
  constructor
  · rintro (heq | hin)
    · exact Or.inl ⟨congrArg Entry.score heq, congrArg Entry.node heq⟩
    · exact Or.inr hin
  · rintro (⟨rfl, rfl⟩ | hin)
    · exact Or.inl rfl
    · exact Or.inr hin

/-! ## §4. The run. -/

/-- The loop ended without the goal: the heap ran empty or the cap was reached. -/
def RanOut (nbrs : N → List N) (h : N → ℕ) (goal root : N) (cap : ℕ) (s : State N) : Prop :=
  Inv nbrs h goal root (fun _ => False) s ∧ (s.heap.entries = [] ∨ cap ≤ s.expanded)

/-- The loop ended at the goal: its label is below the cost of every route. -/
def Found (nbrs : N → List N) (goal root : N) (s : State N) : Prop :=
  Labels nbrs root s ∧ ∃ k, s.gScore goal = some k ∧ ∀ c, Route (Edge nbrs) root goal c → k ≤ c

omit [DecidableEq N] in
theorem Inv.take {s : State N} (hs : Inv nbrs h goal root (fun _ => False) s) {popped : Entry N}
    {rest : BinaryHeap.MinHeap (fun entry : Entry N => entry.score)}
    (hpop : s.heap.pop = some (popped, rest)) :
    Inv nbrs h goal root (fun n => n = popped.node) { s with heap := rest } := by
  refine ⟨⟨hs.labels.rooted, hs.labels.moved, hs.labels.parented, hs.labels.pays⟩, ?_, ?_⟩
  · intro score n hq
    exact hs.queueSound score n ((mem_pop_queued hpop score n).mpr (Or.inr hq))
  · exact hs.frontier.take (fun score n hq => (mem_pop_queued hpop score n).mp hq)

omit [DecidableEq N] in
theorem Inv.skip {s : State N} (hs : Inv nbrs h goal root (fun _ => False) s) {popped : Entry N}
    {rest : BinaryHeap.MinHeap (fun entry : Entry N => entry.score)}
    (hpop : s.heap.pop = some (popped, rest)) {currentG : ℕ}
    (hlabel : s.gScore popped.node = some currentG)
    (hstale : currentG + h popped.node < popped.score) :
    Inv nbrs h goal root (fun _ => False) { s with heap := rest } := by
  refine ⟨⟨hs.labels.rooted, hs.labels.moved, hs.labels.parented, hs.labels.pays⟩,
    (hs.take hpop).queueSound, ?_⟩
  apply hs.frontier.skip (fun score n hq => (mem_pop_queued hpop score n).mp hq)
  intro k hk
  rw [Option.some.inj (hk.symm.trans hlabel)]
  exact hstale

omit [DecidableEq N] in
/-- **The goal comes up**: its entry is the least of the heap, and some entry
of the heap is no dearer than any route. -/
theorem Inv.found {s : State N} (hs : Inv nbrs h goal root (fun _ => False) s)
    (hcon : Consistent (Edge nbrs) h) (hzero : h goal = 0) {popped : Entry N}
    {rest : BinaryHeap.MinHeap (fun entry : Entry N => entry.score)}
    (hpop : s.heap.pop = some (popped, rest)) {currentG : ℕ}
    (hlabel : s.gScore popped.node = some currentG) (hgoal : popped.node = goal) :
    Found nbrs goal root { s with heap := rest } := by
  refine ⟨⟨hs.labels.rooted, hs.labels.moved, hs.labels.parented, hs.labels.pays⟩, currentG, ?_, ?_⟩
  · rw [← hgoal]
    exact hlabel
  · intro c hroute
    obtain ⟨score, n, hq, hle⟩ := hs.frontier.queued_le_route hcon hroute rfl 0 hs.labels.rooted
    have hleast : popped.score ≤ score := BinaryHeap.MinHeap.pop_least hpop hq
    have hentry : s.queued popped.score popped.node :=
      (mem_pop_queued hpop _ _).mpr (Or.inl ⟨rfl, rfl⟩)
    obtain ⟨k, hk, hsound⟩ := hs.queueSound _ _ hentry
    have hsame : k = currentG := Option.some.inj (hk.symm.trans hlabel)
    rw [hgoal] at hsound
    omega

/-- **Where the loop ends**, given turns for what is queued and for what
expansions can still queue. -/
theorem loop_spec (hcon : Consistent (Edge nbrs) h) (hzero : h goal = 0) {degree : ℕ}
    (hdegree : ∀ n, (nbrs n).length ≤ degree) (fuel : ℕ) :
    ∀ s : State N, Inv nbrs h goal root (fun _ => False) s →
      s.heap.size + degree * (cap - s.expanded) < fuel →
      ((loop nbrs h goal cap fuel s).2 = false
          → RanOut nbrs h goal root cap (loop nbrs h goal cap fuel s).1)
        ∧ ((loop nbrs h goal cap fuel s).2 = true
          → Found nbrs goal root (loop nbrs h goal cap fuel s).1) := by
  induction fuel with
  | zero =>
      intro s _ hfuel
      omega
  | succ fuel ih =>
      intro s hs hfuel
      rw [loop]
      by_cases hcap : s.expanded < cap
      · rw [if_pos hcap]
        cases hpop : s.heap.pop with
        | none =>
            have hempty := (BinaryHeap.MinHeap.pop_eq_none_iff _).mp hpop
            refine ⟨fun _ => ⟨hs, Or.inl hempty⟩, fun htrue => ?_⟩
            cases htrue
        | some pair =>
            obtain ⟨popped, rest⟩ := pair
            have hsize := BinaryHeap.MinHeap.size_pop hpop
            obtain ⟨currentG, hlabel, _⟩ :=
              hs.queueSound _ _ ((mem_pop_queued hpop _ _).mpr (Or.inl ⟨rfl, rfl⟩))
            dsimp only
            rw [hlabel]
            dsimp only
            by_cases hstale : currentG + h popped.node < popped.score
            · rw [if_pos hstale]
              apply ih _ (hs.skip hpop hlabel hstale)
              show rest.size + degree * (cap - s.expanded) < fuel
              omega
            · rw [if_neg hstale]
              by_cases hgoal : popped.node = goal
              · rw [if_pos hgoal]
                refine ⟨fun hfalse => ?_, fun _ => hs.found hcon hzero hpop hlabel hgoal⟩
                cases hfalse
              · rw [if_neg hgoal]
                obtain ⟨hnext, hvisited⟩ := Inv.expand (hs.take hpop) hlabel hgoal
                apply ih _ hnext
                -- an expansion pays for the entries it pushes
                have hpushed := hvisited.size
                have hmore := hdegree popped.node
                have hsplit : degree * (cap - s.expanded)
                    = degree * (cap - (s.expanded + 1)) + degree := by
                  rw [← Nat.mul_succ]
                  congr 1
                  omega
                rw [hvisited.expanded]
                dsimp only at hpushed ⊢
                omega
      · rw [if_neg hcap]
        refine ⟨fun _ => ⟨hs, Or.inr (Nat.not_lt.mp hcap)⟩, fun htrue => ?_⟩
        cases htrue

/-! ## §5. The path. -/

/-- Turns enough for what the root queues and for every expansion. -/
def turnBudget (degree cap : ℕ) : ℕ := 2 + degree * cap

def search (nbrs : N → List N) (h : N → ℕ) (goal : N) (cap degree : ℕ) (root : N) :
    State N × Bool :=
  loop nbrs h goal cap (turnBudget degree cap) (start h root)

omit [DecidableEq N] in
theorem traceBack_isSome {label : N → Option ℕ} {parent : N → Option N}
    (hpays : ParentsPay (fun _ _ => 1) label parent) (fuel : ℕ) :
    ∀ (n : N) (k : ℕ) (path : List N), label n = some k → k < fuel →
      ∃ result, BestFirst.traceBack (fun _ => false) parent fuel n path = some result := by
  induction fuel with
  | zero =>
      intro n k path _ hlt
      omega
  | succ fuel ih =>
      intro n k path hk hlt
      cases hparent : parent n with
      | none => exact ⟨_, BestFirst.traceBack_root fuel path rfl hparent⟩
      | some p =>
          obtain ⟨kp, kn, hkp, hkn, hle⟩ := hpays n p hparent
          have hsame : kn = k := Option.some.inj (hkn.symm.trans hk)
          have hless : kp + 1 ≤ kn := hle
          rw [BestFirst.traceBack_go fuel path rfl hparent]
          exact ih p kp _ hkp (by omega)

omit [DecidableEq N] in
theorem pathCost_eq (path : List N) :
    BestFirst.pathCost (fun _ _ => (1 : ℕ)) path = path.length - 1 := by
  induction path with
  | nil => rfl
  | cons u rest ih =>
      cases rest with
      | nil => rfl
      | cons v rest =>
          rw [BestFirst.pathCost_cons_cons, ih]
          simp only [List.length_cons]
          omega

omit [DecidableEq N] in
theorem Found.path [Fintype N] {s : State N} (hfound : Found nbrs goal root s) :
    ∃ path, BestFirst.traceBack (fun _ => false) s.cameFrom (Fintype.card N) goal []
        = some path
      ∧ IsPath nbrs root goal path
      ∧ ∀ other, IsPath nbrs root goal other → path.length ≤ other.length := by
  obtain ⟨hlabels, k, hk, hleast⟩ := hfound
  cases htrace : BestFirst.traceBack (fun _ => false) s.cameFrom (Fintype.card N) goal [] with
  | none =>
      obtain ⟨result, hresult⟩ :=
        traceBack_isSome hlabels.pays (k + 1) goal k [] hk (Nat.lt_succ_self k)
      rw [BestFirst.traceBack_never htrace (k + 1)] at hresult
      cases hresult
  | some path =>
      have htraced := BestFirst.traced_of_traceBack (Fintype.card N) goal [] path
        (List.isChain_singleton goal) htrace
      obtain ⟨a, rest, hpath, hfirst⟩ := htraced.first
      have horphan : s.cameFrom a = none := by
        rcases hfirst with hstop | hnone
        · cases hstop
        · exact hnone
      have hlast : path.getLast? = some goal := by
        obtain ⟨front, hfront⟩ := htraced.ends
        rw [← hfront]
        simp
      -- the first node of the path is labelled, so it is the root
      have hlabelled : ∃ ka, s.gScore a = some ka := by
        have hchain := htraced.chain
        rw [hpath] at hchain hlast
        cases rest with
        | nil =>
            obtain rfl : a = goal := Option.some.inj hlast
            exact ⟨k, hk⟩
        | cons b rest =>
            rw [List.isChain_cons_cons] at hchain
            obtain ⟨ka, _, hka, _⟩ := hlabels.pays b a hchain.1
            exact ⟨ka, hka⟩
      obtain ⟨ka, hka⟩ := hlabelled
      obtain rfl : a = root := hlabels.parented a ka hka horphan
      refine ⟨path, rfl, ⟨?_, hlast, ?_⟩, ?_⟩
      · rw [hpath]
        rfl
      · exact htraced.chain.imp (fun u v huv => hlabels.moved v u huv)
      · intro other hother
        have hcost := hlabels.pays.cost_le rest a goal 0 k (by rw [← hpath]; exact htraced.chain)
          (by rw [← hpath]; exact hlast) hlabels.rooted hk
        rw [pathCost_eq] at hcost
        have hroute := hleast _ (IsPath.route other a hother)
        have hnonempty : other.length ≠ 0 := by
          intro hzero
          have hstarts := hother.starts
          rw [List.length_eq_zero_iff.mp hzero] at hstarts
          cases hstarts
        rw [hpath]
        simp only [List.length_cons] at hcost ⊢
        omega

variable (cap root) in
/-- **The search finds a shortest path**, or there is none, or the cap cut it
short. -/
theorem search_shortest [Fintype N] (hcon : Consistent (Edge nbrs) h) (hzero : h goal = 0)
    {degree : ℕ} (hdegree : ∀ n, (nbrs n).length ≤ degree) :
    ((search nbrs h goal cap degree root).2 = true →
      ∃ path, BestFirst.traceBack (fun _ => false)
          (search nbrs h goal cap degree root).1.cameFrom (Fintype.card N) goal [] = some path
        ∧ IsPath nbrs root goal path
        ∧ ∀ other, IsPath nbrs root goal other → path.length ≤ other.length)
    ∧ ((search nbrs h goal cap degree root).2 = false →
        (search nbrs h goal cap degree root).1.expanded < cap →
          ¬ ∃ path, IsPath nbrs root goal path) := by
  have hbudget : (start h root).heap.size + degree * (cap - (start h root).expanded)
      < turnBudget degree cap := by
    have hone : (start h root).heap.size = 1 := BinaryHeap.MinHeap.size_push _ _
    have hnone : (start h root).expanded = 0 := rfl
    unfold turnBudget
    rw [hone, hnone, Nat.sub_zero]
    omega
  obtain ⟨hran, hfound⟩ := loop_spec hcon hzero hdegree _ (start h root) inv_start hbudget
  refine ⟨fun htrue => (hfound htrue).path, ?_⟩
  intro hfalse hcap hpath
  obtain ⟨path, hpath⟩ := hpath
  obtain ⟨hinv, hempty | hreached⟩ := hran hfalse
  · -- an empty heap has no entry below the path's cost
    obtain ⟨score, n, hq, _⟩ := hinv.frontier.queued_le_route hcon (IsPath.route path root hpath)
      rfl 0 hinv.labels.rooted
    unfold State.queued at hq
    change ⟨score, n⟩ ∈ (search nbrs h goal cap degree root).1.heap.entries at hq
    rw [show (search nbrs h goal cap degree root).1.heap.entries = [] from hempty] at hq
    cases hq
  · have hover : cap ≤ (search nbrs h goal cap degree root).1.expanded := hreached
    omega

end AStar
