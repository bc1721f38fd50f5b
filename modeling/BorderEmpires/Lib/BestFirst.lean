/-
  BorderEmpires.Lib.BestFirst
  **BEST-FIRST SEARCH WITH REOPENING.**

  A search labels nodes with the cost of the cheapest way found to them,
  remembers the node each label came from, and keeps a queue of nodes by
  label plus estimate.  A node whose label drops is queued again, and an
  entry that no longer matches its node's label is skipped.

  The estimate only has to be consistent along `edge`, the moves that a
  route may use; a search may relax other moves as well.
-/
import Mathlib.Algebra.Order.Monoid.Defs
import Mathlib.Data.Fintype.Pigeonhole
import Mathlib.Data.List.Chain

universe u v

namespace BestFirst

variable {N : Type u} {C : Type v}

/-! ## §1. Routes and estimates. -/

section Routes

variable [AddCommMonoid C] (edge : N → N → C → Prop)

inductive Route : N → N → C → Prop
  | stay (u : N) : Route u u 0
  | go {u v t : N} {w c : C} : edge u v w → Route v t c → Route u t (w + c)

/-- An estimate that no move undercuts. -/
def Consistent [LE C] (h : N → C) : Prop := ∀ u v w, edge u v w → h u ≤ w + h v

variable {edge} [PartialOrder C] [IsOrderedAddMonoid C]

theorem Route.estimate_le {h : N → C} (hh : Consistent edge h) {u t : N} {c : C}
    (r : Route edge u t c) : h u ≤ c + h t := by
  induction r with
  | stay u => rw [zero_add]
  | go hedge _ ih =>
      rw [add_assoc]
      exact le_trans (hh _ _ _ hedge) (add_le_add_right ih _)

end Routes

/-! ## §2. The frontier. -/

section FrontierSection

variable [AddCommMonoid C] [PartialOrder C]
variable (edge : N → N → C → Prop) (h : N → C) (goal : N → Prop)

/-- Every move from `u` has been relaxed at the cost `k`. -/
def Relaxed (label : N → Option C) (u : N) (k : C) : Prop :=
  ∀ v w, edge u v w → ∃ k', label v = some k' ∧ k' ≤ k + w

/-- **The frontier invariant**, waived at the nodes being expanded: a
labelled node is queued at its label plus estimate, or it is no goal and
its moves have been relaxed. -/
def Frontier (waived : N → Prop) (label : N → Option C) (queued : C → N → Prop) : Prop :=
  ∀ u k, label u = some k → ¬ waived u → queued (k + h u) u ∨ (¬ goal u ∧ Relaxed edge label u k)

def QueueSound (label : N → Option C) (queued : C → N → Prop) : Prop :=
  ∀ s u, queued s u → ∃ k, label u = some k ∧ k + h u ≤ s

variable {edge h goal}

theorem Frontier.take {label : N → Option C} {queued queued' : C → N → Prop}
    (hf : Frontier edge h goal (fun _ => False) label queued) {x : N} {s₀ : C}
    (hpop : ∀ s u, queued s u → (s = s₀ ∧ u = x) ∨ queued' s u) :
    Frontier edge h goal (fun u => u = x) label queued' := by
  intro u k hlabel hw
  rcases hf u k hlabel id with hq | hr
  · rcases hpop _ _ hq with ⟨-, hux⟩ | hq'
    · exact absurd hux hw
    · exact Or.inl hq'
  · exact Or.inr hr

theorem Frontier.skip {label : N → Option C} {queued queued' : C → N → Prop}
    (hf : Frontier edge h goal (fun _ => False) label queued) {x : N} {s₀ : C}
    (hpop : ∀ s u, queued s u → (s = s₀ ∧ u = x) ∨ queued' s u)
    (hstale : ∀ k, label x = some k → k + h x < s₀) :
    Frontier edge h goal (fun _ => False) label queued' := by
  intro u k hlabel hw
  rcases hf u k hlabel hw with hq | hr
  · rcases hpop _ _ hq with ⟨hs, hux⟩ | hq'
    · subst hux
      exact absurd hs (ne_of_lt (hstale k hlabel))
    · exact Or.inl hq'
  · exact Or.inr hr

theorem Frontier.settle {label : N → Option C} {queued : C → N → Prop} {x : N}
    (hf : Frontier edge h goal (fun u => u = x) label queued) (hgoal : ¬ goal x)
    (hr : ∀ k, label x = some k → Relaxed edge label x k) :
    Frontier edge h goal (fun _ => False) label queued := by
  intro u k hlabel _
  by_cases hux : u = x
  · subst hux
    exact Or.inr ⟨hgoal, hr k hlabel⟩
  · exact hf u k hlabel hux

section Lower

variable [DecidableEq N]

theorem relaxed_lower {label : N → Option C} {u x : N} {k t : C}
    (hr : Relaxed edge label u k) (ht : ∀ k', label x = some k' → t ≤ k') :
    Relaxed edge (Function.update label x (some t)) u k := by
  intro v w hedge
  obtain ⟨k', hlabel, hle⟩ := hr v w hedge
  by_cases hvx : v = x
  · subst hvx
    exact ⟨t, Function.update_self v (some t) label, le_trans (ht k' hlabel) hle⟩
  · exact ⟨k', by rw [Function.update_of_ne hvx]; exact hlabel, hle⟩

/-- **A label drops and its node is queued again.** -/
theorem Frontier.lower {waived : N → Prop} {label : N → Option C} {queued queued' : C → N → Prop}
    (hf : Frontier edge h goal waived label queued) {x : N} {t : C}
    (ht : ∀ k, label x = some k → t ≤ k) (hkeep : ∀ s u, queued s u → queued' s u)
    (hadd : queued' (t + h x) x) :
    Frontier edge h goal waived (Function.update label x (some t)) queued' := by
  intro u k hlabel hw
  by_cases hux : u = x
  · subst hux
    rw [Function.update_self] at hlabel
    cases hlabel
    exact Or.inl hadd
  · rw [Function.update_of_ne hux] at hlabel
    rcases hf u k hlabel hw with hq | ⟨hgoal, hr⟩
    · exact Or.inl (hkeep _ _ hq)
    · exact Or.inr ⟨hgoal, relaxed_lower hr ht⟩

end Lower

variable [IsOrderedAddMonoid C]

theorem QueueSound.lower [DecidableEq N] {label : N → Option C} {queued queued' : C → N → Prop}
    (hq : QueueSound h label queued) {x : N} {t : C} (ht : ∀ k, label x = some k → t ≤ k)
    (hnew : ∀ s u, queued' s u → (s = t + h x ∧ u = x) ∨ queued s u) :
    QueueSound h (Function.update label x (some t)) queued' := by
  intro s u hs
  by_cases hux : u = x
  · subst hux
    refine ⟨t, Function.update_self _ _ _, ?_⟩
    rcases hnew s u hs with ⟨rfl, -⟩ | hold
    · exact le_refl _
    · obtain ⟨k, hlabel, hle⟩ := hq s u hold
      exact le_trans (add_le_add_left (ht k hlabel) _) hle
  · rcases hnew s u hs with ⟨-, heq⟩ | hold
    · exact absurd heq hux
    · rw [Function.update_of_ne hux]
      exact hq s u hold

/-- **No route is cheaper than the queue's cheapest entry.**  Induction on
the route: the first node on it whose moves are not relaxed is queued. -/
theorem Frontier.queued_le_route {label : N → Option C} {queued : C → N → Prop}
    (hf : Frontier edge h goal (fun _ => False) label queued) (hh : Consistent edge h)
    {u t : N} {c : C} (r : Route edge u t c) (ht : goal t) :
    ∀ k, label u = some k → ∃ s x, queued s x ∧ s ≤ k + (c + h t) := by
  induction r with
  | stay u =>
      intro k hlabel
      rcases hf u k hlabel id with hq | ⟨hgoal, -⟩
      · exact ⟨_, _, hq, by rw [zero_add]⟩
      · exact absurd ht hgoal
  | @go u v t w c hedge rest ih =>
      intro k hlabel
      rcases hf u k hlabel id with hq | ⟨-, hr⟩
      · refine ⟨_, _, hq, add_le_add_right ?_ k⟩
        exact (Route.go hedge rest).estimate_le hh
      · obtain ⟨k', hlabel', hle⟩ := hr v w hedge
        obtain ⟨s, x, hq, hs⟩ := ih ht k' hlabel'
        refine ⟨s, x, hq, le_trans hs ?_⟩
        calc k' + (c + h t) ≤ (k + w) + (c + h t) := add_le_add_left hle _
          _ = k + (w + c + h t) := by rw [add_assoc, add_assoc]

end FrontierSection

/-! ## §3. Parents. -/

section Parents

variable [AddCommMonoid C] [PartialOrder C] [IsOrderedAddMonoid C]
variable (weight : N → N → C)

/-- **A label pays for the move from its parent.** -/
def ParentsPay (label : N → Option C) (parent : N → Option N) : Prop :=
  ∀ v u, parent v = some u → ∃ ku kv, label u = some ku ∧ label v = some kv ∧ ku + weight u v ≤ kv

variable {weight} [DecidableEq N]

theorem ParentsPay.relax {label : N → Option C} {parent : N → Option N}
    (hp : ParentsPay weight label parent) {u v : N} {k t : C} (hlabel : label u = some k)
    (hne : u ≠ v) (hpaid : k + weight u v ≤ t) (ht : ∀ k', label v = some k' → t ≤ k') :
    ParentsPay weight (Function.update label v (some t)) (Function.update parent v (some u)) := by
  intro y x hparent
  by_cases hyv : y = v
  · subst hyv
    rw [Function.update_self] at hparent
    cases hparent
    refine ⟨k, t, ?_, Function.update_self _ _ _, hpaid⟩
    rw [Function.update_of_ne hne]
    exact hlabel
  · rw [Function.update_of_ne hyv] at hparent
    obtain ⟨kx, ky, hx, hy, hle⟩ := hp y x hparent
    by_cases hxv : x = v
    · subst hxv
      refine ⟨t, ky, Function.update_self _ _ _, ?_, ?_⟩
      · rw [Function.update_of_ne hyv]
        exact hy
      · exact le_trans (add_le_add_left (ht kx hx) _) hle
    · refine ⟨kx, ky, ?_, ?_, hle⟩
      · rw [Function.update_of_ne hxv]
        exact hx
      · rw [Function.update_of_ne hyv]
        exact hy

def pathCost (weight : N → N → C) : List N → C
  | [] => 0
  | [_] => 0
  | u :: v :: rest => weight u v + pathCost weight (v :: rest)

omit [PartialOrder C] [IsOrderedAddMonoid C] [DecidableEq N] in
theorem pathCost_cons_cons (u v : N) (rest : List N) :
    pathCost weight (u :: v :: rest) = weight u v + pathCost weight (v :: rest) := rfl

omit [DecidableEq N] in
/-- **Following parents from a label costs no more than the label.** -/
theorem ParentsPay.cost_le {label : N → Option C} {parent : N → Option N}
    (hp : ParentsPay weight label parent) (path : List N) :
    ∀ (a b : N) (ka kb : C), List.IsChain (fun u v => parent v = some u) (a :: path) →
      (a :: path).getLast? = some b → label a = some ka → label b = some kb →
      ka + pathCost weight (a :: path) ≤ kb := by
  induction path with
  | nil =>
      intro a b ka kb _ hlast ha hb
      rw [List.getLast?_singleton] at hlast
      cases hlast
      rw [ha] at hb
      cases hb
      exact le_of_eq (add_zero ka)
  | cons c rest ih =>
      intro a b ka kb hchain hlast ha hb
      rw [List.isChain_cons_cons] at hchain
      obtain ⟨ka', kc, ha', hc, hle⟩ := hp c a hchain.1
      rw [ha] at ha'
      cases ha'
      rw [List.getLast?_cons_cons] at hlast
      calc ka + pathCost weight (a :: c :: rest)
          = (ka + weight a c) + pathCost weight (c :: rest) := by
            rw [pathCost_cons_cons, add_assoc]
        _ ≤ kc + pathCost weight (c :: rest) := add_le_add_left hle _
        _ ≤ kb := ih c b kc kb hchain.2 hlast hc hb

end Parents

/-! ## §4. Walking back along the parents. -/

section TraceBack

variable (stop : N → Bool) (parent : N → Option N)

/-- Walk from a node along the parents until a stopping node or one
without a parent, collecting the nodes met in front of `path`.  `none`
means that the budget ran out. -/
def traceBack : Nat → N → List N → Option (List N)
  | 0, _, _ => none
  | fuel + 1, cursor, path =>
      if stop cursor then some (cursor :: path)
      else
        match parent cursor with
        | none => some (cursor :: path)
        | some before => traceBack fuel before (cursor :: path)

variable {stop parent}

theorem traceBack_stop (fuel : Nat) {cursor : N} (path : List N) (h : stop cursor = true) :
    traceBack stop parent (fuel + 1) cursor path = some (cursor :: path) := by
  rw [traceBack, if_pos h]

theorem traceBack_root (fuel : Nat) {cursor : N} (path : List N) (h : stop cursor = false)
    (hp : parent cursor = none) :
    traceBack stop parent (fuel + 1) cursor path = some (cursor :: path) := by
  rw [traceBack, if_neg (by simp [h]), hp]

theorem traceBack_go (fuel : Nat) {cursor before : N} (path : List N)
    (h : stop cursor = false) (hp : parent cursor = some before) :
    traceBack stop parent (fuel + 1) cursor path
      = traceBack stop parent fuel before (cursor :: path) := by
  rw [traceBack, if_neg (by simp [h]), hp]

/-- **What a walk returns**: a path that ends as the walk began, spelled
out by the parents; its first node stops the walk or has no parent, and no
node added behind it stops the walk. -/
structure Traced (stop : N → Bool) (parent : N → Option N) (path result : List N) : Prop where
  ends : path <:+ result
  first : ∃ a rest, result = a :: rest ∧ (stop a = true ∨ parent a = none)
  chain : List.IsChain (fun u v => parent v = some u) result
  inner : ∀ v ∈ result.tail, v ∈ path.tail ∨ stop v = false

theorem traced_of_traceBack (fuel : Nat) : ∀ (cursor : N) (path result : List N),
    List.IsChain (fun u v => parent v = some u) (cursor :: path) →
    traceBack stop parent fuel cursor path = some result →
      Traced stop parent (cursor :: path) result := by
  induction fuel with
  | zero =>
      intro cursor path result _ h
      cases h
  | succ fuel ih =>
      intro cursor path result hchain h
      cases hstop : stop cursor with
      | true =>
          rw [traceBack_stop fuel path hstop] at h
          cases h
          exact ⟨List.suffix_refl _, ⟨cursor, path, rfl, Or.inl hstop⟩, hchain,
            fun v hv => Or.inl hv⟩
      | false =>
          cases hparent : parent cursor with
          | none =>
              rw [traceBack_root fuel path hstop hparent] at h
              cases h
              exact ⟨List.suffix_refl _, ⟨cursor, path, rfl, Or.inr hparent⟩, hchain,
                fun v hv => Or.inl hv⟩
          | some before =>
              rw [traceBack_go fuel path hstop hparent] at h
              have ht := ih before (cursor :: path) result
                (List.isChain_cons_cons.mpr ⟨hparent, hchain⟩) h
              refine ⟨(List.suffix_cons _ _).trans ht.ends, ht.first, ht.chain, ?_⟩
              intro v hv
              rcases ht.inner v hv with hmem | hfree
              · rcases List.mem_cons.mp hmem with rfl | hin
                · exact Or.inr hstop
                · exact Or.inl hin
              · exact Or.inr hfree

/-- The node a walk stands on after so many turns, `none` once it ended. -/
def standing (stop : N → Bool) (parent : N → Option N) : Nat → N → Option N
  | 0, cursor => some cursor
  | n + 1, cursor =>
      (if stop cursor then none else parent cursor).bind (standing stop parent n)

theorem traceBack_eq_none_iff (fuel : Nat) : ∀ (cursor : N) (path : List N),
    traceBack stop parent fuel cursor path = none
      ↔ (standing stop parent fuel cursor).isSome = true := by
  induction fuel with
  | zero =>
      intro cursor path
      exact ⟨fun _ => rfl, fun _ => rfl⟩
  | succ fuel ih =>
      intro cursor path
      cases hstop : stop cursor with
      | true => simp [traceBack_stop fuel path hstop, standing, hstop]
      | false =>
          cases hparent : parent cursor with
          | none => simp [traceBack_root fuel path hstop hparent, standing, hstop, hparent]
          | some before =>
              rw [traceBack_go fuel path hstop hparent, ih before (cursor :: path)]
              simp [standing, hstop, hparent]

variable (stop parent) in
theorem standing_add (m n : Nat) : ∀ cursor : N, standing stop parent (m + n) cursor
    = (standing stop parent m cursor).bind (standing stop parent n) := by
  induction m with
  | zero =>
      intro cursor
      rw [Nat.zero_add]
      rfl
  | succ m ih =>
      intro cursor
      rw [Nat.succ_add]
      show (if stop cursor then none else parent cursor).bind (standing stop parent (m + n))
        = ((if stop cursor then none else parent cursor).bind (standing stop parent m)).bind _
      rw [Option.bind_assoc]
      congr 1
      exact funext ih

theorem standing_of_le {m n : Nat} {cursor : N} (hle : m ≤ n)
    (h : (standing stop parent n cursor).isSome = true) :
    (standing stop parent m cursor).isSome = true := by
  have hsplit := standing_add stop parent m (n - m) cursor
  rw [Nat.add_sub_cancel' hle] at hsplit
  cases hm : standing stop parent m cursor with
  | some x => rfl
  | none =>
      rw [hsplit, hm] at h
      exact h

/-- **A walk that outlasts the nodes never ends**: two turns stand on the
same node, and from there the walk repeats. -/
theorem traceBack_never [Fintype N] {cursor : N} {path : List N}
    (h : traceBack stop parent (Fintype.card N) cursor path = none) (fuel : Nat) :
    traceBack stop parent fuel cursor path = none := by
  rw [traceBack_eq_none_iff] at h ⊢
  have hall : ∀ i : Fin (Fintype.card N + 1),
      ∃ x, standing stop parent i.val cursor = some x := fun i =>
    Option.isSome_iff_exists.mp (standing_of_le (Nat.lt_succ_iff.mp i.isLt) h)
  choose node hat using hall
  obtain ⟨i, j, hne, heq⟩ := Fintype.exists_ne_map_eq_of_card_lt node (by simp)
  wlog hij : i.val < j.val generalizing i j
  · exact this j i (Ne.symm hne) heq.symm (by omega)
  have hsame : standing stop parent i.val cursor = standing stop parent j.val cursor := by
    rw [hat i, hat j, heq]
  induction fuel using Nat.strong_induction_on with
  | _ n ih =>
      by_cases hn : n ≤ j.val
      · exact standing_of_le hn (standing_of_le (Nat.lt_succ_iff.mp j.isLt) h)
      · have hback := ih (i.val + (n - j.val)) (by omega)
        rw [standing_add, hsame, ← standing_add] at hback
        have hj : j.val + (n - j.val) = n := by omega
        rw [hj] at hback
        exact hback

end TraceBack

end BestFirst
