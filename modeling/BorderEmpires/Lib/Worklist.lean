/-
  BorderEmpires.Lib.Worklist
  **QUEUE-DRIVEN LOOPS AND FLOOD FILLS.**

  `drain` is the loop `while (queue not empty && !stop) expand(next)`,
  run with a step budget.  `drain_rule` is its loop rule: an invariant on
  (pending queue, state) and a measure that pays for every vertex pushed
  give the invariant at the end, and the budget is never the reason the
  loop ends.

  `flood` is the instance that collects the vertices met from a root,
  marking every accepted neighbour and pushing on from some of them.
  `mem_flood_iff` says it returns exactly the vertices that `Floods`
  derives, on any finite vertex type.
-/
import Mathlib.Data.Fintype.Card
import Mathlib.Logic.Relation

universe u v

namespace Worklist

/-! ## §1. The loop and its rule. -/

section Drain

variable {V : Type u} {S : Type v}

/-- Take vertices off the front of the queue until it is empty or the
state says stop; newly found vertices go to the back. -/
def drain (stop : S → Bool) (expand : V → S → S × List V) : Nat → List V → S → S
  | 0, _, s => s
  | _ + 1, [], s => s
  | n + 1, v :: rest, s =>
      if stop s then s
      else drain stop expand n (rest ++ (expand v s).2) (expand v s).1

/-- **The loop rule.**  `I` holds of the pending queue and the state at
every turn; `μ` bounds the vertices still to be pushed. -/
theorem drain_rule (stop : S → Bool) (expand : V → S → S × List V)
    (I : List V → S → Prop) (μ : S → Nat)
    (hstep : ∀ v rest s, I (v :: rest) s → stop s = false →
      I (rest ++ (expand v s).2) (expand v s).1 ∧ (expand v s).2.length + μ (expand v s).1 ≤ μ s) :
    ∀ (fuel : Nat) (q : List V) (s : S), I q s → q.length + μ s ≤ fuel →
      ∃ q', I q' (drain stop expand fuel q s)
        ∧ (q' = [] ∨ stop (drain stop expand fuel q s) = true) := by
  intro fuel
  induction fuel with
  | zero =>
      intro q s hI hfuel
      have hq : q = [] := List.eq_nil_of_length_eq_zero (by omega)
      exact ⟨q, hI, Or.inl hq⟩
  | succ n ih =>
      intro q s hI hfuel
      cases q with
      | nil => exact ⟨[], hI, Or.inl rfl⟩
      | cons v rest =>
          rw [drain]
          by_cases hs : stop s = true
          · rw [if_pos hs]
            exact ⟨v :: rest, hI, Or.inr hs⟩
          · rw [if_neg hs]
            obtain ⟨hI', hμ⟩ := hstep v rest s hI (by simpa using hs)
            refine ih _ _ hI' ?_
            rw [List.length_append]
            rw [List.length_cons] at hfuel
            omega

theorem drain_rule_to_end {expand : V → S → S × List V}
    (I : List V → S → Prop) (μ : S → Nat)
    (hstep : ∀ v rest s, I (v :: rest) s →
      I (rest ++ (expand v s).2) (expand v s).1 ∧ (expand v s).2.length + μ (expand v s).1 ≤ μ s)
    (fuel : Nat) (q : List V) (s : S) (hI : I q s) (hfuel : q.length + μ s ≤ fuel) :
    I [] (drain (fun _ => false) expand fuel q s) := by
  obtain ⟨q', hI', hq | hq⟩ :=
    drain_rule (fun _ => false) expand I μ (fun v rest s hI _ => hstep v rest s hI) fuel q s hI
      hfuel
  · exact hq ▸ hI'
  · exact absurd hq (by simp)

theorem drain_keeps (stop : S → Bool) (expand : V → S → S × List V) (P : S → Prop)
    (hstep : ∀ v s, P s → P (expand v s).1) :
    ∀ (fuel : Nat) (q : List V) (s : S), P s → P (drain stop expand fuel q s) := by
  intro fuel
  induction fuel with
  | zero =>
      intro q s hs
      exact hs
  | succ n ih =>
      intro q s hs
      cases q with
      | nil => exact hs
      | cons v rest =>
          rw [drain]
          split
          · exact hs
          · apply ih
            exact hstep v s hs

end Drain

/-! ## §2. Flood fill. -/

section Flood

variable {V : Type u} [DecidableEq V]
variable (nbrs : V → List V) (accept push : V → Bool)

/-- Look at one neighbour: `st` is (visited so far, found in this turn). -/
def floodVisit (st : List V × List V) (w : V) : List V × List V :=
  if accept w = true ∧ w ∉ st.1 then
    (st.1 ++ [w], if push w then st.2 ++ [w] else st.2)
  else st

def floodExpand (v : V) (visited : List V) : List V × List V :=
  (nbrs v).foldl (floodVisit accept push) (visited, [])

/-- The vertices met from `root`, in the order they are met. -/
def flood (fuel : Nat) (root : V) : List V :=
  drain (fun _ => false) (floodExpand nbrs accept push) fuel [root] [root]

/-- **What a flood meets**: the root, and every accepted neighbour of the
root or of a met vertex that the flood pushes on from. -/
inductive Floods (root : V) : V → Prop
  | root : Floods root root
  | step {v w : V} : Floods root v → (v = root ∨ push v = true) → w ∈ nbrs v →
      accept w = true → Floods root w

section Reachability

variable {nbrs accept push}

omit [DecidableEq V] in
theorem Floods.trans {root v w : V} (h : Floods nbrs accept push root v)
    (hexp : v = root ∨ push v = true) (h' : Floods nbrs accept push v w) :
    Floods nbrs accept push root w := by
  induction h' with
  | root => exact h
  | step _ hexp' hnb hacc ih =>
      refine .step ih ?_ hnb hacc
      rcases hexp' with heq | hpush
      · rw [heq]
        exact hexp
      · exact Or.inr hpush

omit [DecidableEq V] in
theorem Floods.accepted {root w : V} (hroot : accept root = true)
    (h : Floods nbrs accept push root w) : accept w = true := by
  cases h with
  | root => exact hroot
  | step _ _ _ hacc => exact hacc

omit [DecidableEq V] in
theorem Floods.mono {push' : V → Bool} (hpush : ∀ v, push v = true → push' v = true)
    {root v : V} (h : Floods nbrs accept push root v) : Floods nbrs accept push' root v := by
  induction h with
  | root => exact .root
  | step _ hexp hnb hacc ih => exact .step ih (hexp.imp id (hpush _)) hnb hacc

omit [DecidableEq V] in
/-- **On symmetric neighbours a flood that pushes on from all it accepts
can be run backwards.** -/
theorem Floods.symm (hsymm : ∀ v w, w ∈ nbrs v → v ∈ nbrs w) {root w : V}
    (hroot : accept root = true) (h : Floods nbrs accept accept root w) :
    Floods nbrs accept accept w root := by
  induction h with
  | root => exact .root
  | step hv hexp hnb hacc ih =>
      have hv_acc := hv.accepted hroot
      exact (Floods.step .root (Or.inl rfl) (hsymm _ _ hnb) hv_acc).trans (Or.inr hv_acc) ih

end Reachability

theorem foldl_floodVisit (l vis found : List V) :
    ∃ new, l.foldl (floodVisit accept push) (vis, found)
        = (vis ++ new, found ++ new.filter push)
      ∧ new.Nodup ∧ (∀ w ∈ new, w ∉ vis ∧ w ∈ l ∧ accept w = true)
      ∧ (∀ w ∈ l, accept w = true → w ∈ vis ∨ w ∈ new) := by
  induction l generalizing vis found with
  | nil => exact ⟨[], by simp, List.nodup_nil, by simp, by simp⟩
  | cons a l ih =>
      rw [List.foldl_cons]
      by_cases ha : accept a = true ∧ a ∉ vis
      · have hv : floodVisit accept push (vis, found) a
            = (vis ++ [a], if push a then found ++ [a] else found) := by
          rw [floodVisit, if_pos ha]
        rw [hv]
        obtain ⟨new, heq, hnd, hnew, hall⟩ :=
          ih (vis ++ [a]) (if push a then found ++ [a] else found)
        refine ⟨a :: new, ?_, ?_, ?_, ?_⟩
        · rw [heq, List.filter_cons]
          by_cases hp : push a = true
          · simp [hp]
          · simp [hp]
        · refine List.nodup_cons.mpr ⟨fun hmem => ?_, hnd⟩
          exact (hnew a hmem).1 (by simp)
        · intro w hw
          rcases List.mem_cons.mp hw with rfl | hw
          · exact ⟨ha.2, List.mem_cons_self, ha.1⟩
          · obtain ⟨h1, h2, h3⟩ := hnew w hw
            exact ⟨fun h => h1 (List.mem_append_left _ h), List.mem_cons_of_mem _ h2, h3⟩
        · intro w hw hacc
          rcases List.mem_cons.mp hw with rfl | hw
          · exact Or.inr List.mem_cons_self
          · rcases hall w hw hacc with h | h
            · rcases List.mem_append.mp h with h | h
              · exact Or.inl h
              · exact Or.inr (by simp [List.mem_singleton.mp h])
            · exact Or.inr (List.mem_cons_of_mem _ h)
      · have hv : floodVisit accept push (vis, found) a = (vis, found) := by
          rw [floodVisit, if_neg ha]
        rw [hv]
        obtain ⟨new, heq, hnd, hnew, hall⟩ := ih vis found
        refine ⟨new, heq, hnd, ?_, ?_⟩
        · intro w hw
          obtain ⟨h1, h2, h3⟩ := hnew w hw
          exact ⟨h1, List.mem_cons_of_mem _ h2, h3⟩
        · intro w hw hacc
          rcases List.mem_cons.mp hw with rfl | hw
          · left
            by_contra hnot
            exact ha ⟨hacc, hnot⟩
          · exact hall w hw hacc

variable {nbrs accept push}

/-- The invariant of a flood: what is visited is met, what is pending is
visited, and a vertex no longer pending has all its neighbours visited. -/
structure FloodInv (nbrs : V → List V) (accept push : V → Bool) (root : V)
    (q vis : List V) : Prop where
  nodup : vis.Nodup
  root_mem : root ∈ vis
  sound : ∀ w ∈ vis, Floods nbrs accept push root w
  pending : ∀ v ∈ q, v ∈ vis ∧ (v = root ∨ push v = true)
  closed : ∀ v ∈ vis, (v = root ∨ push v = true) → v ∈ q ∨ ∀ w ∈ nbrs v, accept w = true → w ∈ vis

omit [DecidableEq V] in
theorem floodInv_init (root : V) : FloodInv nbrs accept push root [root] [root] where
  nodup := List.nodup_singleton root
  root_mem := List.mem_singleton.mpr rfl
  sound := fun _ hw => List.mem_singleton.mp hw ▸ Floods.root
  pending := fun _ hv => ⟨hv, Or.inl (List.mem_singleton.mp hv)⟩
  closed := fun _ hv _ => Or.inl hv

theorem floodInv_step {root v : V} {rest vis : List V}
    (h : FloodInv nbrs accept push root (v :: rest) vis) :
    FloodInv nbrs accept push root (rest ++ (floodExpand nbrs accept push v vis).2)
        (floodExpand nbrs accept push v vis).1
      ∧ vis.length + (floodExpand nbrs accept push v vis).2.length
          ≤ (floodExpand nbrs accept push v vis).1.length := by
  obtain ⟨new, heq, hnd, hnew, hall⟩ := foldl_floodVisit accept push (nbrs v) vis []
  rw [floodExpand, heq, List.nil_append]
  obtain ⟨hv_vis, hv_exp⟩ := h.pending v List.mem_cons_self
  refine ⟨⟨?_, ?_, ?_, ?_, ?_⟩, ?_⟩
  · exact List.nodup_append.mpr
      ⟨h.nodup, hnd, fun a ha b hb hab => (hnew b hb).1 (hab ▸ ha)⟩
  · exact List.mem_append_left _ h.root_mem
  · intro w hw
    rcases List.mem_append.mp hw with hw | hw
    · exact h.sound w hw
    · exact Floods.step (h.sound v hv_vis) hv_exp (hnew w hw).2.1 (hnew w hw).2.2
  · intro w hw
    rcases List.mem_append.mp hw with hw | hw
    · obtain ⟨h1, h2⟩ := h.pending w (List.mem_cons_of_mem _ hw)
      exact ⟨List.mem_append_left _ h1, h2⟩
    · rw [List.mem_filter] at hw
      exact ⟨List.mem_append_right _ hw.1, Or.inr hw.2⟩
  · intro w hw hexp
    rcases List.mem_append.mp hw with hw | hw
    · rcases h.closed w hw hexp with hq | hcl
      · rcases List.mem_cons.mp hq with rfl | hq
        · exact Or.inr (fun x hx hacc => List.mem_append.mpr (hall x hx hacc))
        · exact Or.inl (List.mem_append_left _ hq)
      · exact Or.inr (fun x hx hacc => List.mem_append_left _ (hcl x hx hacc))
    · rcases hexp with rfl | hp
      · exact absurd h.root_mem (hnew w hw).1
      · exact Or.inl (List.mem_append_right _ (List.mem_filter.mpr ⟨hw, hp⟩))
  · have hlen : (new.filter push).length ≤ new.length := List.length_filter_le _ _
    show vis.length + (new.filter push).length ≤ (vis ++ new).length
    rw [List.length_append]
    omega

theorem mem_floodExpand {v w : V} {vis : List V}
    (h : w ∈ (floodExpand nbrs accept push v vis).1) :
    w ∈ vis ∨ (w ∈ nbrs v ∧ accept w = true
      ∧ (push w = true → w ∈ (floodExpand nbrs accept push v vis).2)) := by
  obtain ⟨new, heq, _, hnew, _⟩ := foldl_floodVisit accept push (nbrs v) vis []
  unfold floodExpand at h ⊢
  rw [heq] at h ⊢
  rcases List.mem_append.mp h with hw | hw
  · exact Or.inl hw
  · obtain ⟨_, hnb, hacc⟩ := hnew w hw
    exact Or.inr ⟨hnb, hacc, fun hp => List.mem_filter.mpr ⟨hw, hp⟩⟩

omit [DecidableEq V] in
theorem FloodInv.mem_iff {root : V} {vis : List V}
    (h : FloodInv nbrs accept push root [] vis) (w : V) :
    w ∈ vis ↔ Floods nbrs accept push root w := by
  constructor
  · exact h.sound w
  · intro hw
    induction hw with
    | root => exact h.root_mem
    | step hv hexp hnb hacc ih =>
        rcases h.closed _ ih hexp with hq | hcl
        · exact absurd hq List.not_mem_nil
        · exact hcl _ hnb hacc

theorem floodInv_flood [Fintype V] (root : V) (fuel : Nat) (hfuel : Fintype.card V ≤ fuel) :
    FloodInv nbrs accept push root [] (flood nbrs accept push fuel root) := by
  refine drain_rule_to_end (FloodInv nbrs accept push root)
    (fun vis => Fintype.card V - vis.length) ?_ fuel [root] [root] (floodInv_init root) ?_
  · intro v rest vis hI
    obtain ⟨hI', hlen⟩ := floodInv_step hI
    have hcard := hI'.nodup.length_le_card
    exact ⟨hI', by omega⟩
  · have hpos : 0 < Fintype.card V := Fintype.card_pos_iff.mpr ⟨root⟩
    simp only [List.length_singleton]
    omega

/-- **A flood returns exactly what it meets.** -/
theorem mem_flood_iff [Fintype V] (root w : V) (fuel : Nat) (hfuel : Fintype.card V ≤ fuel) :
    w ∈ flood nbrs accept push fuel root ↔ Floods nbrs accept push root w :=
  (floodInv_flood root fuel hfuel).mem_iff w

end Flood

end Worklist
