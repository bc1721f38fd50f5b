/-
  BorderEmpires.Lib.BreadthFirst
  **BREADTH-FIRST DISTANCE FIELDS WITH AN EARLY STOP.**

  A flood labels each vertex it meets with the number of moves it took,
  level by level.  It ends at a step limit, and earlier once a given
  vertex has been met: what is left of the level before is still expanded.

  Moves need not be reversible: a label counts moves out of the root.
-/
import Mathlib.Data.Fintype.Card
import Mathlib.Order.Bounds.Basic
import BorderEmpires.Lib.InsertionMap
import BorderEmpires.Lib.Worklist

universe u

namespace BreadthFirst

/-! ## §1. Moves and walks. -/

section Walks

variable {V : Type u} (next : V → List V) (accept : V → Bool)

def Moves (u w : V) : Prop := w ∈ next u ∧ accept w = true

/-- A walk of the given number of moves. -/
inductive Walks : ℕ → V → V → Prop
  | nil (u : V) : Walks 0 u u
  | step {n : ℕ} {u w v : V} : Moves next accept u w → Walks n w v → Walks (n + 1) u v

variable {next accept}

theorem Walks.snoc {n : ℕ} {u v w : V} (h : Walks next accept n u v)
    (hm : Moves next accept v w) : Walks next accept (n + 1) u w := by
  induction h with
  | nil u => exact .step hm (.nil w)
  | step hfirst _ ih => exact .step hfirst (ih hm)

theorem Walks.last {n : ℕ} {u w : V} (h : Walks next accept (n + 1) u w) :
    ∃ v, Walks next accept n u v ∧ Moves next accept v w := by
  induction n generalizing u with
  | zero =>
      cases h with
      | step hm hrest =>
          cases hrest with
          | nil => exact ⟨u, .nil u, hm⟩
  | succ n ih =>
      cases h with
      | step hm hrest =>
          obtain ⟨v, hv, hlast⟩ := ih hrest
          exact ⟨v, .step hm hv, hlast⟩

theorem Walks.accepted {n : ℕ} {u w : V} (h : Walks next accept (n + 1) u w) :
    accept w = true := by
  obtain ⟨_, _, hm⟩ := h.last
  exact hm.2

end Walks

/-! ## §2. The flood. -/

section Flood

variable {V : Type u} [DecidableEq V] (next : V → List V) (accept : V → Bool)
  (stopAt : Option V)

structure Field (V : Type u) where
  dist : InsertionMap V ℕ
  /-- Vertices with this label are not expanded. -/
  stopDist : ℕ
  stopped : Bool

/-- Label a vertex met `d` moves from the root, unless it has a label. -/
def visit (d : ℕ) (st : Field V × List (V × ℕ)) (w : V) : Field V × List (V × ℕ) :=
  if st.1.dist.has w then st
  else if accept w then
    ({ st.1 with
        dist := st.1.dist.set w d
        stopDist := if stopAt = some w then min st.1.stopDist d else st.1.stopDist },
      st.2 ++ [(w, d)])
  else st

/-- One turn of the queue. -/
def expand (entry : V × ℕ) (st : Field V) : Field V × List (V × ℕ) :=
  if st.stopDist ≤ entry.2 then ({ st with stopped := true }, [])
  else (next entry.1).foldl (visit accept stopAt (entry.2 + 1)) (st, [])

def flood (maxSteps fuel : ℕ) (root : V) : InsertionMap V ℕ :=
  if stopAt = some root then InsertionMap.empty.set root 0
  else (Worklist.drain Field.stopped (expand next accept stopAt) fuel [(root, 0)]
    ⟨InsertionMap.empty.set root 0, maxSteps, false⟩).dist

/-! ## §3. One level at a time. -/

variable {next accept stopAt}

/-- What a neighbour loop at depth `d` does to the field. -/
structure Visited (accept : V → Bool) (d : ℕ) (l : List V) (st st' : Field V)
    (found : List (V × ℕ)) : Prop where
  kept : ∀ v e, st.dist.get v = some e → st'.dist.get v = some e
  fresh : ∀ v e, st'.dist.get v = some e → st.dist.get v = some e
    ∨ (e = d ∧ v ∈ l ∧ accept v = true ∧ (v, d) ∈ found)
  all : ∀ w ∈ l, accept w = true → ∃ e, st'.dist.get w = some e
  found_new : ∀ e ∈ found, e.2 = d ∧ st'.dist.get e.1 = some d
  size : st'.dist.size = st.dist.size + found.length
  stopped : st'.stopped = st.stopped
  stop_le : st'.stopDist ≤ st.stopDist

theorem size_set_of_new {m : InsertionMap V ℕ} {w : V} (h : m.get w = none) (d : ℕ) :
    (m.set w d).size = m.size + 1 := by
  have hkeys : (m.set w d).keys = m.keys ++ [w] := by
    rw [InsertionMap.keys_set, if_neg]
    rw [InsertionMap.mem_keys_iff, h]
    simp
  have hlen : ∀ m : InsertionMap V ℕ, m.keys.length = m.size := by
    intro m
    unfold InsertionMap.keys InsertionMap.size
    exact List.length_map _
  rw [← hlen, hkeys, List.length_append, hlen]
  rfl

theorem Visited.skip {d : ℕ} {a : V} {l : List V} {st st' : Field V} {found : List (V × ℕ)}
    (hv : Visited accept d l st st' found) (ha : accept a = true → ∃ e, st'.dist.get a = some e) :
    Visited accept d (a :: l) st st' found := by
  refine { hv with fresh := ?_, all := ?_ }
  · intro v e he
    rcases hv.fresh v e he with h | ⟨h1, h2, h3, h4⟩
    · exact Or.inl h
    · exact Or.inr ⟨h1, List.mem_cons_of_mem _ h2, h3, h4⟩
  · intro w hw hacc
    rcases List.mem_cons.mp hw with rfl | hw
    · exact ha hacc
    · exact hv.all w hw hacc

variable (accept stopAt) in
theorem foldl_visit (d : ℕ) (l : List V) :
    ∀ (st : Field V) (found : List (V × ℕ)),
      ∃ new, (l.foldl (visit accept stopAt d) (st, found)).2 = found ++ new
        ∧ Visited accept d l st (l.foldl (visit accept stopAt d) (st, found)).1 new := by
  induction l with
  | nil =>
      intro st found
      refine ⟨[], by simp, ⟨fun _ _ h => h, fun _ _ h => Or.inl h, ?_, ?_, rfl, rfl, Nat.le_refl _⟩⟩
      · intro w hw
        cases hw
      · intro e he
        cases he
  | cons a l ih =>
      intro st found
      rw [List.foldl_cons]
      by_cases hseen : st.dist.has a = true
      · have hvisit : visit accept stopAt d (st, found) a = (st, found) := by
          unfold visit
          rw [if_pos hseen]
        rw [hvisit]
        obtain ⟨new, hnew, hv⟩ := ih st found
        refine ⟨new, hnew, hv.skip fun _ => ?_⟩
        obtain ⟨e, he⟩ := Option.isSome_iff_exists.mp hseen
        exact ⟨e, hv.kept a e he⟩
      · have hnone : st.dist.get a = none := by
          unfold InsertionMap.has at hseen
          simpa using hseen
        by_cases hacc : accept a = true
        · -- a fresh accepted vertex
          obtain ⟨st1, hst1⟩ : ∃ st1 : Field V, st1 = { st with
              dist := st.dist.set a d
              stopDist := if stopAt = some a then min st.stopDist d else st.stopDist } :=
            ⟨_, rfl⟩
          have hvisit : visit accept stopAt d (st, found) a = (st1, found ++ [(a, d)]) := by
            unfold visit
            rw [if_neg hseen, if_pos hacc, hst1]
          have hdist : st1.dist = st.dist.set a d := by rw [hst1]
          rw [hvisit]
          obtain ⟨new, hnew, hv⟩ := ih st1 (found ++ [(a, d)])
          refine ⟨(a, d) :: new, by rw [hnew, List.append_assoc]; rfl, ?_⟩
          have ha : st1.dist.get a = some d := by
            rw [hdist, InsertionMap.get_set_self]
          have hle : st1.stopDist ≤ st.stopDist := by
            rw [hst1]
            show (if stopAt = some a then min st.stopDist d else st.stopDist) ≤ st.stopDist
            split
            · exact min_le_left _ _
            · exact Nat.le_refl _
          refine ⟨?_, ?_, ?_, ?_, ?_, ?_, hv.stop_le.trans hle⟩
          · intro v e he
            apply hv.kept
            rw [hdist, InsertionMap.get_set_ne, he]
            rintro rfl
            rw [hnone] at he
            cases he
          · intro v e he
            rcases hv.fresh v e he with h | ⟨h1, h2, h3, h4⟩
            · rw [hdist, InsertionMap.get_set] at h
              by_cases hav : a = v
              · subst hav
                rw [if_pos rfl] at h
                exact Or.inr ⟨(Option.some.inj h).symm, List.mem_cons_self, hacc,
                  List.mem_cons_self⟩
              · rw [if_neg hav] at h
                exact Or.inl h
            · exact Or.inr ⟨h1, List.mem_cons_of_mem _ h2, h3, List.mem_cons_of_mem _ h4⟩
          · intro w hw hw_acc
            rcases List.mem_cons.mp hw with rfl | hw
            · exact ⟨d, hv.kept w d ha⟩
            · exact hv.all w hw hw_acc
          · intro e he
            rcases List.mem_cons.mp he with rfl | he
            · exact ⟨rfl, hv.kept a d ha⟩
            · exact hv.found_new e he
          · rw [hv.size, hdist, size_set_of_new hnone, List.length_cons]
            omega
          · rw [hv.stopped, hst1]
        · have hvisit : visit accept stopAt d (st, found) a = (st, found) := by
            unfold visit
            rw [if_neg hseen, if_neg hacc]
          rw [hvisit]
          obtain ⟨new, hnew, hv⟩ := ih st found
          exact ⟨new, hnew, hv.skip fun hw_acc => absurd hw_acc hacc⟩

/-- Where the flood stops: at the limit, or at the label of the stop vertex
once it has one; no label is larger. -/
structure StopRight (stopAt : Option V) (maxSteps : ℕ) (st : Field V) : Prop where
  within : ∀ v e, st.dist.get v = some e → e ≤ st.stopDist
  limit : st.stopDist ≤ maxSteps
  reason : st.stopDist = maxSteps ∨ ∃ x, stopAt = some x ∧ st.dist.get x = some st.stopDist
  met : ∀ x e, stopAt = some x → st.dist.get x = some e → st.stopDist ≤ e

variable (accept) in
theorem StopRight.visit {maxSteps d : ℕ} {st : Field V × List (V × ℕ)}
    (h : StopRight stopAt maxSteps st.1) (hlabels : ∀ v e, st.1.dist.get v = some e → e ≤ d)
    (hd : d ≤ st.1.stopDist) (w : V) :
    StopRight stopAt maxSteps (visit accept stopAt d st w).1
      ∧ (∀ v e, (visit accept stopAt d st w).1.dist.get v = some e → e ≤ d)
      ∧ d ≤ (visit accept stopAt d st w).1.stopDist := by
  unfold BreadthFirst.visit
  split
  · exact ⟨h, hlabels, hd⟩
  next hseen =>
    split
    · have hnone : st.1.dist.get w = none := by
        unfold InsertionMap.has at hseen
        simpa using hseen
      have hlabels' : ∀ v e, (st.1.dist.set w d).get v = some e → e ≤ d := by
        intro v e he
        rw [InsertionMap.get_set] at he
        split at he
        · exact (Option.some.inj he).symm.le
        · exact hlabels v e he
      by_cases hw : stopAt = some w
      · -- the stop vertex: nothing beyond this level is expanded
        have hmin : min st.1.stopDist d = d := min_eq_right hd
        refine ⟨⟨?_, ?_, ?_, ?_⟩, hlabels', ?_⟩
        · intro v e he
          show e ≤ if stopAt = some w then min st.1.stopDist d else st.1.stopDist
          rw [if_pos hw, hmin]
          exact hlabels' v e he
        · show (if stopAt = some w then min st.1.stopDist d else st.1.stopDist) ≤ maxSteps
          rw [if_pos hw, hmin]
          exact hd.trans h.limit
        · right
          refine ⟨w, hw, ?_⟩
          show (st.1.dist.set w d).get w = some (if stopAt = some w then min st.1.stopDist d
            else st.1.stopDist)
          rw [if_pos hw, hmin, InsertionMap.get_set_self]
        · intro x e hx he
          show (if stopAt = some w then min st.1.stopDist d else st.1.stopDist) ≤ e
          rw [if_pos hw, hmin]
          have hxw : x = w := Option.some.inj (hx.symm.trans hw)
          rw [hxw] at he
          exact (Option.some.inj ((InsertionMap.get_set_self st.1.dist w d).symm.trans he)).le
        · show d ≤ if stopAt = some w then min st.1.stopDist d else st.1.stopDist
          rw [if_pos hw, hmin]
      · refine ⟨⟨?_, ?_, ?_, ?_⟩, hlabels', ?_⟩
        · intro v e he
          show e ≤ if stopAt = some w then min st.1.stopDist d else st.1.stopDist
          rw [if_neg hw]
          exact (hlabels' v e he).trans hd
        · show (if stopAt = some w then min st.1.stopDist d else st.1.stopDist) ≤ maxSteps
          rw [if_neg hw]
          exact h.limit
        · show (if stopAt = some w then min st.1.stopDist d else st.1.stopDist) = maxSteps
            ∨ ∃ x, stopAt = some x ∧ (st.1.dist.set w d).get x
              = some (if stopAt = some w then min st.1.stopDist d else st.1.stopDist)
          rw [if_neg hw]
          rcases h.reason with hlim | ⟨x, hx, hget⟩
          · exact Or.inl hlim
          · right
            refine ⟨x, hx, ?_⟩
            rw [InsertionMap.get_set_ne, hget]
            rintro rfl
            exact hw hx
        · intro x e hx he
          show (if stopAt = some w then min st.1.stopDist d else st.1.stopDist) ≤ e
          rw [if_neg hw]
          have hne : w ≠ x := by
            rintro rfl
            exact hw hx
          exact h.met x e hx ((InsertionMap.get_set_ne st.1.dist hne d).symm.trans he)
        · show d ≤ if stopAt = some w then min st.1.stopDist d else st.1.stopDist
          rw [if_neg hw]
          exact hd
    · exact ⟨h, hlabels, hd⟩

variable (accept) in
theorem StopRight.foldl_visit {maxSteps d : ℕ} (l : List V) :
    ∀ st : Field V × List (V × ℕ), StopRight stopAt maxSteps st.1 →
      (∀ v e, st.1.dist.get v = some e → e ≤ d) → d ≤ st.1.stopDist →
      StopRight stopAt maxSteps (l.foldl (BreadthFirst.visit accept stopAt d) st).1
        ∧ (∀ v e, (l.foldl (BreadthFirst.visit accept stopAt d) st).1.dist.get v = some e → e ≤ d)
        ∧ d ≤ (l.foldl (BreadthFirst.visit accept stopAt d) st).1.stopDist := by
  induction l with
  | nil =>
      intro st h hlabels hd
      exact ⟨h, hlabels, hd⟩
  | cons w l ih =>
      intro st h hlabels hd
      obtain ⟨h', hlabels', hd'⟩ := h.visit accept hlabels hd w
      exact ih _ h' hlabels' hd'

/-- **The invariant of the flood**: the queue runs over at most two levels,
and an expanded vertex has passed its label on. -/
structure LevelInv (next : V → List V) (accept : V → Bool) (stopAt : Option V) (maxSteps : ℕ)
    (root : V) (q : List (V × ℕ)) (st : Field V) : Prop where
  root_zero : st.dist.get root = some 0
  sound : ∀ v d, st.dist.get v = some d → Walks next accept d root v
  queued : ∀ e ∈ q, st.dist.get e.1 = some e.2
  sorted : q.Pairwise fun a b => a.2 ≤ b.2
  window : ∀ e ∈ q.head?, ∀ v d, st.dist.get v = some d → d ≤ e.2 + 1
  closed : ∀ v d, st.dist.get v = some d → (v, d) ∈ q ∨ st.stopDist ≤ d
    ∨ ∀ w, Moves next accept v w → ∃ e, e ≤ d + 1 ∧ st.dist.get w = some e
  halted : st.stopped = true → ∀ e ∈ q, st.stopDist ≤ e.2
  stop : StopRight stopAt maxSteps st

/-- **One turn keeps the levels.** -/
theorem LevelInv.expand {maxSteps : ℕ} {root : V} {head : V × ℕ} {rest : List (V × ℕ)}
    {st : Field V} (h : LevelInv next accept stopAt maxSteps root (head :: rest) st) :
    LevelInv next accept stopAt maxSteps root
        (rest ++ (expand next accept stopAt head st).2) (expand next accept stopAt head st).1
      ∧ (expand next accept stopAt head st).1.dist.size
          = st.dist.size + (expand next accept stopAt head st).2.length := by
  have hlevel : ∀ e ∈ rest, head.2 ≤ e.2 := (List.pairwise_cons.mp h.sorted).1
  unfold BreadthFirst.expand
  by_cases hstop : st.stopDist ≤ head.2
  · -- the level of the stop: all that is queued lies on it or beyond
    rw [if_pos hstop, List.append_nil]
    refine ⟨⟨h.root_zero, h.sound, ?_, (List.pairwise_cons.mp h.sorted).2, ?_, ?_, ?_,
      ⟨h.stop.within, h.stop.limit, h.stop.reason, h.stop.met⟩⟩, rfl⟩
    · exact fun e he => h.queued e (List.mem_cons_of_mem _ he)
    · intro e he v d hv
      have hmem : e ∈ rest := List.mem_of_mem_head? he
      have hle := h.window head rfl v d hv
      have hhead := hlevel e hmem
      omega
    · intro v d hv
      rcases h.closed v d hv with hq | hc
      · rcases List.mem_cons.mp hq with heq | hq
        · right
          left
          rw [← heq] at hstop
          exact hstop
        · exact Or.inl hq
      · exact Or.inr hc
    · intro _ e he
      have hhead := hlevel e he
      show st.stopDist ≤ e.2
      omega
  · rw [if_neg hstop]
    obtain ⟨new, hnew, hv⟩ := foldl_visit accept stopAt (head.2 + 1) (next head.1) st []
    rw [List.nil_append] at hnew
    have hlabels : ∀ v e, st.dist.get v = some e → e ≤ head.2 + 1 := h.window head rfl
    obtain ⟨hstop', hlabels', hdepth⟩ := StopRight.foldl_visit accept (next head.1)
      (st, []) h.stop hlabels (by
        show head.2 + 1 ≤ st.stopDist
        omega)
    obtain ⟨st', hst'⟩ : ∃ st', st' = ((next head.1).foldl
        (BreadthFirst.visit accept stopAt (head.2 + 1)) (st, [])).1 := ⟨_, rfl⟩
    rw [hnew]
    rw [← hst'] at hv hstop' hlabels' hdepth ⊢
    have hhead : Walks next accept head.2 root head.1 :=
      h.sound _ _ (h.queued head List.mem_cons_self)
    refine ⟨⟨hv.kept _ _ h.root_zero, ?_, ?_, ?_, ?_, ?_, ?_, hstop'⟩, hv.size⟩
    · intro v d hd
      rcases hv.fresh v d hd with hd | ⟨rfl, hmem, hacc, -⟩
      · exact h.sound v d hd
      · exact hhead.snoc ⟨hmem, hacc⟩
    · intro e he
      rcases List.mem_append.mp he with he | he
      · exact hv.kept _ _ (h.queued e (List.mem_cons_of_mem _ he))
      · obtain ⟨hdep, hget⟩ := hv.found_new e he
        rw [hdep]
        exact hget
    · refine List.pairwise_append.mpr ⟨(List.pairwise_cons.mp h.sorted).2, ?_, ?_⟩
      · refine List.Pairwise.imp_of_mem (R := fun _ _ => True) ?_ (List.pairwise_of_forall
          fun _ _ => trivial)
        intro a b ha hb _
        rw [(hv.found_new a ha).1, (hv.found_new b hb).1]
      · intro a ha b hb
        rw [(hv.found_new b hb).1]
        exact hlabels a.1 a.2 (h.queued a (List.mem_cons_of_mem _ ha))
    · intro e he v d hd
      have hle := hlabels' v d hd
      have hmem : e ∈ rest ++ new := List.mem_of_mem_head? he
      have hlow : head.2 ≤ e.2 := by
        rcases List.mem_append.mp hmem with hm | hm
        · exact hlevel e hm
        · rw [(hv.found_new e hm).1]
          omega
      omega
    · intro v d hd
      rcases hv.fresh v d hd with hold | ⟨rfl, -, -, hmem⟩
      · rcases h.closed v d hold with hq | hfar | hpassed
        · rcases List.mem_cons.mp hq with heq | hq
          · -- the vertex just expanded has passed its label on
            right
            right
            intro w hw
            rw [← heq] at hv hlabels'
            obtain ⟨e, he⟩ := hv.all w hw.1 hw.2
            exact ⟨e, hlabels' w e he, he⟩
          · exact Or.inl (List.mem_append_left _ hq)
        · right
          left
          exact hv.stop_le.trans hfar
        · right
          right
          intro w hw
          obtain ⟨e, he, hget⟩ := hpassed w hw
          exact ⟨e, he, hv.kept w e hget⟩
      · exact Or.inl (List.mem_append_right _ hmem)
    · intro hs
      rw [hv.stopped] at hs
      exfalso
      exact hstop (h.halted hs head List.mem_cons_self)

/-! ## §4. What a flood returns. -/

variable [Fintype V]

end Flood

end BreadthFirst
