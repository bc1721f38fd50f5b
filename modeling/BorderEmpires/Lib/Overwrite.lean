/-
  BorderEmpires.Lib.Overwrite
  **A READING CHANGED BY A LIST OF WRITES.**

  `Overwritten old new writes` says that the new reading is the old one with
  the writes applied in order: at a written key the last write, elsewhere
  what was there.  A log that reports every change of a store this way can
  be replayed on any copy of it.
-/
import BorderEmpires.Lib.InsertionMap

universe u v

variable {K : Type u} {V : Type v} [DecidableEq K]

namespace AssocEntries

theorem lookup_append (l l' : List (K × V)) (k : K) :
    lookup k (l ++ l') = (lookup k l).or (lookup k l') := by
  induction l with
  | nil => rfl
  | cons e rest ih =>
      rw [List.cons_append, lookup, lookup]
      by_cases he : e.1 = k
      · rw [if_pos he, if_pos he, Option.some_or]
      · rw [if_neg he, if_neg he]
        exact ih

theorem lookup_reverse_isSome_iff (l : List (K × V)) (k : K) :
    (lookup k l.reverse).isSome = true ↔ k ∈ l.map Prod.fst := by
  rw [lookup_isSome_iff, List.map_reverse, List.mem_reverse]

end AssocEntries

/-- The new reading is the old one with the writes applied in order. -/
def Overwritten (old new : K → Option V) (writes : List (K × V)) : Prop :=
  ∀ k, new k = (AssocEntries.lookup k writes.reverse).or (old k)

namespace Overwritten

variable {old new later old' new' : K → Option V} {writes writes' : List (K × V)}

theorem of_eq (h : ∀ k, new k = old k) : Overwritten old new [] := h

theorem trans (h : Overwritten old new writes) (h' : Overwritten new later writes') :
    Overwritten old later (writes ++ writes') := by
  intro k
  rw [h' k, h k, List.reverse_append, AssocEntries.lookup_append, Option.or_assoc]

theorem single {a : K} {x : V} (hat : new a = some x) (helse : ∀ k, a ≠ k → new k = old k) :
    Overwritten old new [(a, x)] := by
  intro k
  show new k = (if a = k then some x else none).or (old k)
  by_cases hk : a = k
  · rw [if_pos hk, Option.some_or, ← hk]
    exact hat
  · rw [if_neg hk, Option.none_or]
    exact helse k hk

theorem setAll (m : InsertionMap K V) (writes : List (K × V)) :
    Overwritten m.get (m.setAll writes).get writes :=
  fun k => InsertionMap.get_setAll writes m k

theorem isSome (h : Overwritten old new writes) {k : K} (hk : (old k).isSome = true) :
    (new k).isSome = true := by
  rw [h k, Option.isSome_or, hk, Bool.or_true]

theorem eq_of_mem (h : Overwritten old new writes) (h' : Overwritten old' new' writes) {k : K}
    (hk : k ∈ writes.map Prod.fst) : new' k = new k := by
  obtain ⟨x, hx⟩ := Option.isSome_iff_exists.mp
    ((AssocEntries.lookup_reverse_isSome_iff writes k).mpr hk)
  rw [h k, h' k, hx, Option.some_or, Option.some_or]

theorem eq_old (h : Overwritten old new writes) {k : K} (hk : k ∉ writes.map Prod.fst) :
    new k = old k := by
  have hnone : AssocEntries.lookup k writes.reverse = none := by
    rw [← Option.not_isSome_iff_eq_none, AssocEntries.lookup_reverse_isSome_iff]
    exact hk
  rw [h k, hnone, Option.none_or]

/-- **Replaying a report on a copy**: the copy agrees afterwards exactly
where something was reported or it agreed before. -/
theorem agree_iff (h : Overwritten old new writes) (h' : Overwritten old' new' writes) (k : K) :
    new' k = new k ↔ k ∈ writes.map Prod.fst ∨ old' k = old k := by
  by_cases hk : k ∈ writes.map Prod.fst
  · exact ⟨fun _ => Or.inl hk, fun _ => h.eq_of_mem h' hk⟩
  · rw [h.eq_old hk, h'.eq_old hk]
    constructor
    · intro heq
      exact Or.inr heq
    · intro hor
      exact hor.resolve_left hk

end Overwritten
