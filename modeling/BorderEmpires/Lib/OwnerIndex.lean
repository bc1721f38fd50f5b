/-
  BorderEmpires.Lib.OwnerIndex
  **INDEXES BY OWNER, KEPT UP TO DATE WRITE BY WRITE.**

  Entries sit under keys and each belongs to at most one owner.  An index
  lists the keys of every owner; a write to one entry takes its key from
  the old owner's list and puts it on the new owner's.
-/
import BorderEmpires.Lib.InsertionMap

namespace OwnerIndex

universe u v w

variable {O : Type u} {K : Type v} {V : Type w}

variable (index : InsertionMap O (List K))

/-- `mem o k` exactly when the entry under `k` belongs to `o`. -/
def InStep (belongs : V → Option O) (read : K → Option V) (mem : O → K → Prop) : Prop :=
  ∀ o k, mem o k ↔ (read k).bind belongs = some o

/-- Only `key` moves: off the source's list, onto the target's. -/
structure Moves (mem mem' : O → K → Prop) (key : K) (source target : Option O) : Prop where
  others : ∀ o k, k ≠ key → (mem' o k ↔ mem o k)
  left : ∀ o, mem' o key → (mem o key ∧ source ≠ some o) ∨ target = some o
  arrived : ∀ o, target = some o → mem' o key

/-- **An index that moves the written key stays in step.** -/
theorem InStep.of_moves {belongs : V → Option O} {read read' : K → Option V}
    {mem mem' : O → K → Prop} (h : InStep belongs read mem) {key : K} {next : V}
    (hmoves : Moves mem mem' key ((read key).bind belongs) (belongs next))
    (hnext : read' key = some next) (hothers : ∀ k, k ≠ key → read' k = read k) :
    InStep belongs read' mem' := by
  intro o k
  by_cases hk : k = key
  · subst hk
    rw [hnext]
    constructor
    · intro hmem
      rcases hmoves.left o hmem with ⟨hwas, hsource⟩ | htarget
      · exact absurd ((h o k).mp hwas) hsource
      · exact htarget
    · exact hmoves.arrived o
  · rw [hmoves.others o k hk, hothers k hk]
    exact h o k

theorem InStep.of_stays {belongs : V → Option O} {read read' : K → Option V}
    {mem : O → K → Prop} (h : InStep belongs read mem) {key : K} {next : V}
    (hstays : (read key).bind belongs = belongs next)
    (hnext : read' key = some next) (hothers : ∀ k, k ≠ key → read' k = read k) :
    InStep belongs read' mem := by
  intro o k
  rw [h o k]
  by_cases hk : k = key
  · subst hk
    rw [hstays, hnext]
    rfl
  · rw [hothers k hk]

/-! ## Maps of sets. -/

variable [DecidableEq O] [DecidableEq K]

/-- `index.get(o)`, the empty set if there is none. -/
def members (o : O) : List K := (index.get o).getD []

def enter (o : O) (k : K) : InsertionMap O (List K) :=
  index.set o (InsertionSet.add (members index o) k)

/-- `index.get(o)?.delete(k)`. -/
def leave (o : O) (k : K) : InsertionMap O (List K) :=
  match index.get o with
  | none => index
  | some keys => index.set o (keys.filter fun key => decide (key ≠ k))

theorem mem_enter (o o' : O) (k k' : K) :
    k' ∈ members (enter index o k) o' ↔ k' ∈ members index o' ∨ (o' = o ∧ k' = k) := by
  unfold members enter
  rw [InsertionMap.get_set]
  by_cases ho : o = o'
  · subst ho
    simp [InsertionSet.mem_add, members]
  · rw [if_neg ho]
    simp [Ne.symm ho]

theorem mem_leave (o o' : O) (k k' : K) :
    k' ∈ members (leave index o k) o' ↔ k' ∈ members index o' ∧ ¬ (o' = o ∧ k' = k) := by
  unfold members leave
  cases hget : index.get o with
  | none =>
      by_cases ho : o' = o
      · subst ho
        simp [hget]
      · simp [ho]
  | some keys =>
      dsimp only
      rw [InsertionMap.get_set]
      by_cases ho : o = o'
      · subst ho
        simp [hget]
      · rw [if_neg ho]
        simp [Ne.symm ho]

/-- Take the key from the source's set, put it into the target's. -/
def reindex (key : K) (source target : Option O) : InsertionMap O (List K) :=
  let left := match source with
    | none => index
    | some o => leave index o key
  match target with
  | none => left
  | some o => enter left o key

theorem mem_reindex (key : K) (source target : Option O) (o : O) (k : K) :
    k ∈ members (reindex index key source target) o
      ↔ (k ∈ members index o ∧ ¬ (source = some o ∧ k = key)) ∨ (target = some o ∧ k = key) := by
  cases source with
  | none =>
      cases target with
      | none => simp [reindex]
      | some t => simp [reindex, mem_enter, eq_comm]
  | some s =>
      cases target with
      | none => simp [reindex, mem_leave, eq_comm]
      | some t => simp [reindex, mem_enter, mem_leave, eq_comm]

theorem reindex_moves (key : K) (source target : Option O) :
    Moves (fun o k => k ∈ members index o)
      (fun o k => k ∈ members (reindex index key source target) o) key source target where
  others := by
    intro o k hk
    simp [mem_reindex, hk]
  left := by
    intro o
    simp [mem_reindex]
  arrived := by
    intro o ho
    simp [mem_reindex, ho]

end OwnerIndex
