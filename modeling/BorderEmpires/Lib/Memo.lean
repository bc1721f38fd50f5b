/-
  BorderEmpires.Lib.Memo
  **TABLES OF VALUES ALREADY COMPUTED.**

  A memo holds values of a function at some keys.  Filling it computes the
  missing ones, and a memo that is true of the function stays true.
-/
import BorderEmpires.Lib.InsertionMap

universe u v

namespace Memo

variable {K : Type u} {V : Type v} [DecidableEq K]

def TrueOf (memo : InsertionMap K V) (f : K → V) : Prop := ∀ k x, memo.get k = some x → x = f k

def fillOne (f : K → V) (memo : InsertionMap K V) (k : K) : InsertionMap K V :=
  if memo.has k then memo else memo.set k (f k)

def fill (f : K → V) (memo : InsertionMap K V) (keys : List K) : InsertionMap K V :=
  keys.foldl (fillOne f) memo

theorem trueOf_empty (f : K → V) : TrueOf .empty f := by
  intro k x h
  rw [InsertionMap.get_empty] at h
  cases h

theorem TrueOf.fillOne {f : K → V} {memo : InsertionMap K V} (h : TrueOf memo f) (k : K) :
    TrueOf (Memo.fillOne f memo k) f := by
  unfold Memo.fillOne
  split
  · exact h
  intro k' x hget
  rw [InsertionMap.get_set] at hget
  split at hget
  next hk => rw [← hk, Option.some.inj hget]
  · exact h k' x hget

/-- **A filled memo** is true of the function. -/
theorem TrueOf.fill {f : K → V} (keys : List K) :
    ∀ {memo : InsertionMap K V}, TrueOf memo f → TrueOf (Memo.fill f memo keys) f := by
  induction keys with
  | nil =>
      intro memo h
      exact h
  | cons key rest ih =>
      intro memo h
      exact ih (h.fillOne key)

end Memo
