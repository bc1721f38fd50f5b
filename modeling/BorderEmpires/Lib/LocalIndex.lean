/-
  BorderEmpires.Lib.LocalIndex
  **INDEXES OF A PROPERTY THAT LOOKS ONLY NEAR BY.**

  A property of keys is asked for one owner at a time.  It holds only of
  that owner's entries, and reads the entries near the key and no others.
  After a write, an index of the owner's keys is put right by asking again
  near the written key; an owner with nothing near it need not be asked.
-/

universe u v w

namespace LocalIndex

variable {O : Type u} {K : Type v} {V : Type w}

/-- **A local property**: of the owner's own entries, read off what is near. -/
structure IsLocal (near : K → K → Prop) (owner : V → Option O)
    (holds : O → (K → Option V) → K → Bool) : Prop where
  owned : ∀ o read k, holds o read k = true → (read k).bind owner = some o
  looks : ∀ o read read' k, (∀ k', near k k' → read' k' = read k') →
    holds o read' k = holds o read k

/-- The owner's index lists exactly the keys that have the property. -/
def InSync (holds : O → (K → Option V) → K → Bool) (o : O) (read : K → Option V)
    (listed : K → Prop) : Prop :=
  ∀ k, listed k ↔ holds o read k = true

variable {near : K → K → Prop} {owner : V → Option O} {holds : O → (K → Option V) → K → Bool}
  {o : O} {read read' : K → Option V} {listed listed' : K → Prop} {x : K}

theorem IsLocal.far (h : IsLocal near owner holds) (hsymm : ∀ a b, near a b → near b a)
    (hothers : ∀ k, k ≠ x → read' k = read k) {k : K} (hfar : ¬ near x k) :
    holds o read' k = holds o read k := by
  apply h.looks
  intro k' hk'
  apply hothers
  intro heq
  rw [heq] at hk'
  exact hfar (hsymm k x hk')

/-- **Asked again near the write**, the index is in step. -/
theorem InSync.asked (h : IsLocal near owner holds) (hsymm : ∀ a b, near a b → near b a)
    (hsync : InSync holds o read listed) (hothers : ∀ k, k ≠ x → read' k = read k)
    (hnear : ∀ k, near x k → (listed' k ↔ holds o read' k = true))
    (hfar : ∀ k, ¬ near x k → (listed' k ↔ listed k)) : InSync holds o read' listed' := by
  intro k
  by_cases hk : near x k
  · exact hnear k hk
  · rw [hfar k hk, h.far hsymm hothers hk]
    exact hsync k

/-- **An owner with nothing near the write**, before or after it, is passed
over. -/
theorem InSync.passed (h : IsLocal near owner holds) (hsymm : ∀ a b, near a b → near b a)
    (hsync : InSync holds o read listed) (hothers : ∀ k, k ≠ x → read' k = read k)
    (hbefore : (read x).bind owner ≠ some o)
    (hafter : ∀ k, near x k → (read' k).bind owner ≠ some o) : InSync holds o read' listed := by
  intro k
  by_cases hk : near x k
  · -- nothing of the owner's was or is here, so nothing is or was listed
    have hnow : holds o read' k ≠ true := fun hholds => hafter k hk (h.owned o read' k hholds)
    have hold : holds o read k ≠ true := by
      intro hholds
      have howned := h.owned o read k hholds
      by_cases hx : k = x
      · rw [hx] at howned
        exact hbefore howned
      · rw [← hothers k hx] at howned
        exact hafter k hk howned
    rw [hsync k]
    exact ⟨fun hh => absurd hh hold, fun hh => absurd hh hnow⟩
  · rw [h.far hsymm hothers hk]
    exact hsync k

end LocalIndex
