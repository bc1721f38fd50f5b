/-
  BorderEmpires.Lib.Selection
  **CHOOSING ONE HOLDER AMONG THOSE WHO COVER A PLACE.**

  `covers k o` says that `o` has a claim on the place `k`; a selection
  `sel` picks at most one holder for every place.  It is right when every
  holder picked covers the place (`sound`) and no covered place is left
  without a holder (`total`).  Adding a claim and withdrawing one keep it
  right under local conditions, whatever rule resolves the contests.
-/

universe u v

/-- **A selection fits a coverage**: holders cover, covered places are held. -/
structure Selects {K : Type u} {O : Type v} (covers : K → O → Prop) (sel : K → Option O) :
    Prop where
  sound : ∀ k o, sel k = some o → covers k o
  total : ∀ k o, covers k o → ∃ o', sel k = some o'

namespace Selects

variable {K : Type u} {O : Type v} {covers covers' : K → O → Prop} {sel sel' : K → Option O}

theorem held_iff (h : Selects covers sel) (k : K) :
    (∃ o, sel k = some o) ↔ ∃ o, covers k o := by
  constructor
  · rintro ⟨o, ho⟩
    exact ⟨o, h.sound k o ho⟩
  · rintro ⟨o, ho⟩
    exact h.total k o ho

/-- **More coverage**: every place where coverage grew is held by the
newcomer or by its former holder. -/
theorem grow (h : Selects covers sel) (hmono : ∀ k o, covers k o → covers' k o)
    (hchange : ∀ k o, sel' k = some o → sel k = some o ∨ covers' k o)
    (hheld : ∀ k o, covers' k o → sel' k = sel k → covers k o ∨ ∃ o', sel k = some o')
    (hkeep : ∀ k, sel' k = sel k ∨ ∃ o, sel' k = some o) : Selects covers' sel' where
  sound := by
    intro k o ho
    rcases hchange k o ho with hs | hc
    · exact hmono k o (h.sound k o hs)
    · exact hc
  total := by
    intro k o hc
    rcases hkeep k with heq | hsome
    · rw [heq]
      rcases hheld k o hc heq with hold | hold
      · exact h.total k o hold
      · exact hold
    · exact hsome

/-- **Less coverage**: a place keeps its holder only while the holder
still covers it, and is handed to a remaining one when there is any. -/
theorem shrink (h : Selects covers sel) (hmono : ∀ k o, covers' k o → covers k o)
    (hkeep : ∀ k o, sel k = some o → covers' k o → sel' k = some o)
    (hhand : ∀ k o, sel k = some o → ¬ covers' k o →
      (∀ o', sel' k = some o' → covers' k o') ∧ ((∃ o', covers' k o') → ∃ o', sel' k = some o'))
    (hnone : ∀ k, sel k = none → sel' k = none) : Selects covers' sel' where
  sound := by
    intro k o ho
    cases hs : sel k with
    | none => rw [hnone k hs] at ho; cases ho
    | some p =>
        by_cases hp : covers' k p
        · rw [hkeep k p hs hp] at ho
          cases ho
          exact hp
        · exact (hhand k p hs hp).1 o ho
  total := by
    intro k o hc
    obtain ⟨p, hs⟩ := h.total k o (hmono k o hc)
    by_cases hp : covers' k p
    · exact ⟨p, hkeep k p hs hp⟩
    · exact (hhand k p hs hp).2 ⟨o, hc⟩

end Selects
