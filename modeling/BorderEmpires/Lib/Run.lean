/-
  BorderEmpires.Lib.Run
  **LABELLED RUNS OF A TRANSITION RELATION.**

  `Run step s ls t`: the labels `ls` take `s` to `t`, one step each.
  `Run.invariant` is the one induction every safety result uses: what one
  step preserves, a run preserves.

  A deterministic system is a step function.  `Run.Along` says that every
  state on the way has a property, `Run.StepsMeet` that every step meets a
  condition on the state before it and the label; `along_of_stepsMeet`
  and `along_iff_stepsMeet` trade one for the other, `along_iff_stepsMeet_of`
  for runs under an assumption on their steps.
-/

universe u v w

inductive Run {S : Type u} {L : Type v} (step : S → L → S → Prop) : S → List L → S → Prop
  | nil (s : S) : Run step s [] s
  | cons {s s' t : S} {l : L} {ls : List L} :
      step s l s' → Run step s' ls t → Run step s (l :: ls) t

namespace Run

variable {S : Type u} {L : Type v} {step : S → L → S → Prop}

/-- **Run lemma**: what every step preserves, every run preserves. -/
theorem invariant {I : S → Prop} (hstep : ∀ s l t, I s → step s l t → I t)
    {s t : S} {ls : List L} (hrun : Run step s ls t) (hs : I s) : I t := by
  induction hrun with
  | nil => exact hs
  | cons h _ ih => exact ih (hstep _ _ _ hs h)

/-- What every step makes of a part of the state by its label alone, a run
makes of it by its labels. -/
theorem part_foldl {A : Type w} {part : S → A} {next : A → L → A}
    (hstep : ∀ s l t, step s l t → part t = next (part s) l) {s t : S} {ls : List L}
    (hrun : Run step s ls t) : part t = ls.foldl next (part s) := by
  induction hrun with
  | nil => rfl
  | cons h _ ih => rw [ih, hstep _ _ _ h, List.foldl_cons]

/-! ## Runs of a step function. -/

/-- Every state on the way has the property, first and last included. -/
def Along (step : S → L → S) (P : S → Prop) : S → List L → Prop
  | s, [] => P s
  | s, l :: ls => P s ∧ Along step P (step s l) ls

def StepsMeet (step : S → L → S) (C : S → L → Prop) : S → List L → Prop
  | _, [] => True
  | s, l :: ls => C s l ∧ StepsMeet step C (step s l) ls

variable {step : S → L → S} {P I : S → Prop} {C D : S → L → Prop}

theorem Along.here {s : S} {ls : List L} (h : Along step P s ls) : P s := by
  cases ls with
  | nil => exact h
  | cons l ls => exact h.1

/-- **Steps that meet the condition keep the invariant all the way.** -/
theorem along_of_stepsMeet (hstep : ∀ s l, I s → C s l → I (step s l)) (ls : List L) :
    ∀ s, I s → StepsMeet step C s ls → Along step I s ls := by
  induction ls with
  | nil =>
      intro s hs _
      exact hs
  | cons l ls ih =>
      intro s hs hmeet
      exact ⟨hs, ih (step s l) (hstep s l hs hmeet.1) hmeet.2⟩

theorem along_of_step (hstep : ∀ s l, I s → I (step s l)) (ls : List L) :
    ∀ s, I s → Along step I s ls := by
  induction ls with
  | nil =>
      intro s hs
      exact hs
  | cons l ls ih =>
      intro s hs
      exact ⟨hs, ih (step s l) (hstep s l hs)⟩

theorem Along.mono (himp : ∀ s, I s → P s) (ls : List L) :
    ∀ s, Along step I s ls → Along step P s ls := by
  induction ls with
  | nil =>
      intro s h
      exact himp s h
  | cons l ls ih =>
      intro s h
      exact ⟨himp s h.1, ih (step s l) h.2⟩

/-- **What the last state tells of the others**: a property that a step cannot
bring back held all the way, if it holds at the end. -/
theorem along_of_last (hback : ∀ s l, P (step s l) → P s) (ls : List L) :
    ∀ s, P (ls.foldl step s) → Along step P s ls := by
  induction ls with
  | nil => exact fun s h => h
  | cons l ls ih =>
      intro s h
      have hrest := ih (step s l) h
      exact ⟨hback s l hrest.here, hrest⟩

/-- **A log**: a list to which every step appends what its label tells is, at
the end of a run, what all its labels tell. -/
theorem log_foldl {A : Type w} {log : S → List A} {told : L → List A}
    (hstep : ∀ s l, log (step s l) = log s ++ told l) (ls : List L) :
    ∀ s, log (ls.foldl step s) = log s ++ ls.flatMap told := by
  induction ls with
  | nil =>
      intro s
      exact (List.append_nil _).symm
  | cons l ls ih =>
      intro s
      rw [List.foldl_cons, ih, hstep, List.append_assoc]
      rfl

theorem StepsMeet.of_along (himp : ∀ s l, I s → C s l → D s l) (ls : List L) :
    ∀ s, Along step I s ls → StepsMeet step C s ls → StepsMeet step D s ls := by
  induction ls with
  | nil =>
      intro s _ _
      exact trivial
  | cons l ls ih =>
      intro s hinv hmeet
      exact ⟨himp s l hinv.1 hmeet.1, ih (step s l) hinv.2 hmeet.2⟩

/-- **The exact condition of a run**: when the condition decides whether a
step keeps the property, a run keeps it everywhere exactly when all its
steps meet the condition. -/
theorem along_iff_stepsMeet (hinv : ∀ s l, I s → P s → C s l → I (step s l))
    (hstep : ∀ s l, I s → P s → (P (step s l) ↔ C s l)) (ls : List L) :
    ∀ s, I s → P s → (Along step P s ls ↔ StepsMeet step C s ls) := by
  induction ls with
  | nil =>
      intro s _ hs
      exact ⟨fun _ => trivial, fun _ => hs⟩
  | cons l ls ih =>
      intro s his hs
      constructor
      · intro h
        have hnext : P (step s l) := Along.here h.2
        have hmeet : C s l := (hstep s l his hs).mp hnext
        exact ⟨hmeet, (ih _ (hinv s l his hs hmeet) hnext).mp h.2⟩
      · intro h
        have hnext : P (step s l) := (hstep s l his hs).mpr h.1
        exact ⟨hs, (ih _ (hinv s l his hs h.1) hnext).mpr h.2⟩

/-- **The exact condition under an assumption**: the same, for runs whose
steps all meet `H`. -/
theorem along_iff_stepsMeet_of {H : S → L → Prop} (hinv : ∀ s l, I s → H s l → I (step s l))
    (hstep : ∀ s l, I s → P s → H s l → (P (step s l) ↔ C s l)) (ls : List L) :
    ∀ s, I s → P s → StepsMeet step H s ls → (Along step P s ls ↔ StepsMeet step C s ls) := by
  induction ls with
  | nil =>
      intro s _ hs _
      exact ⟨fun _ => trivial, fun _ => hs⟩
  | cons l ls ih =>
      intro s his hs hmeets
      constructor
      · intro h
        have hnext : P (step s l) := Along.here h.2
        exact ⟨(hstep s l his hs hmeets.1).mp hnext,
          (ih _ (hinv s l his hmeets.1) hnext hmeets.2).mp h.2⟩
      · intro h
        have hnext : P (step s l) := (hstep s l his hs hmeets.1).mpr h.1
        exact ⟨hs, (ih _ (hinv s l his hmeets.1) hnext hmeets.2).mpr h.2⟩

/-- **Steps that do right**: when the condition decides whether a step does
what it should, and steps that meet it keep the invariant, all steps of a
run do what they should exactly when all meet the condition. -/
theorem stepsMeet_iff_stepsMeet (hinv : ∀ s l, I s → D s l → I (step s l))
    (hstep : ∀ s l, I s → (C s l ↔ D s l)) (ls : List L) :
    ∀ s, I s → (StepsMeet step C s ls ↔ StepsMeet step D s ls) := by
  induction ls with
  | nil =>
      intro s _
      exact Iff.rfl
  | cons l ls ih =>
      intro s his
      constructor
      · intro h
        have hmeet : D s l := (hstep s l his).mp h.1
        exact ⟨hmeet, (ih _ (hinv s l his hmeet)).mp h.2⟩
      · intro h
        exact ⟨(hstep s l his).mpr h.1, (ih _ (hinv s l his h.1)).mpr h.2⟩

end Run
