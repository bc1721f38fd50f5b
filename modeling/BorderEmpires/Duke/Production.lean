/-
  BorderEmpires.Duke.Production
  **PRODUCTION, HOWEVER OFTEN THE TICK RUNS.**

  A system's Production goes to its slot, and to its idle bank up to
  `cycleBankCap`.  Advancing is additive, so how a time is split does not
  matter.  It keeps the bank as long as the bank is within the cap; a
  derelict's reward is added past it, and the next advance takes the
  excess away.
-/
import Mathlib.Algebra.Order.BigOperators.Group.List
import Mathlib.Algebra.Order.Archimedean.Basic
import Mathlib.Data.Rat.Floor
import BorderEmpires.Duke.Conservation
import BorderEmpires.Duke.Derelicts

namespace BorderEmpires.Duke

/-! ## §1. The rate. -/

theorem productionPerCycle_nonneg (kind : DevelopmentKind) : 0 ≤ kind.productionPerCycle := by
  cases kind <;> decide +kernel

theorem dailyProductionRate_pos (specialization : GalaxySpecialization) :
    0 < dailyProductionRate specialization := by
  cases specialization <;> decide +kernel

theorem developments_nonneg (developments : List SystemDevelopment) :
    0 ≤ (developments.map fun d => d.kind.productionPerCycle / (CYCLE_DAYS : ℚ)).sum := by
  refine List.sum_nonneg (fun q hq => ?_)
  obtain ⟨d, _, rfl⟩ := List.mem_map.mp hq
  exact div_nonneg (productionPerCycle_nonneg d.kind) (Nat.cast_nonneg _)

variable (elapsed : Nat) (bodies : String → List GalaxyBodyKind) (system : SystemState)
  {state : DukeState}

theorem systemDailyRate_pos : 0 < systemDailyRate system :=
  add_pos_of_pos_of_nonneg (dailyProductionRate_pos _) (developments_nonneg _)

def ratePerMs (system : SystemState) : ℚ := systemDailyRate system / MS_PER_DAY

theorem ratePerMs_pos : 0 < ratePerMs system :=
  div_pos (systemDailyRate_pos system) (by decide +kernel)

def bankCap (system : SystemState) : ℚ := cycleBankCap (systemDailyRate system)

theorem bankCap_nonneg : 0 ≤ bankCap system := by
  have hrate := (systemDailyRate_pos system).le
  have hdays : (0 : ℚ) ≤ (CYCLE_DAYS : ℚ) := Nat.cast_nonneg _
  have hcycles : (0 : ℚ) ≤ IDLE_BANK_CYCLES := by decide +kernel
  exact mul_nonneg (mul_nonneg hrate hdays) hcycles

/-! ## §2. One system. -/

theorem advanceSystem_zero : advanceSystem system 0 = (system, none) := by
  unfold advanceSystem
  rw [if_pos (Or.inr rfl)]

theorem advanceSystem_idle {system : SystemState} (hslot : system.slot = none) {elapsed : Nat}
    (helapsed : elapsed ≠ 0) :
    advanceSystem system elapsed
      = ({ system with
            idleBank := min (bankCap system) (system.idleBank + elapsed * ratePerMs system) },
          none) := by
  unfold advanceSystem
  rw [if_neg (not_or.mpr ⟨not_le.mpr (systemDailyRate_pos system), helapsed⟩), hslot]
  rfl

def msNeeded (system : SystemState) (slot : DukeBuild) : ℚ :=
  (slot.cost - slot.progress) / ratePerMs system

theorem advanceSystem_done {system : SystemState} {slot : DukeBuild}
    (hslot : system.slot = some slot) {elapsed : Nat} (helapsed : elapsed ≠ 0)
    (hdone : msNeeded system slot ≤ elapsed) :
    advanceSystem system elapsed
      = ({ system with
            slot := none
            idleBank := min (bankCap system)
              (system.idleBank + (elapsed - msNeeded system slot) * ratePerMs system) },
          some { slot with progress := slot.cost }) := by
  unfold advanceSystem
  rw [if_neg (not_or.mpr ⟨not_le.mpr (systemDailyRate_pos system), helapsed⟩), hslot]
  exact if_pos hdone

theorem advanceSystem_busy {system : SystemState} {slot : DukeBuild}
    (hslot : system.slot = some slot) {elapsed : Nat} (helapsed : elapsed ≠ 0)
    (hbusy : ¬ msNeeded system slot ≤ elapsed) :
    advanceSystem system elapsed
      = ({ system with
            slot := some
              { slot with progress := slot.progress + elapsed * ratePerMs system } }, none) := by
  unfold advanceSystem
  rw [if_neg (not_or.mpr ⟨not_le.mpr (systemDailyRate_pos system), helapsed⟩), hslot]
  exact if_neg hbusy

/-- A system after an advance, with the effect of the build it completes. -/
def advanced (elapsed : Nat) (system : SystemState) : SystemState :=
  match (advanceSystem system elapsed).2 with
  | none => (advanceSystem system elapsed).1
  | some build => completedSystem (advanceSystem system elapsed).1 build

def KeepsRate (system : SystemState) : Prop :=
  ∀ slot, system.slot = some slot → ∀ i development, slot.kind ≠ .DEVELOP i development

theorem completedSystem_production (build : DukeBuild) :
    (completedSystem system build).slot = system.slot
      ∧ (completedSystem system build).idleBank = system.idleBank
      ∧ ((∀ i development, build.kind ≠ .DEVELOP i development) →
          systemDailyRate (completedSystem system build) = systemDailyRate system)
      ∧ systemDailyRate system ≤ systemDailyRate (completedSystem system build) := by
  unfold completedSystem
  cases hkind : build.kind with
  | FIGHTER => exact ⟨rfl, rfl, fun _ => rfl, le_rfl⟩
  | PROBE => exact ⟨rfl, rfl, fun _ => rfl, le_rfl⟩
  | REFIT =>
      dsimp only
      cases weakestFighter system.fighters with
      | none => exact ⟨rfl, rfl, fun _ => rfl, le_rfl⟩
      | some weakest => exact ⟨rfl, rfl, fun _ => rfl, le_rfl⟩
  | FORTIFY points => exact ⟨rfl, rfl, fun _ => rfl, le_rfl⟩
  | DEVELOP i development =>
      refine ⟨rfl, rfl, fun h => absurd rfl (h i development), ?_⟩
      unfold systemDailyRate
      rw [List.map_append, List.sum_append, ← add_assoc]
      exact le_add_of_nonneg_right (developments_nonneg _)

theorem advanceSystem_rate (elapsed : Nat) :
    systemDailyRate (advanceSystem system elapsed).1 = systemDailyRate system := by
  by_cases helapsed : elapsed = 0
  · rw [helapsed, advanceSystem_zero]
  · cases hslot : system.slot with
    | none =>
        rw [advanceSystem_idle hslot helapsed]
        rfl
    | some slot =>
        by_cases hdone : msNeeded system slot ≤ elapsed
        · rw [advanceSystem_done hslot helapsed hdone]
          rfl
        · rw [advanceSystem_busy hslot helapsed hdone]
          rfl

theorem min_fill (cap bank x y : ℚ) (hy : 0 ≤ y) :
    min cap (min cap (bank + x) + y) = min cap (bank + (x + y)) := by
  rcases le_total cap (bank + x) with h | h
  · rw [min_eq_left h, min_eq_left (by linarith), min_eq_left (by linarith)]
  · rw [min_eq_right h, add_assoc]

/-- **Two advances are one**: with the build that the first completes in
effect, they leave the slot and the bank of one advance over both times,
and complete the same build. -/
theorem advanceSystem_add {system : SystemState} (hrate : KeepsRate system) (a b : Nat) :
    (advanceSystem (advanced a system) b).1.slot = (advanceSystem system (a + b)).1.slot
      ∧ (advanceSystem (advanced a system) b).1.idleBank = (advanceSystem system (a + b)).1.idleBank
      ∧ (advanceSystem system a).2.or (advanceSystem (advanced a system) b).2
        = (advanceSystem system (a + b)).2 := by
  by_cases ha : a = 0
  · have hsame : advanced 0 system = system := by
      unfold advanced
      rw [advanceSystem_zero]
    rw [ha, hsame, advanceSystem_zero, zero_add]
    exact ⟨rfl, rfl, rfl⟩
  have hab : a + b ≠ 0 := by omega
  have hbms : 0 ≤ (b : ℚ) * ratePerMs system :=
    mul_nonneg (Nat.cast_nonneg b) (ratePerMs_pos system).le
  cases hslot : system.slot with
  | none =>
      -- all of the time goes to the bank
      unfold advanced
      rw [advanceSystem_idle hslot ha, advanceSystem_idle hslot hab]
      dsimp only
      by_cases hb : b = 0
      · rw [hb, advanceSystem_zero, add_zero]
        exact ⟨rfl, rfl, rfl⟩
      · rw [advanceSystem_idle (by exact hslot) hb]
        refine ⟨rfl, ?_, rfl⟩
        show min (bankCap system) (min (bankCap system)
            (system.idleBank + a * ratePerMs system) + b * ratePerMs system) = _
        rw [min_fill _ _ _ _ hbms, Nat.cast_add, add_mul]
  | some slot =>
      by_cases hdone : msNeeded system slot ≤ a
      · -- the first advance completes the build, the second fills the bank
        have hdone' : msNeeded system slot ≤ ((a + b : Nat) : ℚ) :=
          hdone.trans (by exact_mod_cast Nat.le_add_right a b)
        unfold advanced
        rw [advanceSystem_done hslot ha hdone, advanceSystem_done hslot hab hdone']
        dsimp only
        obtain ⟨hcslot, hcbank, hcrate, _⟩ := completedSystem_production
          { system with
            slot := none
            idleBank := min (bankCap system)
              (system.idleBank + (a - msNeeded system slot) * ratePerMs system) }
          { slot with progress := slot.cost }
        have hsame := hcrate (hrate slot hslot)
        generalize completedSystem _ _ = next at hcslot hcbank hsame ⊢
        by_cases hb : b = 0
        · rw [hb, advanceSystem_zero, add_zero]
          exact ⟨hcslot, hcbank, rfl⟩
        · have hms : ratePerMs next = ratePerMs system := by
            unfold ratePerMs
            rw [hsame]
            rfl
          have hcap : bankCap next = bankCap system := by
            unfold bankCap
            rw [hsame]
            rfl
          rw [advanceSystem_idle hcslot hb]
          refine ⟨hcslot, ?_, rfl⟩
          show min (bankCap next) (next.idleBank + b * ratePerMs next) = _
          rw [hcbank, hms, hcap]
          dsimp only
          rw [min_fill _ _ _ _ hbms, Nat.cast_add]
          ring_nf
      · have hms := (ratePerMs_pos system).ne'
        unfold advanced
        rw [advanceSystem_busy hslot ha hdone]
        dsimp only
        generalize hmid : ({ system with
          slot := some { slot with progress := slot.progress + a * ratePerMs system } } :
            SystemState) = mid
        have hmidSlot : mid.slot
            = some { slot with progress := slot.progress + a * ratePerMs system } := by
          rw [← hmid]
        have hmidMs : ratePerMs mid = ratePerMs system := by
          rw [← hmid]
          rfl
        -- the second advance needs what the first left
        have hneeded : msNeeded mid
            { slot with progress := slot.progress + a * ratePerMs system }
              = msNeeded system slot - a := by
          unfold msNeeded
          rw [hmidMs]
          field_simp
          ring
        by_cases hb : b = 0
        · rw [hb, advanceSystem_zero, add_zero, advanceSystem_busy hslot ha hdone, hmid]
          exact ⟨rfl, rfl, rfl⟩
        by_cases hdone' : msNeeded system slot ≤ ((a + b : Nat) : ℚ)
        · have hsecond : msNeeded mid
              { slot with progress := slot.progress + a * ratePerMs system } ≤ b := by
            rw [hneeded, sub_le_iff_le_add]
            exact hdone'.trans_eq (by push_cast; ring)
          rw [advanceSystem_done hmidSlot hb hsecond, advanceSystem_done hslot hab hdone', hneeded,
            ← hmid]
          refine ⟨rfl, ?_, rfl⟩
          show min (bankCap system) (system.idleBank
            + (b - (msNeeded system slot - a)) * ratePerMs system) = _
          rw [Nat.cast_add]
          ring_nf
        · have hsecond : ¬ msNeeded mid
              { slot with progress := slot.progress + a * ratePerMs system } ≤ b := by
            rw [hneeded, sub_le_iff_le_add]
            intro h
            exact hdone' (h.trans_eq (by push_cast; ring))
          rw [advanceSystem_busy hmidSlot hb hsecond, advanceSystem_busy hslot hab hdone', ← hmid]
          refine ⟨?_, rfl, rfl⟩
          show some ({ slot with progress
            := slot.progress + a * ratePerMs system + b * ratePerMs system } : DukeBuild) = _
          rw [Nat.cast_add, add_mul, add_assoc]

def Capped (system : SystemState) : Prop := system.idleBank ≤ bankCap system

/-- **Advancing never lowers the bank** exactly when it is within its cap. -/
theorem advance_keeps_bank_iff :
    (∀ elapsed, system.idleBank ≤ (advanceSystem system elapsed).1.idleBank) ↔ Capped system := by
  constructor
  · intro h
    cases hslot : system.slot with
    | none =>
        have hone := h 1
        rw [advanceSystem_idle hslot Nat.one_ne_zero] at hone
        exact hone.trans (min_le_left _ _)
    | some slot =>
        -- a time that surely completes the build
        obtain ⟨n, hn⟩ := exists_nat_ge (msNeeded system slot)
        have hdone : msNeeded system slot ≤ ((n + 1 : Nat) : ℚ) :=
          hn.trans (by exact_mod_cast Nat.le_succ n)
        have hlong := h (n + 1)
        rw [advanceSystem_done hslot (Nat.succ_ne_zero n) hdone] at hlong
        exact hlong.trans (min_le_left _ _)
  · intro h elapsed
    by_cases helapsed : elapsed = 0
    · rw [helapsed, advanceSystem_zero]
    · have hms := (ratePerMs_pos system).le
      cases hslot : system.slot with
      | none =>
          rw [advanceSystem_idle hslot helapsed]
          exact le_min h (le_add_of_nonneg_right (mul_nonneg (Nat.cast_nonneg _) hms))
      | some slot =>
          by_cases hdone : msNeeded system slot ≤ elapsed
          · rw [advanceSystem_done hslot helapsed hdone]
            exact le_min h (le_add_of_nonneg_right (mul_nonneg (sub_nonneg.mpr hdone) hms))
          · rw [advanceSystem_busy hslot helapsed hdone]

theorem advanced_seasonId : (advanced elapsed system).seasonId = system.seasonId := by
  unfold advanced
  split
  · exact (advanceSystem_spec system elapsed).1
  · exact ((completedSystem_spec _ _).1).trans (advanceSystem_spec system elapsed).1

theorem advanced_idleBank :
    (advanced elapsed system).idleBank = (advanceSystem system elapsed).1.idleBank := by
  unfold advanced
  split
  · rfl
  · exact (completedSystem_production _ _).2.1

theorem Capped.advanced {system : SystemState} (h : Capped system) (elapsed : Nat) :
    Capped (advanced elapsed system) ∧ system.idleBank ≤ (advanced elapsed system).idleBank := by
  have hrate : systemDailyRate system ≤ systemDailyRate (Duke.advanced elapsed system) := by
    unfold Duke.advanced
    split
    · exact (advanceSystem_rate system elapsed).ge
    · exact (advanceSystem_rate system elapsed).ge.trans (completedSystem_production _ _).2.2.2
  have hcap : bankCap system ≤ bankCap (Duke.advanced elapsed system) := by
    have hdays : (0 : ℚ) ≤ (CYCLE_DAYS : ℚ) := Nat.cast_nonneg _
    have hcycles : (0 : ℚ) ≤ IDLE_BANK_CYCLES := by decide +kernel
    exact mul_le_mul_of_nonneg_right (mul_le_mul_of_nonneg_right hrate hdays) hcycles
  unfold Capped
  rw [advanced_idleBank]
  refine ⟨le_trans ?_ hcap, (advance_keeps_bank_iff system).mpr h elapsed⟩
  by_cases helapsed : elapsed = 0
  · rw [helapsed, advanceSystem_zero]
    exact h
  · cases hslot : system.slot with
    | none =>
        rw [advanceSystem_idle hslot helapsed]
        exact min_le_left _ _
    | some slot =>
        by_cases hdone : msNeeded system slot ≤ elapsed
        · rw [advanceSystem_done hslot helapsed hdone]
          exact min_le_left _ _
        · rw [advanceSystem_busy hslot helapsed hdone]
          exact h

/-! ## §3. System by system. -/

/-- The new list is the old one with each system changed as `R` says. -/
def Maps (R : SystemState → SystemState → Prop) (old new : List SystemState) : Prop :=
  ∃ f, new = old.map f ∧ ∀ s ∈ old, R s (f s)

/-- The bank and the rate are as they were. -/
structure Untouched (s s' : SystemState) : Prop where
  seasonId : s'.seasonId = s.seasonId
  idleBank : s'.idleBank = s.idleBank
  rate : systemDailyRate s' = systemDailyRate s

/-- The bank may have grown. -/
structure Raised (s s' : SystemState) : Prop where
  seasonId : s'.seasonId = s.seasonId
  idleBank : s.idleBank ≤ s'.idleBank
  rate : systemDailyRate s' = systemDailyRate s

theorem Untouched.refl (s : SystemState) : Untouched s s := ⟨rfl, rfl, rfl⟩

theorem Untouched.trans (a b c : SystemState) (h : Untouched a b) (h' : Untouched b c) :
    Untouched a c :=
  ⟨h'.seasonId.trans h.seasonId, h'.idleBank.trans h.idleBank, h'.rate.trans h.rate⟩

theorem Untouched.raised {a b : SystemState} (h : Untouched a b) : Raised a b :=
  ⟨h.seasonId, h.idleBank.ge, h.rate⟩

theorem Raised.trans (a b c : SystemState) (h : Raised a b) (h' : Raised b c) : Raised a c :=
  ⟨h'.seasonId.trans h.seasonId, h.idleBank.trans h'.idleBank, h'.rate.trans h.rate⟩

section Maps

variable {R R' : SystemState → SystemState → Prop} {old mid new : List SystemState}

theorem Maps.refl (hrefl : ∀ s, R s s) (l : List SystemState) : Maps R l l :=
  ⟨id, (List.map_id l).symm, fun s _ => hrefl s⟩

theorem Maps.trans (htrans : ∀ a b c, R a b → R b c → R a c) (h : Maps R old mid)
    (h' : Maps R mid new) : Maps R old new := by
  obtain ⟨f, rfl, hf⟩ := h
  obtain ⟨g, rfl, hg⟩ := h'
  exact ⟨g ∘ f, List.map_map, fun s hs =>
    htrans s (f s) (g (f s)) (hf s hs) (hg (f s) (List.mem_map_of_mem hs))⟩

theorem Maps.mono (himp : ∀ {a b}, R a b → R' a b) (h : Maps R old new) : Maps R' old new := by
  obtain ⟨f, hnew, hf⟩ := h
  exact ⟨f, hnew, fun s hs => himp (hf s hs)⟩

theorem Maps.ids (hid : ∀ {a b}, R a b → b.seasonId = a.seasonId) (h : Maps R old new) :
    new.map SystemState.seasonId = old.map SystemState.seasonId := by
  obtain ⟨f, rfl, hf⟩ := h
  rw [List.map_map]
  exact List.map_congr_left (fun s hs => hid (hf s hs))

theorem Maps.nodup (hid : ∀ {a b}, R a b → b.seasonId = a.seasonId) (h : Maps R old new)
    (hnodup : (old.map SystemState.seasonId).Nodup) :
    (new.map SystemState.seasonId).Nodup := by
  rw [h.ids hid]
  exact hnodup

theorem Maps.forward (h : Maps R old new) {s : SystemState} (hs : s ∈ old) :
    ∃ s' ∈ new, R s s' := by
  obtain ⟨f, rfl, hf⟩ := h
  exact ⟨f s, List.mem_map_of_mem hs, hf s hs⟩

theorem Maps.backward (h : Maps R old new) {s' : SystemState} (hs : s' ∈ new) :
    ∃ s ∈ old, R s s' := by
  obtain ⟨f, rfl, hf⟩ := h
  obtain ⟨s, hmem, rfl⟩ := List.mem_map.mp hs
  exact ⟨s, hmem, hf s hmem⟩

end Maps

def put (next : SystemState) (l : List SystemState) : List SystemState :=
  l.map fun s => if s.seasonId = next.seasonId then next else s

theorem put_maps {R : SystemState → SystemState → Prop} (hrefl : ∀ s, R s s)
    {l : List SystemState} (hnodup : (l.map SystemState.seasonId).Nodup)
    {home next : SystemState} (hmem : home ∈ l) (hid : next.seasonId = home.seasonId)
    (hR : R home next) : Maps R l (put next l) := by
  refine ⟨_, rfl, fun s hs => ?_⟩
  split
  next heq =>
    rw [List.inj_on_of_nodup_map hnodup hs hmem (heq.trans hid)]
    exact hR
  next => exact hrefl s

theorem put_middle {before after : List SystemState} {system next : SystemState}
    (hnodup : ((before ++ system :: after).map SystemState.seasonId).Nodup)
    (hid : next.seasonId = system.seasonId) :
    put next (before ++ system :: after) = before ++ next :: after := by
  rw [List.map_append, List.map_cons, List.nodup_middle, List.nodup_cons, List.mem_append,
    not_or] at hnodup
  have hother : ∀ l : List SystemState, system.seasonId ∉ l.map SystemState.seasonId →
      put next l = l := by
    intro l hl
    refine (List.map_congr_left (fun s hs => if_neg (fun heq => hl ?_))).trans (List.map_id l)
    rw [← hid, ← heq]
    exact List.mem_map_of_mem hs
  unfold put at hother ⊢
  rw [List.map_append, List.map_cons, hother before hnodup.1.1, hother after hnodup.1.2,
    if_pos hid.symm]

/-- **Loops over the systems** that replace each by a system of its own id. -/
theorem foldl_put {σ : Type} (systemsOf : σ → List SystemState) (g : σ → SystemState → σ)
    {R : SystemState → SystemState → Prop}
    (hg : ∀ x system, ∃ next, next.seasonId = system.seasonId ∧ R system next
      ∧ (system ∈ systemsOf x → ((systemsOf x).map SystemState.seasonId).Nodup →
          systemsOf (g x system) = put next (systemsOf x))) (todo : List SystemState) :
    ∀ (finished : List SystemState) (x : σ), systemsOf x = finished ++ todo →
      ((finished ++ todo).map SystemState.seasonId).Nodup →
        ∃ f, systemsOf (todo.foldl g x) = finished ++ todo.map f ∧ ∀ s ∈ todo, R s (f s) := by
  induction todo with
  | nil => exact fun finished x hx _ => ⟨id, by simpa using hx, fun _ h => absurd h List.not_mem_nil⟩
  | cons system rest ih =>
      intro finished x hx hnodup
      obtain ⟨next, hid, hR, hput⟩ := hg x system
      have hsystems : systemsOf (g x system) = (finished ++ [next]) ++ rest := by
        rw [hput (by rw [hx]; simp) (by rw [hx]; exact hnodup), hx, put_middle hnodup hid,
          List.append_assoc, List.singleton_append]
      have hsame : ((finished ++ [next]) ++ rest).map SystemState.seasonId
          = (finished ++ system :: rest).map SystemState.seasonId := by
        simp [hid]
      obtain ⟨f, hf, hrest⟩ := ih (finished ++ [next]) (g x system) hsystems (hsame ▸ hnodup)
      have hfresh : system.seasonId ∉ rest.map SystemState.seasonId := by
        rw [List.map_append, List.map_cons] at hnodup
        exact (List.nodup_cons.mp hnodup.of_append_right).1
      refine ⟨fun s => if s.seasonId = system.seasonId then next else f s, ?_, ?_⟩
      · have htail : rest.map (fun s => if s.seasonId = system.seasonId then next else f s)
            = rest.map f := by
          refine List.map_congr_left (fun s hs => if_neg (fun heq => hfresh ?_))
          rw [← heq]
          exact List.mem_map_of_mem hs
        rw [List.foldl_cons, hf, List.map_cons, htail, if_pos rfl, List.append_assoc,
          List.singleton_append]
      · intro s hs
        dsimp only
        split
        next heq =>
          obtain rfl | hmem := List.mem_cons.mp hs
          · exact hR
          · exact absurd (heq ▸ List.mem_map_of_mem hmem) hfresh
        next hne =>
          exact hrest s ((List.mem_cons.mp hs).resolve_left (fun heq => hne (by rw [heq])))

theorem foldl_maps {σ : Type} (systemsOf : σ → List SystemState) (g : σ → SystemState → σ)
    {R : SystemState → SystemState → Prop}
    (hg : ∀ x system, ∃ next, next.seasonId = system.seasonId ∧ R system next
      ∧ (system ∈ systemsOf x → ((systemsOf x).map SystemState.seasonId).Nodup →
          systemsOf (g x system) = put next (systemsOf x))) {x : σ}
    (hnodup : ((systemsOf x).map SystemState.seasonId).Nodup) :
    Maps R (systemsOf x) (systemsOf ((systemsOf x).foldl g x)) := by
  obtain ⟨f, hf, hR⟩ := foldl_put systemsOf g hg (systemsOf x) [] x rfl hnodup
  exact ⟨f, hf, hR⟩

/-! ## §4. The caps of a state. -/

def AllCapped (state : DukeState) : Prop := ∀ system ∈ state.systems, Capped system

theorem Raised.cap {s s' : SystemState} (h : Raised s s') : bankCap s' = bankCap s := by
  unfold bankCap
  rw [h.rate]

theorem allCapped_of_untouched {state state' : DukeState}
    (h : Maps Untouched state.systems state'.systems) :
    AllCapped state' ↔ AllCapped state := by
  have hcapped : ∀ {s s' : SystemState}, Untouched s s' → (Capped s' ↔ Capped s) := by
    intro s s' hs
    unfold Capped
    rw [hs.idleBank, hs.raised.cap]
  constructor
  · intro hall s hs
    obtain ⟨s', hs', hsame⟩ := h.forward hs
    exact (hcapped hsame).mp (hall s' hs')
  · intro hall s' hs'
    obtain ⟨s, hs, hsame⟩ := h.backward hs'
    exact (hcapped hsame).mpr (hall s hs)

theorem allCapped_of_raised {state state' : DukeState}
    (h : Maps Raised state.systems state'.systems) (hall : AllCapped state') :
    AllCapped state := by
  intro s hs
  obtain ⟨s', hs', hraised⟩ := h.forward hs
  have hcap : s'.idleBank ≤ bankCap s' := hall s' hs'
  rw [hraised.cap] at hcap
  exact hraised.idleBank.trans hcap

/-! ## §5. The parts of a tick. -/

theorem produce_maps (hnodup : (systemIds state).Nodup) (elapsed : Nat) :
    Maps (fun s s' => s' = advanced elapsed s) state.systems
      (state.systems.foldl (produce elapsed) ⟨state, []⟩).state.systems := by
  refine @foldl_maps DukeStep (·.state.systems) (produce elapsed)
    (fun s s' => s' = advanced elapsed s)
    (fun step system => ⟨advanced elapsed system, advanced_seasonId elapsed system, rfl, ?_⟩)
    ⟨state, []⟩ hnodup
  intro hmem hdistinct
  have hid := (advanceSystem_spec system elapsed).1
  unfold produce advanced
  dsimp only
  cases hdone : (advanceSystem system elapsed).2 with
  | none => rfl
  | some build =>
      -- the system found is the one just put back
      have hfind : findSystem (replaceSystem _ (advanceSystem system elapsed).1)
          (advanceSystem system elapsed).1.seasonId = some (advanceSystem system elapsed).1 :=
        findSystem_replaceSystem_self (hid ▸ findSystem_of_mem hdistinct hmem) rfl
      rw [hid] at hfind
      unfold applyCompletedBuild
      rw [hfind]
      have hcid : (completedSystem (advanceSystem system elapsed).1 build).seasonId
          = (advanceSystem system elapsed).1.seasonId := (completedSystem_spec _ _).1
      show put _ (put _ step.state.systems) = put _ step.state.systems
      unfold put
      rw [List.map_map, hcid]
      refine List.map_congr_left (fun s _ => ?_)
      show (if (if s.seasonId = (advanceSystem system elapsed).1.seasonId then
          (advanceSystem system elapsed).1 else s).seasonId
            = (advanceSystem system elapsed).1.seasonId then _ else _) = _
      split_ifs <;> first | rfl | contradiction

theorem resolveFlight_maps (hnodup : (systemIds state).Nodup) (world : TickWorld)
    (flight : InFlightOrder) (target : Arrival)
    (hunpaid : ∀ view, probeView flight target = some view →
      derelictReward state view ≠ some .PRODUCTION) :
    Maps Untouched state.systems (resolveFlight world state flight target).state.systems := by
  have hstay : Maps Untouched state.systems state.systems := Maps.refl Untouched.refl _
  have hback : ∀ {id : String} {home : SystemState} (fighters : List DukeFighter),
      findSystem state id = some home →
      Maps Untouched state.systems (put { home with fighters := fighters } state.systems) :=
    fun fighters hhome =>
      put_maps Untouched.refl hnodup (findSystem_mem hhome) rfl ⟨rfl, rfl, rfl⟩
  unfold resolveFlight
  unfold probeView at hunpaid
  cases hkind : flight.kind with
  | PROBE =>
      rw [hkind] at hunpaid
      dsimp only at hunpaid ⊢
      cases hview : target.view with
      | none => exact hstay
      | some view =>
          obtain ⟨_, hsystems⟩ | ⟨hpaid, _⟩ := arriveProbe_systems state flight view world.now
          · show Maps _ _ (arriveProbe state flight view world.now).systems
            rw [hsystems]
            exact hstay
          · exact absurd hpaid (hunpaid view hview)
  | RAID hull writ =>
      dsimp only
      cases target.defenderFighters with
      | none =>
          unfold returnFromNothing
          rw [hkind]
          dsimp only
          split
          · exact hstay
          · cases hhome : findSystem state flight.fromSeasonId with
            | none => exact hstay
            | some home => exact hback _ hhome
      | some fighters =>
          unfold resolveRaidArrival
          rw [hkind]
          dsimp only
          cases hhome : findSystem (dropFlight state flight) flight.fromSeasonId with
          | none => exact hstay
          | some home =>
              dsimp only
              split
              · exact hstay
              · exact hback _ hhome

/-- The reward of the arrival, if it goes to a bank, fits under its cap. -/
def RewardFits (state : DukeState) (flight : InFlightOrder) (target : Arrival) : Prop :=
  ∀ view home, probeView flight target = some view →
    derelictReward state view = some .PRODUCTION → rewardHome state flight = some home →
      home.idleBank + DERELICT_PRODUCTION ≤ bankCap home

/-- **One arrival**: no bank is lowered, and all are within their caps
exactly when the reward fits. -/
theorem resolveFlight_capped (hnodup : (systemIds state).Nodup) (world : TickWorld)
    (flight : InFlightOrder) (target : Arrival) :
    Maps Raised state.systems (resolveFlight world state flight target).state.systems
      ∧ (AllCapped state → (AllCapped (resolveFlight world state flight target).state
          ↔ RewardFits state flight target)) := by
  by_cases hpays : ∃ view, probeView flight target = some view
      ∧ derelictReward state view = some .PRODUCTION
  · obtain ⟨view, hview, hpaid⟩ := hpays
    have hresolved : (resolveFlight world state flight target).state
        = arriveProbe state flight view world.now := by
      unfold probeView at hview
      unfold resolveFlight
      cases hkind : flight.kind with
      | PROBE =>
          rw [hkind] at hview
          dsimp only at hview ⊢
          rw [hview]
      | RAID hull writ =>
          rw [hkind] at hview
          cases hview
    obtain ⟨hno, _⟩ | ⟨_, home, hhome, hsystems⟩ := arriveProbe_systems state flight view world.now
    · exact absurd hpaid hno
    have hmem := rewardHome_mem hhome
    have hraised : Maps Raised state.systems
        (resolveFlight world state flight target).state.systems := by
      rw [hresolved, hsystems]
      exact put_maps (fun s => (Untouched.refl s).raised) hnodup hmem rfl
        ⟨rfl, le_add_of_nonneg_right (by decide +kernel), rfl⟩
    have hfits : RewardFits state flight target
        ↔ home.idleBank + DERELICT_PRODUCTION ≤ bankCap home := by
      constructor
      · exact fun h => h view home hview hpaid hhome
      · intro h view' home' _ _ hhome'
        rw [hhome, Option.some.injEq] at hhome'
        rw [← hhome']
        exact h
    refine ⟨hraised, fun hall => ?_⟩
    rw [hfits]
    refine ⟨fun hafter => ?_, fun hfit => ?_⟩
    · have hnew : { home with idleBank := home.idleBank + DERELICT_PRODUCTION }
          ∈ (resolveFlight world state flight target).state.systems := by
        rw [hresolved, hsystems]
        exact List.mem_map.mpr ⟨home, hmem, if_pos rfl⟩
      exact hafter _ hnew
    · intro s hs
      rw [hresolved, hsystems] at hs
      obtain ⟨old, hold, rfl⟩ := List.mem_map.mp hs
      dsimp only
      split
      · exact hfit
      · exact hall old hold
  · have hunpaid : ∀ view, probeView flight target = some view →
        derelictReward state view ≠ some .PRODUCTION :=
      fun view hview hpaid => hpays ⟨view, hview, hpaid⟩
    have hsame := resolveFlight_maps hnodup world flight target hunpaid
    refine ⟨hsame.mono Untouched.raised, fun hall => ?_⟩
    rw [allCapped_of_untouched hsame]
    exact iff_of_true hall (fun view _ hview hpaid => absurd hpaid (hunpaid view hview))

/-- The rewards of all arrivals fit, each on what the ones before left. -/
def RewardsFit (world : TickWorld) : Nat → List InFlightOrder → DukeState → Prop
  | _, [], _ => True
  | i, flight :: flights, state =>
      RewardFits state flight (world.arrivals i)
        ∧ RewardsFit world (i + 1) flights
            (resolveFlight world state flight (world.arrivals i)).state

theorem resolveFlights_capped (world : TickWorld) (flights : List InFlightOrder) :
    ∀ (i : Nat) (state : DukeState), (systemIds state).Nodup →
      Maps Raised state.systems (resolveFlights world i flights state).state.systems
        ∧ (AllCapped state → (AllCapped (resolveFlights world i flights state).state
            ↔ RewardsFit world i flights state)) := by
  induction flights with
  | nil =>
      exact fun i state _ =>
        ⟨Maps.refl (fun s => (Untouched.refl s).raised) _, fun hall => iff_of_true hall trivial⟩
  | cons flight flights ih =>
      intro i state hnodup
      obtain ⟨hraised, hfits⟩ := resolveFlight_capped hnodup world flight (world.arrivals i)
      obtain ⟨hrest, hcapped⟩ := ih (i + 1)
        (resolveFlight world state flight (world.arrivals i)).state
        (hraised.nodup Raised.seasonId hnodup)
      refine ⟨hraised.trans Raised.trans hrest, fun hall => ⟨fun hafter => ?_, fun hboth => ?_⟩⟩
      · -- a bank over its cap stays there to the end
        have hhere := allCapped_of_raised hrest hafter
        exact ⟨(hfits hall).mp hhere, (hcapped hhere).mp hafter⟩
      · exact (hcapped ((hfits hall).mpr hboth.1)).mpr hboth.2

theorem returnLentFighters_maps (hnodup : (systemIds state).Nodup) (now : Nat) :
    Maps Untouched state.systems (returnLentFighters state now).state.systems := by
  have hloop : ∀ (due : List LentFighter) (step : DukeStep), (systemIds step.state).Nodup →
      Maps Untouched step.state.systems
        (due.foldl (fun step l => step.andThen fun s => returnLent s l) step).state.systems := by
    intro due
    induction due with
    | nil => exact fun _ _ => Maps.refl Untouched.refl _
    | cons l due ih =>
        intro step hdistinct
        have hone : Maps Untouched step.state.systems (returnLent step.state l).state.systems := by
          unfold returnLent
          cases hhome : findSystem step.state l.fromSeasonId with
          | none => exact Maps.refl Untouched.refl _
          | some home =>
              dsimp only
              split
              · exact put_maps Untouched.refl hdistinct (findSystem_mem hhome) rfl ⟨rfl, rfl, rfl⟩
              · exact Maps.refl Untouched.refl _
        exact hone.trans Untouched.trans (ih (step.andThen fun s => returnLent s l)
          (hone.nodup Untouched.seasonId hdistinct))
  exact hloop _ _ hnodup

theorem accrueIncursions_maps (hnodup : (systemIds state).Nodup) (totalPlanets now : Nat) :
    Maps Untouched state.systems (accrueIncursions state totalPlanets now).systems := by
  refine foldl_maps DukeState.systems _ (fun x system =>
    ⟨accruedSystem totalPlanets now system, (accruedSystem_spec totalPlanets now system).1, ?_,
      fun _ _ => rfl⟩) hnodup
  unfold accruedSystem
  dsimp only
  split
  · exact ⟨rfl, rfl, rfl⟩
  · exact ⟨rfl, rfl, rfl⟩

theorem landIncursions_maps (hnodup : (systemIds state).Nodup) (sectors : String → Bool) (now : Nat)
    :
    Maps Untouched state.systems (landIncursions state sectors now).state.systems := by
  refine foldl_maps (fun step : DukeStep => step.state.systems)
    (landIncursion state sectors now) (fun step system => ?_) (x := ⟨state, []⟩) hnodup
  have hself : system ∈ step.state.systems →
      (step.state.systems.map SystemState.seasonId).Nodup →
        step.state.systems = put system step.state.systems := by
    intro hmem hdistinct
    obtain ⟨before, after, hsplit⟩ := List.append_of_mem hmem
    rw [hsplit] at hdistinct ⊢
    rw [put_middle hdistinct rfl]
  unfold landIncursion
  cases system.incursion.arrivesAt with
  | none => exact ⟨system, rfl, Untouched.refl system, hself⟩
  | some arrival =>
      dsimp only
      split
      · exact ⟨system, rfl, Untouched.refl system, hself⟩
      have hput : ∀ (next : SystemState) (step' : DukeStep),
          step'.state.systems = put next step.state.systems → Untouched system next →
          ∃ next, next.seasonId = system.seasonId ∧ Untouched system next
            ∧ (system ∈ step.state.systems →
                (step.state.systems.map SystemState.seasonId).Nodup →
                  step'.state.systems = put next step.state.systems) :=
        fun next _ hsystems hsame => ⟨next, hsame.seasonId, hsame, fun _ _ => hsystems⟩
      split
      · exact hput _ _ rfl ⟨rfl, rfl, rfl⟩
      · split
        · exact hput _ _ rfl ⟨rfl, rfl, rfl⟩
        · exact hput _ _ rfl ⟨rfl, rfl, rfl⟩

/-! ## §6. The tick. -/

def tickProduced (stored : DukeState) (world : TickWorld) : DukeState :=
  let synced := syncSystems stored world.planets world.now
  { (synced.systems.foldl (produce (world.now - synced.lastAdvancedAt)) ⟨synced, []⟩).state with
    lastAdvancedAt := world.now }

theorem syncSystems_spec (hnodup : (systemIds state).Nodup) {planets : List HeldPlanet}
    (hplanets : (planets.map HeldPlanet.seasonId).Nodup) (now : Nat) :
    (systemIds (syncSystems state planets now)).Nodup
      ∧ (AllCapped state → AllCapped (syncSystems state planets now))
      ∧ ∀ s ∈ state.systems, ∀ s' ∈ (syncSystems state planets now).systems,
          s'.seasonId = s.seasonId → s' = s := by
  unfold syncSystems
  dsimp only
  generalize hkept : state.systems.filter
    (fun s => s.seasonId ∈ planets.map HeldPlanet.seasonId) = kept
  have hsub : kept.Sublist state.systems := hkept ▸ List.filter_sublist
  have hsame : ∀ s ∈ state.systems, ∀ s' ∈ state.systems, s'.seasonId = s.seasonId → s' = s :=
    fun s hs s' hs' heq => List.inj_on_of_nodup_map hnodup hs' hs heq
  split
  · exact ⟨hnodup, id, hsame⟩
  have hadded : ((planets.filter fun p => p.seasonId ∉ kept.map SystemState.seasonId).map
        fun p => newSystemState p now none).map SystemState.seasonId
      = (planets.filter fun p => p.seasonId ∉ kept.map SystemState.seasonId).map
          HeldPlanet.seasonId := by
    rw [List.map_map]
    rfl
  refine ⟨?_, fun hall s hs => ?_, fun s hs s' hs' heq => ?_⟩
  · show ((kept ++ _).map SystemState.seasonId).Nodup
    rw [List.map_append, hadded]
    refine List.nodup_append.mpr ⟨hnodup.sublist (hsub.map _),
      hplanets.sublist (List.filter_sublist.map _), fun a ha b hb hab => ?_⟩
    obtain ⟨p, hp, rfl⟩ := List.mem_map.mp hb
    have hnew : p.seasonId ∉ kept.map SystemState.seasonId := by
      simpa using (List.mem_filter.mp hp).2
    exact hnew (hab ▸ ha)
  · obtain hold | hnew := List.mem_append.mp hs
    · exact hall s (hsub.subset hold)
    · obtain ⟨p, _, rfl⟩ := List.mem_map.mp hnew
      exact bankCap_nonneg _
  · obtain hold | hnew := List.mem_append.mp hs'
    · exact hsame s hs s' (hsub.subset hold) heq
    · -- a system whose Planet is held is kept, not added
      obtain ⟨p, hp, rfl⟩ := List.mem_map.mp hnew
      obtain ⟨hheld, hfresh⟩ := List.mem_filter.mp hp
      have hin : s ∈ kept := by
        rw [← hkept]
        refine List.mem_filter.mpr ⟨hs, ?_⟩
        rw [← heq]
        simpa using ⟨p, hheld, rfl⟩
      have hnot : p.seasonId ∉ kept.map SystemState.seasonId := by simpa using hfresh
      have hid : p.seasonId = s.seasonId := heq
      rw [hid] at hnot
      exact absurd (List.mem_map_of_mem hin) hnot

/-- **A tick**: production, then arrivals and what leaves the banks alone. -/
theorem tick_spec (hnodup : (systemIds state).Nodup) {world : TickWorld}
    (hheld : world.planets ≠ []) (hplanets : (world.planets.map HeldPlanet.seasonId).Nodup) :
    Maps (fun s s' => s' = advanced
        (world.now - (syncSystems state world.planets world.now).lastAdvancedAt) s)
      (syncSystems state world.planets world.now).systems (tickProduced state world).systems
      ∧ Maps Raised (tickProduced state world).systems (advanceOneDuke state world).state.systems
      ∧ (AllCapped (tickProduced state world) → (AllCapped (advanceOneDuke state world).state
          ↔ RewardsFit world 0 (arrivedFlights (tickProduced state world) world.now)
              (tickProduced state world))) := by
  have hsynced := (syncSystems_spec hnodup hplanets world.now).1
  have hproduced := produce_maps hsynced
    (world.now - (syncSystems state world.planets world.now).lastAdvancedAt)
  have hids : (systemIds (tickProduced state world)).Nodup :=
    hproduced.nodup (fun {a b} (h : b = advanced _ a) => h ▸ advanced_seasonId _ a) hsynced
  obtain ⟨hraised, hcapped⟩ := resolveFlights_capped world
    (arrivedFlights (tickProduced state world) world.now) 0 (tickProduced state world) hids
  generalize hlanded : (resolveFlights world 0
    (arrivedFlights (tickProduced state world) world.now) (tickProduced state world)).state
      = landed at hraised hcapped
  have hlandedIds : (systemIds landed).Nodup := hraised.nodup Raised.seasonId hids
  have hlent := returnLentFighters_maps hlandedIds world.now
  have hlentIds : (systemIds (returnLentFighters landed world.now).state).Nodup :=
    hlent.nodup Untouched.seasonId hlandedIds
  have haccrued := accrueIncursions_maps hlentIds world.capturedSectors world.now
  have haccruedIds : (systemIds (accrueIncursions (returnLentFighters landed world.now).state
      world.capturedSectors world.now)).Nodup :=
    haccrued.nodup Untouched.seasonId hlentIds
  have hincursions := landIncursions_maps haccruedIds
    (fun seasonId => decide (seasonId ∈ world.planets.map HeldPlanet.seasonId)) world.now
  have hrest := (hlent.trans Untouched.trans haccrued).trans Untouched.trans hincursions
  have hafter : Maps Untouched landed.systems (advanceOneDuke state world).state.systems := by
    subst hlanded
    unfold advanceOneDuke
    rw [if_neg hheld]
    show Maps Untouched _ (refreshOrbitIntel _ _ _).systems
    rw [(refreshOrbitIntel_frame _ _ _).1]
    exact hrest
  refine ⟨hproduced, hraised.trans Raised.trans (hafter.mono Untouched.raised), fun hall => ?_⟩
  rw [allCapped_of_untouched hafter]
  exact hcapped hall

/-! ## §7. Operations. -/

theorem launch_maps {state launched : DukeState} (hnodup : (systemIds state).Nodup)
    {fromSeasonId targetSeasonId : String} {owned : List String} {now : Nat} {raid : Bool}
    (h : (if raid then launchRaid state fromSeasonId targetSeasonId owned now
      else launchProbe state fromSeasonId targetSeasonId owned now) = .ok launched) :
    Maps Untouched state.systems launched.systems := by
  cases raid with
  | true =>
      obtain ⟨system, idx, hull, hfind, _, rfl⟩ := launchRaid_cases h
      exact put_maps Untouched.refl hnodup (findSystem_mem hfind) rfl ⟨rfl, rfl, rfl⟩
  | false =>
      obtain ⟨system, hfind, rfl⟩ := launchProbe_cases h
      exact put_maps Untouched.refl hnodup (findSystem_mem hfind) rfl ⟨rfl, rfl, rfl⟩

theorem answerWrit_maps (hnodup : (systemIds state).Nodup) (now : Nat) (accept : Bool)
    (court : CourtStrength) :
    Maps Untouched state.systems (answerWritAction state now accept court).state.systems := by
  have hstay : Maps Untouched state.systems state.systems := Maps.refl Untouched.refl _
  unfold answerWritAction
  split
  · exact hstay
  split
  next => exact hstay
  next answered hanswer =>
    unfold answerWrit at hanswer
    split at hanswer
    · cases hanswer
    next offer _ =>
      dsimp only at hanswer
      split at hanswer
      · cases hanswer
        exact hstay
      · split at hanswer
        · split at hanswer
          · cases hanswer
          next target htarget =>
            split at hanswer
            · cases hanswer
            · cases hanswer
              exact put_maps Untouched.refl hnodup (List.argmin_mem htarget) rfl ⟨rfl, rfl, rfl⟩
        · split at hanswer
          · cases hanswer
          split at hanswer
          · cases hanswer
          · cases hanswer
            exact hstay

theorem perform_untouched (hnodup : (systemIds state).Nodup) {op : DukeOp}
    (htick : ∀ world, op ≠ .tick world)
    (hbuild : ∀ now planets seasonId spec stability,
      op ≠ .build now planets seasonId spec stability) :
    Maps Untouched state.systems (op.perform bodies state).state.systems := by
  have hstay : Maps Untouched state.systems state.systems := Maps.refl Untouched.refl _
  have hframe : ∀ {l : List SystemState}, l = state.systems → Maps Untouched state.systems l :=
    fun heq => heq ▸ hstay
  cases op with
  | tick world => exact absurd rfl (htick world)
  | build now planets seasonId spec stability =>
      exact absurd rfl (hbuild now planets seasonId spec stability)
  | cancelBuild seasonId =>
      show Maps _ _ (cancelBuildAction state seasonId).systems
      unfold cancelBuildAction cancelBuild
      cases hfind : findSystem state seasonId with
      | none => exact hstay
      | some system =>
          dsimp only
          split
          · exact put_maps Untouched.refl hnodup (findSystem_mem hfind) rfl ⟨rfl, rfl, rfl⟩
          · exact hstay
  | order now raid fromSeasonId targetSeasonId owned held =>
      show Maps _ _ (orderAction state now raid fromSeasonId targetSeasonId owned held).systems
      unfold orderAction
      split
      · split
        next => exact hstay
        next launched hlaunch => exact launch_maps hnodup hlaunch
      · exact hstay
  | answerCourtOffer now accept => exact hframe (answerCourtOffer_frame state now accept).1
  | answerWrit now accept court => exact answerWrit_maps hnodup now accept court
  | lendFleet now fromSeasonId =>
      show Maps _ _ (lendFleetAction state now fromSeasonId).systems
      unfold lendFleetAction
      split
      · exact hstay
      split
      next => exact hstay
      next lent hlent =>
        obtain ⟨system, idx, hull, hfind, _, rfl⟩ := lendFighter_cases hlent
        exact put_maps Untouched.refl hnodup (findSystem_mem hfind) rfl ⟨rfl, rfl, rfl⟩
  | courtPass now runaway cycleIndex chance =>
      exact hframe (courtPassFor_frame state now runaway cycleIndex chance).1
  | raided seasonId fighterHull =>
      show Maps _ _ (defendRaid state seasonId fighterHull).state.systems
      unfold defendRaid
      cases hfind : findSystem state seasonId with
      | none => exact hstay
      | some system =>
          exact put_maps Untouched.refl hnodup (findSystem_mem hfind) rfl ⟨rfl, rfl, rfl⟩

def carried (bodies : String → List GalaxyBodyKind) (state : DukeState) (system : SystemState) :
    DukeOp → ℚ
  | .build _ planets seasonId spec stability =>
      if seasonId = system.seasonId ∧ seasonId ∈ planets.map HeldPlanet.seasonId then
        match planBuild bodies state seasonId spec stability with
        | .error _ => 0
        | .ok plan => min plan.cost system.idleBank
      else 0
  | _ => 0

theorem planBuild_cost_nonneg {bodies : String → List GalaxyBodyKind} {seasonId : String}
    {spec : BuildSpec} {stability : ℚ} {plan : PlannedBuild}
    (h : planBuild bodies state seasonId spec stability = .ok plan) : 0 ≤ plan.cost := by
  unfold planBuild at h
  split at h
  · cases h
  next system _ =>
    split at h
    · cases h
    cases spec with
    | FIGHTER =>
        dsimp only at h
        split_ifs at h
        cases h
        show (0 : ℚ) ≤ FIGHTER_COST
        decide +kernel
    | PROBE =>
        dsimp only at h
        split_ifs at h
        cases h
        show (0 : ℚ) ≤ PROBE_COST
        decide +kernel
    | REFIT =>
        dsimp only at h
        split at h
        · cases h
        next weakest _ =>
          split_ifs at h with hfull
          cases h
          -- the weakest Fighter misses some of its hull
          have hmissing : (0 : ℚ) ≤ ((HULL_MAX - weakest.1.hull : Int) : ℚ) := by
            exact_mod_cast (by omega : (0 : Int) ≤ HULL_MAX - weakest.1.hull)
          have hcost : (0 : ℚ) ≤ FIGHTER_COST / 100 := by decide +kernel
          exact Int.cast_nonneg (Int.ceil_nonneg (mul_nonneg hcost hmissing))
    | FORTIFY points =>
        dsimp only at h
        split_ifs at h with hpoints
        cases h
        have hfloor : (0 : ℚ) ≤ ((⌊points⌋ : Int) : ℚ) := by
          exact_mod_cast (by omega : (0 : Int) ≤ ⌊points⌋)
        exact mul_nonneg hfloor (by decide +kernel)
    | DEVELOP bodyIndex =>
        dsimp only at h
        split at h
        · cases h
        next body _ =>
          split_ifs at h
          cases h
          show 0 ≤ (DEVELOPMENT_FOR_BODY body).cost
          cases body <;> decide +kernel

/-- A build takes what it carries, and no more. -/
structure Carried (bodies : String → List GalaxyBodyKind) (state : DukeState) (op : DukeOp)
    (s s' : SystemState) : Prop where
  seasonId : s'.seasonId = s.seasonId
  idleBank : s'.idleBank = s.idleBank - carried bodies state s op
  rate : systemDailyRate s' = systemDailyRate s

theorem build_maps (hnodup : (systemIds state).Nodup) (now : Nat) (planets : List HeldPlanet)
    (seasonId : String) (spec : BuildSpec) (stability : ℚ) :
    Maps (Carried bodies state (.build now planets seasonId spec stability)) state.systems
      (buildAction bodies state planets seasonId spec stability).systems := by
  have hstay : (∀ s, carried bodies state s (.build now planets seasonId spec stability) = 0) →
      Maps (Carried bodies state (.build now planets seasonId spec stability)) state.systems
        state.systems :=
    fun hzero => Maps.refl (fun s => ⟨rfl, by rw [hzero, sub_zero], rfl⟩) _
  unfold buildAction
  split
  next hheld =>
    cases hplan : planBuild bodies state seasonId spec stability with
    | error code =>
        refine hstay (fun s => ?_)
        unfold carried
        dsimp only
        rw [hplan]
        exact ite_self 0
    | ok plan =>
        dsimp only
        unfold startPlannedBuild
        cases hfind : findSystem state seasonId with
        | none =>
            unfold planBuild at hplan
            rw [hfind] at hplan
            cases hplan
        | some home =>
            refine ⟨_, rfl, fun s hs => ?_⟩
            dsimp only
            have hid := findSystem_seasonId hfind
            split
            next heq =>
              have hhome : s = home := List.inj_on_of_nodup_map hnodup hs (findSystem_mem hfind) heq
              rw [hhome]
              refine ⟨rfl, ?_, rfl⟩
              unfold carried
              dsimp only
              rw [if_pos ⟨hid.symm, hheld⟩, hplan]
            next hne =>
              refine ⟨rfl, ?_, rfl⟩
              unfold carried
              dsimp only
              rw [if_neg (fun h => hne (h.1.symm.trans hid.symm)), sub_zero]
  next hheld =>
    refine hstay (fun s => ?_)
    unfold carried
    dsimp only
    rw [if_neg (fun h => hheld h.2)]

/-! ## §8. Runs. -/

/-- No Planet is listed twice. -/
def UniquePlanets : DukeOp → Prop
  | .tick world => (world.planets.map HeldPlanet.seasonId).Nodup
  | _ => True

/-- Every derelict's Production that arrives fits the bank it goes to. -/
def DukeOp.RewardsFit (state : DukeState) : DukeOp → Prop
  | .tick world => world.planets ≠ [] →
      Duke.RewardsFit world 0 (arrivedFlights (tickProduced state world) world.now)
        (tickProduced state world)
  | _ => True

/-- **An operation**: distinct systems stay so, and banks within their caps
are still so exactly when the rewards fit, lowered only by what a build
carries. -/
theorem perform_spec (hnodup : (systemIds state).Nodup) {op : DukeOp} (hunique : UniquePlanets op) :
    (systemIds (op.perform bodies state).state).Nodup
      ∧ (AllCapped state →
          (AllCapped (op.perform bodies state).state ↔ op.RewardsFit state)
            ∧ ∀ s ∈ state.systems, ∀ s' ∈ (op.perform bodies state).state.systems,
                s'.seasonId = s.seasonId →
                  s.idleBank ≤ s'.idleBank + carried bodies state s op) := by
  have hsame : ∀ {R : SystemState → SystemState → Prop} {l : List SystemState},
      Maps R state.systems l → (∀ {a b}, R a b → b.seasonId = a.seasonId) →
        ∀ s ∈ state.systems, ∀ s' ∈ l, s'.seasonId = s.seasonId → R s s' := by
    intro R l hmaps hid s hs s' hs' heq
    obtain ⟨t, ht, hR⟩ := hmaps.backward hs'
    rw [← List.inj_on_of_nodup_map hnodup ht hs ((hid hR).symm.trans heq)]
    exact hR
  by_cases htick : ∃ world, op = .tick world
  · obtain ⟨world, rfl⟩ := htick
    show (systemIds (advanceOneDuke state world).state).Nodup
      ∧ (AllCapped state → (AllCapped (advanceOneDuke state world).state ↔ _)
        ∧ ∀ s ∈ state.systems, ∀ s' ∈ (advanceOneDuke state world).state.systems, _)
    by_cases hheld : world.planets = []
    · have hstay : advanceOneDuke state world = ⟨state, []⟩ := if_pos hheld
      rw [hstay]
      refine ⟨hnodup, fun hall => ⟨iff_of_true hall (fun h => absurd hheld h), ?_⟩⟩
      intro s hs s' hs' heq
      rw [List.inj_on_of_nodup_map hnodup hs' hs heq]
      exact le_add_of_nonneg_right (le_refl 0)
    · obtain ⟨hsynced, hcapped, hkept⟩ := syncSystems_spec hnodup hunique world.now
      obtain ⟨hproduced, hraised, hiff⟩ := tick_spec hnodup hheld hunique
      have hids : systemIds (advanceOneDuke state world).state
          = systemIds (syncSystems state world.planets world.now) :=
        (hraised.ids Raised.seasonId).trans
          (hproduced.ids (fun {a b} (h : b = advanced _ a) => h ▸ advanced_seasonId _ a))
      refine ⟨hids ▸ hsynced, fun hall => ⟨?_, fun s hs s' hs' heq => ?_⟩⟩
      · have hmid : AllCapped (tickProduced state world) := by
          intro s hs
          obtain ⟨t, ht, rfl⟩ := hproduced.backward hs
          exact ((hcapped hall t ht).advanced _).1
        rw [hiff hmid]
        exact ⟨fun h _ => h, fun h => h hheld⟩
      · obtain ⟨t, ht, hgrown⟩ := hraised.backward hs'
        obtain ⟨u, hu, rfl⟩ := hproduced.backward ht
        have hus : u = s :=
          hkept s hs u hu (((advanced_seasonId _ u).symm.trans hgrown.seasonId.symm).trans heq)
        have hbank := ((hcapped hall u hu).advanced
          (world.now - (syncSystems state world.planets world.now).lastAdvancedAt)).2
        rw [← hus]
        exact (hbank.trans hgrown.idleBank).trans (le_add_of_nonneg_right (le_refl 0))
  · by_cases hbuild : ∃ now planets seasonId spec stability,
        op = .build now planets seasonId spec stability
    · obtain ⟨now, planets, seasonId, spec, stability, rfl⟩ := hbuild
      have hmaps := build_maps bodies hnodup now planets seasonId spec stability
      refine ⟨hmaps.nodup Carried.seasonId hnodup, fun hall => ⟨iff_of_true ?_ trivial, ?_⟩⟩
      · intro s' hs'
        obtain ⟨s, hs, hR⟩ := hmaps.backward hs'
        have hcap : bankCap s' = bankCap s := by
          unfold bankCap
          rw [hR.rate]
        unfold Capped
        rw [hcap, hR.idleBank]
        unfold carried
        dsimp only
        split
        · split
          · rw [sub_zero]
            exact hall s hs
          next plan hplan =>
            rcases le_total plan.cost s.idleBank with hle | hle
            · rw [min_eq_left hle]
              exact (sub_le_self _ (planBuild_cost_nonneg hplan)).trans (hall s hs)
            · rw [min_eq_right hle, sub_self]
              exact bankCap_nonneg s
        · rw [sub_zero]
          exact hall s hs
      · intro s hs s' hs' heq
        rw [(hsame hmaps Carried.seasonId s hs s' hs' heq).idleBank, sub_add_cancel]
    · have hmaps := perform_untouched bodies hnodup (fun world h => htick ⟨world, h⟩)
        (fun now planets seasonId spec stability h =>
          hbuild ⟨now, planets, seasonId, spec, stability, h⟩)
      have hfree : op.RewardsFit state ∧ ∀ s, carried bodies state s op = 0 := by
        cases op with
        | tick world => exact absurd ⟨world, rfl⟩ htick
        | build now planets seasonId spec stability =>
            exact absurd ⟨now, planets, seasonId, spec, stability, rfl⟩ hbuild
        | _ => exact ⟨trivial, fun _ => rfl⟩
      refine ⟨hmaps.nodup Untouched.seasonId hnodup, fun hall =>
        ⟨iff_of_true ((allCapped_of_untouched hmaps).mpr hall) hfree.1, ?_⟩⟩
      intro s hs s' hs' heq
      rw [(hsame hmaps Untouched.seasonId s hs s' hs' heq).idleBank, hfree.2, add_zero]

/-- **Production is kept**: how time is split does not matter, advancing never
lowers a bank, and no operation lowers one by more than it carries into a
build. -/
structure ProductionKept (bodies : String → List GalaxyBodyKind) (fleet : Fleet) : Prop where
  split : ∀ system ∈ fleet.state.systems, KeepsRate system → ∀ a b,
    (advanceSystem (advanced a system) b).1.slot = (advanceSystem system (a + b)).1.slot
      ∧ (advanceSystem (advanced a system) b).1.idleBank = (advanceSystem system (a + b)).1.idleBank
      ∧ (advanceSystem system a).2.or (advanceSystem (advanced a system) b).2
        = (advanceSystem system (a + b)).2
  advancing : ∀ system ∈ fleet.state.systems, ∀ elapsed,
    system.idleBank ≤ (advanceSystem system elapsed).1.idleBank
  spending : ∀ op, UniquePlanets op → ∀ s ∈ fleet.state.systems,
    ∀ s' ∈ (op.perform bodies fleet.state).state.systems, s'.seasonId = s.seasonId →
      s.idleBank ≤ s'.idleBank + carried bodies fleet.state s op

theorem productionKept_iff {fleet : Fleet} (hnodup : (systemIds fleet.state).Nodup) :
    ProductionKept bodies fleet ↔ AllCapped fleet.state := by
  constructor
  · exact fun h system hmem => (advance_keeps_bank_iff system).mp (h.advancing system hmem)
  · intro hall
    exact
      { split := fun system _ hrate a b => advanceSystem_add hrate a b
        advancing := fun system hmem => (advance_keeps_bank_iff system).mpr (hall system hmem)
        spending := fun op hunique => ((perform_spec bodies hnodup hunique).2 hall).2 }

theorem born_systems (authUid : String) (planets : List HeldPlanet) (now : Nat) :
    systemIds (createDukeState authUid planets now) = planets.map HeldPlanet.seasonId
      ∧ AllCapped (createDukeState authUid planets now) := by
  unfold systemIds AllCapped createDukeState
  cases planets with
  | nil => exact ⟨rfl, fun s hs => absurd hs List.not_mem_nil⟩
  | cons first rest =>
      dsimp only
      refine ⟨by rw [List.map_cons, List.map_cons, List.map_map]; rfl, fun s hs => ?_⟩
      obtain rfl | hmem := List.mem_cons.mp hs
      · exact bankCap_nonneg _
      · obtain ⟨p, _, rfl⟩ := List.mem_map.mp hmem
        exact bankCap_nonneg _

/-- **Production over a run** is kept in every state exactly when every
derelict's Production fits the bank it goes to. -/
theorem production_kept_iff (bodies : String → List GalaxyBodyKind) (authUid : String)
    (planets : List HeldPlanet) (now : Nat) (ops : List DukeOp)
    (hplanets : (planets.map HeldPlanet.seasonId).Nodup)
    (hunique : Run.StepsMeet (Fleet.step bodies) (fun _ op => UniquePlanets op)
      (Fleet.born authUid planets now) ops) :
    Run.Along (Fleet.step bodies) (ProductionKept bodies) (Fleet.born authUid planets now) ops
      ↔ Run.StepsMeet (Fleet.step bodies) (fun fleet op => op.RewardsFit fleet.state)
          (Fleet.born authUid planets now) ops := by
  have hborn := born_systems authUid planets now
  have hids : (systemIds (Fleet.born authUid planets now).state).Nodup := hborn.1 ▸ hplanets
  refine Run.along_iff_stepsMeet_of (I := fun fleet => (systemIds fleet.state).Nodup)
    (fun fleet op hnodup hop => (perform_spec bodies hnodup hop).1) ?_ ops _ hids
    ((productionKept_iff bodies hids).mpr hborn.2) hunique
  intro fleet op hnodup hkept hop
  obtain ⟨hnext, hcapped⟩ := perform_spec bodies hnodup hop
  have hnextIds : (systemIds (Fleet.step bodies fleet op).state).Nodup := hnext
  rw [productionKept_iff bodies hnextIds]
  exact (hcapped ((productionKept_iff bodies hnodup).mp hkept)).1

/-- A Probe finds a derelict with a hundred Production. -/
def finderOps : List DukeOp :=
  [.build 0 homeworld "season-1" .PROBE 100, tickAt 5,
    .order (5 * MS_PER_DAY) false "season-1" "0" ["season-1"] ["0"],
    .tick ⟨6 * MS_PER_DAY, homeworld, 2, fun _ => ⟨some ⟨"0", 100, none⟩, none⟩, fun _ => none⟩]

def finder : Fleet := finderOps.foldl (Fleet.step noBodies) (Fleet.born "17" homeworld 0)

theorem production_kept_derelict :
    Run.Along (Fleet.step noBodies) (ProductionKept noBodies) (Fleet.born "17" homeworld 0) finderOps
      ↔ Run.StepsMeet (Fleet.step noBodies) (fun fleet op => op.RewardsFit fleet.state)
          (Fleet.born "17" homeworld 0) finderOps :=
  have hsingle : (homeworld.map HeldPlanet.seasonId).Nodup := List.nodup_singleton _
  production_kept_iff noBodies "17" homeworld 0 finderOps hsingle
    ⟨trivial, hsingle, trivial, hsingle, trivial⟩

/-- The find goes past the cap, and a day later part of it is gone. -/
theorem find_not_kept :
    (∃ system ∈ finder.state.systems,
        (advanceSystem system MS_PER_DAY).1.idleBank < system.idleBank)
      ∧ ¬ ProductionKept noBodies finder := by
  have hlost : ∃ system ∈ finder.state.systems,
      (advanceSystem system MS_PER_DAY).1.idleBank < system.idleBank := by decide +kernel
  refine ⟨hlost, fun hkept => ?_⟩
  obtain ⟨system, hmem, hless⟩ := hlost
  exact absurd (hkept.advancing system hmem MS_PER_DAY) (not_le.mpr hless)

end BorderEmpires.Duke
