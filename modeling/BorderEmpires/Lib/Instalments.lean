/-
  BorderEmpires.Lib.Instalments
  **EARNED CONTINUOUSLY, PAID AT BOUNDARIES.**

  A wallet earns at a steady rate up to a cap, and what it earns becomes
  spendable only when a boundary of a periodic schedule is crossed.  The
  amount earned so far depends on the time alone, so it does not matter at
  which moments the wallet is looked at.
-/
import Mathlib.Algebra.Order.Floor.Ring
import Mathlib.Algebra.Order.Field.Basic
import Mathlib.Algebra.Order.Group.MinMax
import Mathlib.Tactic.Linarith
import Mathlib.Tactic.Ring

universe u

namespace Instalments

/-! ## §1. Boundaries. -/

section Boundaries

variable {K : Type u} [Field K] [LinearOrder K] [IsStrictOrderedRing K] [FloorRing K]
variable {window : K}

/-- The last time `offset + n * window` that is not after `now`. -/
def lastBoundary (window offset now : K) : K := (⌊(now - offset) / window⌋ : K) * window + offset

theorem lastBoundary_le (hw : 0 < window) (offset now : K) :
    lastBoundary window offset now ≤ now := by
  have hfloor : (⌊(now - offset) / window⌋ : K) ≤ (now - offset) / window := Int.floor_le _
  have hmul := mul_le_mul_of_nonneg_right hfloor hw.le
  rw [div_mul_cancel₀ _ hw.ne'] at hmul
  unfold lastBoundary
  linarith

theorem lastBoundary_mono (hw : 0 < window) (offset : K) {s t : K} (hst : s ≤ t) :
    lastBoundary window offset s ≤ lastBoundary window offset t := by
  have hdiv : (s - offset) / window ≤ (t - offset) / window :=
    (div_le_div_iff_of_pos_right hw).mpr (by linarith)
  have hfloor : (⌊(s - offset) / window⌋ : K) ≤ (⌊(t - offset) / window⌋ : K) :=
    Int.cast_le.mpr (Int.floor_mono hdiv)
  have hmul := mul_le_mul_of_nonneg_right hfloor hw.le
  unfold lastBoundary
  linarith

theorem lastBoundary_lastBoundary (hw : 0 < window) (offset now : K) :
    lastBoundary window offset (lastBoundary window offset now)
      = lastBoundary window offset now := by
  have hback : lastBoundary window offset now - offset
      = (⌊(now - offset) / window⌋ : K) * window := by
    unfold lastBoundary
    ring
  have hquot : (lastBoundary window offset now - offset) / window
      = (⌊(now - offset) / window⌋ : K) := by
    rw [hback, mul_div_cancel_right₀ _ hw.ne']
  show (⌊(lastBoundary window offset now - offset) / window⌋ : K) * window + offset = _
  rw [hquot, Int.floor_intCast]
  rfl

theorem lastBoundary_eq_of_le (hw : 0 < window) (offset : K) {s t : K} (hst : s ≤ t)
    (hle : lastBoundary window offset t ≤ s) :
    lastBoundary window offset s = lastBoundary window offset t := by
  have hup := lastBoundary_mono hw offset hst
  have hdown := lastBoundary_mono hw offset hle
  rw [lastBoundary_lastBoundary hw] at hdown
  exact le_antisymm hup hdown

end Boundaries

/-! ## §2. Wallets. -/

section Wallets

variable {K : Type u} [CommRing K] [LinearOrder K] [IsStrictOrderedRing K]

theorem min_min_add (cap x : K) {d : K} (hd : 0 ≤ d) :
    min cap (min cap x + d) = min cap (x + d) := by
  rcases le_total x cap with hx | hx
  · rw [min_eq_right hx]
  · -- the early clamp binds, and so does the late one on both sides
    rw [min_eq_left hx, min_eq_left (by linarith), min_eq_left (by linarith)]

/-- What is spendable, and what is earned but not yet paid out. -/
@[ext] structure Wallet (K : Type u) where
  paid : K
  banked : K

namespace Wallet

/-- All that `w` has earned by `now`, when it was last looked at `since`. -/
def earned (cap rate since now : K) (w : Wallet K) : K :=
  min cap (w.paid + w.banked + rate * (now - since))

/-- Looks at `w` again: a boundary crossed since pays out what was earned
at that boundary. -/
def settle (boundary : K → K) (cap rate since now : K) (w : Wallet K) : Wallet K :=
  let paid := if since < boundary now then w.earned cap rate since (boundary now) else w.paid
  { paid, banked := w.earned cap rate since now - paid }

variable {boundary : K → K} {cap rate : K}

omit [IsStrictOrderedRing K] in
theorem settle_total (since now : K) (w : Wallet K) :
    (w.settle boundary cap rate since now).paid + (w.settle boundary cap rate since now).banked
      = w.earned cap rate since now := by
  simp only [settle]
  ring

theorem earned_settle (hrate : 0 ≤ rate) {since mid now : K} (h : mid ≤ now) (w : Wallet K) :
    (w.settle boundary cap rate since mid).earned cap rate mid now
      = w.earned cap rate since now := by
  have hd : 0 ≤ rate * (now - mid) := mul_nonneg hrate (by linarith)
  have hsum : w.paid + w.banked + rate * (mid - since) + rate * (now - mid)
      = w.paid + w.banked + rate * (now - since) := by ring
  calc (w.settle boundary cap rate since mid).earned cap rate mid now
      = min cap (w.earned cap rate since mid + rate * (now - mid)) := by
        simp only [earned, settle_total]
    _ = min cap (w.paid + w.banked + rate * (mid - since) + rate * (now - mid)) :=
        min_min_add cap _ hd
    _ = w.earned cap rate since now := by rw [hsum, earned]

/-- **Settling twice is settling once**, for any schedule of boundaries. -/
theorem settle_settle (hrate : 0 ≤ rate)
    (hsame : ∀ s t, s ≤ t → boundary t ≤ s → boundary s = boundary t)
    {since mid now : K} (h₁ : since ≤ mid) (h₂ : mid ≤ now) (w : Wallet K) :
    (w.settle boundary cap rate since mid).settle boundary cap rate mid now
      = w.settle boundary cap rate since now := by
  have hpaid : ((w.settle boundary cap rate since mid).settle boundary cap rate mid now).paid
      = (w.settle boundary cap rate since now).paid := by
    by_cases hcross : mid < boundary now
    · -- a boundary after `mid`: both runs pay out all that was earned by it
      have hsince : since < boundary now := lt_of_le_of_lt h₁ hcross
      show (if _ then _ else _) = (if _ then _ else _)
      rw [if_pos hcross, if_pos hsince, earned_settle hrate hcross.le]
    · -- none after `mid`: the payout, if any, was made at `mid`
      have hbound : boundary mid = boundary now := hsame mid now h₂ (not_lt.mp hcross)
      show (if _ then _ else _) = (if _ then _ else _)
      rw [if_neg hcross]
      show (if _ then _ else _) = _
      rw [hbound]
  ext
  · exact hpaid
  · show _ - ((w.settle boundary cap rate since mid).settle boundary cap rate mid now).paid
      = _ - (w.settle boundary cap rate since now).paid
    rw [hpaid, earned_settle hrate h₂]

structure Within (cap : K) (w : Wallet K) : Prop where
  paid_nonneg : 0 ≤ w.paid
  paid_le : w.paid ≤ cap
  banked_nonneg : 0 ≤ w.banked

omit [IsStrictOrderedRing K] in
theorem earned_le (since now : K) (w : Wallet K) : w.earned cap rate since now ≤ cap :=
  min_le_left _ _

theorem earned_mono (hrate : 0 ≤ rate) (since : K) {s t : K} (hst : s ≤ t)
    (w : Wallet K) : w.earned cap rate since s ≤ w.earned cap rate since t := by
  have hgain := mul_le_mul_of_nonneg_left (sub_le_sub_right hst since) hrate
  exact min_le_min_left cap (by linarith)

theorem Within.paid_le_earned {w : Wallet K} (hw : w.Within cap) (hrate : 0 ≤ rate)
    {since now : K} (h : since ≤ now) : w.paid ≤ w.earned cap rate since now := by
  have hgain := mul_nonneg hrate (sub_nonneg.mpr h)
  have hbanked := hw.banked_nonneg
  exact le_min hw.paid_le (by linarith)

theorem Within.settle {w : Wallet K} (hw : w.Within cap) (hrate : 0 ≤ rate)
    (hle : ∀ t, boundary t ≤ t) {since now : K} (h : since ≤ now) :
    (w.settle boundary cap rate since now).Within cap := by
  by_cases hcross : since < boundary now
  · have hpaid : (w.settle boundary cap rate since now).paid
        = w.earned cap rate since (boundary now) := if_pos hcross
    refine ⟨?_, ?_, ?_⟩
    · rw [hpaid]
      exact le_trans hw.paid_nonneg (hw.paid_le_earned hrate hcross.le)
    · rw [hpaid]
      exact earned_le _ _ _
    · have hmono : w.earned cap rate since (boundary now) ≤ w.earned cap rate since now :=
        earned_mono hrate since (hle now) w
      show 0 ≤ _ - (w.settle boundary cap rate since now).paid
      rw [hpaid]
      exact sub_nonneg.mpr hmono
  · have hpaid : (w.settle boundary cap rate since now).paid = w.paid := if_neg hcross
    refine ⟨?_, ?_, ?_⟩
    · rw [hpaid]
      exact hw.paid_nonneg
    · rw [hpaid]
      exact hw.paid_le
    · show 0 ≤ _ - (w.settle boundary cap rate since now).paid
      rw [hpaid]
      exact sub_nonneg.mpr (hw.paid_le_earned hrate h)

end Wallet

end Wallets

end Instalments
