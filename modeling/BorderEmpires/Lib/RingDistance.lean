/-
  BorderEmpires.Lib.RingDistance
  **DISTANCES AROUND A RING.**

  Positions are integers taken modulo `size`, and the distance of two of
  them is the shorter way round, read off their difference.
-/
import Mathlib.Algebra.Order.Ring.Int

namespace RingDistance

variable {size r : Nat} {a b c d : Int}

theorem le_of_offset (hd : d.natAbs ≤ r) (h : a % size = (b + d) % size) :
    min ((a - b).natAbs : Int) (size - (a - b).natAbs) ≤ r := by
  obtain ⟨k, hk⟩ := Int.dvd_of_emod_eq_zero (Int.emod_eq_emod_iff_emod_sub_eq_zero.mp h)
  rcases lt_trichotomy k 0 with hneg | rfl | hpos
  · have hturn : (size : Int) * k ≤ size * (-1) := by
      apply Int.mul_le_mul_of_nonneg_left <;> omega
    omega
  · omega
  · have hturn : (size : Int) * 1 ≤ size * k := by
      apply Int.mul_le_mul_of_nonneg_left <;> omega
    omega

theorem offset_of_le (hnear : (a - b).natAbs ≤ size)
    (h : min ((a - b).natAbs : Int) (size - (a - b).natAbs) ≤ r) :
    ∃ d : Int, d.natAbs ≤ r ∧ a % size = (b + d) % size := by
  by_cases hplain : ((a - b).natAbs : Int) ≤ r
  · refine ⟨a - b, by omega, ?_⟩
    congr 1
    omega
  · -- the short way leads across the edge
    rcases le_total b a with hle | hle
    · refine ⟨a - b - size, by omega, ?_⟩
      rw [show b + (a - b - size) = a - size by omega, Int.sub_emod_right]
    · refine ⟨a - b + size, by omega, ?_⟩
      rw [show b + (a - b + size) = a + size by omega, Int.add_emod_right]

theorem le_add_step (hnear : (b - c).natAbs ≤ size) (h : b % size = (a + d) % size) :
    min ((a - c).natAbs : Int) (size - (a - c).natAbs)
      ≤ d.natAbs + min ((b - c).natAbs : Int) (size - (b - c).natAbs) := by
  obtain ⟨e, he, hoff⟩ := offset_of_le
    (r := (min ((b - c).natAbs : Int) (size - (b - c).natAbs)).toNat) hnear (by omega)
  have hback : a % size = (c + (e - d)) % size := by
    rw [← Int.add_sub_assoc, Int.sub_emod, ← hoff, h, ← Int.sub_emod, Int.add_sub_cancel]
  have hle := le_of_offset (r := e.natAbs + d.natAbs) (by omega) hback
  omega

end RingDistance
