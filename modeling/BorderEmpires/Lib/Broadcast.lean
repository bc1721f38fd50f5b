/-
  BorderEmpires.Lib.Broadcast
  **SUMS RECEIVED FROM ONESELF AND ONE'S FRIENDS.**

  Every party contributes an amount to itself and to each of its friends;
  what a party receives is the sum over its own audience, friendship being
  mutual.  The rules say what is received after one party's contribution
  changes (`received_move`), and after two parties become or stop being
  friends (`received_befriend`, `received_unfriend`).
-/
import Mathlib.Algebra.BigOperators.Group.List.Lemmas
import Mathlib.Algebra.Order.BigOperators.Group.List
import Mathlib.Algebra.Order.Monoid.Canonical.Defs
import Mathlib.Algebra.Order.Group.Nat
import Mathlib.Algebra.Order.Ring.Nat

universe u

namespace Broadcast

variable {P : Type u}

def audience (friends : P → List P) (p : P) : List P := p :: friends p

/-- What `v` receives. -/
def received (friends : P → List P) (c : P → Nat) (v : P) : Nat := ((audience friends v).map c).sum

structure Mutual (friends : P → List P) : Prop where
  nodup : ∀ p, (friends p).Nodup
  irrefl : ∀ p, p ∉ friends p
  symm : ∀ p q, q ∈ friends p → p ∈ friends q

theorem Mutual.nodup_audience {friends : P → List P} (h : Mutual friends) (p : P) :
    (audience friends p).Nodup :=
  List.nodup_cons.mpr ⟨h.irrefl p, h.nodup p⟩

theorem Mutual.mem_audience_comm {friends : P → List P} (h : Mutual friends) (p v : P) :
    v ∈ audience friends p ↔ p ∈ audience friends v := by
  have hone : ∀ a b, b ∈ audience friends a → a ∈ audience friends b := by
    intro a b hb
    cases List.mem_cons.mp hb with
    | inl heq =>
        rw [heq]
        exact List.mem_cons_self
    | inr hmem => exact List.mem_cons_of_mem _ (h.symm a b hmem)
  exact ⟨hone p v, hone v p⟩

theorem received_congr {friends : P → List P} {c c' : P → Nat} (h : ∀ p, c p = c' p) (v : P) :
    received friends c v = received friends c' v := by
  rw [funext h]

theorem le_received {friends : P → List P} (c : P → Nat) {p v : P}
    (hp : p ∈ audience friends v) : c p ≤ received friends c v :=
  List.le_sum_of_mem (List.mem_map_of_mem hp)

variable [DecidableEq P]

theorem sum_map_move {c c' : P → Nat} {p : P} {old new : Nat} (hmove : c' p + old = c p + new)
    (hsame : ∀ q, q ≠ p → c' q = c q) {l : List P} (hl : l.Nodup) :
    (l.map c').sum + (if p ∈ l then old else 0) = (l.map c).sum + if p ∈ l then new else 0 := by
  induction l with
  | nil => simp
  | cons a l ih =>
      rw [List.nodup_cons] at hl
      have hrest := ih hl.2
      rw [List.map_cons, List.sum_cons, List.map_cons, List.sum_cons]
      by_cases ha : a = p
      · -- the change is here, and nowhere in the rest
        subst ha
        rw [if_neg hl.1, if_neg hl.1] at hrest
        rw [if_pos List.mem_cons_self, if_pos List.mem_cons_self]
        omega
      · have hiff : p ∈ a :: l ↔ p ∈ l := by
          rw [List.mem_cons]
          exact ⟨fun h => h.resolve_left (fun he => ha he.symm), Or.inr⟩
        simp only [hiff]
        rw [hsame a ha]
        omega

/-- **One contribution changes.**  A party that takes `old` back and
counts `new` exactly when it is in the audience receives the new sum. -/
theorem received_move {friends : P → List P} (h : Mutual friends) {c c' : P → Nat} {p : P}
    {old new : Nat} (hmove : c' p + old = c p + new) (hle : old ≤ c p)
    (hsame : ∀ q, q ≠ p → c' q = c q) {v : P} {n : Nat} (hn : n = received friends c v) :
    (if v ∈ audience friends p then n - old + new else n) = received friends c' v := by
  have hsum := sum_map_move hmove hsame (h.nodup_audience v)
  have hcomm := h.mem_audience_comm p v
  by_cases hp : p ∈ audience friends v
  · have hpart : c p ≤ received friends c v := le_received c hp
    rw [if_pos hp, if_pos hp] at hsum
    rw [if_pos (hcomm.mpr hp)]
    unfold received at hn hpart ⊢
    omega
  · rw [if_neg hp, if_neg hp] at hsum
    rw [if_neg (fun hv => hp (hcomm.mp hv))]
    unfold received at hn ⊢
    omega

/-- **Two parties become friends**: each receives the other's
contribution on top. -/
theorem received_befriend {friends friends' : P → List P} {a b : P}
    (ha : friends' a = friends a ++ [b]) (hb : friends' b = friends b ++ [a])
    (hsame : ∀ p, p ≠ a → p ≠ b → friends' p = friends p) (c : P → Nat) (v : P) :
    received friends' c v
      = received friends c v + if v = a then c b else if v = b then c a else 0 := by
  unfold received audience
  by_cases hva : v = a
  · rw [if_pos hva, hva, ha]
    simp
    omega
  · by_cases hvb : v = b
    · rw [if_neg hva, if_pos hvb, hvb, hb]
      simp
      omega
    · rw [if_neg hva, if_neg hvb, hsame v hva hvb, Nat.add_zero]

theorem sum_map_filter_ne (c : P → Nat) {b : P} {l : List P} (hl : l.Nodup) (hb : b ∈ l) :
    ((l.filter (fun q => decide (q ≠ b))).map c).sum + c b = (l.map c).sum := by
  induction l with
  | nil => exact absurd hb List.not_mem_nil
  | cons a l ih =>
      rw [List.nodup_cons] at hl
      by_cases ha : a = b
      · subst ha
        have hrest : l.filter (fun q => decide (q ≠ a)) = l := by
          apply List.filter_eq_self.mpr
          intro q hq
          apply decide_eq_true
          intro hqa
          exact hl.1 (hqa ▸ hq)
        rw [List.filter_cons_of_neg (by simp), hrest, List.map_cons, List.sum_cons]
        omega
      · have hmem : b ∈ l := (List.mem_cons.mp hb).resolve_left (fun h => ha h.symm)
        rw [List.filter_cons_of_pos (by simpa using ha), List.map_cons, List.sum_cons,
          List.map_cons, List.sum_cons, ← ih hl.2 hmem]
        omega

/-- **Two parties stop being friends**: each loses the other's
contribution. -/
theorem received_unfriend {friends friends' : P → List P} (h : Mutual friends) {a b : P}
    (hab : b ∈ friends a)
    (ha : friends' a = (friends a).filter (fun q => decide (q ≠ b)))
    (hb : friends' b = (friends b).filter (fun q => decide (q ≠ a)))
    (hsame : ∀ p, p ≠ a → p ≠ b → friends' p = friends p) (c : P → Nat) (v : P) :
    received friends' c v + (if v = a then c b else if v = b then c a else 0)
      = received friends c v := by
  unfold received audience
  by_cases hva : v = a
  · rw [if_pos hva, hva, ha, List.map_cons, List.sum_cons, List.map_cons, List.sum_cons,
      ← sum_map_filter_ne c (h.nodup a) hab]
    omega
  · by_cases hvb : v = b
    · rw [if_neg hva, if_pos hvb, hvb, hb, List.map_cons, List.sum_cons, List.map_cons,
        List.sum_cons, ← sum_map_filter_ne c (h.nodup b) (h.symm a b hab)]
      omega
    · rw [if_neg hva, if_neg hvb, hsame v hva hvb, Nat.add_zero]

end Broadcast
