/-
  BorderEmpires.Lib.Escrow
  **HOLDS AGAINST ACCOUNTS, AND THE LEDGER THAT ADDS THEM UP.**

  Every hold charges an amount to each account.  A ledger is kept beside
  the holds, credited when a hold is placed and debited when one is
  released; it is balanced when every account shows the sum of what the
  holds charge to it.  Nothing ties the two together, so each rule says
  what a move does to the balance whether or not the ledger follows.
-/
import Mathlib.Algebra.Order.BigOperators.Group.List
import Mathlib.Algebra.Order.Monoid.Canonical.Defs
import Mathlib.Algebra.Order.Sub.Basic
import BorderEmpires.Lib.Ledger

universe u v w x

namespace Escrow

variable {I : Type u} {H : Type v} {K : Type w} {A : Type x} [DecidableEq I] [AddCommMonoid A]

/-- What all holds charge to `k`. -/
def held (holds : InsertionMap I H) (charge : H → K → A) (k : K) : A :=
  holds.total (fun _ h => charge h k)

/-- What the hold under `i` charges to `k`, nothing when there is none. -/
def heldUnder (holds : InsertionMap I H) (charge : H → K → A) (i : I) (k : K) : A :=
  holds.share (fun _ h => charge h k) i

theorem heldUnder_of_get {holds : InsertionMap I H} {i : I} {h : H} (charge : H → K → A)
    (hget : holds.get i = some h) (k : K) : heldUnder holds charge i k = charge h k := by
  unfold heldUnder InsertionMap.share
  rw [hget, Option.map_some, Option.getD_some]

theorem heldUnder_of_none {holds : InsertionMap I H} {i : I} (charge : H → K → A)
    (hget : holds.get i = none) (k : K) : heldUnder holds charge i k = 0 := by
  unfold heldUnder InsertionMap.share
  rw [hget, Option.map_none, Option.getD_none]

/-- **Dropping a hold** gives back what it charged. -/
theorem held_void (holds : InsertionMap I H) (charge : H → K → A) (i : I) (k : K) :
    held (holds.erase i) charge k + heldUnder holds charge i k = held holds charge k :=
  holds.total_erase i (fun _ h => charge h k)

/-- **Placing a hold** in the place of the one under the same name. -/
theorem held_place (holds : InsertionMap I H) (charge : H → K → A) (i : I) (h : H) (k : K) :
    held ((holds.erase i).set i h) charge k + heldUnder holds charge i k
      = held holds charge k + charge h k := by
  have hset := (holds.erase i).total_set i h (fun _ h => charge h k)
  have hnone : (holds.erase i).share (fun _ h => charge h k) i = 0 :=
    heldUnder_of_none charge (holds.get_erase_self i) k
  rw [hnone, add_zero] at hset
  have hvoid := held_void holds charge i k
  calc held ((holds.erase i).set i h) charge k + heldUnder holds charge i k
      = held (holds.erase i) charge k + charge h k + heldUnder holds charge i k := by
        show ((holds.erase i).set i h).total (fun _ h => charge h k) + _ = _
        rw [hset]
        rfl
    _ = held (holds.erase i) charge k + heldUnder holds charge i k + charge h k := by
        rw [add_right_comm]
    _ = held holds charge k + charge h k := by rw [hvoid]

theorem heldUnder_erase (holds : InsertionMap I H) (charge : H → K → A) (i j : I) (k : K) :
    heldUnder (holds.erase i) charge j k = if i = j then 0 else heldUnder holds charge j k := by
  unfold heldUnder InsertionMap.share
  rw [InsertionMap.get_erase]
  split <;> rfl

section Ordered

variable [LinearOrder A] [CanonicallyOrderedAdd A] [IsOrderedCancelAddMonoid A]

omit [IsOrderedCancelAddMonoid A] in
theorem heldUnder_le (holds : InsertionMap I H) (charge : H → K → A) (i : I) (k : K) :
    heldUnder holds charge i k ≤ held holds charge k := by
  rw [← held_void holds charge i k]
  exact le_add_self

omit [IsOrderedCancelAddMonoid A] in
theorem held_le_sum (holds : InsertionMap I H) (charge : H → K → A) (name : H → I)
    (hs : List H) (hnamed : ∀ i h, holds.get i = some h → name h = i)
    (hlisted : ∀ i h, holds.get i = some h → h ∈ hs) (k : K) :
    held holds charge k ≤ (hs.map (fun h => charge h k)).sum := by
  have hentry : ∀ e ∈ holds.entries, holds.get e.1 = some e.2 :=
    fun e he => (holds.mem_entries_iff e.1 e.2).mp he
  have hnames : (holds.entries.map Prod.snd).map name = holds.entries.map Prod.fst := by
    rw [List.map_map]
    exact List.map_congr_left (fun e he => hnamed e.1 e.2 (hentry e he))
  -- no hold is there under two names, so the holds are part of the list
  have hnodup : (holds.entries.map Prod.snd).Nodup := by
    refine List.Nodup.of_map name ?_
    rw [hnames]
    exact holds.nodupKeys
  have hsub : holds.entries.map Prod.snd ⊆ hs := by
    intro h hh
    obtain ⟨e, he, rfl⟩ := List.mem_map.mp hh
    exact hlisted e.1 e.2 (hentry e he)
  obtain ⟨l, hperm, hsublist⟩ := List.subperm_of_subset hnodup hsub
  have hsum : held holds charge k = (l.map (fun h => charge h k)).sum := by
    have hmapped : (holds.entries.map Prod.snd).map (fun h => charge h k)
        = holds.entries.map (fun e => charge e.2 k) := by
      rw [List.map_map]
      rfl
    unfold held InsertionMap.total
    rw [← hmapped]
    exact (hperm.map _).sum_eq.symm
  rw [hsum]
  exact (hsublist.map _).sum_le_sum (fun _ _ => zero_le)

omit [LinearOrder A] [CanonicallyOrderedAdd A] [IsOrderedCancelAddMonoid A] in
theorem held_eq_zero {holds : InsertionMap I H} {charge : H → K → A} {k : K}
    (h : ∀ i x, holds.get i = some x → charge x k = 0) : held holds charge k = 0 := by
  have hzero : holds.total (fun _ x => charge x k) = holds.total (fun _ _ => (0 : A)) := by
    refine holds.total_congr (fun i x hix => ?_)
    exact h i x ((holds.mem_entries_iff i x).mp hix)
  unfold held
  rw [hzero]
  unfold InsertionMap.total
  simp

def voidAll (holds : InsertionMap I H) (is : List I) : InsertionMap I H :=
  is.foldl (fun m i => m.erase i) holds

omit [IsOrderedCancelAddMonoid A] in
theorem held_voidAll_le (charge : H → K → A) (is : List I) :
    ∀ holds : InsertionMap I H, ∀ k, held (voidAll holds is) charge k ≤ held holds charge k := by
  induction is with
  | nil =>
      intro holds k
      exact le_refl _
  | cons i rest ih =>
      intro holds k
      refine le_trans (ih (holds.erase i) k) ?_
      rw [← held_void holds charge i k]
      exact le_self_add

theorem held_voidAll_eq_iff (charge : H → K → A) (k : K) (is : List I) :
    ∀ holds : InsertionMap I H,
      held (voidAll holds is) charge k = held holds charge k
        ↔ ∀ i ∈ is, heldUnder holds charge i k = 0 := by
  induction is with
  | nil =>
      intro holds
      exact ⟨fun _ i hi => absurd hi List.not_mem_nil, fun _ => rfl⟩
  | cons i rest ih =>
      intro holds
      have hvoid := held_void holds charge i k
      have hle := held_voidAll_le charge rest (holds.erase i) k
      constructor
      · intro heq j hj
        -- the first drop and the later ones each leave the sum alone
        have hge : held holds charge k ≤ held (holds.erase i) charge k := by
          rw [← heq]
          exact hle
        have hi : heldUnder holds charge i k = 0 := by
          rw [← hvoid] at hge
          exact nonpos_iff_eq_zero.mp (by simpa using hge)
        have hrest : held (voidAll (holds.erase i) rest) charge k
            = held (holds.erase i) charge k := by
          rw [hi, add_zero] at hvoid
          exact heq.trans hvoid.symm
        cases List.mem_cons.mp hj with
        | inl hji => rw [hji, hi]
        | inr hmem =>
            have hj' := (ih (holds.erase i)).mp hrest j hmem
            rw [heldUnder_erase] at hj'
            by_cases hij : i = j
            · rw [← hij, hi]
            · rw [if_neg hij] at hj'
              exact hj'
      · intro hall
        have hi : heldUnder holds charge i k = 0 := hall i List.mem_cons_self
        have hrest : held (voidAll (holds.erase i) rest) charge k
            = held (holds.erase i) charge k := by
          apply (ih (holds.erase i)).mpr
          intro j hj
          rw [heldUnder_erase]
          split
          · rfl
          · exact hall j (List.mem_cons_of_mem _ hj)
        rw [hi, add_zero] at hvoid
        exact hrest.trans hvoid

end Ordered

/-! ## §2. The ledger beside the holds. -/

variable [DecidableEq K]

def Balanced (ledger : InsertionMap K A) (holds : InsertionMap I H) (charge : H → K → A) : Prop :=
  ∀ k, Ledger.balance ledger k = held holds charge k

section Ordered

variable [LinearOrder A] [CanonicallyOrderedAdd A] [IsOrderedCancelAddMonoid A]

omit [CanonicallyOrderedAdd A] in
/-- **Placing with credit** keeps the balance exactly when the name was
not in use for a hold that charges anything. -/
theorem balanced_place_iff {ledger ledger' : InsertionMap K A} {holds : InsertionMap I H}
    {charge : H → K → A} (hbal : Balanced ledger holds charge) (i : I) (h : H)
    (hledger : ∀ k, Ledger.balance ledger' k = Ledger.balance ledger k + charge h k) :
    Balanced ledger' ((holds.erase i).set i h) charge ↔ ∀ k, heldUnder holds charge i k = 0 := by
  have hiff : ∀ k, Ledger.balance ledger' k = held ((holds.erase i).set i h) charge k
      ↔ heldUnder holds charge i k = 0 := by
    intro k
    have hplace := held_place holds charge i h k
    rw [hledger k, hbal k, ← hplace]
    exact add_eq_left
  exact forall_congr' hiff

/-- **Dropping with a debit** keeps the balance exactly when the debit, cut
off at what the account shows, is what the dropped hold charged. -/
theorem balanced_release_iff [Sub A] [OrderedSub A] {ledger ledger' : InsertionMap K A}
    {holds : InsertionMap I H} {charge : H → K → A} (hbal : Balanced ledger holds charge) (i : I)
    (released : K → A)
    (hledger : ∀ k, Ledger.balance ledger' k = Ledger.balance ledger k - released k) :
    Balanced ledger' (holds.erase i) charge
      ↔ ∀ k, min (released k) (Ledger.balance ledger k) = heldUnder holds charge i k := by
  have hiff : ∀ k, Ledger.balance ledger' k = held (holds.erase i) charge k
      ↔ min (released k) (Ledger.balance ledger k) = heldUnder holds charge i k := by
    intro k
    have hvoid := held_void holds charge i k
    rw [hledger k, hbal k]
    -- both sides complete the same sum
    have hsplit : held holds charge k - released k + min (released k) (held holds charge k)
        = held holds charge k := by
      rw [min_comm]
      exact tsub_add_min
    constructor
    · intro h
      rw [h, ← hvoid] at hsplit
      rw [hvoid] at hsplit
      exact add_left_cancel (hsplit.trans hvoid.symm)
    · intro h
      rw [h] at hsplit
      exact add_right_cancel (hsplit.trans hvoid.symm)
  exact forall_congr' hiff

/-- **Dropping behind the ledger's back** keeps the balance exactly when no
dropped hold charged anything. -/
theorem balanced_voidAll_iff {ledger : InsertionMap K A} {holds : InsertionMap I H}
    {charge : H → K → A} (hbal : Balanced ledger holds charge) (is : List I) :
    Balanced ledger (voidAll holds is) charge ↔ ∀ i ∈ is, ∀ k, heldUnder holds charge i k = 0 := by
  have hiff : ∀ k, Ledger.balance ledger k = held (voidAll holds is) charge k
      ↔ ∀ i ∈ is, heldUnder holds charge i k = 0 := by
    intro k
    rw [hbal k, eq_comm]
    exact held_voidAll_eq_iff charge k is holds
  constructor
  · intro h i hi k
    exact (hiff k).mp (h k) i hi
  · intro h k
    exact (hiff k).mpr (fun i hi => h i hi k)

end Ordered

end Escrow
