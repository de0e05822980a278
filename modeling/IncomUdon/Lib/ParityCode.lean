import Mathlib.Algebra.BigOperators.Group.Finset.Basic
import Mathlib.Algebra.Field.Basic
import Mathlib.Algebra.Module.BigOperators
import Mathlib.Data.Fintype.BigOperators
import Mathlib.Tactic.Module

/-! A systematic code with two parity units over a field `K`: a block is a family `x : ι → V` of
    vectors, `P` is its sum and `Q` its sum weighted by coefficients `c`. When the coefficients are
    distinct and nonzero the code has minimum distance three, so any two erased units are
    determined; `solveFirst` and `solveSecond` are the closed formulas that compute them.

        P = ∑ i, x i           rp = u + v
        Q = ∑ i, c i • x i     rq = a • u + b • v   ──▶   v = (b - a)⁻¹ • (rq - a • rp), u = rp - v -/

namespace IncomUdon.Lib.ParityCode
open Finset

variable {K V ι : Type*} [Field K] [AddCommGroup V] [Module K V] [Fintype ι]

/-- The unweighted parity unit. -/
def parityP (x : ι → V) : V := ∑ i, x i

/-- The weighted parity unit. -/
def parityQ (c : ι → K) (x : ι → V) : V := ∑ i, c i • x i

/-- What an erased unit of coefficient `b` must be, next to one of coefficient `a`. -/
def solveSecond (a b : K) (rp rq : V) : V := (b - a)⁻¹ • (rq - a • rp)

/-- What the other erased unit must be. -/
def solveFirst (a b : K) (rp rq : V) : V := rp - solveSecond a b rp rq

theorem parityP_sub (x y : ι → V) : parityP x - parityP y = ∑ i, (x i - y i) := by
  simp [parityP, sum_sub_distrib]

theorem parityQ_sub (c : ι → K) (x y : ι → V) :
    parityQ c x - parityQ c y = ∑ i, c i • (x i - y i) := by
  simp [parityQ, smul_sub, sum_sub_distrib]

/-! ### Erasures -/

section Erasures
variable [DecidableEq ι]

/-- The block with the units of `S` replaced by zero: what a receiver can still sum. -/
def erase (S : Finset ι) (x : ι → V) : ι → V := fun i => if i ∈ S then 0 else x i

/-- `P` less the sum of the known units is the sum of the erased ones. -/
theorem parityP_sub_erase (S : Finset ι) (x : ι → V) :
    parityP x - parityP (erase S x) = ∑ i ∈ S, x i := by
  rw [parityP_sub, ← sum_subset (subset_univ S)]
  · exact sum_congr rfl fun i hi => by rw [erase, if_pos hi, sub_zero]
  · exact fun i _ hi => by rw [erase, if_neg hi, sub_self]

/-- `Q` less the weighted sum of the known units is the weighted sum of the erased ones. -/
theorem parityQ_sub_erase (c : ι → K) (S : Finset ι) (x : ι → V) :
    parityQ c x - parityQ c (erase S x) = ∑ i ∈ S, c i • x i := by
  rw [parityQ_sub, ← sum_subset (subset_univ S)]
  · exact sum_congr rfl fun i hi => by rw [erase, if_pos hi, sub_zero]
  · exact fun i _ hi => by rw [erase, if_neg hi, sub_self, smul_zero]

end Erasures

variable {a b : K} {u v rp rq : V}

/-- The closed formula recovers the second unit from the two residuals. -/
theorem solveSecond_eq (hab : a ≠ b) : solveSecond a b (u + v) (a • u + b • v) = v := by
  have hne : b - a ≠ 0 := sub_ne_zero.mpr hab.symm
  have hres : a • u + b • v - a • (u + v) = (b - a) • v := by module
  rw [solveSecond, hres, inv_smul_smul₀ hne]

theorem solveFirst_eq (hab : a ≠ b) : solveFirst a b (u + v) (a • u + b • v) = u := by
  rw [solveFirst, solveSecond_eq hab, add_sub_cancel_right]

/-- The two solutions have the residuals they were computed from. -/
theorem solve_sum : solveFirst a b rp rq + solveSecond a b rp rq = rp := sub_add_cancel _ _

theorem solve_weighted (hab : a ≠ b) :
    a • solveFirst a b rp rq + b • solveSecond a b rp rq = rq := by
  have hne : b - a ≠ 0 := sub_ne_zero.mpr hab.symm
  have hsplit : a • solveFirst a b rp rq + b • solveSecond a b rp rq
      = a • rp + (b - a) • solveSecond a b rp rq := by
    rw [solveFirst]; module
  rw [hsplit, solveSecond, smul_inv_smul₀ hne, add_sub_cancel]

/-- A block whose two erased units solve for what the others leave of the parities has these
    parities. -/
theorem parity_of_solved [DecidableEq ι] {c : ι → K} {x : ι → V} {j k : ι} {p q : V} (hjk : j ≠ k)
    (hc : c j ≠ c k)
    (hj : x j = solveFirst (c j) (c k) (p - parityP (erase {j, k} x))
      (q - parityQ c (erase {j, k} x)))
    (hk : x k = solveSecond (c j) (c k) (p - parityP (erase {j, k} x))
      (q - parityQ c (erase {j, k} x))) :
    parityP x = p ∧ parityQ c x = q := by
  have hsum := parityP_sub_erase {j, k} x
  have hweighted := parityQ_sub_erase c {j, k} x
  rw [sum_pair hjk, hj, hk, solve_sum] at hsum
  rw [sum_pair hjk, hj, hk, solve_weighted hc] at hweighted
  exact ⟨sub_left_inj.mp hsum, sub_left_inj.mp hweighted⟩

/-! ### Distance -/

section Distance
variable [DecidableEq V] {c : ι → K} {x y : ι → V}

/-- The units in which two blocks differ. -/
def support (x y : ι → V) : Finset ι := {i | x i ≠ y i}

theorem sum_support (w : ι → V) (hw : ∀ i, x i = y i → w i = 0) :
    ∑ i, w i = ∑ i ∈ support x y, w i := by
  symm
  refine sum_subset (subset_univ _) fun i _ hi => hw i ?_
  simpa [support] using hi

theorem sub_ne_zero_of_mem {i : ι} (hi : i ∈ support x y) : x i - y i ≠ 0 :=
  sub_ne_zero.mpr (by simpa [support] using hi)

theorem parityP_sub_support : parityP x - parityP y = ∑ i ∈ support x y, (x i - y i) := by
  rw [parityP_sub]; exact sum_support _ fun i h => by rw [h, sub_self]

theorem parityQ_sub_support :
    parityQ c x - parityQ c y = ∑ i ∈ support x y, c i • (x i - y i) := by
  rw [parityQ_sub]; exact sum_support _ fun i h => by rw [h, sub_self, smul_zero]

/-- Blocks that differ in one unit differ in both parities. -/
theorem parity_ne_of_support_singleton (hc : ∀ i, c i ≠ 0) {j : ι} (h : support x y = {j}) :
    parityP x ≠ parityP y ∧ parityQ c x ≠ parityQ c y := by
  have hj : x j - y j ≠ 0 := sub_ne_zero_of_mem (h ▸ mem_singleton_self j)
  constructor
  · rw [← sub_ne_zero, parityP_sub_support, h, sum_singleton]; exact hj
  · rw [← sub_ne_zero, parityQ_sub_support, h, sum_singleton]; exact smul_ne_zero (hc j) hj

/-- Blocks that differ in two units differ in a parity. -/
theorem parity_ne_of_support_pair [DecidableEq ι] (hc : Function.Injective c) {j k : ι} (hjk : j ≠ k)
    (h : support x y = {j, k}) : parityP x ≠ parityP y ∨ parityQ c x ≠ parityQ c y := by
  by_contra hcon
  rw [not_or, not_not, not_not] at hcon
  have hP : (x j - y j) + (x k - y k) = 0 := by
    rw [← sum_pair hjk (f := fun i => x i - y i), ← h, ← parityP_sub_support, hcon.1, sub_self]
  have hQ : c j • (x j - y j) + c k • (x k - y k) = 0 := by
    rw [← sum_pair hjk (f := fun i => c i • (x i - y i)), ← h, ← parityQ_sub_support, hcon.2,
      sub_self]
  have hk : x k - y k = 0 := by
    rw [← solveSecond_eq (hc.ne hjk) (u := x j - y j) (v := x k - y k), hP, hQ]
    simp [solveSecond]
  exact sub_ne_zero_of_mem (h ▸ mem_insert_of_mem (mem_singleton_self k)) hk

/-- Different blocks differ in at least three of their units and parities. -/
theorem three_le_distance [DecidableEq ι] (hc : Function.Injective c) (hc0 : ∀ i, c i ≠ 0)
    (hxy : x ≠ y) :
    3 ≤ (support x y).card + (if parityP x = parityP y then 0 else 1)
      + (if parityQ c x = parityQ c y then 0 else 1) := by
  have hpos : 0 < (support x y).card := by
    obtain ⟨i, hi⟩ := Function.ne_iff.mp hxy
    exact card_pos.mpr ⟨i, by simpa [support] using hi⟩
  rcases Nat.lt_or_ge 2 (support x y).card with h3 | h2
  · omega
  rcases Nat.lt_or_ge 1 (support x y).card with h1 | h1
  · obtain ⟨j, k, hjk, h⟩ := card_eq_two.mp (le_antisymm h2 h1)
    rcases parity_ne_of_support_pair hc hjk h with hne | hne <;>
      rw [if_neg hne] <;> omega
  · obtain ⟨j, h⟩ := card_eq_one.mp (le_antisymm h1 hpos)
    obtain ⟨hP, hQ⟩ := parity_ne_of_support_singleton hc0 h
    rw [if_neg hP, if_neg hQ]; omega

end Distance

end IncomUdon.Lib.ParityCode
