import Mathlib.Algebra.Field.ZMod
import Mathlib.Algebra.Polynomial.Coeff
import Mathlib.Algebra.Polynomial.FieldDivision
import Mathlib.Data.Nat.Bitwise
import Mathlib.Data.Nat.Size
import Mathlib.RingTheory.AdjoinRoot

/-! Natural numbers as polynomials over `ℤ/2`: bit `i` of `n` is the coefficient of `X ^ i`. XOR is
    addition and a left shift is multiplication by `X`, so an arithmetic that shifts, XORs and
    reduces by a fixed modulus `m` is arithmetic in the quotient by `toPoly m`. `residue m` is the
    map into that quotient; below the modulus's top bit it is injective, which is what carries ring
    laws from the quotient back to the numbers.

        n : ℕ  ──toPoly──▶  (ℤ/2)[X]  ──AdjoinRoot.mk──▶  (ℤ/2)[X] / toPoly m -/

namespace IncomUdon.Lib.BinaryPoly
open Polynomial

/-- The polynomial over `ℤ/2` whose coefficients are the bits of `n`. -/
noncomputable def toPoly (n : ℕ) : (ZMod 2)[X] :=
  ∑ i ∈ Finset.range n.size, if n.testBit i then X ^ i else 0

/-- A bit as an element of `ℤ/2`. -/
def bit2 (b : Bool) : ZMod 2 := if b then 1 else 0

theorem bit2_xor (a b : Bool) : bit2 (a ^^ b) = bit2 a + bit2 b := by
  cases a <;> cases b <;> decide

theorem bit2_injective : Function.Injective bit2 := by
  intro a b h
  cases a <;> cases b <;> first | rfl | exact absurd h (by decide)

theorem coeff_toPoly (n i : ℕ) : (toPoly n).coeff i = bit2 (n.testBit i) := by
  have hterm : ∀ j, (if n.testBit j then (X : (ZMod 2)[X]) ^ j else 0).coeff i
      = if j = i then bit2 (n.testBit i) else 0 := by
    intro j
    rcases eq_or_ne j i with rfl | hne
    · cases n.testBit j <;> simp [bit2]
    · cases n.testBit j <;> simp [hne, coeff_X_pow, Ne.symm hne]
  rw [toPoly, finsetSum_coeff, Finset.sum_congr rfl fun j _ => hterm j]
  simp only [Finset.sum_ite_eq', Finset.mem_range]
  split
  · rfl
  · next hlt =>
    have hbit : n.testBit i = false :=
      Nat.testBit_lt_two_pow (Nat.size_le.mp (not_lt.mp hlt))
    rw [hbit]; rfl

theorem toPoly_injective : Function.Injective toPoly := by
  intro a b h
  refine Nat.eq_of_testBit_eq fun i => bit2_injective ?_
  rw [← coeff_toPoly, ← coeff_toPoly, h]

@[simp] theorem toPoly_zero : toPoly 0 = 0 := by simp [toPoly]

@[simp] theorem toPoly_one : toPoly 1 = 1 := by
  ext i
  rw [coeff_toPoly, coeff_one]
  cases i <;> simp [bit2, Nat.testBit_succ]

theorem toPoly_xor (a b : ℕ) : toPoly (a ^^^ b) = toPoly a + toPoly b := by
  ext i
  rw [coeff_add, coeff_toPoly, coeff_toPoly, coeff_toPoly, Nat.testBit_xor, bit2_xor]

/-- One left shift multiplies by `X`. -/
theorem toPoly_shiftLeft_one (a : ℕ) : toPoly (a <<< 1) = X * toPoly a := by
  ext i
  rw [coeff_toPoly, Nat.testBit_shiftLeft]
  cases i with
  | zero => simp [bit2]
  | succ i => rw [coeff_X_mul, coeff_toPoly]; simp

/-- A number is its lowest bit plus `X` times the rest. -/
theorem toPoly_shiftRight (a : ℕ) :
    toPoly a = C (bit2 (a.testBit 0)) + X * toPoly (a >>> 1) := by
  ext i
  cases i with
  | zero => simp [coeff_toPoly]
  | succ i => simp [coeff_toPoly, coeff_C_succ, Nat.testBit_shiftRight, Nat.add_comm]

theorem degree_toPoly_lt {n k : ℕ} (h : n < 2 ^ k) : (toPoly n).degree < k := by
  rw [degree_lt_iff_coeff_zero]
  intro i hi
  rw [coeff_toPoly, Nat.testBit_lt_two_pow (h.trans_le (Nat.pow_le_pow_right two_pos hi))]
  rfl

/-! ### Residues modulo a fixed polynomial -/

/-- The class of `n` in the quotient by the polynomial of `m`. -/
noncomputable def residue (m n : ℕ) : AdjoinRoot (toPoly m) := AdjoinRoot.mk (toPoly m) (toPoly n)

/-- The class of `X`: what one left shift multiplies by. -/
noncomputable def shift (m : ℕ) : AdjoinRoot (toPoly m) := AdjoinRoot.mk (toPoly m) X

variable (m : ℕ)

@[simp] theorem residue_zero : residue m 0 = 0 := by simp [residue]

@[simp] theorem residue_one : residue m 1 = 1 := by simp [residue]

@[simp] theorem residue_self : residue m m = 0 := AdjoinRoot.mk_self

theorem residue_xor (a b : ℕ) : residue m (a ^^^ b) = residue m a + residue m b := by
  rw [residue, toPoly_xor, map_add]; rfl

theorem residue_shiftLeft_one (a : ℕ) : residue m (a <<< 1) = shift m * residue m a := by
  rw [residue, toPoly_shiftLeft_one, map_mul]; rfl

theorem residue_shiftRight (a : ℕ) :
    residue m a = (if a.testBit 0 then 1 else 0) + shift m * residue m (a >>> 1) := by
  have h := congrArg (AdjoinRoot.mk (toPoly m)) (toPoly_shiftRight a)
  rw [map_add, map_mul] at h
  rw [residue, h]
  cases a.testBit 0 <;> simp [bit2, residue, shift]

/-- Every class is its own negative. -/
theorem residue_add_self (x : AdjoinRoot (toPoly m)) : x + x = 0 := by
  obtain ⟨p, rfl⟩ := AdjoinRoot.mk_surjective x
  rw [← map_add, CharTwo.add_self_eq_zero, map_zero]

/-- Below the top bit of the modulus, distinct numbers lie in distinct classes. -/
theorem residue_injOn {k : ℕ} (hk : m.testBit k) :
    Set.InjOn (residue m) {n | n < 2 ^ k} := by
  intro a ha b hb h
  have hdvd : toPoly m ∣ toPoly (a ^^^ b) := by
    rw [← AdjoinRoot.mk_eq_zero]
    have hsum := residue_xor m a b
    rw [h, residue_add_self] at hsum
    exact hsum
  have hdeg : (toPoly (a ^^^ b)).degree < (toPoly m).degree := by
    refine (degree_toPoly_lt (Nat.xor_lt_two_pow ha hb)).trans_le ?_
    refine le_degree_of_ne_zero ?_
    rw [coeff_toPoly, hk]; decide
  have hzero : toPoly (a ^^^ b) = toPoly 0 := by
    rw [toPoly_zero]; exact eq_zero_of_dvd_of_degree_lt hdvd hdeg
  exact Nat.xor_eq_zero_iff.mp (toPoly_injective hzero)

/-- Below the top bit of the modulus, a number in the class of a polynomial is its remainder. -/
theorem toPoly_eq_mod {k n : ℕ} (hk : m.testBit k) (hn : n < 2 ^ k) {p : (ZMod 2)[X]}
    (h : residue m n = AdjoinRoot.mk (toPoly m) p) : toPoly n = p % toPoly m := by
  have hle : (k : WithBot ℕ) ≤ (toPoly m).degree := by
    refine le_degree_of_ne_zero ?_
    rw [coeff_toPoly, hk]; decide
  have hne : toPoly m ≠ 0 := by
    rintro hzero
    rw [hzero, degree_zero] at hle
    exact absurd hle (by simp)
  calc toPoly n = toPoly n % toPoly m :=
        ((mod_eq_self_iff hne).mpr ((degree_toPoly_lt hn).trans_le hle)).symm
    _ = p % toPoly m := mod_eq_of_dvd_sub (AdjoinRoot.mk_eq_mk.mp h)

end IncomUdon.Lib.BinaryPoly
