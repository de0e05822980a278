import IncomUdon.Fec.Gf256

/-! What the two loops of the field arithmetic compute. `gfMul` is multiplication of binary
    polynomials, reduced; `gfPow` is repeated `gfMul`. The left operand is a byte, the other operand
    and the exponent are any natural number:

        gfMul left right   left * right  mod  X^8 + X^4 + X^3 + X^2 + 1
        gfPow base e       1 * base * ... * base, with e factors

    Neither is checked on a table: both loops are read in the quotient, where the product is
    associative and commutative, and a byte is determined by its class. -/

namespace IncomUdon.Fec
open Polynomial IncomUdon.Lib.BinaryPoly

/-- `count` copies of `base`, multiplied one after the other. -/
def gfFold (base : ℕ) : ℕ → ℕ
  | 0 => 1
  | count + 1 => gfMul (gfFold base count) base

theorem toPoly_primitivePolynomial :
    toPoly primitivePolynomial = X ^ 8 + X ^ 4 + X ^ 3 + X ^ 2 + 1 := by
  have hsize : primitivePolynomial.size = 9 := by decide
  rw [toPoly, hsize]
  simp [Finset.sum_range_succ, primitivePolynomial, Nat.testBit, Nat.shiftRight_eq_div_pow]
  ring

/-- Two bytes of one class are equal. -/
theorem eq_of_residue_eq {a b : ℕ} (ha : a < 256) (hb : b < 256)
    (h : residue primitivePolynomial a = residue primitivePolynomial b) : a = b :=
  residue_injOn primitivePolynomial (k := 8) (by decide) ha hb h

/-- REMAINDER: the product of a byte and any number, as polynomials. -/
theorem toPoly_gfMul {left : ℕ} (hleft : left < 256) (right : ℕ) :
    toPoly (gfMul left right)
      = toPoly left * toPoly right % (X ^ 8 + X ^ 4 + X ^ 3 + X ^ 2 + 1) := by
  have hclass : residue primitivePolynomial (gfMul left right)
      = AdjoinRoot.mk (toPoly primitivePolynomial) (toPoly left * toPoly right) := by
    rw [residue_gfMul, map_mul]; rfl
  rw [← toPoly_primitivePolynomial]
  exact toPoly_eq_mod primitivePolynomial (k := 8) (by decide) (gfMul_lt hleft) hclass

/-! ### Powers in the quotient -/

/-- The loop multiplies `product` by the power: a set bit of the exponent takes the current square. -/
theorem residue_gfPowLoop (product base exponent : ℕ) :
    residue primitivePolynomial (gfPowLoop product base exponent)
      = residue primitivePolynomial product * residue primitivePolynomial base ^ exponent := by
  fun_induction gfPowLoop product base exponent with
  | case1 product base => rw [pow_zero, mul_one]
  | case2 product base exponent hexp ih =>
    simp only [dite_eq_ite] at ih
    rw [ih, residue_gfMul, ← pow_two, ← pow_mul]
    by_cases hodd : exponent &&& 1 ≠ 0
    · have hsplit : exponent = 2 * (exponent >>> 1) + 1 := by
        rw [Nat.and_one_is_mod] at hodd; omega
      rw [if_pos hodd, residue_gfMul, mul_assoc, ← pow_succ', ← hsplit]
    · have hsplit : exponent = 2 * (exponent >>> 1) := by
        rw [Nat.and_one_is_mod] at hodd; omega
      rw [if_neg hodd, ← hsplit]

theorem residue_gfPow (base exponent : ℕ) :
    residue primitivePolynomial (gfPow base exponent)
      = residue primitivePolynomial base ^ exponent := by
  rw [gfPow, residue_gfPowLoop, residue_one, one_mul]

theorem residue_gfFold (base count : ℕ) :
    residue primitivePolynomial (gfFold base count)
      = residue primitivePolynomial base ^ count := by
  induction count with
  | zero => rw [gfFold, residue_one, pow_zero]
  | succ count ih => rw [gfFold, residue_gfMul, ih, pow_succ]

theorem gfFold_lt (base count : ℕ) : gfFold base count < 256 := by
  induction count with
  | zero => exact (by decide : 1 < 256)
  | succ count ih => exact gfMul_lt ih

/-- REPEATED PRODUCT: square and multiply gives what one factor at a time gives. -/
theorem gfPow_eq_gfFold {base : ℕ} (hbase : base < 256) (exponent : ℕ) :
    gfPow base exponent = gfFold base exponent :=
  eq_of_residue_eq (gfPow_lt hbase) (gfFold_lt base exponent) (by rw [residue_gfPow, residue_gfFold])

/-- EXPONENTS ADD. -/
theorem gfPow_add {base : ℕ} (hbase : base < 256) (m n : ℕ) :
    gfPow base (m + n) = gfMul (gfPow base m) (gfPow base n) :=
  eq_of_residue_eq (gfPow_lt hbase) (gfMul_lt (gfPow_lt hbase))
    (by rw [residue_gfMul, residue_gfPow, residue_gfPow, residue_gfPow, pow_add])

/-- ARITHMETIC: a product is the remainder of the polynomial product and a byte, a power is the
    repeated product, and the exponents of a product of powers add, for operands of any size. -/
theorem gf_loops_correct :
    (∀ left < 256, ∀ right, gfMul left right < 256 ∧
      toPoly (gfMul left right)
        = toPoly left * toPoly right % (X ^ 8 + X ^ 4 + X ^ 3 + X ^ 2 + 1)) ∧
    (∀ base < 256, ∀ exponent, gfPow base exponent = gfFold base exponent) ∧
    ∀ base < 256, ∀ m n, gfPow base (m + n) = gfMul (gfPow base m) (gfPow base n) :=
  ⟨fun _ hleft right => ⟨gfMul_lt hleft, toPoly_gfMul hleft right⟩,
    fun _ hbase exponent => gfPow_eq_gfFold hbase exponent,
    fun _ hbase m n => gfPow_add hbase m n⟩

/-- A byte times a number of nine bits, and the exponents 3 and 300. -/
theorem gf_loops_correct_example :
    (gfMul 0x80 0x102 < 256 ∧ toPoly (gfMul 0x80 0x102)
      = toPoly 0x80 * toPoly 0x102 % (X ^ 8 + X ^ 4 + X ^ 3 + X ^ 2 + 1)) ∧
    gfPow 2 300 = gfFold 2 300 ∧ gfPow 2 (3 + 300) = gfMul (gfPow 2 3) (gfPow 2 300) :=
  ⟨gf_loops_correct.1 0x80 (by decide) 0x102, gf_loops_correct.2.1 2 (by decide) 300,
    gf_loops_correct.2.2 2 (by decide) 3 300⟩

end IncomUdon.Fec
