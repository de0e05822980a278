import IncomUdon.Lib.BinaryPoly
import IncomUdon.Python.Outcome
import Mathlib.Algebra.Field.Defs

/-! The field arithmetic of the FEC validator. `gfMul` multiplies bit by bit and reduces by the
    primitive polynomial `0x11d` on every doubling; `gfPow` squares and multiplies; `gfInv` is the
    254th power. In the quotient by that polynomial the loops compute the product, so below 256 they
    are a field: `GF256`.

        right bit 0 ──▶ product ^= left
        every round ──▶ left <<= 1, minus 0x11d when bit 8 appears; right >>= 1 -/

namespace IncomUdon.Fec
open IncomUdon.Python IncomUdon.Lib.BinaryPoly

/-- `PRIMITIVE_POLYNOMIAL`. -/
def primitivePolynomial : ℕ := 0x11D

/-- `MAX_BLOCK_SIZE`. -/
def maxBlockSize : ℕ := 6

/-- One doubling of `left` in the loop of `gf_mul`. -/
def gfDouble (left : ℕ) : ℕ :=
  if (left <<< 1) &&& 0x100 ≠ 0 then (left <<< 1) ^^^ primitivePolynomial else left <<< 1

/-- The loop of `gf_mul`. -/
def gfMulLoop (product left right : ℕ) : ℕ :=
  if right = 0 then product
  else gfMulLoop (if right &&& 1 ≠ 0 then product ^^^ left else product) (gfDouble left) (right >>> 1)
termination_by right
decreasing_by omega

/-- `gf_mul`. -/
def gfMul (left right : ℕ) : ℕ := gfMulLoop 0 left right

/-- The loop of `gf_pow`. -/
def gfPowLoop (product base exponent : ℕ) : ℕ :=
  if exponent = 0 then product
  else gfPowLoop (if exponent &&& 1 ≠ 0 then gfMul product base else product) (gfMul base base)
    (exponent >>> 1)
termination_by exponent
decreasing_by omega

/-- `gf_pow`. -/
def gfPow (base exponent : ℕ) : ℕ := gfPowLoop 1 base exponent

/-- The message of `gf_inv(0)`. -/
def zeroInverse : Msg := ["zero has no GF(256) inverse"]

/-- `gf_inv`. -/
def gfInv (value : ℕ) : Py ℕ := do
  require (value ≠ 0) zeroInverse
  return gfPow value 254

/-- `_coefficients`. -/
def coefficients (blockSize : ℕ) : List ℕ := (List.range blockSize).map (gfPow 2)

/-! ### The multiplication loop in the quotient -/

/-- A doubling multiplies the class by `X`: the subtracted modulus is zero there. -/
theorem residue_gfDouble (left : ℕ) :
    residue primitivePolynomial (gfDouble left)
      = shift primitivePolynomial * residue primitivePolynomial left := by
  unfold gfDouble
  split
  · rw [residue_xor, residue_self, add_zero, residue_shiftLeft_one]
  · exact residue_shiftLeft_one _ _

/-- The loop adds `left * right` to `product`. -/
theorem residue_gfMulLoop (product left right : ℕ) :
    residue primitivePolynomial (gfMulLoop product left right)
      = residue primitivePolynomial product
        + residue primitivePolynomial left * residue primitivePolynomial right := by
  fun_induction gfMulLoop product left right with
  | case1 product left => simp
  | case2 product left right hright ih =>
    simp only [dite_eq_ite] at ih
    rw [ih, residue_gfDouble, residue_shiftRight _ right]
    have hbit : right.testBit 0 = decide (right &&& 1 ≠ 0) := by
      rw [Nat.testBit_zero, Nat.and_one_is_mod]; grind
    rw [hbit]
    by_cases hodd : right &&& 1 ≠ 0
    · rw [if_pos hodd, residue_xor, decide_eq_true hodd, if_pos rfl]; ring
    · rw [if_neg hodd, decide_eq_false hodd, if_neg Bool.false_ne_true]; ring

theorem residue_gfMul (left right : ℕ) :
    residue primitivePolynomial (gfMul left right)
      = residue primitivePolynomial left * residue primitivePolynomial right := by
  rw [gfMul, residue_gfMulLoop, residue_zero, zero_add]

theorem gfDouble_lt : ∀ left < 256, gfDouble left < 256 := by decide +kernel

theorem gfMulLoop_lt {product left right : ℕ} (hp : product < 256) (hl : left < 256) :
    gfMulLoop product left right < 256 := by
  fun_induction gfMulLoop product left right with
  | case1 product left => exact hp
  | case2 product left right hright ih =>
    refine ih ?_ (gfDouble_lt left hl)
    split
    · exact Nat.xor_lt_two_pow (n := 8) hp hl
    · exact hp

/-- A product with a byte is a byte. -/
theorem gfMul_lt {left right : ℕ} (hl : left < 256) : gfMul left right < 256 :=
  gfMulLoop_lt (by decide) hl

theorem gfPowLoop_lt {product base exponent : ℕ} (hp : product < 256) (hb : base < 256) :
    gfPowLoop product base exponent < 256 := by
  fun_induction gfPowLoop product base exponent with
  | case1 product base => exact hp
  | case2 product base exponent hexp ih =>
    refine ih ?_ (gfMul_lt hb)
    split
    · exact gfMul_lt hp
    · exact hp

theorem gfPow_lt {base exponent : ℕ} (hb : base < 256) : gfPow base exponent < 256 :=
  gfPowLoop_lt (by decide) hb

/-! ### The field -/

/-- An element of the field: a number below 256. -/
@[ext] structure GF256 where
  val : ℕ
  lt : val < 256
  deriving DecidableEq

namespace GF256

/-- The class of an element in the quotient; it determines the element. -/
noncomputable def toResidue (x : GF256) := residue primitivePolynomial x.val

theorem toResidue_injective : Function.Injective toResidue := fun x y h =>
  GF256.ext (residue_injOn primitivePolynomial (k := 8) (by decide) x.lt y.lt h)

instance : Zero GF256 := ⟨⟨0, by decide⟩⟩
instance : One GF256 := ⟨⟨1, by decide⟩⟩
instance : Add GF256 := ⟨fun x y => ⟨x.val ^^^ y.val, Nat.xor_lt_two_pow (n := 8) x.lt y.lt⟩⟩
instance : Neg GF256 := ⟨id⟩
instance : Mul GF256 := ⟨fun x y => ⟨gfMul x.val y.val, gfMul_lt x.lt⟩⟩
instance : Inv GF256 := ⟨fun x => ⟨gfPow x.val 254, gfPow_lt x.lt⟩⟩

@[simp] theorem val_zero : (0 : GF256).val = 0 := rfl
@[simp] theorem val_one : (1 : GF256).val = 1 := rfl
@[simp] theorem val_add (x y : GF256) : (x + y).val = x.val ^^^ y.val := rfl
@[simp] theorem val_mul (x y : GF256) : (x * y).val = gfMul x.val y.val := rfl
@[simp] theorem val_inv (x : GF256) : x⁻¹.val = gfPow x.val 254 := rfl

theorem toResidue_zero : toResidue 0 = 0 := residue_zero _
theorem toResidue_one : toResidue 1 = 1 := residue_one _
theorem toResidue_add (x y : GF256) : (x + y).toResidue = x.toResidue + y.toResidue :=
  residue_xor ..
theorem toResidue_mul (x y : GF256) : (x * y).toResidue = x.toResidue * y.toResidue :=
  residue_gfMul ..

/-- `gfInv` inverts every nonzero byte. -/
theorem gfMul_inv : ∀ v < 256, v ≠ 0 → gfMul v (gfPow v 254) = 1 := by decide +kernel

instance : Field GF256 where
  add_assoc x y z := GF256.ext (Nat.xor_assoc ..)
  zero_add x := GF256.ext (Nat.zero_xor _)
  add_zero x := GF256.ext (Nat.xor_zero _)
  add_comm x y := GF256.ext (Nat.xor_comm ..)
  neg_add_cancel x := GF256.ext (Nat.xor_self _)
  mul_assoc x y z := toResidue_injective (by simp only [toResidue_mul, mul_assoc])
  mul_comm x y := toResidue_injective (by simp only [toResidue_mul, mul_comm])
  one_mul x := toResidue_injective (by rw [toResidue_mul, toResidue_one, one_mul])
  mul_one x := toResidue_injective (by rw [toResidue_mul, toResidue_one, mul_one])
  zero_mul x := toResidue_injective (by rw [toResidue_mul, toResidue_zero, zero_mul])
  mul_zero x := toResidue_injective (by rw [toResidue_mul, toResidue_zero, mul_zero])
  left_distrib x y z :=
    toResidue_injective (by simp only [toResidue_mul, toResidue_add, mul_add])
  right_distrib x y z :=
    toResidue_injective (by simp only [toResidue_mul, toResidue_add, add_mul])
  exists_pair_ne := ⟨0, 1, by decide⟩
  mul_inv_cancel x hx := GF256.ext (gfMul_inv x.val x.lt fun h => hx (GF256.ext h))
  inv_zero := GF256.ext (by decide +kernel)
  nsmul := nsmulRec
  zsmul := zsmulRec
  nnqsmul := _
  qsmul := _

/-- Subtraction is XOR as well. -/
theorem sub_eq_add' (x y : GF256) : x - y = x + y := sub_eq_add_neg x y

theorem val_sub (x y : GF256) : (x - y).val = x.val ^^^ y.val := by rw [sub_eq_add', val_add]

end GF256

/-- The coefficient of block index `i`, as a field element. -/
def coefficient (i : ℕ) : GF256 := ⟨gfPow 2 i, gfPow_lt (by decide)⟩

theorem coefficient_ne_zero : ∀ i < 6, coefficient i ≠ 0 := by decide +kernel

/-- The coefficients of a block are distinct. -/
theorem coefficient_injOn : ∀ i < 6, ∀ j < 6, coefficient i = coefficient j → i = j := by
  decide +kernel

@[simp] theorem length_coefficients (n : ℕ) : (coefficients n).length = n := by simp [coefficients]

theorem getElem_coefficients {n i : ℕ} (h : i < (coefficients n).length) :
    (coefficients n)[i] = (coefficient i).val := by simp [coefficients, coefficient]

end IncomUdon.Fec
