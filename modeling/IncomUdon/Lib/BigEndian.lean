import Mathlib.Data.Nat.Digits.Defs
import Mathlib.Tactic.Ring
import Mathlib.Tactic.Common

/-! Fixed-width big-endian integers in a byte string. `toBE w n` writes the low `w` bytes of `n`,
    most significant first, and `ofBE` reads a byte string back. A value below `256 ^ w` survives
    the round trip, so two byte strings that start with fields of the same widths are equal exactly
    when the fields and the rests are; and a field is read back at its offset. -/

namespace IncomUdon.Lib.BigEndian

/-- The low `w` bytes of `n`, most significant first. -/
def toBE : ℕ → ℕ → List UInt8
  | 0, _ => []
  | w + 1, n => UInt8.ofNat (n / 256 ^ w) :: toBE w n

/-- The integer a byte string denotes. -/
def ofBE (bs : List UInt8) : ℕ := bs.foldl (fun acc b => acc * 256 + b.toNat) 0

@[simp] theorem length_toBE : ∀ w n, (toBE w n).length = w
  | 0, _ => rfl
  | w + 1, n => by rw [toBE, List.length_cons, length_toBE w n]

/-- Reading with a running value `acc` puts `acc` above the bytes read. -/
theorem foldl_toBE : ∀ (w n acc : ℕ),
    (toBE w n).foldl (fun acc b => acc * 256 + b.toNat) acc = acc * 256 ^ w + n % 256 ^ w
  | 0, n, acc => by simp [toBE, Nat.mod_one]
  | w + 1, n, acc => by
    rw [toBE, List.foldl_cons, foldl_toBE w n]
    have hmod : n % 256 ^ (w + 1) = 256 ^ w * (n / 256 ^ w % 256) + n % 256 ^ w := by
      rw [pow_succ, Nat.mod_mul, Nat.add_comm]
    rw [hmod, UInt8.toNat_ofNat']
    ring

theorem ofBE_toBE (w n : ℕ) : ofBE (toBE w n) = n % 256 ^ w := by
  rw [ofBE, foldl_toBE, Nat.zero_mul, Nat.zero_add]

theorem ofBE_toBE_of_lt {w n : ℕ} (h : n < 256 ^ w) : ofBE (toBE w n) = n := by
  rw [ofBE_toBE, Nat.mod_eq_of_lt h]

theorem toBE_inj {w m n : ℕ} (hm : m < 256 ^ w) (hn : n < 256 ^ w) :
    toBE w m = toBE w n ↔ m = n := by
  refine ⟨fun h => ?_, fun h => h ▸ rfl⟩
  rw [← ofBE_toBE_of_lt hm, h, ofBE_toBE_of_lt hn]

/-- Only the low `w` bytes are written. -/
theorem toBE_add_mul (w k n : ℕ) : toBE w (k * 256 ^ w + n) = toBE w n := by
  induction w generalizing k with
  | zero => rfl
  | succ w ih =>
    have hsplit : k * 256 ^ (w + 1) + n = k * 256 * 256 ^ w + n := by ring
    have hhead : (k * 256 * 256 ^ w + n) / 256 ^ w = n / 256 ^ w + k * 256 := by
      rw [Nat.add_comm, Nat.add_mul_div_right _ _ (Nat.pow_pos (by norm_num))]
    rw [toBE, toBE, hsplit, hhead, ih]
    congr 1
    refine UInt8.toNat_inj.mp ?_
    rw [UInt8.toNat_ofNat', UInt8.toNat_ofNat']
    exact Nat.add_mul_mod_self_right _ _ _

theorem foldl_ofBE (bs : List UInt8) (acc : ℕ) :
    bs.foldl (fun acc b => acc * 256 + b.toNat) acc = acc * 256 ^ bs.length + ofBE bs := by
  induction bs generalizing acc with
  | nil => simp [ofBE]
  | cons b bs ih =>
    have hcons : ofBE (b :: bs) = (0 * 256 + b.toNat) * 256 ^ bs.length + ofBE bs := ih _
    rw [List.foldl_cons, ih, hcons, List.length_cons]
    ring

theorem ofBE_cons (b : UInt8) (bs : List UInt8) :
    ofBE (b :: bs) = b.toNat * 256 ^ bs.length + ofBE bs := by
  rw [ofBE, List.foldl_cons, foldl_ofBE]
  simp

theorem ofBE_lt (bs : List UInt8) : ofBE bs < 256 ^ bs.length := by
  induction bs with
  | nil => decide
  | cons b bs ih =>
    have hb : b.toNat + 1 ≤ 256 := b.toNat_lt
    rw [ofBE_cons, List.length_cons, pow_succ']
    calc b.toNat * 256 ^ bs.length + ofBE bs < (b.toNat + 1) * 256 ^ bs.length := by
          rw [Nat.succ_mul]
          exact Nat.add_lt_add_left ih _
      _ ≤ 256 * 256 ^ bs.length := Nat.mul_le_mul_right _ hb

/-- Bytes survive the round trip through the integer they denote. -/
theorem toBE_ofBE (bs : List UInt8) : toBE bs.length (ofBE bs) = bs := by
  induction bs with
  | nil => rfl
  | cons b bs ih =>
    rw [ofBE_cons, List.length_cons, toBE, toBE_add_mul, ih, Nat.add_comm,
      Nat.add_mul_div_right _ _ (Nat.pow_pos (by norm_num)), Nat.div_eq_of_lt (ofBE_lt bs)]
    simp

/-- The `width` bytes at `offset`. -/
def window (offset width : ℕ) (bs : List UInt8) : List UInt8 := (bs.drop offset).take width

/-- A change outside a window leaves it as it is. -/
theorem window_modify {offset width position : ℕ} {f : UInt8 → UInt8} {bs : List UInt8}
    (h : position < offset ∨ offset + width ≤ position) :
    window offset width (bs.modify position f) = window offset width bs := by
  rcases h with hbefore | hbehind
  · rw [window, List.drop_modify_of_lt f position offset bs hbefore, window]
  · rw [window, List.drop_modify_of_ge f position offset bs (by omega), List.take_modify,
      List.modify_eq_self, window]
    rw [List.length_take]
    omega

/-- What stands between two parts is the window behind the first. -/
theorem window_append {before field after : List UInt8} {offset width : ℕ}
    (hoffset : before.length = offset) (hwidth : field.length = width) :
    window offset width (before ++ (field ++ after)) = field := by
  subst hoffset hwidth
  simp [window]

/-- A field is read back at its offset. -/
theorem ofBE_window {before after : List UInt8} {offset w n : ℕ} (hoffset : before.length = offset)
    (hn : n < 256 ^ w) : ofBE (window offset w (before ++ (toBE w n ++ after))) = n := by
  rw [window_append hoffset (length_toBE w n), ofBE_toBE_of_lt hn]

end IncomUdon.Lib.BigEndian
