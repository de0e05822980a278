import IncomUdon.Crypto.Common

/-! HKDF-SHA-256, `_hkdf_sha256`. The key is extracted once and expanded block by block, each block
    from the one before it and a counter byte:

        T(0) = empty      T(i) = HMAC(HMAC(salt, ikm), T(i - 1) ‖ info ‖ i)

    After `k` rounds the output is T(1) ‖ … ‖ T(k) and the counter is `k + 1`. The counter is
    increased once more after its last use, so 255 full blocks leave it at 256, a byte that is never
    written. -/

namespace IncomUdon.Crypto
open IncomUdon.Python IncomUdon.Lib.ErrorLog IncomUdon.Lib.BigEndian

/-- `hmac.new(key, message, hashlib.sha256).digest()`: 32 bytes, whatever the key and the message. -/
structure HmacSha256 where
  digest : Bytes → Bytes → Bytes
  length_digest : ∀ key message, (digest key message).length = 32

/-- The variables of the expansion loop. -/
structure Expansion where
  output : Bytes
  previous : Bytes
  counter : ℕ

section Function
variable (hmac : HmacSha256) (prk info : Bytes)

/-- The loop body. -/
def expandOnce (state : Expansion) : Py Expansion := do
  let counterByte ← bytesOf [state.counter]
  let previous := hmac.digest prk (state.previous ++ info ++ counterByte)
  return ⟨state.output ++ previous, previous, state.counter + 1⟩

/-- A round makes the output longer. -/
theorem length_of_expandOnce {state next : Expansion}
    (h : expandOnce hmac prk info state = .ok next) :
    next.output.length = state.output.length + 32 := by
  obtain ⟨counterByte, -, hret⟩ := bind_eq_ok.mp h
  cases hret
  rw [List.length_append, hmac.length_digest]

/-- `while len(output) < length`. -/
def expand (length : ℕ) (state : Expansion) : Py Expansion :=
  if state.output.length < length then
    match _hround : expandOnce hmac prk info state with
    | .error exc => .error exc
    | .ok next => expand length next
  else return state
termination_by length - state.output.length
decreasing_by
  have hlength := length_of_expandOnce hmac prk info _hround
  omega

/-- `_hkdf_sha256`. -/
def hkdfSha256 (ikm salt info : Bytes) (length : ℤ) : Py Bytes := do
  require (0 < length ∧ length ≤ 255 * 32) ["invalid HKDF output length: ", .val (.int length)]
  let prk := hmac.digest salt ikm
  let state ← expand hmac prk info length.toNat ⟨[], [], 1⟩
  return state.output.take length.toNat

/-! ### The blocks of the standard -/

/-- `T(i)`. -/
def block : ℕ → Bytes
  | 0 => []
  | i + 1 => hmac.digest prk (block i ++ info ++ toBE 1 (i + 1))

/-- `T(1) ‖ … ‖ T(k)`. -/
def blocks (k : ℕ) : Bytes := (List.range k).flatMap fun i => block hmac prk info (i + 1)

/-- The variables after `k` rounds. -/
def rounds : ℕ → Py Expansion
  | 0 => return ⟨[], [], 1⟩
  | k + 1 => rounds k >>= expandOnce hmac prk info

end Function

section Rounds
variable {hmac : HmacSha256} {prk info : Bytes}

theorem blocks_succ (k : ℕ) :
    blocks hmac prk info (k + 1) = blocks hmac prk info k ++ block hmac prk info (k + 1) := by
  rw [blocks, List.range_succ, List.flatMap_append, ← blocks]
  simp

@[simp] theorem length_blocks (k : ℕ) : (blocks hmac prk info k).length = 32 * k := by
  induction k with
  | zero => rfl
  | succ k ih => rw [blocks_succ, List.length_append, ih, block, hmac.length_digest, Nat.mul_succ]

variable (hmac prk info) in
theorem blocks_prefix {j k : ℕ} (h : j ≤ k) : blocks hmac prk info j <+: blocks hmac prk info k := by
  obtain ⟨m, rfl⟩ := Nat.exists_eq_add_of_le h
  rw [blocks, blocks, List.range_add, List.flatMap_append]
  exact List.prefix_append _ _

/-- STEP: a round with a counter that fits its byte appends the next block. -/
theorem expandOnce_blocks {k : ℕ} (h : k + 1 < 256) :
    expandOnce hmac prk info ⟨blocks hmac prk info k, block hmac prk info k, k + 1⟩
      = .ok ⟨blocks hmac prk info (k + 1), block hmac prk info (k + 1), k + 2⟩ := by
  rw [expandOnce, bytesOf_singleton_eq_ok.mpr ⟨h, rfl⟩, ok_bind, blocks_succ]
  rfl

/-- RUN: after `k` rounds the output is `k` blocks. -/
theorem rounds_eq {k : ℕ} (h : k ≤ 255) : rounds hmac prk info k
    = .ok ⟨blocks hmac prk info k, block hmac prk info k, k + 1⟩ := by
  induction k with
  | zero => rfl
  | succ k ih => rw [rounds, ih (by omega), ok_bind, expandOnce_blocks (by omega)]

/-- In every round the counter is one more than the number of blocks. -/
theorem rounds_invariant {k : ℕ} {state : Expansion} (h : rounds hmac prk info k = .ok state) :
    state.output.length = 32 * k ∧ state.counter = k + 1 := by
  induction k generalizing state with
  | zero =>
    cases h
    exact ⟨rfl, rfl⟩
  | succ k ih =>
    obtain ⟨before, hbefore, hround⟩ := bind_eq_ok.mp h
    obtain ⟨hlength, hcounter⟩ := ih hbefore
    have hlonger := length_of_expandOnce hmac prk info hround
    obtain ⟨counterByte, -, hret⟩ := bind_eq_ok.mp hround
    cases hret
    exact ⟨by omega, by simp [hcounter]⟩

variable (hmac prk info) in
/-- From `k` blocks on, the loop stops as soon as there are enough. -/
theorem expand_blocks {length k : ℕ} (hlength : length ≤ 255 * 32) (hk : k ≤ 255) :
    ∃ last, k ≤ last ∧ last ≤ 255 ∧ length ≤ 32 * last ∧
      expand hmac prk info length ⟨blocks hmac prk info k, block hmac prk info k, k + 1⟩
        = .ok ⟨blocks hmac prk info last, block hmac prk info last, last + 1⟩ := by
  induction hleft : 255 - k generalizing k with
  | zero =>
    refine ⟨k, le_rfl, hk, by omega, ?_⟩
    rw [expand, if_neg (by simp; omega)]
    rfl
  | succ left ih =>
    by_cases hmore : 32 * k < length
    · obtain ⟨last, hle, hlast, henough, hrun⟩ := @ih (k + 1) (by omega) (by omega)
      refine ⟨last, by omega, hlast, henough, ?_⟩
      rw [expand, if_pos (by simpa using hmore)]
      split
      · next hround => simp [expandOnce_blocks (show k + 1 < 256 by omega)] at hround
      · next hround =>
        rw [expandOnce_blocks (by omega)] at hround
        cases hround
        exact hrun
    · refine ⟨k, le_rfl, hk, by omega, ?_⟩
      rw [expand, if_neg (by simpa using hmore)]
      rfl

end Rounds

/-- The derived key is the first bytes of the blocks. -/
theorem hkdfSha256_eq (hmac : HmacSha256) (ikm salt info : Bytes) {length : ℕ} (hpos : 0 < length)
    (hle : length ≤ 255 * 32) :
    hkdfSha256 hmac ikm salt info length
      = .ok ((blocks hmac (hmac.digest salt ikm) info 255).take length) := by
  obtain ⟨last, -, hlast, henough, hrun⟩ :=
    expand_blocks hmac (hmac.digest salt ikm) info hle (Nat.zero_le 255)
  obtain ⟨rest, hrest⟩ := blocks_prefix hmac (hmac.digest salt ikm) info hlast
  refine bind_eq_ok.mpr ⟨(), require_eq_ok.mpr (by omega), bind_eq_ok.mpr ⟨_, hrun, ?_⟩⟩
  rw [← hrest, List.take_append_of_le_length (by simpa using henough)]
  rfl

/-- A key of one block. -/
theorem hkdfSha256_block (hmac : HmacSha256) (ikm salt info : Bytes) :
    hkdfSha256 hmac ikm salt info 32
      = .ok (hmac.digest (hmac.digest salt ikm) (info ++ toBE 1 1)) := by
  have hfirst := blocks_prefix hmac (hmac.digest salt ikm) info (show 1 ≤ 255 by decide)
  obtain ⟨rest, hrest⟩ := hfirst
  have hkey := hkdfSha256_eq hmac ikm salt info (show 0 < 32 by decide) (by decide)
  rw [← hrest, List.take_append_of_le_length (by simp), List.take_of_length_le (by simp)] at hkey
  simpa [blocks, block] using hkey

/-- RFC 5869: for every admissible length the function returns the first bytes of the blocks, the
    counter of a round that runs fits its byte, a shorter key is a prefix of a longer one, and every
    other length is a validation error. -/
theorem hkdfSha256_rfc5869 (hmac : HmacSha256) (ikm salt info : Bytes) :
    (∀ length : ℤ, 1 ≤ length → length ≤ 8160 →
      hkdfSha256 hmac ikm salt info length
        = .ok ((blocks hmac (hmac.digest salt ikm) info 255).take length.toNat)) ∧
    (∀ k state, rounds hmac (hmac.digest salt ikm) info k = .ok state →
      state.output.length < 8160 → 1 ≤ state.counter ∧ state.counter ≤ 255) ∧
    (∀ shorter longer : ℤ, 1 ≤ shorter → shorter ≤ longer → longer ≤ 8160 →
      ∃ key key', hkdfSha256 hmac ikm salt info shorter = .ok key ∧
        hkdfSha256 hmac ikm salt info longer = .ok key' ∧ key <+: key') ∧
    ∀ length : ℤ, ¬(1 ≤ length ∧ length ≤ 8160) →
      ∃ msg, hkdfSha256 hmac ikm salt info length = .error (.vectorValidation msg) := by
  have hderived : ∀ length : ℤ, 1 ≤ length → length ≤ 8160 →
      hkdfSha256 hmac ikm salt info length
        = .ok ((blocks hmac (hmac.digest salt ikm) info 255).take length.toNat) := by
    intro length hpos hle
    obtain ⟨n, rfl⟩ := Int.eq_ofNat_of_zero_le (by omega : 0 ≤ length)
    exact hkdfSha256_eq hmac ikm salt info (by omega) (by omega)
  refine ⟨hderived, fun k state hrounds hshort => ?_, fun shorter longer hpos hle hmax => ?_,
    fun length hlength => ?_⟩
  · obtain ⟨houtput, hcounter⟩ := rounds_invariant hrounds
    omega
  · refine ⟨_, _, hderived shorter hpos (by omega), hderived longer (by omega) hmax, ?_⟩
    exact List.take_prefix_take_left (by omega)
  · have hbad : ¬(0 < length ∧ length ≤ 255 * 32) := by omega
    refine ⟨["invalid HKDF output length: ", .val (.int length)], ?_⟩
    rw [hkdfSha256, require, if_neg hbad]
    rfl

/-- A stand-in for HMAC: the last 32 bytes of what is hashed, filled up with zeros. -/
def lastBytesHmac : HmacSha256 where
  digest key message := ljust ((key ++ message).reverse.take 32) 32
  length_digest key message := by simp

/-- 40 bytes take two blocks. -/
theorem hkdfSha256_rfc5869_two_blocks :
    hkdfSha256 lastBytesHmac [1] [2] [3] 40
      = .ok ((blocks lastBytesHmac (lastBytesHmac.digest [2] [1]) [3] 255).take 40) :=
  (hkdfSha256_rfc5869 lastBytesHmac [1] [2] [3]).1 40 (by decide) (by decide)

end IncomUdon.Crypto
