import IncomUdon.Fec.Gf256
import IncomUdon.Lib.ParityCode

/-! `encode_parity` and `recover_frames`. Both run one accumulation over the frames: `P` collects the
    frames and `Q` the frames scaled by their coefficients. Read as a family of field elements, one
    for each byte position, a frame is a vector (`toVec`), XOR is addition and scaling is scalar
    multiplication; equal lengths make the reading faithful. -/

namespace IncomUdon.Fec
open IncomUdon.Python IncomUdon.Lib.ErrorLog IncomUdon.Lib

/-- The message of `_xor` on operands of different length. -/
def unequalOperands : Msg := ["FEC operands must have equal padded lengths"]

/-- `_xor`. -/
def xor (left right : Bytes) : Py Bytes := do
  require (left.length = right.length) unequalOperands
  return List.zipWith (· ^^^ ·) left right

/-- `_gf_scale`. -/
def gfScale (data : Bytes) (coefficient : ℕ) : Py Bytes :=
  bytesOf (data.map fun value => gfMul value.toNat coefficient)

/-- One frame joins the running parities. -/
def addFrame (acc : Bytes × Bytes) (coefficient : ℕ) (frame : Bytes) : Py (Bytes × Bytes) := do
  let p ← xor acc.1 frame
  let scaled ← gfScale frame coefficient
  let q ← xor acc.2 scaled
  return (p, q)

/-- `encode_parity`. -/
def encodeParity (frames : List Bytes) : Py (Bytes × Bytes) := do
  require (1 ≤ frames.length ∧ frames.length ≤ maxBlockSize) ["FEC block size must be 1 through 6"]
  let width := (frames.headD []).length
  require (width ≠ 0 ∧ ∀ frame ∈ frames, frame.length = width)
    ["FEC frames must be non-empty and equally padded"]
  ((coefficients frames.length).zip frames).foldlM (fun acc cf => addFrame acc cf.1 cf.2)
    (zeros width, zeros width)

/-- One entry of a received block joins the known parities; a missing frame adds nothing. -/
def addKnown (width : ℕ) (acc : Bytes × Bytes) (coefficient : ℕ) (frame : Option Bytes) :
    Py (Bytes × Bytes) :=
  match frame with
  | none => return acc
  | some frame => do
    require (frame.length = width) ["received FEC frame has an invalid padded length"]
    addFrame acc coefficient frame

/-- Put the missing frames computed from the residuals in their places. -/
def fillMissing (paddedFrames : List (Option Bytes)) (missing : List ℕ)
    (residualP residualQ : Bytes) : Py (List (Option Bytes)) :=
  match missing with
  | [index] => return paddedFrames.set index (some residualP)
  | [first, second] => do
    let firstCoefficient := (coefficients paddedFrames.length).getD first 0
    let secondCoefficient := (coefficients paddedFrames.length).getD second 0
    let divisor := firstCoefficient ^^^ secondCoefficient
    let scaled ← gfScale residualP firstCoefficient
    let difference ← xor residualQ scaled
    let inverse ← gfInv divisor
    let secondFrame ← gfScale difference inverse
    let firstFrame ← xor residualP secondFrame
    return (paddedFrames.set first (some firstFrame)).set second (some secondFrame)
  | _ => return paddedFrames

/-- The message of `recover_frames` on a frame that is still missing at the end. -/
def leftMissing : Msg := ["FEC recovery left a missing frame"]

/-- A recovered frame is truncated to its advertised length. -/
def truncate (frame : Option Bytes) (length : ℕ) : Py Bytes :=
  match frame with
  | none => invalid leftMissing
  | some frame => do
    require (1 ≤ length ∧ length ≤ frame.length) ["FEC advertised frame length is invalid"]
    return frame.take length

/-- The indexes of the missing frames. -/
def missingIndexes (paddedFrames : List (Option Bytes)) : List ℕ :=
  (List.range paddedFrames.length).filter fun index => (paddedFrames.getD index none).isNone

/-- `recover_frames`. -/
def recoverFrames (paddedFrames : List (Option Bytes)) (p q : Bytes) (lengths : List ℕ) :
    Py (List Bytes) := do
  require (paddedFrames.length = lengths.length) ["FEC frame/length cardinality mismatch"]
  require (paddedFrames ≠ []) ["FEC recovery block is empty"]
  let width := p.length
  require (q.length = width) ["FEC parity lengths differ"]
  let missing := missingIndexes paddedFrames
  require (missing.length ≤ 2) ["more than two missing FEC frames are not recoverable"]
  let known ← ((coefficients paddedFrames.length).zip paddedFrames).foldlM
    (fun acc cf => addKnown width acc cf.1 cf.2) (zeros width, zeros width)
  let residualP ← xor p known.1
  let residualQ ← xor q known.2
  let filled ← fillMissing paddedFrames missing residualP residualQ
  (filled.zip lengths).mapM fun fl => truncate fl.1 fl.2

/-! ### Frames as vectors -/

/-- A byte as a field element. -/
def ofByte (b : UInt8) : GF256 := ⟨b.toNat, b.toNat_lt⟩

theorem ofByte_injective : Function.Injective ofByte := fun _ _ h =>
  UInt8.toNat_inj.mp (congrArg GF256.val h)

/-- A frame as a vector: the bytes by position, zero past its end. -/
def toVec (frame : Bytes) : ℕ → GF256 := fun j => ofByte (frame.getD j 0)

/-- Frames of one length are equal when their vectors are. -/
theorem eq_of_toVec {a b : Bytes} (hlen : a.length = b.length) (h : toVec a = toVec b) : a = b := by
  refine List.ext_getElem hlen fun j ha hb => ofByte_injective ?_
  have hj := congrFun h j
  rwa [toVec, toVec, List.getD_eq_getElem _ _ ha, List.getD_eq_getElem _ _ hb] at hj

@[simp] theorem toVec_zeros (width : ℕ) : toVec (zeros width) = 0 := by
  funext j
  simp only [toVec, zeros, List.getD_eq_getElem?_getD, List.getElem?_replicate]
  split <;> rfl

/-- `xor` succeeds on equal lengths; there it is vector addition. -/
theorem xor_spec {a b : Bytes} (hlen : a.length = b.length) :
    ∃ c, xor a b = .ok c ∧ c.length = a.length ∧ toVec c = toVec a + toVec b := by
  refine ⟨List.zipWith (· ^^^ ·) a b, ?_, by simp [hlen], ?_⟩
  · rw [xor, bind_eq_ok]
    exact ⟨(), require_eq_ok.mpr hlen, rfl⟩
  funext j
  rw [Pi.add_apply]
  apply GF256.ext
  rw [GF256.val_add]
  by_cases hj : j < a.length
  · simp [toVec, ofByte, hj, hlen ▸ hj]
  · simp [toVec, ofByte, hj, hlen ▸ hj]

/-- `gfScale` by a byte succeeds; it is scalar multiplication. -/
theorem gfScale_spec (data : Bytes) (c : GF256) :
    ∃ d, gfScale data c.val = .ok d ∧ d.length = data.length ∧ toVec d = c • toVec data := by
  have hbyte : ∀ n ∈ data.map (fun value => gfMul value.toNat c.val), n < 256 := by
    simp only [List.mem_map]
    rintro _ ⟨value, _, rfl⟩
    exact gfMul_lt value.toNat_lt
  refine ⟨_, bytesOf_eq_ok hbyte, by simp, ?_⟩
  funext j
  rw [Pi.smul_apply, smul_eq_mul, mul_comm]
  apply GF256.ext
  rw [GF256.val_mul]
  by_cases hj : j < data.length
  · have hlt : gfMul data[j].toNat c.val < 256 := gfMul_lt (data[j]).toNat_lt
    simp [toVec, ofByte, hj, Nat.mod_eq_of_lt hlt]
  · have hpast : data.length ≤ j := by omega
    rw [toVec, List.getD_eq_default _ _ (by simpa using hpast), toVec, List.getD_eq_default _ _ hpast]
    exact (congrArg GF256.val (zero_mul c)).symm

end IncomUdon.Fec
