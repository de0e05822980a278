import IncomUdon.Fec.Parity
import IncomUdon.Loader
import IncomUdon.Python.Table

/-! The FEC suite. A block lists its source frames, P and Q, and cases of loss; everything that can be
    computed from the frames is computed again and compared:

        frames ──pad──▶ encode_parity ──▶ parity entries, FEC v2 payloads
        received frames, P, Q ──recover_frames──▶ frames, output order, recovered entries

    Version 1 has one recovery case for each block and no payloads. -/

namespace IncomUdon.Fec
open IncomUdon.Python IncomUdon.Loader IncomUdon.Lib.ErrorLog

/-- A number printed in a label. -/
abbrev num (n : ℕ) : Frag := .val (.int n)

/-- `_member_sequences`. -/
def memberSequences (blockStart blockSize : ℕ) : List ℕ :=
  (List.range blockSize).map fun index => (blockStart + index) &&& 0xFFFF

/-- What the loop bodies of `_validate_block` share. -/
structure Block where
  label : Msg
  blockStart : ℕ
  blockSize : ℕ
  sequences : List ℕ
  frames : List Bytes
  width : ℕ
  fecV2 : Bool

namespace Block

def lengths (block : Block) : List ℕ := block.frames.map List.length

/-- `source_by_sequence`. -/
def sourceBySequence (block : Block) : Table Bytes := .ofZip block.sequences block.frames

end Block

/-- One source frame. -/
def readFrame (label : Msg) (maxFrameBytes : ℕ) (sequences : List ℕ) (value : Json) (position : ℕ) :
    Check Bytes := do
  let frame := label.add [" frame ", num position]
  let entry ← asObject value (frame.add [" must be an object"])
  let sequence ← integer (Dict.get entry "audioSeq") (frame.add [" audioSeq"]) 0xFFFF
  let expected ← index sequences position
  compare (frame.add [" modular audioSeq"]) (.ints [sequence]) (.ints [expected])
  let data ← hexBytes (Dict.get entry "dataHex") (frame.add [" dataHex"])
  require (1 ≤ data.length ∧ data.length ≤ maxFrameBytes)
    (frame.add [" has invalid length ", num data.length])
  return data

/-- The FEC v2 payload of one parity: version, block, parity index, frame lengths, parity. -/
def fecPayload (block : Block) (parityIndex : ℕ) (parity : Bytes) : Py Bytes := do
  let header ← structPack [.uint 1 2, .uint 2 block.blockStart, .uint 1 block.blockSize,
    .uint 1 parityIndex]
  let lengths ← block.lengths.mapM fun length => structPack [.uint 2 length]
  return header ++ lengths.flatten ++ parity

/-- One parity entry joins the parities read so far. -/
def readParity (block : Block) (expectedP expectedQ : Bytes) (parity : Table Bytes)
    (item : Json × ℕ) : Check (Table Bytes) := do
  let entry ← asObject item.1 (block.label.add [" parity ", num item.2, " must be an object"])
  let parityIndex ← integer (Dict.get entry "parityIndex") (block.label.add [" parity index"]) 1
  require (parityIndex ∉ parity.keys)
    (block.label.add [" duplicates parity index ", num parityIndex])
  let label := block.label.add [" parity ", num parityIndex]
  let parityData ← hexBytes (Dict.get entry "dataHex") (label.add [" dataHex"])
  let expected := if parityIndex = 0 then expectedP else expectedQ
  compareBytes label parityData expected
  if block.fecV2 then
    let payload ← fecPayload block parityIndex expected
    let given ← hexBytes (Dict.get entry "fecPayloadHex") (block.label.add [" parity payload"])
    compareBytes (label.add [" payload"]) payload given
  return parity.put parityIndex parityData

/-- The message of the check `set(parity) != {0, 1}`. -/
def parityIndexesMissing (label : Msg) : Msg := label.add [" must contain parity indexes 0 and 1"]

/-- A list of sequence numbers. -/
def sequenceNumbers (values : List Json) (label : Msg) : Py (List ℕ) :=
  values.mapM fun value => integer value label 0xFFFF

/-- One entry of `received_by_sequence`. -/
def keepReceived (block : Block) (table : Table Bytes) (sequence : ℕ) : Py (Table Bytes) := do
  let frame ← block.sourceBySequence.get sequence
  return table.put sequence frame

/-- The received frames in D-index order, padded, with `None` for a missing one. -/
def paddedFrames (block : Block) (received : Table Bytes) : List (Option Bytes) :=
  block.sequences.map fun sequence => (received.lookup sequence).map (ljust · block.width)

/-- One entry of `expectedRecovered` joins the entries read so far. -/
def readExpected (label : Msg) (expected : Table Bytes) (value : Json) : Py (Table Bytes) := do
  let entry ← asObject value (label.add [" expectedRecovered item must be an object"])
  let sequence ← integer (Dict.get entry "audioSeq") (label.add [" expected audioSeq"]) 0xFFFF
  let data ← hexBytes (Dict.get entry "dataHex") (label.add [" expected dataHex"])
  return expected.put sequence data

/-- The entries of `expectedRecovered`, compared with the recovered frames. -/
def checkExpected (block : Block) (label : Msg) (recovery : Dict) (missing : List ℕ)
    (recovered : List Bytes) : Check Unit := do
  let items ← asArray (Dict.getD recovery "expectedRecovered" (.arr []))
    (label.add [" expectedRecovered must be an array"])
  let expected ← (items.foldlM (readExpected label) [] : Py (Table Bytes))
  require (¬(block.fecV2 ∧ expected.keys.toFinset ≠ missing.toFinset))
    (label.add [" expectedRecovered does not match missing sequences"])
  forM expected fun (sequence, data) => do
    let position ← indexOf block.sequences sequence
    let actual ← index recovered position
    compareBytes (label.add [" recovered frame ", num sequence]) actual data

/-- One recovery case. -/
def recoveryCase (block : Block) (parity : Table Bytes) (value : Json) (position : ℕ) :
    Check Unit := do
  let label := block.label.add [" recovery ", num position]
  let recovery ← asObject value (label.add [" must be an object"])
  let malformed := label.add [" has malformed sequence arrays"]
  let received ← asArray (Dict.get recovery "receivedSequences") malformed
  let missing ← asArray (Dict.get recovery "missingSequences") malformed
  let output ← asArray (Dict.get recovery "expectedOutputSequences") malformed
  let received ← sequenceNumbers received (label.add [" received sequence"])
  let missing ← sequenceNumbers missing (label.add [" missing sequence"])
  require (received.toFinset ∪ missing.toFinset = block.sequences.toFinset)
    (label.add [" does not partition the FEC block"])
  require (received.toFinset ∩ missing.toFinset = ∅)
    (label.add [" overlaps received and missing sequences"])
  require (missing.length ≤ 2)
    (label.add [" requests unsupported recovery of more than two frames"])
  let receivedBySequence ← (received.foldlM (keepReceived block) [] : Py (Table Bytes))
  let p ← parity.get 0
  let q ← parity.get 1
  let recovered ← recoverFrames (paddedFrames block receivedBySequence) p q block.lengths
  let pairs ← zipStrict block.sequences recovered
  forM pairs fun (sequence, actual) => do
    let source ← block.sourceBySequence.get sequence
    compareBytes (label.add [" frame ", num sequence]) actual source
  let output ← sequenceNumbers output (label.add [" output sequence"])
  compare (label.add [" output sequence order"]) (.ints output) (.ints block.sequences)
  checkExpected block label recovery missing recovered

/-- `_validate_block`. -/
def validateBlock (label : Msg) (value : Dict) (maxFrameBytes : ℕ) (fecV2 : Bool) : Check Unit := do
  let blockStart ← integer (Dict.get value "blockStart") (label.add [".blockStart"]) 0xFFFF
  let blockSize ← integer (Dict.get value "blockSize") (label.add [".blockSize"]) maxBlockSize
  require (blockSize ≠ 0) (label.add [".blockSize must be at least one"])
  let framesValue ← asArray (Dict.get value "frames")
    (label.add [" frames and parity must be arrays"])
  let parityValue ← asArray (Dict.get value "parity")
    (label.add [" frames and parity must be arrays"])
  require (framesValue.length = blockSize) (label.add [" frame count does not match blockSize"])
  require (parityValue.length = 2) (label.add [" must contain P and Q parity"])
  let sequences := memberSequences blockStart blockSize
  let frames ← framesValue.zipIdx.mapM fun (frame, position) =>
    readFrame label maxFrameBytes sequences frame position
  let width ← maxOf (frames.map List.length)
  let block : Block := ⟨label, blockStart, blockSize, sequences, frames, width, fecV2⟩
  let (expectedP, expectedQ) ← encodeParity (frames.map (ljust · width))
  let parity ← parityValue.zipIdx.foldlM (readParity block expectedP expectedQ) []
  require (parity.keys.toFinset = {0, 1}) (parityIndexesMissing label)
  let cases ←
    if fecV2 then
      asArray (Dict.get value "recoveryCases") (label.add [" recovery cases must be an array"])
    else
      pure [Dict.get value "recoveryCase"]
  forM cases.zipIdx fun (case, position) => recoveryCase block parity case position

/-- `document.get("field")` must be this text. -/
def fieldDeclaration : String := "GF(256), primitive polynomial 0x11d"

/-- `_validate_fec_v1`. -/
def validateFecV1 (root : Root) : Check Unit := do
  let document ← load root "test-vectors/fec-rs-6-2.json"
  require ((Dict.get document "field").eq (.str fieldDeclaration))
    ["fec-rs-6-2 field declaration differs from GF(256)/0x11d"]
  validateBlock ["FEC fixed-size v1"] document 4096 false

/-- One case of the FEC v2 file. -/
def fecV2Case (maxFrameBytes : ℕ) (case : Json) (position : ℕ) : Check Unit := do
  let case ← asObject case ["fec-v2 case ", num position, " must be an object"]
  let name := nameLabel case ["case ", num position]
  validateBlock (Msg.add ["FEC v2 "] name) case maxFrameBytes true

/-- `_validate_fec_v2`. -/
def validateFecV2 (root : Root) : Check Unit := do
  let document ← load root "test-vectors/fec-v2-variable-6-2.json"
  require ((Dict.get document "field").eq (.str fieldDeclaration))
    ["fec-v2 field declaration differs from GF(256)/0x11d"]
  let maxFrameBytes ← integer (Dict.get document "maxMediaFrameBytes") ["fec-v2 maxMediaFrameBytes"]
    0xFFFF
  let cases ← asArray (Dict.get document "cases") ["fec-v2 cases must be an array"]
  forM cases.zipIdx fun (case, position) => fecV2Case maxFrameBytes case position

/-- What the handler of `validate_fec_vectors` catches. -/
def fecCaught : PyExc → Bool
  | .vectorValidation _ => true
  | .fault kind => kind = .valueError ∨ kind = .structError

/-- `validate_fec_vectors`. -/
def validateFecVectors (root : Root) : Py (List Msg) := do
  let errorsV1 ← handle fecCaught ["FEC fixed-size v1"] (validateFecV1 root)
  let errorsV2 ← handle fecCaught ["FEC v2"] (validateFecV2 root)
  return errorsV1 ++ errorsV2

end IncomUdon.Fec
