import IncomUdon.Loader
import IncomUdon.Python.Operators

/-! What the crypto validators share. Their handler catches

        VectorValidationError, ValueError (JSONDecodeError and UnicodeEncodeError too), struct.error -/

namespace IncomUdon.Crypto
open IncomUdon.Python IncomUdon.Lib.ErrorLog IncomUdon.Lib.BigEndian

/-- A bytes literal, from its characters. -/
def bytesLiteral (text : String) : Bytes := text.toList.map fun c => UInt8.ofNat c.toNat

/-- `text.encode("utf-8")`. -/
def encodeUtf8 (text : String) : Bytes := text.toUTF8.data.toList

theorem encodeUtf8_injective {text text' : String} (h : encodeUtf8 text = encodeUtf8 text') :
    text = text' := by
  refine String.toByteArray_inj.mp (ByteArray.ext (Array.toList_inj.mp ?_))
  exact h

/-- `text.encode("ascii")`: the exception is a `ValueError`. -/
def encodeAscii (text : String) : Py Bytes :=
  match encodeAscii? text with
  | some data => .ok data
  | none => fails .valueError

@[simp] theorem encodeAscii_eq_ok {text : String} {data : Bytes} :
    encodeAscii text = .ok data ↔ encodeAscii? text = some data := by
  unfold encodeAscii
  cases encodeAscii? text <;> simp

theorem encodeAscii?_of_ascii {text : String} (h : AsciiText text) :
    encodeAscii? text = some (bytesLiteral text) := by
  rw [encodeAscii?, if_pos]
  · rfl
  · simpa [AsciiText] using h

theorem bytesOf_singleton_eq_ok {n : ℕ} {data : Bytes} :
    bytesOf [n] = .ok data ↔ n < 256 ∧ toBE 1 n = data := by
  by_cases h : n < 256 <;> simp [bytesOf, ofInts?, toBE, h]

theorem structPack_uint_eq_ok {width value : ℕ} {data : Bytes} :
    structPack [.uint width value] = .ok data ↔ value < 256 ^ width ∧ toBE width value = data := by
  simp [Field.encode]

end IncomUdon.Crypto
