import IncomUdon.Loader
import IncomUdon.Python.Operators

/-! What the lifecycle validators share: their constants, the library functions they call, and the
    handler around them. The handler catches

        VectorValidationError, KeyError, TypeError, ValueError (JSONDecodeError too), struct.error

    and lets IndexError, AttributeError, csv.Error and RecursionError through. -/

namespace IncomUdon.Lifecycle
open IncomUdon.Python IncomUdon.Loader IncomUdon.Lib.ErrorLog

/-- `(1 << 63) - 1`. -/
def maxTime : ℕ := 2 ^ 63 - 1

/-- `MAX_SAFE_JSON_INTEGER`. -/
def maxSafeJsonInteger : ℕ := 2 ^ 53 - 1

/-- `MAX_DIRECTORY_REPLAY_SEQUENCE`. -/
def maxDirectoryReplaySequence : ℕ := maxSafeJsonInteger

/-- `MEMBERSHIP_REFRESH_TYPES`. -/
def membershipRefreshTypes : List String :=
  ["KEEPALIVE", "CODEC_CONFIG", "PTT_ON", "PTT_REQUEST", "PTT_OFF"]

/-- `RELEASE_REASONS`. -/
def releaseReasons : List (String × ℕ) :=
  [("CLIENT_PTT_OFF", 0), ("SERVER_TALK_TIMEOUT", 1), ("MEMBERSHIP_TIMEOUT", 2),
    ("CLIENT_LEAVE", 3), ("SERVER_POLICY", 4), ("IDENTITY_EXPIRED", 5),
    ("SERVICE_ADMISSION_REVOKED", 6), ("PREEMPTED", 7), ("SERVICE_ADMISSION_EXPIRED", 8)]

/-- `MEDIA_SECURITY_MODES`. -/
def mediaSecurityModes : List String := ["no-crypto", "legacy-xor", "aes-gcm-v2"]

/-- A row of `csv.DictReader`, as its `get`: a column past the end of the row reads `None`. -/
abbrev CsvRow := String → Option String

/-- The library functions that the validators call and do not define. -/
structure Library where
  /-- `json.loads`. -/
  loads : String → Py Json
  /-- All rows of `csv.DictReader(io.StringIO(text))`. -/
  dictReader : String → Py (List CsvRow)
  /-- `hashlib.sha256(data).digest()`. -/
  sha256 : Bytes → Bytes
  /-- `hmac.new(key, data, hashlib.sha256).digest()`. -/
  hmacSha256 : Bytes → Bytes → Bytes

/-- `json.loads(value)`, which takes only text. -/
def Library.loadsValue (lib : Library) (value : Json) : Py Json :=
  match value with
  | .str text => lib.loads text
  | _ => fails .typeError

/-- `_talk_release_payload`. -/
def talkReleasePayload (talkerId : ℕ) (reason : Json) : Py Bytes := do
  let known ← inNames reason (releaseReasons.map Prod.fst)
  require known ["unknown TALK_RELEASE reason: ", .repr reason]
  require (talkerId ≠ 0) ["TALK_RELEASE talker_id must be non-zero"]
  let reasonByte ← tableGet releaseReasons reason
  structPack [.uint 4 talkerId, .uint 1 reasonByte]

/-! ### Values that are read without an exception -/

/-- An integer in `0..maximum`. -/
def Natural (maximum : ℕ) (value : Json) : Prop := ∃ n : ℕ, value = .int n ∧ n ≤ maximum

/-- Hexadecimal text. -/
def HexText (value : Json) : Prop := ∃ data, IsHex value data

/-- An object. -/
def IsObject (value : Json) : Prop := ∃ d, value = .obj d

/-- A list, string or object whose items all have a hash. -/
def Hashables (value : Json) : Prop :=
  ∃ items, value.items? = some items ∧ ∀ item ∈ items, item.hashable = true

section Never
variable {value : Json} {label : Msg} {n : ℕ}

@[simp] theorem throwsOnly_integer_never : ThrowsOnly Never (integer value label n) ↔
    Natural n value := by
  simp [throwsOnly_never, Natural]

@[simp] theorem throwsOnly_hexBytes_never : ThrowsOnly Never (hexBytes value label) ↔
    HexText value := by
  simp [throwsOnly_never, HexText]

theorem throwsOnly_asSet {E : PyExc → Prop} :
    ThrowsOnly E (asSet value) ↔ Hashables value ∨ E (.fault .typeError) := by
  cases h : value.items? <;> simp [asSet, Hashables, iterate, h]

theorem asSet_isOk : (∃ items, asSet value = .ok items) ↔ Hashables value := by
  rw [← throwsOnly_never, throwsOnly_asSet, or_iff_left not_never]

end Never

/-! ### What the handler catches -/

/-- The classes listed in the handler, or derived from one of them. -/
@[simp] def handled : Fault → Bool
  | .valueError | .jsonDecodeError | .keyError | .typeError | .structError => true
  | .indexError | .attributeError | .csvError | .recursionError => false

/-- The `except` clause of `validate_lifecycle_vectors`. -/
def lifecycleCaught : PyExc → Bool
  | .vectorValidation _ => true
  | .fault kind => handled kind

/-- The handler catches the exception. -/
def Caught (exc : PyExc) : Prop := lifecycleCaught exc = true

section Caught
variable {value : Json} {label msg : Msg} {key : String} {n : ℕ}

@[simp] theorem caught_vectorValidation : Caught (.vectorValidation msg) := rfl

@[simp] theorem caught_fault {kind : Fault} : Caught (.fault kind) ↔ handled kind = true := Iff.rfl

@[simp] theorem throwsOnly_integer_caught : ThrowsOnly Caught (integer value label n) :=
  throwsOnly_integer caught_vectorValidation

@[simp] theorem throwsOnly_hexBytes_caught : ThrowsOnly Caught (hexBytes value label) :=
  throwsOnly_hexBytes caught_vectorValidation caught_vectorValidation

@[simp] theorem throwsOnly_member_caught : ThrowsOnly Caught (member value key) :=
  throwsOnly_member rfl rfl

@[simp] theorem throwsOnly_plus_caught : ThrowsOnly Caught (plus value n) := throwsOnly_plus rfl

@[simp] theorem throwsOnly_load_caught {root : Root} {relative : String} :
    ThrowsOnly Caught (load root relative) := throwsOnly_load fun _ => caught_vectorValidation

@[simp] theorem throwsOnly_tableGet_caught {table : List (String × ℕ)} :
    ThrowsOnly Caught (tableGet table value) := by
  cases value with
  | str name => cases h : table.lookup name <;> simp [tableGet, h]
  | arr _ | obj _ => simp [tableGet, Json.hashable]
  | _ => simp [tableGet, Json.hashable]

@[simp] theorem throwsOnly_talkReleasePayload_caught {reason : Json} :
    ThrowsOnly Caught (talkReleasePayload n reason) := by
  simp [talkReleasePayload]

theorem throwsOnly_itemAt_zero_caught : ThrowsOnly Caught (itemAt value 0) ↔ ¬NoItems value := by
  rw [throwsOnly_itemAt_zero (caught_fault.mpr rfl) (caught_fault.mpr rfl)]
  simp

theorem loadsValue_eq_ok {lib : Library} {result : Json} :
    lib.loadsValue value = .ok result ↔ ∃ text, value = .str text ∧ lib.loads text = .ok result := by
  cases value <;> simp [Library.loadsValue]

/-- `json.loads` lets through only what it raises on text. -/
theorem throwsOnly_loadsValue {lib : Library} :
    ThrowsOnly Caught (lib.loadsValue value) ↔
      ∀ text, value = .str text → ThrowsOnly Caught (lib.loads text) := by
  cases value <;> simp [Library.loadsValue]

/-- A numbered loop returns when each of its bodies does. -/
theorem returns_forM_zipIdx {items : List Json} {body : Json × ℕ → Check PUnit} {P : Json → Prop}
    (h : ∀ item index, Returns (body (item, index)) () ↔ P item) :
    Returns (forM items.zipIdx body) () ↔ ∀ item ∈ items, P item := by
  have hfst : items.zipIdx.map Prod.fst = items := List.zipIdx_map_fst 0 items
  rw [returns_forM, ← hfst, List.forall_mem_map, hfst]
  exact forall₂_congr fun pair _ => h pair.1 pair.2

/-- A loop raises only what is caught when each of its bodies does. -/
theorem caught_forM_zipIdx {items : List Json} {body : Json × ℕ → Check PUnit}
    (h : ∀ item index, RaisesOnly Caught (body (item, index))) :
    RaisesOnly Caught (forM items.zipIdx body) :=
  raisesOnly_forM fun pair _ => h pair.1 pair.2

end Caught

end IncomUdon.Lifecycle
