import IncomUdon.Lib.ErrorLog
import IncomUdon.Python.Bytes
import IncomUdon.Python.Value

/-! What a validator can do besides returning: raise, or append to its error list. A message is kept
    as the pieces of the f-string that builds it, before rendering, so that a text is compared with
    a text and a value with a value. `VectorValidationError` carries its message; the exceptions of
    the built-in operations carry none that the validators write.

        Py     a function that may raise           (`Except PyExc`)
        Check  one that also appends to `errors`   (`Run PyExc Msg`) -/

namespace IncomUdon.Python
open IncomUdon.Lib.ErrorLog

/-- The built-in exceptions that the modelled operations raise. -/
inductive Fault where
  | valueError | jsonDecodeError | keyError | typeError | indexError | attributeError | structError
  | csvError | recursionError
  deriving DecidableEq

/-- A piece of an f-string: text, `{value}`, `{value!r}`, `{data.hex()}`, or the interpreter's own
    text for an exception. -/
inductive Frag where
  | lit (text : String)
  | val (value : Json)
  | repr (value : Json)
  | hex (data : Bytes)
  | fault (kind : Fault)

instance : Coe String Frag := ⟨.lit⟩

abbrev Msg := List Frag

/-- A message followed by further pieces. -/
abbrev Msg.add (msg : Msg) (rest : List Frag) : Msg := msg ++ rest

/-- An exception. -/
inductive PyExc where
  | vectorValidation (msg : Msg)
  | fault (kind : Fault)

/-- `str(exc)`. -/
def PyExc.text : PyExc → Msg
  | .vectorValidation msg => msg
  | .fault kind => [.fault kind]

/-- The exception is a `VectorValidationError`. -/
def IsValidation : PyExc → Prop
  | .vectorValidation _ => True
  | .fault _ => False

abbrev Py := Except PyExc

abbrev Check := Run PyExc Msg

variable {α : Type}

/-- `raise VectorValidationError(msg)`. -/
def invalid (msg : Msg) : Py α := .error (.vectorValidation msg)

/-- A built-in operation fails. -/
def fails (kind : Fault) : Py α := .error (.fault kind)

/-- `if not p: raise VectorValidationError(msg)`. -/
def require (p : Prop) [Decidable p] (msg : Msg) : Py Unit := if p then .ok () else invalid msg

/-- The object, or `VectorValidationError(msg)` for any other value. -/
def asObject (value : Json) (msg : Msg) : Py Dict :=
  match value with
  | .obj d => .ok d
  | _ => invalid msg

/-- The array, or `VectorValidationError(msg)` for any other value. -/
def asArray (value : Json) (msg : Msg) : Py (List Json) :=
  match value with
  | .arr items => .ok items
  | _ => invalid msg

/-- The string, or `VectorValidationError(msg)` for any other value. -/
def asString (value : Json) (msg : Msg) : Py String :=
  match value with
  | .str s => .ok s
  | _ => invalid msg

/-- The boolean, or `VectorValidationError(msg)` for any other value. -/
def asBool (value : Json) (msg : Msg) : Py Bool :=
  match value with
  | .bool b => .ok b
  | _ => invalid msg

/-- `_integer`: an `int` that is no `bool`, in `0..maximum`. -/
def integer (value : Json) (label : Msg) (maximum : ℕ) : Py ℕ :=
  match value with
  | .int (.ofNat n) => if n ≤ maximum then .ok n else invalid (outOfRange label maximum)
  | _ => invalid (outOfRange label maximum)
where
  outOfRange (label : Msg) (maximum : ℕ) : Msg :=
    label.add [" must be an integer in 0..", .val (.int maximum)]

/-- `_hex_bytes` without an expected length. -/
def hexBytes (value : Json) (label : Msg) : Py Bytes :=
  match value with
  | .str text =>
    match fromHex text with
    | some decoded => .ok decoded
    | none => invalid (label.add [" is not valid hexadecimal"])
  | _ => invalid (label.add [" must be a hexadecimal string"])

/-- The value is hexadecimal text for these bytes. -/
def IsHex (value : Json) (data : Bytes) : Prop := ∃ text, value = .str text ∧ fromHex text = some data

/-- `_hex_bytes` with an expected length. -/
def hexBytesOfLength (value : Json) (label : Msg) (expectedLength : ℕ) : Py Bytes := do
  let decoded ← hexBytes value label
  require (decoded.length = expectedLength)
    (label.add [" must encode ", .val (.int expectedLength), " bytes, got ",
      .val (.int decoded.length)])
  return decoded

/-- `struct.pack` with a big-endian format. -/
def structPack (fields : List Field) : Py Bytes :=
  if fields.all Field.fits then .ok (fields.flatMap Field.encode) else fails .structError

/-- `bytes(values)`. -/
def bytesOf (values : List ℕ) : Py Bytes :=
  match ofInts? values with
  | some data => .ok data
  | none => fails .valueError

/-- `d[key]`. -/
def subscript (d : Dict) (key : String) : Py Json :=
  match d.lookup key with
  | some value => .ok value
  | none => fails .keyError

/-- `value.get(key)` on a value not known to be an object. -/
def getAttr (value : Json) (key : String) : Py Json :=
  match value with
  | .obj d => .ok (Dict.get d key)
  | _ => fails .attributeError

/-- `xs[index]` on a list. -/
def index (xs : List α) (position : ℕ) : Py α :=
  match xs[position]? with
  | some x => .ok x
  | none => fails .indexError

/-- `xs.index(x)`. -/
def indexOf (xs : List ℕ) (x : ℕ) : Py ℕ :=
  if x ∈ xs then .ok (xs.idxOf x) else fails .valueError

/-- `zip(xs, ys, strict=True)`. -/
def zipStrict {β : Type} (xs : List α) (ys : List β) : Py (List (α × β)) :=
  if xs.length = ys.length then .ok (xs.zip ys) else fails .valueError

/-- `max(values)`. -/
def maxOf (values : List ℕ) : Py ℕ :=
  match values.max? with
  | some m => .ok m
  | none => fails .valueError

/-- What `for item in value` runs over. -/
def iterate (value : Json) : Py (List Json) :=
  match value.items? with
  | some items => .ok items
  | none => fails .typeError

/-- `value in names`, for a set of strings or a table with string keys: the value must have a
    hash. -/
def inNames (value : Json) (names : List String) : Py Bool :=
  if value.hashable then .ok (names.any fun name => value.eq (.str name)) else fails .typeError

/-- `table[value]`, for a table with string keys. -/
def tableGet (table : List (String × ℕ)) (value : Json) : Py ℕ :=
  match value with
  | .str name => (table.lookup name).elim (fails .keyError) .ok
  | value => fails (if value.hashable then .keyError else .typeError)

/-- `d.get("name", default)`, as it is printed in a label. -/
def nameLabel (d : Dict) (default : Msg) : Msg :=
  match d.lookup "name" with
  | some name => [.val name]
  | none => default

/-- `_compare` on byte strings. -/
def compareBytes (label : Msg) (actual expected : Bytes) : Check Unit :=
  if actual = expected then pure ()
  else .append [label.add [": expected ", .hex expected, ", got ", .hex actual]]

/-- `_compare` on other values. -/
def compare (label : Msg) (actual expected : Json) : Check Unit :=
  if actual.eq expected = true then pure ()
  else .append [label.add [": expected ", .repr expected, ", got ", .repr actual]]

/-- `errors.append(msg)` when `p`. -/
def reportIf (p : Prop) [Decidable p] (msg : Msg) : Check Unit :=
  if p then .append [msg] else pure ()

/-- A suite's handler around one validator: the errors of the validator, or one entry with its label
    for an exception that is caught. -/
def handle (caught : PyExc → Bool) (label : Msg) : Check Unit → Py (List Msg)
  | .returned _ log => .ok log
  | .raised exc _ => if caught exc then .ok [label.add (": " :: exc.text)] else .error exc

/-! ### What each primitive returns and raises -/

variable {E : PyExc → Prop} {value : Json} {label msg : Msg} {maximum : ℕ}

@[simp] theorem isValidation_vectorValidation : IsValidation (.vectorValidation msg) := trivial

@[simp] theorem not_isValidation_fault {kind : Fault} : ¬IsValidation (.fault kind) := id

@[simp] theorem invalid_ne_ok {a : α} : (invalid msg : Py α) ≠ .ok a := nofun

@[simp] theorem fails_ne_ok {kind : Fault} {a : α} : (fails kind : Py α) ≠ .ok a := nofun

@[simp] theorem throwsOnly_invalid :
    ThrowsOnly E (invalid msg : Py α) ↔ E (.vectorValidation msg) := throwsOnly_error

@[simp] theorem throwsOnly_fails {kind : Fault} :
    ThrowsOnly E (fails kind : Py α) ↔ E (.fault kind) := throwsOnly_error

@[simp] theorem require_eq_ok {p : Prop} [Decidable p] {u : Unit} : require p msg = .ok u ↔ p := by
  unfold require; split <;> simp_all

@[simp] theorem throwsOnly_require {p : Prop} [Decidable p] :
    ThrowsOnly E (require p msg) ↔ p ∨ E (.vectorValidation msg) := by
  unfold require; split <;> simp_all

@[simp] theorem asObject_eq_ok {d : Dict} : asObject value msg = .ok d ↔ value = .obj d := by
  cases value <;> simp [asObject]

@[simp] theorem throwsOnly_asObject :
    ThrowsOnly E (asObject value msg) ↔ (∃ d, value = .obj d) ∨ E (.vectorValidation msg) := by
  cases value <;> simp [asObject]

@[simp] theorem asArray_eq_ok {items : List Json} :
    asArray value msg = .ok items ↔ value = .arr items := by
  cases value <;> simp [asArray]

@[simp] theorem throwsOnly_asArray :
    ThrowsOnly E (asArray value msg) ↔ (∃ items, value = .arr items) ∨ E (.vectorValidation msg) := by
  cases value <;> simp [asArray]

@[simp] theorem asString_eq_ok {s : String} : asString value msg = .ok s ↔ value = .str s := by
  cases value <;> simp [asString]

@[simp] theorem throwsOnly_asString :
    ThrowsOnly E (asString value msg) ↔ (∃ s, value = .str s) ∨ E (.vectorValidation msg) := by
  cases value <;> simp [asString]

@[simp] theorem asBool_eq_ok {b : Bool} : asBool value msg = .ok b ↔ value = .bool b := by
  cases value <;> simp [asBool]

@[simp] theorem throwsOnly_asBool :
    ThrowsOnly E (asBool value msg) ↔ (∃ b, value = .bool b) ∨ E (.vectorValidation msg) := by
  cases value <;> simp [asBool]

@[simp] theorem integer_eq_ok {n : ℕ} :
    integer value label maximum = .ok n ↔ value = .int n ∧ n ≤ maximum := by
  match value with
  | .int (.ofNat k) =>
    simp only [integer, Int.ofNat_eq_natCast, Json.int.injEq, Int.natCast_inj]
    split <;> simp <;> omega
  | .int (.negSucc k) => simp [integer]
  | .null | .bool _ | .float _ | .str _ | .arr _ | .obj _ => simp [integer]

theorem throwsOnly_integer (h : E (.vectorValidation (integer.outOfRange label maximum))) :
    ThrowsOnly E (integer value label maximum) := by
  unfold integer
  split
  · split <;> simp [h]
  · simp [h]

theorem isHex_toHex (data : Bytes) : IsHex (.str (toHex data)) data := ⟨_, rfl, fromHex_toHex data⟩

theorem isHex_unique {data data' : Bytes} (h : IsHex value data)
    (h' : IsHex value data') : data = data' := by
  obtain ⟨text, rfl, hdata⟩ := h
  obtain ⟨text', htext, hdata'⟩ := h'
  cases htext
  exact Option.some.inj (hdata.symm.trans hdata')

@[simp] theorem hexBytes_eq_ok {data : Bytes} :
    hexBytes value label = .ok data ↔ IsHex value data := by
  unfold IsHex
  cases value with
  | str text => cases h : fromHex text <;> simp [hexBytes, h]
  | _ => simp [hexBytes]

theorem throwsOnly_hexBytes (hhex : E (.vectorValidation (label.add [" is not valid hexadecimal"])))
    (hstr : E (.vectorValidation (label.add [" must be a hexadecimal string"]))) :
    ThrowsOnly E (hexBytes value label) := by
  cases value with
  | str text => cases h : fromHex text <;> simp [hexBytes, h, hhex]
  | _ => simp [hexBytes, hstr]

@[simp] theorem hexBytesOfLength_eq_ok {data : Bytes} {n : ℕ} :
    hexBytesOfLength value label n = .ok data ↔ IsHex value data ∧ data.length = n := by
  simp only [hexBytesOfLength, bind_eq_ok, hexBytes_eq_ok, require_eq_ok]
  constructor
  · rintro ⟨decoded, h, _, hlen, hret⟩
    cases hret
    exact ⟨h, hlen⟩
  · rintro ⟨h, hlen⟩
    exact ⟨data, h, (), hlen, rfl⟩

@[simp] theorem throwsOnly_integer_validation :
    ThrowsOnly IsValidation (integer value label maximum) := throwsOnly_integer trivial

@[simp] theorem throwsOnly_hexBytes_validation : ThrowsOnly IsValidation (hexBytes value label) :=
  throwsOnly_hexBytes trivial trivial

@[simp] theorem throwsOnly_hexBytesOfLength_validation {n : ℕ} :
    ThrowsOnly IsValidation (hexBytesOfLength value label n) := by
  simp [hexBytesOfLength]

@[simp] theorem structPack_eq_ok {fields : List Field} {data : Bytes} :
    structPack fields = .ok data ↔
      (∀ f ∈ fields, f.fits = true) ∧ fields.flatMap Field.encode = data := by
  unfold structPack; split <;> simp_all

@[simp] theorem throwsOnly_structPack {fields : List Field} :
    ThrowsOnly E (structPack fields) ↔
      (∀ f ∈ fields, f.fits = true) ∨ E (.fault .structError) := by
  unfold structPack; split <;> simp_all

@[simp] theorem index_eq_ok {xs : List α} {i : ℕ} {x : α} : index xs i = .ok x ↔ xs[i]? = some x := by
  unfold index; split <;> simp_all

@[simp] theorem throwsOnly_index {xs : List α} {i : ℕ} :
    ThrowsOnly E (index xs i) ↔ i < xs.length ∨ E (.fault .indexError) := by
  unfold index
  split
  · next h => simp [(List.getElem?_eq_some_iff.mp h).1]
  · next h => simp [Nat.not_lt.mpr (List.getElem?_eq_none_iff.mp h)]

@[simp] theorem indexOf_eq_ok {xs : List ℕ} {x i : ℕ} :
    indexOf xs x = .ok i ↔ x ∈ xs ∧ xs.idxOf x = i := by
  unfold indexOf; split <;> simp_all

@[simp] theorem throwsOnly_indexOf {xs : List ℕ} {x : ℕ} :
    ThrowsOnly E (indexOf xs x) ↔ x ∈ xs ∨ E (.fault .valueError) := by
  unfold indexOf; split <;> simp_all

@[simp] theorem zipStrict_eq_ok {β : Type} {xs : List α} {ys : List β} {zs : List (α × β)} :
    zipStrict xs ys = .ok zs ↔ xs.length = ys.length ∧ xs.zip ys = zs := by
  unfold zipStrict; split <;> simp_all

@[simp] theorem throwsOnly_zipStrict {β : Type} {xs : List α} {ys : List β} :
    ThrowsOnly E (zipStrict xs ys) ↔ xs.length = ys.length ∨ E (.fault .valueError) := by
  unfold zipStrict; split <;> simp_all

@[simp] theorem maxOf_eq_ok {ns : List ℕ} {m : ℕ} : maxOf ns = .ok m ↔ ns.max? = some m := by
  unfold maxOf; split <;> simp_all

@[simp] theorem throwsOnly_maxOf {ns : List ℕ} :
    ThrowsOnly E (maxOf ns) ↔ ns ≠ [] ∨ E (.fault .valueError) := by
  unfold maxOf
  split
  · next h => simp [show ns ≠ [] by rintro rfl; simp at h]
  · next h => simp [List.max?_eq_none_iff.mp h]

/-- A handler lets nothing escape exactly when it catches all that is raised. -/
theorem handle_isOk {caught : PyExc → Bool} {m : Check Unit} :
    (∃ errors, handle caught label m = .ok errors) ↔ RaisesOnly (fun exc => caught exc = true) m := by
  cases m with
  | returned _ log => simp [handle, RaisesOnly]
  | raised exc log => cases h : caught exc <;> simp [handle, RaisesOnly, h]

/-- A handler reports nothing exactly for a validator that appends nothing and does not raise. -/
theorem handle_eq_nil {caught : PyExc → Bool} {m : Check Unit} :
    handle caught label m = .ok [] ↔ Clean m () := by
  cases m with
  | returned _ log => simp [handle, Clean]
  | raised exc log => cases h : caught exc <;> simp [handle, Clean, h]

@[simp] theorem throwsOnly_iterate :
    ThrowsOnly E (iterate value) ↔ value.items?.isSome ∨ E (.fault .typeError) := by
  unfold iterate; split <;> simp_all

theorem inNames_eq_ok {names : List String} {b : Bool} :
    inNames value names = .ok b ↔
      value.hashable = true ∧ (names.any fun name => value.eq (.str name)) = b := by
  unfold inNames; split <;> simp_all

@[simp] theorem inNames_eq_true {names : List String} :
    inNames value names = .ok true ↔ ∃ name ∈ names, value = .str name := by
  rw [inNames_eq_ok, List.any_eq_true]
  simp only [Json.eq_str]
  constructor
  · exact fun h => h.2
  · rintro ⟨name, hname, rfl⟩
    exact ⟨rfl, name, hname, rfl⟩

@[simp] theorem throwsOnly_inNames {names : List String} :
    ThrowsOnly E (inNames value names) ↔ value.hashable = true ∨ E (.fault .typeError) := by
  unfold inNames; split <;> simp_all

@[simp] theorem tableGet_eq_ok {table : List (String × ℕ)} {n : ℕ} :
    tableGet table value = .ok n ↔ ∃ name, value = .str name ∧ table.lookup name = some n := by
  cases value with
  | str name => cases h : table.lookup name <;> simp [tableGet, h]
  | _ => simp [tableGet]

/-- What is found under a key is one of the items. -/
theorem mem_of_lookup {κ β : Type} [BEq κ] [LawfulBEq κ] {table : List (κ × β)} {key : κ} {b : β}
    (h : table.lookup key = some b) : (key, b) ∈ table := by
  obtain ⟨before, after, rfl, -⟩ := List.lookup_eq_some_iff.mp h
  exact List.mem_append_right before List.mem_cons_self

/-- A value found among the names of the table has an entry. -/
theorem throwsOnly_tableGet_of_inNames {table : List (String × ℕ)}
    (h : inNames value (table.map Prod.fst) = .ok true) : ThrowsOnly E (tableGet table value) := by
  obtain ⟨name, hname, rfl⟩ := inNames_eq_true.mp h
  obtain ⟨⟨name, n⟩, hmem, rfl⟩ := List.mem_map.mp hname
  cases hl : table.lookup name with
  | some n => simp [tableGet, hl]
  | none => exact absurd (List.lookup_eq_none_iff.mp hl _ hmem) (by simp)

/-- Integers below 256 always make a byte string. -/
theorem bytesOf_eq_ok {values : List ℕ} (h : ∀ n ∈ values, n < 256) :
    bytesOf values = .ok (values.map UInt8.ofNat) := by
  rw [bytesOf, ofInts?_eq_some h]

@[simp] theorem raisesOnly_compareBytes {actual expected : Bytes} :
    RaisesOnly E (compareBytes label actual expected) := by
  unfold compareBytes; simp

@[simp] theorem returns_compareBytes {actual expected : Bytes} {u : Unit} :
    Returns (compareBytes label actual expected) u := by
  unfold compareBytes; split <;> simp

@[simp] theorem clean_compareBytes {actual expected : Bytes} {u : Unit} :
    Clean (compareBytes label actual expected) u ↔ actual = expected := by
  unfold compareBytes; split <;> simp_all

@[simp] theorem raisesOnly_compare {actual expected : Json} :
    RaisesOnly E (compare label actual expected) := by
  unfold compare; simp

@[simp] theorem returns_compare {actual expected : Json} {u : Unit} :
    Returns (compare label actual expected) u := by
  unfold compare; split <;> simp

@[simp] theorem clean_compare {actual expected : Json} {u : Unit} :
    Clean (compare label actual expected) u ↔ actual.eq expected = true := by
  unfold compare; split <;> simp_all

/-- A comparison reports under its own label. -/
theorem eq_of_reports_compare {actual expected : Json} {entry : Msg}
    (h : Reports (compare label actual expected) entry) :
    entry = label.add [": expected ", .repr expected, ", got ", .repr actual] := by
  unfold compare at h
  split at h
  · exact absurd h not_reports_pure
  · exact List.mem_singleton.mp h

@[simp] theorem raisesOnly_reportIf {p : Prop} [Decidable p] : RaisesOnly E (reportIf p msg) := by
  unfold reportIf; simp

@[simp] theorem returns_reportIf {p : Prop} [Decidable p] {u : Unit} :
    Returns (reportIf p msg) u := by
  unfold reportIf; split <;> simp

@[simp] theorem clean_reportIf {p : Prop} [Decidable p] {u : Unit} :
    Clean (reportIf p msg) u ↔ ¬p := by
  unfold reportIf; split <;> simp_all

@[simp] theorem reports_reportIf {p : Prop} [Decidable p] {entry : Msg} :
    Reports (reportIf p msg) entry ↔ p ∧ entry = msg := by
  unfold reportIf; split <;> simp_all

end IncomUdon.Python
