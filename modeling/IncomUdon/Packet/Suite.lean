import IncomUdon.Packet.Encoder

/-! The packet suite. Every vector is encoded and compared with its expected bytes; a validation
    error ends the vector but not the suite, and errors found before it stay reported. An error is
    labelled with the name of its vector, or with the position of a vector that has no valid name.

    EXACT: the suite reports nothing exactly when every vector conforms. ISOLATED: the report of two
    arrays one after the other is the two reports one after the other. HANDLED: the suite returns
    exactly when no vector makes it hash an array or an object. -/

namespace IncomUdon.Packet
open IncomUdon.Python IncomUdon.Loader IncomUdon.Lib.ErrorLog

/-- The vector file. -/
def vectorPath : String := "test-vectors/packet-envelope-v1.json"

/-- `_check_equal`. -/
def checkEqual (caseName : Msg) (label : String) (actual expected : Bytes) : Check Unit :=
  reportIf (actual ≠ expected)
    (caseName.add [": ", label, " mismatch; expected ", .hex expected, ", got ", .hex actual])

/-- The vector is an object with a name that is a non-empty string. -/
def vectorName (vector : Json) : Py (Dict × String) := do
  let vector ← asObject vector ["vector must be an object"]
  let name ← asString (Dict.get vector "name") ["vector name must be a non-empty string"]
  require (name ≠ "") ["vector name must be a non-empty string"]
  return (vector, name)

/-- The expected payload, when the vector has one. -/
def checkPayloadHex (vector : Dict) (caseName : Msg) (payload : Bytes) : Check Unit :=
  match vector.lookup "payloadHex" with
  | none => pure ()
  | some value => do
    let expected ← hexBytes value (caseName.add [".payloadHex"])
    checkEqual caseName "payload" payload expected

/-- The expected datagram, when the vector has one. -/
def checkDatagramHex (vector : Dict) (caseName : Msg) (payload : Bytes) : Check Unit :=
  match vector.lookup "datagramHex" with
  | none => pure ()
  | some value => do
    let header ← encodeFixedHeader (Dict.get vector "fields")
    let expected ← hexBytes value (caseName.add [".datagramHex"])
    reportIf (expected.length > 1200) (caseName.add [": datagram exceeds the 1200-byte UDP limit"])
    checkEqual caseName "datagram" (header ++ payload) expected

/-- The rest of the loop body, once the name is known. -/
def checkVector (vector : Dict) (name : String) : Check Unit :=
  if ¬Dict.has vector "payloadHex" ∧ ¬Dict.has vector "datagramHex" then pure ()
  else do
    let payload ← encodePayload (.obj vector)
    checkPayloadHex vector [.val (.str name)] payload
    checkDatagramHex vector [.val (.str name)] payload

/-- The handler around the loop body: a validation error is one more entry, anything else escapes. -/
def reportInvalid (caseName : Msg) : Check Unit → Py (List Msg)
  | .returned _ log => .ok log
  | .raised (.vectorValidation msg) log => .ok (log ++ [caseName.add (": " :: msg)])
  | .raised exc _ => .error exc

/-- The label of a vector without a valid name. -/
def positionLabel (index : ℕ) : Msg := ["packet vector ", .val (.int index)]

/-- The errors of one vector. -/
def packetVectorErrors (vector : Json) (index : ℕ) : Py (List Msg) :=
  match vectorName vector with
  | .error exc => reportInvalid (positionLabel index) (.raised exc [])
  | .ok (vector, name) => reportInvalid [.val (.str name)] (checkVector vector name)

/-- The loop over the vectors, from position `index`. -/
def packetErrorsFrom : (index : ℕ) → List Json → Py (List Msg)
  | _, [] => return []
  | index, vector :: vectors => do
    let errors ← packetVectorErrors vector index
    let rest ← packetErrorsFrom (index + 1) vectors
    return errors ++ rest

/-- `validate_packet_envelope_vectors`. -/
def validatePacketEnvelopeVectors (root : Root) : Py (List Msg) :=
  match loadJson root vectorPath with
  | .error (.vectorValidation msg) => .ok [Msg.add [vectorPath, ": "] msg]
  | .error exc => .error exc
  | .ok document =>
    let vectors := match document with
      | .obj d => Dict.get d "vectors"
      | _ => .null
    match vectors with
    | .arr vectors => packetErrorsFrom 0 vectors
    | _ => .ok [[vectorPath, ": vectors must be an array"]]

/-! ### What the suite expects of a vector -/

/-- The document stored for the suite has this array of vectors. -/
def StoresVectors (root : Root) (vectors : List Json) : Prop :=
  ∃ d, root vectorPath = .json (.obj d) ∧ Dict.get d "vectors" = .arr vectors

/-- An object with a name; when it has expected bytes, its payload can be encoded and they are the
    bytes the encoders write, in a datagram of at most 1200 bytes. -/
structure Conforms (vector : Json) : Prop where
  named : ∃ d name, vector = .obj d ∧ Dict.get d "name" = .str name ∧ name ≠ ""
  encoded : ∀ d, vector = .obj d → Dict.has d "payloadHex" ∨ Dict.has d "datagramHex" →
    ∃ payload, encodePayload vector = .ok payload ∧
      (∀ value, d.lookup "payloadHex" = some value → IsHex value payload) ∧
      ∀ value, d.lookup "datagramHex" = some value →
        ∃ header, encodeFixedHeader (Dict.get d "fields") = .ok header ∧
          IsHex value (header ++ payload) ∧ (header ++ payload).length ≤ 1200

/-- `fields.type` is neither an array nor an object. -/
def ScalarType (vector : Json) : Prop := ∀ d, vector = .obj d → (typeOf d).hashable = true

/-- In a vector with a name and expected bytes, a type that is an array or an object is not hashed. -/
def VectorHandled (vector : Json) : Prop :=
  ∀ d name, vector = .obj d → Dict.get d "name" = .str name → name ≠ "" →
    Dict.has d "payloadHex" ∨ Dict.has d "datagramHex" →
    (typeOf d).hashable = true ∨ TypeUnhashed d

/-- Two messages that differ at most in a position label, the second shifted by `n`. -/
def Relabelled (n : ℕ) (msg msg' : Msg) : Prop :=
  msg = msg' ∨ ∃ index rest, msg = (positionLabel index).add rest ∧
    msg' = (positionLabel (index + n)).add rest

/-! ### One vector -/

section Vector
variable {vector : Dict} {value : Json} {name : String} {caseName : Msg} {index : ℕ}

@[simp] theorem clean_checkEqual {label : String} {actual expected : Bytes} {u : Unit} :
    Clean (checkEqual caseName label actual expected) u ↔ actual = expected := by
  simp [checkEqual]

@[simp] theorem raisesOnly_checkEqual {E : PyExc → Prop} {label : String}
    {actual expected : Bytes} : RaisesOnly E (checkEqual caseName label actual expected) := by
  simp [checkEqual]

theorem vectorName_eq_ok :
    vectorName value = .ok (vector, name) ↔
      value = .obj vector ∧ Dict.get vector "name" = .str name ∧ name ≠ "" := by
  simp only [vectorName, bind_eq_ok, asObject_eq_ok, asString_eq_ok, require_eq_ok, pure,
    Except.pure, Except.ok.injEq, Prod.mk.injEq]
  constructor
  · rintro ⟨_, rfl, _, hname, -, hne, rfl, rfl⟩
    exact ⟨rfl, hname, hne⟩
  · rintro ⟨rfl, hname, hne⟩
    exact ⟨_, rfl, _, hname, (), hne, rfl, rfl⟩

theorem throwsOnly_vectorName : ThrowsOnly IsValidation (vectorName value) := by
  simp [vectorName]

/-- The handler reports nothing exactly for a run that appends nothing and does not raise. -/
theorem reportInvalid_eq_nil {m : Check Unit} : reportInvalid caseName m = .ok [] ↔ Clean m () := by
  match m with
  | .returned _ log => simp [reportInvalid, Clean]
  | .raised (.vectorValidation msg) log => simp [reportInvalid, Clean]
  | .raised (.fault kind) log => simp [reportInvalid, Clean]

/-- The handler lets nothing escape exactly when only validation errors are raised. -/
theorem reportInvalid_isOk {m : Check Unit} :
    (∃ errors, reportInvalid caseName m = .ok errors) ↔ RaisesOnly IsValidation m := by
  match m with
  | .returned _ log => simp [reportInvalid, RaisesOnly]
  | .raised (.vectorValidation msg) log => simp [reportInvalid, RaisesOnly]
  | .raised (.fault kind) log => simp [reportInvalid, RaisesOnly]

theorem clean_checkPayloadHex {payload : Bytes} {u : Unit} :
    Clean (checkPayloadHex vector caseName payload) u ↔
      ∀ value, vector.lookup "payloadHex" = some value → IsHex value payload := by
  unfold checkPayloadHex
  cases vector.lookup "payloadHex" with
  | none => simp
  | some value =>
    simp only [Run.liftM_eq, clean_bind, clean_lift, hexBytes_eq_ok, clean_checkEqual,
      Option.some.injEq, forall_eq']
    constructor
    · rintro ⟨_, h, rfl⟩
      exact h
    · exact fun h => ⟨payload, h, rfl⟩

theorem clean_checkDatagramHex {payload : Bytes} :
    Clean (checkDatagramHex vector caseName payload) () ↔
      ∀ value, vector.lookup "datagramHex" = some value →
        ∃ header, encodeFixedHeader (Dict.get vector "fields") = .ok header ∧
          IsHex value (header ++ payload) ∧ (header ++ payload).length ≤ 1200 := by
  unfold checkDatagramHex
  cases vector.lookup "datagramHex" with
  | none => simp
  | some value =>
    simp only [Run.liftM_eq, clean_bind, clean_lift, hexBytes_eq_ok, clean_reportIf, clean_checkEqual,
      Option.some.injEq, forall_eq', gt_iff_lt, not_lt]
    constructor
    · rintro ⟨header, hheader, _, hhex, -, hle, rfl⟩
      exact ⟨header, hheader, hhex, hle⟩
    · rintro ⟨header, hheader, hhex, hle⟩
      exact ⟨header, hheader, _, hhex, (), hle, rfl⟩

/-- The loop body is silent exactly when the expected bytes are the ones written. -/
theorem clean_checkVector :
    Clean (checkVector vector name) () ↔
      (Dict.has vector "payloadHex" ∨ Dict.has vector "datagramHex" →
        ∃ payload, encodePayload (.obj vector) = .ok payload ∧
          (∀ value, vector.lookup "payloadHex" = some value → IsHex value payload) ∧
          ∀ value, vector.lookup "datagramHex" = some value →
            ∃ header, encodeFixedHeader (Dict.get vector "fields") = .ok header ∧
              IsHex value (header ++ payload) ∧ (header ++ payload).length ≤ 1200) := by
  simp only [checkVector, ← not_or]
  by_cases h : Dict.has vector "payloadHex" ∨ Dict.has vector "datagramHex"
  · simp only [h, not_true_eq_false, if_false, Run.liftM_eq, clean_bind, clean_lift,
      clean_checkPayloadHex, clean_checkDatagramHex, true_imp_iff]
    exact exists_congr fun payload => and_congr_right fun _ => exists_const _
  · simp [h]

/-- A vector is reported nothing exactly when it conforms. -/
theorem packetVectorErrors_eq_nil : packetVectorErrors value index = .ok [] ↔ Conforms value := by
  unfold packetVectorErrors
  cases hname : vectorName value with
  | error exc =>
    have hnot : ¬Conforms value := by
      rintro ⟨⟨d, name, rfl, hget, hne⟩, -⟩
      rw [vectorName_eq_ok.mpr ⟨rfl, hget, hne⟩] at hname
      cases hname
    simp [reportInvalid_eq_nil, Clean, hnot]
  | ok pair =>
    obtain ⟨vector, name⟩ := pair
    obtain ⟨rfl, hget, hne⟩ := vectorName_eq_ok.mp hname
    simp only [reportInvalid_eq_nil, clean_checkVector]
    constructor
    · intro h
      refine ⟨⟨vector, name, rfl, hget, hne⟩, ?_⟩
      rintro _ ⟨⟩
      exact h
    · exact fun h => h.encoded vector rfl

theorem raisesOnly_checkPayloadHex {payload : Bytes} :
    RaisesOnly IsValidation (checkPayloadHex vector caseName payload) := by
  unfold checkPayloadHex
  cases vector.lookup "payloadHex" <;> simp

theorem raisesOnly_checkDatagramHex {payload : Bytes} :
    RaisesOnly IsValidation (checkDatagramHex vector caseName payload) ↔
      (Dict.has vector "datagramHex" → (typeOf vector).hashable = true) := by
  rw [Dict.has, checkDatagramHex]
  cases vector.lookup "datagramHex" <;> simp [throwsOnly_encodeFixedHeader]

/-- The body raises validation errors only, unless it hashes a type that has no hash. The header is
    not what decides: it is written after a payload, and so after the type was found to be known. -/
theorem raisesOnly_checkVector :
    RaisesOnly IsValidation (checkVector vector name) ↔
      (Dict.has vector "payloadHex" ∨ Dict.has vector "datagramHex" →
        (typeOf vector).hashable = true ∨ TypeUnhashed vector) := by
  simp only [checkVector, ← not_or, raisesOnly_ite, raisesOnly_pure, implies_true, not_not, true_and,
    Run.liftM_eq, raisesOnly_bind, raisesOnly_lift, throwsOnly_encodePayload, returns_lift,
    raisesOnly_checkPayloadHex, raisesOnly_checkDatagramHex]
  refine imp_congr_right fun _ => and_iff_left ?_
  intro payload hpayload _ _ _
  exact hashable_of_encodePayload hpayload

/-- The errors of a vector are reported exactly when it is handled. -/
theorem packetVectorErrors_isOk :
    (∃ errors, packetVectorErrors value index = .ok errors) ↔ VectorHandled value := by
  unfold packetVectorErrors VectorHandled
  cases hname : vectorName value with
  | error exc =>
    have hraised : RaisesOnly IsValidation (Run.raised exc [] : Check Unit) := by
      rintro _ _ ⟨⟩
      exact throwsOnly_vectorName exc hname
    refine iff_of_true (reportInvalid_isOk.mpr hraised) ?_
    rintro d name rfl hget hne
    rw [vectorName_eq_ok.mpr ⟨rfl, hget, hne⟩] at hname
    cases hname
  | ok pair =>
    obtain ⟨vector, name⟩ := pair
    obtain ⟨rfl, hget, hne⟩ := vectorName_eq_ok.mp hname
    rw [reportInvalid_isOk, raisesOnly_checkVector]
    constructor
    · rintro h _ _ ⟨⟩ - -
      exact h
    · exact fun h => h vector name rfl hget hne

theorem ScalarType.handled (h : ScalarType value) : VectorHandled value :=
  fun d _ hd _ _ _ => .inl (h d hd)

/-- Where a vector stands shows at most in the label of its errors. -/
theorem packetVectorErrors_relabelled (index n : ℕ) {errors : List Msg}
    (h : packetVectorErrors value index = .ok errors) :
    ∃ errors', packetVectorErrors value (index + n) = .ok errors' ∧
      List.Forall₂ (Relabelled n) errors errors' := by
  unfold packetVectorErrors at h ⊢
  cases hname : vectorName value with
  | error exc =>
    rw [hname] at h
    cases exc with
    | vectorValidation msg =>
      obtain rfl := Except.ok.inj h
      exact ⟨_, rfl, .cons (.inr ⟨index, ": " :: msg, rfl, rfl⟩) .nil⟩
    | fault kind => cases h
  | ok pair =>
    rw [hname] at h
    exact ⟨errors, h, List.forall₂_same.mpr fun msg _ => .inl rfl⟩

end Vector

/-! ### The suite -/

section Suite
variable {vectors : List Json} {index : ℕ}

theorem packetErrorsFrom_eq_nil :
    packetErrorsFrom index vectors = .ok [] ↔ ∀ vector ∈ vectors, Conforms vector := by
  induction vectors generalizing index with
  | nil => simp [packetErrorsFrom, pure, Except.pure]
  | cons vector vectors ih =>
    rw [List.forall_mem_cons, ← ih, ← packetVectorErrors_eq_nil, packetErrorsFrom]
    simp only [bind_eq_ok, pure, Except.pure, Except.ok.injEq, List.append_eq_nil_iff]
    constructor
    · rintro ⟨_, h, _, hrest, rfl, rfl⟩
      exact ⟨h, hrest⟩
    · rintro ⟨h, hrest⟩
      exact ⟨[], h, [], hrest, rfl, rfl⟩

/-- ISOLATED: an error in one vector never hides an error in another. -/
theorem packetErrorsFrom_append (xs ys : List Json) :
    packetErrorsFrom index (xs ++ ys) = do
      let errors ← packetErrorsFrom index xs
      let rest ← packetErrorsFrom (index + xs.length) ys
      return errors ++ rest := by
  induction xs generalizing index with
  | nil => simp [packetErrorsFrom]
  | cons x xs ih =>
    simp [packetErrorsFrom, ih, Nat.add_assoc, Nat.add_comm 1]
    simp only [← List.append_assoc]

theorem packetErrorsFrom_isOk (index : ℕ) :
    (∃ errors, packetErrorsFrom index vectors = .ok errors) ↔
      ∀ vector ∈ vectors, VectorHandled vector := by
  induction vectors generalizing index with
  | nil => simp [packetErrorsFrom, pure, Except.pure]
  | cons vector vectors ih =>
    rw [List.forall_mem_cons, ← packetVectorErrors_isOk, ← ih (index + 1)]
    simp only [packetErrorsFrom, bind_eq_ok, pure, Except.pure, Except.ok.injEq]
    constructor
    · rintro ⟨_, errors, herrors, rest, hrest, -⟩
      exact ⟨⟨errors, herrors⟩, rest, hrest⟩
    · rintro ⟨⟨errors, herrors⟩, rest, hrest⟩
      exact ⟨_, errors, herrors, rest, hrest, rfl⟩

theorem packetErrorsFrom_relabelled (n : ℕ) {errors : List Msg}
    (h : packetErrorsFrom index vectors = .ok errors) :
    ∃ errors', packetErrorsFrom (index + n) vectors = .ok errors' ∧
      List.Forall₂ (Relabelled n) errors errors' := by
  induction vectors generalizing index errors with
  | nil =>
    obtain rfl := Except.ok.inj h
    exact ⟨[], rfl, .nil⟩
  | cons vector vectors ih =>
    obtain ⟨first, hfirst, h⟩ := bind_eq_ok.mp h
    obtain ⟨rest, hrest, h⟩ := bind_eq_ok.mp h
    obtain rfl := Except.ok.inj h
    obtain ⟨first', hfirst', hrel⟩ := packetVectorErrors_relabelled index n hfirst
    obtain ⟨rest', hrest', hrels⟩ := ih hrest
    refine ⟨first' ++ rest', ?_, List.rel_append hrel hrels⟩
    rw [Nat.add_right_comm] at hrest'
    simp [packetErrorsFrom, hfirst', hrest', pure, Except.pure]

theorem validate_of_stores {root : Root} (h : StoresVectors root vectors) :
    validatePacketEnvelopeVectors root = packetErrorsFrom 0 vectors := by
  obtain ⟨d, hroot, hvectors⟩ := h
  simp [validatePacketEnvelopeVectors, loadJson, hroot, hvectors]

/-- HANDLED: the suite returns exactly when the vectors that are stored are handled. -/
theorem validatePacketEnvelopeVectors_isOk {root : Root} :
    (∃ errors, validatePacketEnvelopeVectors root = .ok errors) ↔
      ∀ vectors, StoresVectors root vectors → ∀ vector ∈ vectors, VectorHandled vector := by
  constructor
  · intro h vectors hstores
    rw [validate_of_stores hstores] at h
    exact (packetErrorsFrom_isOk 0).mp h
  · intro h
    match hroot : root vectorPath with
    | .unreadable _ | .malformed _ => simp [validatePacketEnvelopeVectors, loadJson, hroot, invalid]
    | .json (.obj d) =>
      cases hvectors : Dict.get d "vectors" with
      | arr vectors =>
        have hstores : StoresVectors root vectors := ⟨d, hroot, hvectors⟩
        rw [validate_of_stores hstores]
        exact (packetErrorsFrom_isOk 0).mpr (h vectors hstores)
      | _ => simp [validatePacketEnvelopeVectors, loadJson, hroot, hvectors]
    | .json .null | .json (.bool _) | .json (.int _) | .json (.float _) | .json (.str _)
    | .json (.arr _) => simp [validatePacketEnvelopeVectors, loadJson, hroot]

/-- EXACT and ISOLATED: the suite reports nothing exactly when the stored document has an array of
    vectors that all conform; and the report of two arrays one after the other is their two reports
    one after the other, up to the position labels. -/
theorem packetSuite_exact :
    (∀ root document, root vectorPath = .json document →
      (validatePacketEnvelopeVectors root = .ok [] ↔
        ∃ vectors, StoresVectors root vectors ∧ ∀ vector ∈ vectors, Conforms vector)) ∧
    ∀ root root₁ root₂ xs ys, StoresVectors root (xs ++ ys) → StoresVectors root₁ xs →
      StoresVectors root₂ ys → (∀ vector ∈ xs ++ ys, ScalarType vector) →
      ∃ errors₁ errors₂ errors₂', validatePacketEnvelopeVectors root₁ = .ok errors₁ ∧
        validatePacketEnvelopeVectors root₂ = .ok errors₂ ∧
        validatePacketEnvelopeVectors root = .ok (errors₁ ++ errors₂') ∧
        List.Forall₂ (Relabelled xs.length) errors₂ errors₂' := by
  refine ⟨fun root document hroot => ?_, fun root root₁ root₂ xs ys h h₁ h₂ hscalar => ?_⟩
  · constructor
    · intro hnil
      match document with
      | .obj d =>
        cases hvectors : Dict.get d "vectors" with
        | arr vectors =>
          have hstores : StoresVectors root vectors := ⟨d, hroot, hvectors⟩
          rw [validate_of_stores hstores, packetErrorsFrom_eq_nil] at hnil
          exact ⟨vectors, hstores, hnil⟩
        | _ => simp [validatePacketEnvelopeVectors, loadJson, hroot, hvectors] at hnil
      | .null | .bool _ | .int _ | .float _ | .str _ | .arr _ =>
        simp [validatePacketEnvelopeVectors, loadJson, hroot] at hnil
    · rintro ⟨vectors, hstores, hall⟩
      rw [validate_of_stores hstores]
      exact packetErrorsFrom_eq_nil.mpr hall
  · rw [validate_of_stores h, validate_of_stores h₁, validate_of_stores h₂]
    obtain ⟨hxs, hys⟩ := List.forall_mem_append.mp hscalar
    obtain ⟨errors₁, herrors₁⟩ :=
      (packetErrorsFrom_isOk 0).mpr fun vector hmem => (hxs vector hmem).handled
    obtain ⟨errors₂, herrors₂⟩ :=
      (packetErrorsFrom_isOk 0).mpr fun vector hmem => (hys vector hmem).handled
    obtain ⟨errors₂', herrors₂', hrel⟩ := packetErrorsFrom_relabelled xs.length herrors₂
    refine ⟨errors₁, errors₂, errors₂', herrors₁, herrors₂, ?_, hrel⟩
    rw [Nat.zero_add] at herrors₂'
    simp [packetErrorsFrom_append, herrors₁, herrors₂', pure, Except.pure]

end Suite

end IncomUdon.Packet
