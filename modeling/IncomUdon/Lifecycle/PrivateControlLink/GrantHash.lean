import IncomUdon.Lifecycle.Common

/-! Private Control Link: framing, and the hash of a grant ID. A revocation command names a grant by
    the hash of its ID and never by the ID:

        jti ──ASCII──▶ canonical bytes ──SHA-256──▶ digest ──Base64url──▶ grant_id_hash

    HANDLED: of all that is read here, only the parsing of the grant's payload can raise what the
    handler does not catch. -/

namespace IncomUdon.Lifecycle
open IncomUdon.Python IncomUdon.Loader IncomUdon.Lib.ErrorLog

def privateControlLinkPath : String := "test-vectors/management/private-control-link-v1.json"
def serviceAdmissionPath : String := "test-vectors/management/service-admission-v1.json"

/-- `framing`. -/
def checkFraming (document : Dict) : Check Unit := do
  let framing ← asObject (Dict.get document "framing")
    ["Private Control Link framing must be an object"]
  compare ["Private Control Link length encoding"] (Dict.get framing "lengthEncoding")
    (.str "U32BE")
  compare ["Private Control Link minimum frame"] (Dict.get framing "minimumJsonLength") (.int 2)
  compare ["Private Control Link maximum frame"] (Dict.get framing "maximumJsonLength") (.int 65536)
  compare ["Private Control Link hello deadline"] (Dict.get framing "helloDeadlineSeconds") (.int 5)
  let retention ← integer (Dict.get framing "minimumIdempotencyRetentionSeconds")
    ["Private Control Link idempotency retention"] 0xFFFFFFFF
  reportIf (retention < 600)
    ["Private Control Link idempotency retention is shorter than ten minutes"]

/-! ### Grant ID hash -/

/-- `json.loads(payload_json)`, with its decoding error turned into a validation error. -/
def parsePayloadJson (lib : Library) (text : String) : Py Json :=
  match lib.loads text with
  | .error (.fault .jsonDecodeError) => invalid ["Service Admission grant payload_json is invalid"]
  | outcome => outcome

/-- The claims of the grant in the Service Admission vectors, and their `jti`. -/
def grantClaims (lib : Library) (service : Dict) : Py (Dict × String) := do
  let payloadRequired : Msg := ["Service Admission grant payload_json is required"]
  let grant ← asObject (Dict.get service "grant") payloadRequired
  let text ← asString (Dict.get grant "payload_json") payloadRequired
  let claims ← parsePayloadJson lib text
  let jtiRequired : Msg := ["Service Admission grant jti is required"]
  let claims ← asObject claims jtiRequired
  let jti ← asString (Dict.get claims "jti") jtiRequired
  return (claims, jti)

/-- `jti.encode("ascii")`. -/
def encodeJti (jti : String) : Py Bytes :=
  match encodeAscii? jti with
  | some data => .ok data
  | none => invalid ["Service Admission grant jti must be ASCII"]

/-- What the later checks use: the claims, the canonical bytes of the grant ID and its hash, the
    messages. -/
structure GrantHash where
  claims : Dict
  jtiBytes : Bytes
  hash : String
  messages : List Json

/-- The hash of a grant ID. -/
def grantIdHash (lib : Library) (input : Bytes) : String := base64url (lib.sha256 input)

/-- The valid messages of one type. -/
def messagesOfType (messages : List Json) (type : String) : List Dict :=
  messages.filterMap fun message =>
    match message with
    | .obj d => if (Dict.get d "type").eq (.str type) then some d else none
    | _ => none

/-- The revocation commands with this message ID. -/
def revocationCommands (messages : List Json) (messageId : Json) : List Dict :=
  (messagesOfType messages "revoke_service_admission").filter fun d =>
    (Dict.get d "message_id").eq messageId

/-- The one command of the grant hash vector. -/
def checkHashCommand (commands : List Dict) (claims : Dict) (hash : String) : Check Unit :=
  match commands with
  | [command] => do
    compare ["PCL grant_id_hash command"] (Dict.get command "grant_id_hash") (.str hash)
    compare ["PCL grant_id_hash command channel"] (Dict.get command "channel_id")
      (Dict.get claims "ch")
    compare ["PCL grant_id_hash command service"] (Dict.get command "service_id")
      (Dict.get claims "svc")
  | _ => .append [["PCL grant_id_hash cross-vector command must identify one valid message"]]

/-- One of `negative_inputs`: another spelling of the ID has another hash. -/
def negativeInput (lib : Library) (grantHash : GrantHash) (negative : Json) (index : ℕ) :
    Check Unit := do
  let label : Msg := ["PCL grant_id_hash negative input ", .val (.int index)]
  let negative ← asObject negative (label.add [" must be an object"])
  let name := nameLabel negative label
  let input ← hexBytes (Dict.get negative "input_ascii_hex") (name.add [" input"])
  require (isAscii input) (name.add [" input must be ASCII"])
  compare (name.add [" digest"]) (.str (toHex (lib.sha256 input))) (Dict.get negative "sha256_hex")
  reportIf (input = grantHash.jtiBytes)
    (name.add [": input must differ from the canonical jti bytes"])
  reportIf (grantIdHash lib input = grantHash.hash)
    (name.add [": non-canonical input must not produce grant_id_hash"])

/-- `negative_inputs`. -/
def checkNegativeInputs (lib : Library) (grantHash : GrantHash) (case : Dict) : Check Unit := do
  let nonEmpty : Msg := ["PCL grant_id_hash negative_inputs must be a non-empty array"]
  let negatives ← asArray (Dict.get case "negative_inputs") nonEmpty
  require (negatives ≠ []) nonEmpty
  forM negatives.zipIdx fun (negative, index) => negativeInput lib grantHash negative index

/-- `grant_id_hash_cross_vector`. -/
def checkGrantHash (lib : Library) (root : Root) (document : Dict) : Check GrantHash := do
  let case ← asObject (Dict.get document "grant_id_hash_cross_vector")
    ["Private Control Link grant_id_hash_cross_vector must be an object"]
  reportIf (¬(Dict.get case "source_vector").eq (.str serviceAdmissionPath))
    ["Private Control Link grant_id_hash source vector is incorrect"]
  let service ← load root serviceAdmissionPath
  let (claims, jti) ← grantClaims lib service
  let jtiBytes ← encodeJti jti
  let digest := lib.sha256 jtiBytes
  let hash := grantIdHash lib jtiBytes
  compare ["PCL grant_id_hash source jti"] (.str jti) (Dict.get case "expected_jti")
  compare ["PCL grant_id_hash input bytes"] (.str (toHex jtiBytes))
    (Dict.get case "input_ascii_hex")
  compare ["PCL grant_id_hash digest"] (.str (toHex digest)) (Dict.get case "sha256_hex")
  compare ["PCL grant_id_hash"] (.str hash) (Dict.get case "grant_id_hash")
  let derivation ← asObject (Dict.get service "grant_id_hash_derivation")
    ["Service Admission grant_id_hash_derivation must be an object"]
  compare ["Service Admission grant_id_hash input bytes"] (.str (toHex jtiBytes))
    (Dict.get derivation "input_ascii_hex")
  compare ["Service Admission grant_id_hash digest"] (.str (toHex digest))
    (Dict.get derivation "sha256_hex")
  compare ["Service Admission grant_id_hash"] (.str hash) (Dict.get derivation "base64url")
  let malformed : Msg := ["PCL grant_id_hash cross-vector command is malformed"]
  let commandId ← asString (Dict.get case "pcl_command_message_id") malformed
  let messages ← asArray (Dict.get document "valid_messages") malformed
  checkHashCommand (revocationCommands messages (.str commandId)) claims hash
  let grantHash : GrantHash := ⟨claims, jtiBytes, hash, messages⟩
  checkNegativeInputs lib grantHash case
  return grantHash

/-! ### What is read without an exception -/

/-- `framing` has its retention time. -/
def FramingReadable (document : Dict) : Prop :=
  ∃ framing, Dict.get document "framing" = .obj framing ∧
    Natural 0xFFFFFFFF (Dict.get framing "minimumIdempotencyRetentionSeconds")

/-- The text of the grant's payload. -/
def PayloadText (service : Dict) (text : String) : Prop :=
  ∃ grant, Dict.get service "grant" = .obj grant ∧ Dict.get grant "payload_json" = .str text

/-- The payload parses to claims with a grant ID in ASCII. -/
def ClaimsReadable (lib : Library) (service : Dict) : Prop :=
  ∃ text, PayloadText service text ∧ ∃ claims, lib.loads text = .ok (.obj claims) ∧
    ∃ jti, Dict.get claims "jti" = .str jti ∧ ∃ jtiBytes, encodeAscii? jti = some jtiBytes

/-- An object with ASCII bytes. -/
def NegativeReadable (negative : Json) : Prop :=
  ∃ d, negative = .obj d ∧ ∃ input, IsHex (Dict.get d "input_ascii_hex") input ∧ isAscii input = true

/-- A list of such objects that is not empty. -/
def NegativesReadable (case : Dict) : Prop :=
  ∃ negatives, Dict.get case "negative_inputs" = .arr negatives ∧ negatives ≠ [] ∧
    ∀ negative ∈ negatives, NegativeReadable negative

/-- The members of the grant hash vector are there. -/
def GrantHashReadable (lib : Library) (document case service : Dict) : Prop :=
  ClaimsReadable lib service ∧ IsObject (Dict.get service "grant_id_hash_derivation") ∧
    (∃ commandId, Dict.get case "pcl_command_message_id" = .str commandId) ∧
    (∃ messages, Dict.get document "valid_messages" = .arr messages) ∧ NegativesReadable case

section Readable
variable {document case service claims : Dict} {value : Json} {index : ℕ} {lib : Library}
  {root : Root} {grantHash : GrantHash} {text hash : String} {commands : List Dict} {u : Unit}

theorem returns_checkFraming : Returns (checkFraming document) () ↔ FramingReadable document := by
  simp [checkFraming, FramingReadable, Natural]

theorem parsePayloadJson_eq_ok :
    parsePayloadJson lib text = .ok value ↔ lib.loads text = .ok value := by
  unfold parsePayloadJson
  split <;> simp_all

theorem encodeJti_eq_ok {jtiBytes : Bytes} :
    encodeJti text = .ok jtiBytes ↔ encodeAscii? text = some jtiBytes := by
  unfold encodeJti
  split <;> simp_all

@[simp] theorem returns_checkHashCommand : Returns (checkHashCommand commands claims hash) u := by
  unfold checkHashCommand
  split <;> simp

theorem returns_negativeInput :
    Returns (negativeInput lib grantHash value index) () ↔ NegativeReadable value := by
  simp [negativeInput, NegativeReadable]

theorem returns_checkNegativeInputs :
    Returns (checkNegativeInputs lib grantHash case) () ↔ NegativesReadable case := by
  have hloop : ∀ negatives : List Json, Returns (forM negatives.zipIdx fun (negative, index) =>
      negativeInput lib grantHash negative index) () ↔ ∀ negative ∈ negatives, NegativeReadable negative :=
    fun _ => returns_forM_zipIdx fun _ _ => returns_negativeInput
  simp [checkNegativeInputs, NegativesReadable, hloop]

theorem exists_returns_checkGrantHash
    (hcase : Dict.get document "grant_id_hash_cross_vector" = .obj case)
    (hservice : root serviceAdmissionPath = .json (.obj service)) :
    (∃ grantHash, Returns (checkGrantHash lib root document) grantHash) ↔
      GrantHashReadable lib document case service := by
  simp [checkGrantHash, hcase, hservice, GrantHashReadable, grantClaims, parsePayloadJson_eq_ok,
    encodeJti_eq_ok, bind_eq_ok, pure, Except.pure, ClaimsReadable, PayloadText, IsObject,
    exists_unit, returns_checkNegativeInputs]
  constructor
  · rintro ⟨_, claims, jti, ⟨grant, hgrant, text, htext, hloads, hjti⟩, jtiBytes, hbytes, hderivation,
      hcommand, messages, hmessages, hnegatives, -⟩
    exact ⟨⟨text, ⟨grant, hgrant, htext⟩, claims, hloads, jti, hjti, jtiBytes, hbytes⟩, hderivation,
      hcommand, ⟨messages, hmessages⟩, hnegatives⟩
  · rintro ⟨⟨text, ⟨grant, hgrant, htext⟩, claims, hloads, jti, hjti, jtiBytes, hbytes⟩, hderivation,
      hcommand, ⟨messages, hmessages⟩, hnegatives⟩
    exact ⟨⟨claims, jtiBytes, _, messages⟩, claims, jti, ⟨grant, hgrant, text, htext, hloads, hjti⟩,
      jtiBytes, hbytes, hderivation, hcommand, messages, hmessages, hnegatives, [], rfl⟩

end Readable

/-! ### What is not caught -/

section Handled
variable {document case service claims : Dict} {value : Json} {index : ℕ} {lib : Library}
  {root : Root} {grantHash : GrantHash} {text hash : String} {commands : List Dict}

theorem checkFraming_caught : RaisesOnly Caught (checkFraming document) := by
  simp [checkFraming]

theorem throwsOnly_parsePayloadJson :
    ThrowsOnly Caught (parsePayloadJson lib text) ↔ ThrowsOnly Caught (lib.loads text) := by
  unfold parsePayloadJson
  split <;> simp_all

theorem throwsOnly_grantClaims :
    ThrowsOnly Caught (grantClaims lib service) ↔
      ∀ text, PayloadText service text → ThrowsOnly Caught (lib.loads text) := by
  simp only [grantClaims, throwsOnly_bind, throwsOnly_asObject, throwsOnly_asString, asObject_eq_ok,
    asString_eq_ok, throwsOnly_parsePayloadJson, throwsOnly_pure, caught_vectorValidation, or_true,
    true_and, implies_true, and_true, PayloadText]
  constructor
  · rintro h text ⟨grant, hgrant, htext⟩
    exact h grant hgrant text htext
  · exact fun h grant hgrant text htext => h text ⟨grant, hgrant, htext⟩

theorem encodeJti_caught : ThrowsOnly Caught (encodeJti text) := by
  unfold encodeJti
  split <;> simp

@[simp] theorem checkHashCommand_caught :
    RaisesOnly Caught (checkHashCommand commands claims hash) := by
  unfold checkHashCommand
  split <;> simp

theorem negativeInput_caught : RaisesOnly Caught (negativeInput lib grantHash value index) := by
  simp [negativeInput]

theorem checkNegativeInputs_caught : RaisesOnly Caught (checkNegativeInputs lib grantHash case) := by
  have hloop : ∀ negatives : List Json, RaisesOnly Caught (forM negatives.zipIdx
      fun (negative, index) => negativeInput lib grantHash negative index) := fun _ =>
    caught_forM_zipIdx fun _ _ => negativeInput_caught
  simp [checkNegativeInputs, hloop]

/-- HANDLED: the check raises only what is caught exactly when parsing the payload does. -/
theorem raisesOnly_checkGrantHash :
    RaisesOnly Caught (checkGrantHash lib root document) ↔
      ∀ case, Dict.get document "grant_id_hash_cross_vector" = .obj case →
      ∀ service, root serviceAdmissionPath = .json (.obj service) →
      ∀ text, PayloadText service text → ThrowsOnly Caught (lib.loads text) := by
  simp [checkGrantHash, throwsOnly_grantClaims, encodeJti_caught, checkNegativeInputs_caught]

end Handled

end IncomUdon.Lifecycle
