import IncomUdon.Crypto.Common

/-! Identity Admission and Managed Service Admission: a relay admits who holds a signed token and
    proves possession of a key. One validator checks both kinds of fixture:

        keys       seed ──▶ public key ──SHA-256──▶ digest
        token      protected.payload ──issuer──▶ compact JWS ──▶ claims ch, sid
        begin      length  compact JWS  public key
        proof      domain  challenge  ch  sid  SHA-256(compact JWS) ──SHA-256──▶ message ──subject──▶ signature

    It reads `ch` and `sid` of the claims, and nothing else. -/

namespace IncomUdon.Crypto
open IncomUdon.Python IncomUdon.Loader IncomUdon.Lib.ErrorLog IncomUdon.Lib.BigEndian

/-- Ed25519 on raw keys, as its library computes it. -/
structure Ed25519 where
  /-- `private.public_key()`, for a seed. -/
  publicKey : Bytes → Bytes
  /-- `private.sign(message)`. -/
  sign : Bytes → Bytes → Bytes
  /-- `public.verify(signature, message)` does not raise `InvalidSignature`. -/
  verify : Bytes → Bytes → Bytes → Bool

/-- The library functions that the admission validator calls and does not define. -/
structure AdmissionLibrary extends Ed25519 where
  /-- `json.loads`. -/
  loads : String → Py Json
  /-- `hashlib.sha256(data).digest()`. -/
  sha256 : Bytes → Bytes

/-- The arguments by which the two kinds of admission differ. -/
structure AdmissionFlow where
  relative : String
  label : String
  jwsName : String
  subjectKeyName : String
  flowPrefix : String
  jwsLengthKey : String
  domain : Bytes

section Validator
variable (lib : AdmissionLibrary)

/-- `_validate_key_pair`: the seed and the expected public key. -/
def validateKeyPair (label : Msg) (seedHex publicHex : Json) : Check (Bytes × Bytes) := do
  let seed ← hexBytesOfLength seedHex (label.add [" private seed"]) 32
  let expectedPublic ← hexBytesOfLength publicHex (label.add [" public key"]) 32
  compareBytes (label.add [" public key"]) (lib.publicKey seed) expectedPublic
  return (seed, expectedPublic)

/-- `_validate_jws`: the compact form of the token. -/
def validateJws (label : Msg) (jws : Json) (issuerSeed issuerPublic : Bytes) : Check String := do
  let jws ← asObject jws (label.add [" JWS must be an object"])
  let required := label.add [" JWS requires JSON strings"]
  let protectedHeader ← asString (Dict.get jws "protected_header_json") required
  let payload ← asString (Dict.get jws "payload_json") required
  let signingInput := base64url (encodeUtf8 protectedHeader) ++ "." ++ base64url (encodeUtf8 payload)
  compare (label.add [" JWS signing input"]) (.str signingInput) (Dict.get jws "signing_input_ascii")
  let signingBytes ← encodeAscii signingInput
  let signature := lib.sign issuerSeed signingBytes
  compare (label.add [" JWS signature"]) (.str (base64url signature))
    (Dict.get jws "signature_base64url")
  let compact := signingInput ++ "." ++ base64url signature
  compare (label.add [" compact JWS"]) (.str compact) (Dict.get jws "compact_jws")
  let compactBytes ← encodeAscii compact
  compare (label.add [" compact JWS byte length"]) (.int compactBytes.length)
    (Dict.get jws "byte_length")
  require (lib.verify issuerPublic signature signingBytes = true)
    (label.add [" JWS signature does not verify"])
  return compact

/-- `json.loads(jws["payload_json"])`, with its decoding error turned into a validation error. -/
def loadsPayload (label : Msg) (payload : Json) : Py Json :=
  match payload with
  | .str text =>
    match lib.loads text with
    | .error (.fault .jsonDecodeError) => invalid (label.add [" JWS payload JSON is invalid"])
    | outcome => outcome
  | _ => fails .typeError

/-- The claims of the token that are read, `ch` and `sid`. -/
def jwsClaims (label : Msg) (jws : Json) : Py (ℕ × ℕ) := do
  let jws ← asObject jws (label.add [" JWS must be an object"])
  let payload ← subscript jws "payload_json"
  let claims ← loadsPayload lib label payload
  let claims ← asObject claims (label.add [" JWS claims must be an object"])
  let channelId ← integer (Dict.get claims "ch") (label.add [" claims ch"]) 0xFFFFFFFF
  let senderId ← integer (Dict.get claims "sid") (label.add [" claims sid"]) 0xFFFFFFFF
  return (channelId, senderId)

/-- The challenge and the proof of possession; the result is the challenge. -/
def checkProof (flow : AdmissionFlow) (challenge proof : Dict) (channelId senderId : ℕ)
    (compactBytes subjectSeed subjectPublic : Bytes) : Check Bytes := do
  let label : Msg := [flow.label]
  let challengeBytes ← hexBytesOfLength (Dict.get challenge "challenge_hex")
    (label.add [" challenge"]) 32
  let ids ← structPack [.uint 4 channelId, .uint 4 senderId]
  let message := lib.sha256 (flow.domain ++ challengeBytes ++ ids ++ lib.sha256 compactBytes)
  let expectedMessage ← hexBytesOfLength (Dict.get proof "message_sha256_hex")
    (label.add [" proof message"]) 32
  compareBytes (label.add [" proof message hash"]) message expectedMessage
  let signature := lib.sign subjectSeed message
  let expectedSignature ← hexBytesOfLength (Dict.get proof "signature_hex")
    (label.add [" proof signature"]) 64
  compareBytes (label.add [" proof signature"]) signature expectedSignature
  require (lib.verify subjectPublic signature message = true)
    (label.add [" proof signature does not verify"])
  return challengeBytes

/-- The begin message. -/
def checkBegin (flow : AdmissionFlow) (document : Dict) (compactBytes subjectPublic : Bytes) :
    Check Unit := do
  let label : Msg := [flow.label]
  let fixture ← asObject (Dict.get document (flow.flowPrefix ++ "_begin"))
    (label.add [" begin fixture must be an object"])
  let length ← structPack [.uint 2 compactBytes.length]
  let beginPayload := length ++ compactBytes ++ subjectPublic
  let expected ← hexBytes (Dict.get fixture "payload_hex") (label.add [" begin payload"])
  compareBytes (label.add [" begin payload"]) beginPayload expected
  compare (label.add [" begin JWS length"]) (.int compactBytes.length)
    (Dict.get fixture flow.jwsLengthKey)
  compare (label.add [" authenticated begin byte length"]) (.int (28 + beginPayload.length + 16))
    (Dict.get fixture "authenticated_datagram_bytes")

/-- The challenge message. -/
def checkChallenge (flow : AdmissionFlow) (challenge : Dict) (challengeBytes : Bytes) :
    Check Unit := do
  let label : Msg := [flow.label]
  let expiry ← integer (Dict.get challenge "expiry_unix_seconds") (label.add [" challenge expiry"])
    0xFFFFFFFF
  let expiryBytes ← structPack [.uint 4 expiry]
  let expected ← hexBytes (Dict.get challenge "payload_hex") (label.add [" challenge payload"])
  compareBytes (label.add [" challenge payload"]) (expiryBytes ++ challengeBytes) expected

/-- One of the deny payloads. -/
def checkDenial (flow : AdmissionFlow) (denial : Json) (index : ℕ) : Check Unit := do
  let label : Msg := [flow.label, " deny payload ", .val (.int index)]
  let denial ← asObject denial (label.add [" must be an object"])
  let expected ← hexBytes (Dict.get denial "payload_hex") label
  let reason ← integer (Dict.get denial "reason_byte")
    [flow.label, " deny reason ", .val (.int index)] 0xFF
  let actual ← bytesOf [reason]
  compareBytes label actual expected

/-- `_validate_admission`. -/
def validateAdmission (root : Root) (flow : AdmissionFlow) : Check Unit := do
  let label : Msg := [flow.label]
  let document ← load root flow.relative
  let keys ← asObject (Dict.get document "synthetic_keys")
    (label.add [" synthetic_keys must be an object"])
  let (issuerSeed, issuerPublic) ← validateKeyPair lib (label.add [" issuer"])
    (Dict.get keys "issuer_private_seed_hex") (Dict.get keys "issuer_public_key_hex")
  let (subjectSeed, subjectPublic) ← validateKeyPair lib (label.add [" subject"])
    (Dict.get keys (flow.subjectKeyName ++ "_private_seed_hex"))
    (Dict.get keys (flow.subjectKeyName ++ "_public_key_hex"))
  compare (label.add [" subject key digest"]) (.str (base64url (lib.sha256 subjectPublic)))
    (Dict.get keys (flow.subjectKeyName ++ "_public_key_sha256_base64url"))
  let jws := Dict.get document flow.jwsName
  let compact ← validateJws lib label jws issuerSeed issuerPublic
  let (channelId, senderId) ← jwsClaims lib label jws
  let required := label.add [" challenge/proof fixtures must be objects"]
  let challenge ← asObject (Dict.get document (flow.flowPrefix ++ "_challenge")) required
  let proof ← asObject (Dict.get document (flow.flowPrefix ++ "_proof")) required
  -- The compact form was encoded before, so that this does not fail.
  let compactBytes ← encodeAscii compact
  let challengeBytes ← checkProof lib flow challenge proof channelId senderId compactBytes subjectSeed
    subjectPublic
  checkBegin flow document compactBytes subjectPublic
  checkChallenge flow challenge challengeBytes
  let denies ← asArray (Dict.get document (flow.flowPrefix ++ "_deny_payloads"))
    (label.add [" deny payloads must be an array"])
  forM denies.zipIdx fun (denial, index) => checkDenial flow denial index

/-- The arguments of `_validate_identity_admission`. -/
def identityAdmission : AdmissionFlow where
  relative := "test-vectors/identity-admission-v1.json"
  label := "Identity Admission"
  jwsName := "ticket"
  subjectKeyName := "client"
  flowPrefix := "identity"
  jwsLengthKey := "ticket_length"
  domain := bytesLiteral "incomudon-identity-admission-v1\x00"

/-- The arguments of `_validate_service_admission`. -/
def serviceAdmission : AdmissionFlow where
  relative := "test-vectors/management/service-admission-v1.json"
  label := "Managed Service Admission"
  jwsName := "grant"
  subjectKeyName := "service"
  flowPrefix := "service_admission"
  jwsLengthKey := "grant_length"
  domain := bytesLiteral "incomudon-managed-service-admission-v1\x00"

end Validator

/-! ### What the checks accept -/

/-- A signed token. -/
structure Token where
  protectedHeader : String
  payload : String
  signature : Bytes

namespace Token

/-- What is signed. -/
def signingInput (token : Token) : String :=
  base64url (encodeUtf8 token.protectedHeader) ++ "." ++ base64url (encodeUtf8 token.payload)

/-- The compact form. -/
def compact (token : Token) : String := token.signingInput ++ "." ++ base64url token.signature

theorem asciiText_signingInput (token : Token) : AsciiText token.signingInput := by
  have hdot : AsciiText "." := by simp [AsciiText]
  exact ((asciiText_base64url _).append hdot).append (asciiText_base64url _)

theorem asciiText_compact (token : Token) : AsciiText token.compact := by
  have hdot : AsciiText "." := by simp [AsciiText]
  exact ((token.asciiText_signingInput).append hdot).append (asciiText_base64url _)

end Token

/-- A token that is accepted in this fixture. -/
structure AcceptsJws (lib : AdmissionLibrary) (jws : Dict) (issuerSeed issuerPublic : Bytes)
    (token : Token) : Prop where
  protectedHeader : Dict.get jws "protected_header_json" = .str token.protectedHeader
  payload : Dict.get jws "payload_json" = .str token.payload
  signingInput : Dict.get jws "signing_input_ascii" = .str token.signingInput
  signs : lib.sign issuerSeed (bytesLiteral token.signingInput) = token.signature
  signature : Dict.get jws "signature_base64url" = .str (base64url token.signature)
  compact : Dict.get jws "compact_jws" = .str token.compact
  byteLength : (Json.int (bytesLiteral token.compact).length).eq (Dict.get jws "byte_length") = true
  verifies : lib.verify issuerPublic token.signature (bytesLiteral token.signingInput) = true

section Accepts
variable {lib : AdmissionLibrary} {flow : AdmissionFlow} {label : Msg} {compact : String}
  {document jws challenge proof : Dict} {value value' : Json} {channelId senderId : ℕ}
  {seed key compactBytes subjectSeed subjectPublic challengeBytes : Bytes}

theorem clean_validateKeyPair :
    Clean (validateKeyPair lib label value value') (seed, key) ↔
      (IsHex value seed ∧ seed.length = 32) ∧ (IsHex value' key ∧ key.length = 32) ∧
        lib.publicKey seed = key := by
  simp only [validateKeyPair, Run.liftM_eq, clean_bind, clean_lift, hexBytesOfLength_eq_ok,
    clean_compareBytes, clean_pure, exists_unit]
  constructor
  · rintro ⟨seed, hseed, key, hkey, hpublic, ⟨⟩⟩
    exact ⟨hseed, hkey, hpublic⟩
  · rintro ⟨hseed, hkey, hpublic⟩
    exact ⟨seed, hseed, key, hkey, hpublic, rfl⟩

theorem clean_validateJws :
    Clean (validateJws lib label value seed key) compact ↔
      ∃ jws token, value = .obj jws ∧ AcceptsJws lib jws seed key token ∧
        token.compact = compact := by
  simp only [validateJws, Run.liftM_eq, clean_bind, clean_lift, asObject_eq_ok, asString_eq_ok,
    encodeAscii_eq_ok, clean_compare, Json.eq_str_left, require_eq_ok, clean_pure, exists_unit]
  constructor
  · rintro ⟨jws, rfl, protectedHeader, hheader, payload, hpayload, hinput, signing, hsigning,
      hsignature, hform, bytes, hbytes, hlength, hverify, rfl⟩
    -- Both texts are ASCII, so their bytes are the only ones there can be.
    obtain rfl : bytesLiteral (Token.signingInput ⟨protectedHeader, payload, []⟩) = signing :=
      Option.some.inj ((encodeAscii?_of_ascii (Token.asciiText_signingInput _)).symm.trans hsigning)
    obtain rfl : bytesLiteral (Token.compact ⟨protectedHeader, payload, lib.sign seed _⟩) = bytes :=
      Option.some.inj ((encodeAscii?_of_ascii (Token.asciiText_compact _)).symm.trans hbytes)
    exact ⟨jws, ⟨protectedHeader, payload, _⟩, rfl,
      ⟨hheader, hpayload, hinput, rfl, hsignature, hform, hlength, hverify⟩, rfl⟩
  · rintro ⟨jws, token, rfl, h, rfl⟩
    have hsigning := encodeAscii?_of_ascii token.asciiText_signingInput
    have hcompact := encodeAscii?_of_ascii token.asciiText_compact
    refine ⟨jws, rfl, _, h.protectedHeader, _, h.payload, h.signingInput, _, hsigning, ?_⟩
    rw [h.signs]
    exact ⟨h.signature, h.compact, _, hcompact, h.byteLength, h.verifies, rfl⟩

theorem loadsPayload_eq_ok {result : Json} :
    loadsPayload lib label value = .ok result ↔
      ∃ payload, value = .str payload ∧ lib.loads payload = .ok result := by
  unfold loadsPayload
  split
  · split <;> simp_all
  · simp_all

/-- The claims that are read are those of the payload. -/
theorem jwsClaims_eq_ok {payload : String} (hpayload : Dict.get jws "payload_json" = .str payload) :
    jwsClaims lib label (.obj jws) = .ok (channelId, senderId) ↔
      ∃ claims, lib.loads payload = .ok (.obj claims) ∧
        (Dict.get claims "ch" = .int channelId ∧ channelId ≤ 0xFFFFFFFF) ∧
        Dict.get claims "sid" = .int senderId ∧ senderId ≤ 0xFFFFFFFF := by
  have hlookup : jws.lookup "payload_json" = some (.str payload) := by
    cases hmember : jws.lookup "payload_json" <;> simp_all [Dict.get, Dict.getD]
  simp only [jwsClaims, bind_eq_ok, asObject_eq_ok, subscript_eq_ok, integer_eq_ok,
    loadsPayload_eq_ok]
  constructor
  · rintro ⟨_, ⟨⟩, text, htext, _, ⟨_, rfl, hloads⟩, claims, rfl, channel, hchannel, sender, hsender,
      hret⟩
    cases hret
    cases hlookup.symm.trans htext
    exact ⟨claims, hloads, hchannel, hsender⟩
  · rintro ⟨claims, hloads, hchannel, hsender⟩
    exact ⟨jws, rfl, _, hlookup, _, ⟨payload, rfl, hloads⟩, claims, rfl, _, hchannel, _, hsender, rfl⟩

/-- The message that a proof signs. -/
def proofMessage (lib : AdmissionLibrary) (flow : AdmissionFlow) (challengeBytes : Bytes)
    (channelId senderId : ℕ) (compactBytes : Bytes) : Bytes :=
  lib.sha256 (flow.domain ++ challengeBytes ++ (toBE 4 channelId ++ toBE 4 senderId) ++
    lib.sha256 compactBytes)

/-- A proof that is accepted: `message` is signed by the subject and verifies. -/
structure AcceptsProof (lib : AdmissionLibrary) (proof : Dict) (subjectSeed subjectPublic : Bytes)
    (message : Bytes) : Prop where
  messageHash : IsHex (Dict.get proof "message_sha256_hex") message
  messageLength : message.length = 32
  signature : IsHex (Dict.get proof "signature_hex") (lib.sign subjectSeed message)
  signatureLength : (lib.sign subjectSeed message).length = 64
  verifies : lib.verify subjectPublic (lib.sign subjectSeed message) message = true

theorem clean_checkProof (hchannel : channelId ≤ 0xFFFFFFFF) (hsender : senderId ≤ 0xFFFFFFFF) :
    Clean (checkProof lib flow challenge proof channelId senderId compactBytes subjectSeed
      subjectPublic) challengeBytes ↔
      (IsHex (Dict.get challenge "challenge_hex") challengeBytes ∧ challengeBytes.length = 32) ∧
        AcceptsProof lib proof subjectSeed subjectPublic
          (proofMessage lib flow challengeBytes channelId senderId compactBytes) := by
  have hids : ∀ ids, structPack [.uint 4 channelId, .uint 4 senderId] = .ok ids ↔
      toBE 4 channelId ++ toBE 4 senderId = ids := by
    intro ids
    simp [Field.encode]
    omega
  simp only [checkProof, Run.liftM_eq, clean_bind, clean_lift, hexBytesOfLength_eq_ok, hids,
    clean_compareBytes, require_eq_ok, clean_pure, exists_unit]
  constructor
  · rintro ⟨bytes, hbytes, _, rfl, _, ⟨hmessage, hlength⟩, rfl, _, ⟨hsignature, hlength'⟩, rfl,
      hverify, rfl⟩
    exact ⟨hbytes, hmessage, hlength, hsignature, hlength', hverify⟩
  · rintro ⟨hbytes, hmessage, hlength, hsignature, hlength', hverify⟩
    exact ⟨_, hbytes, _, rfl, _, ⟨hmessage, hlength⟩, rfl, _, ⟨hsignature, hlength'⟩, rfl,
      hverify, rfl⟩

/-- The begin payload: the token with its length, and the key. -/
def beginPayload (compactBytes subjectPublic : Bytes) : Bytes :=
  toBE 2 compactBytes.length ++ compactBytes ++ subjectPublic

/-- A begin fixture that is accepted. -/
structure AcceptsBegin (flow : AdmissionFlow) (fixture : Dict) (compactBytes subjectPublic : Bytes) :
    Prop where
  lengthFits : compactBytes.length < 256 ^ 2
  payload : IsHex (Dict.get fixture "payload_hex") (beginPayload compactBytes subjectPublic)
  jwsLength : (Json.int compactBytes.length).eq (Dict.get fixture flow.jwsLengthKey) = true
  datagramLength : (Json.int (28 + (beginPayload compactBytes subjectPublic).length + 16)).eq
    (Dict.get fixture "authenticated_datagram_bytes") = true

theorem clean_checkBegin :
    Clean (checkBegin flow document compactBytes subjectPublic) () ↔
      ∃ fixture, Dict.get document (flow.flowPrefix ++ "_begin") = .obj fixture ∧
        AcceptsBegin flow fixture compactBytes subjectPublic := by
  simp only [checkBegin, Run.liftM_eq, clean_bind, clean_lift, asObject_eq_ok, structPack_uint_eq_ok,
    hexBytes_eq_ok, clean_compareBytes, clean_compare, exists_unit]
  constructor
  · rintro ⟨fixture, hfixture, _, ⟨hfits, rfl⟩, _, hpayload, rfl, hlength, hdatagram⟩
    exact ⟨fixture, hfixture, hfits, hpayload, hlength, hdatagram⟩
  · rintro ⟨fixture, hfixture, hfits, hpayload, hlength, hdatagram⟩
    exact ⟨fixture, hfixture, _, ⟨hfits, rfl⟩, _, hpayload, rfl, hlength, hdatagram⟩

/-- A challenge payload that is accepted. -/
def AcceptsChallenge (challenge : Dict) (challengeBytes : Bytes) : Prop :=
  ∃ expiry : ℕ, (Dict.get challenge "expiry_unix_seconds" = .int expiry ∧ expiry ≤ 0xFFFFFFFF) ∧
    IsHex (Dict.get challenge "payload_hex") (toBE 4 expiry ++ challengeBytes)

theorem clean_checkChallenge :
    Clean (checkChallenge flow challenge challengeBytes) () ↔
      AcceptsChallenge challenge challengeBytes := by
  simp only [checkChallenge, Run.liftM_eq, clean_bind, clean_lift, integer_eq_ok,
    structPack_uint_eq_ok, hexBytes_eq_ok, clean_compareBytes]
  constructor
  · rintro ⟨expiry, hexpiry, _, ⟨-, rfl⟩, _, hpayload, rfl⟩
    exact ⟨expiry, hexpiry, hpayload⟩
  · rintro ⟨expiry, hexpiry, hpayload⟩
    exact ⟨expiry, hexpiry, _, ⟨by omega, rfl⟩, _, hpayload, rfl⟩

/-- A deny payload that is accepted: its reason, in one byte. -/
def AcceptsDenial (denial : Json) : Prop :=
  ∃ fixture, denial = .obj fixture ∧
    ∃ reason : ℕ, (Dict.get fixture "reason_byte" = .int reason ∧ reason ≤ 0xFF) ∧
      IsHex (Dict.get fixture "payload_hex") (toBE 1 reason)

theorem clean_checkDenial {index : ℕ} : Clean (checkDenial flow value index) () ↔
    AcceptsDenial value := by
  simp only [checkDenial, Run.liftM_eq, clean_bind, clean_lift, asObject_eq_ok, integer_eq_ok,
    bytesOf_singleton_eq_ok, hexBytes_eq_ok, clean_compareBytes]
  constructor
  · rintro ⟨fixture, rfl, _, hpayload, reason, hreason, _, ⟨-, rfl⟩, rfl⟩
    exact ⟨fixture, rfl, reason, hreason, hpayload⟩
  · rintro ⟨fixture, rfl, reason, hreason, hpayload⟩
    exact ⟨fixture, rfl, _, hpayload, reason, hreason, _, ⟨by omega, rfl⟩, rfl⟩

theorem clean_checkDenials {denies : List Json} :
    Clean (forM denies.zipIdx fun (denial, index) => checkDenial flow denial index) () ↔
      ∀ denial ∈ denies, AcceptsDenial denial := by
  have hfst : denies.zipIdx.map Prod.fst = denies := List.zipIdx_map_fst 0 denies
  rw [clean_forM, ← hfst, List.forall_mem_map, hfst]
  exact forall₂_congr fun _ _ => clean_checkDenial

end Accepts

end IncomUdon.Crypto
