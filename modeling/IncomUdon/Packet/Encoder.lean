import IncomUdon.Loader

/-! The Version 1 packet encoders. A vector describes a packet by its fields, and the encoders write
    the 16-byte header and the payload from them, never from the expected bytes in the vector:

        version  type  headerLen  channelId  senderId  seq  flags  |  payload
           1       1       2          4          4      2     2

    Which payload is written is decided by the keys present, in a fixed order. -/

namespace IncomUdon.Packet
open IncomUdon.Python IncomUdon.Lib.ErrorLog

/-- `PACKET_TYPES`. -/
def packetTypes : List (String × ℕ) :=
  [("AUDIO", 0x01), ("PTT_ON", 0x02), ("PTT_OFF", 0x03), ("KEEPALIVE", 0x04), ("JOIN", 0x05),
    ("LEAVE", 0x06), ("TALK_GRANT", 0x07), ("TALK_RELEASE", 0x08), ("TALK_DENY", 0x09),
    ("KEY_EXCHANGE", 0x0A), ("CODEC_CONFIG", 0x0B), ("FEC", 0x0C), ("SERVER_CONFIG", 0x0D),
    ("PING", 0x0E), ("PONG", 0x0F), ("AUTH_HELLO", 0x10), ("AUTH_CHALLENGE", 0x11),
    ("IDENTITY_BEGIN", 0x12), ("IDENTITY_CHALLENGE", 0x13), ("IDENTITY_PROOF", 0x14),
    ("IDENTITY_DENY", 0x15), ("SERVICE_ADMISSION_BEGIN", 0x16),
    ("SERVICE_ADMISSION_CHALLENGE", 0x17), ("SERVICE_ADMISSION_PROOF", 0x18),
    ("SERVICE_ADMISSION_DENY", 0x19), ("PTT_REQUEST", 0x1A)]

/-- `EMPTY_PAYLOAD_TYPES`. -/
def emptyPayloadTypes : List String := ["PTT_ON"]

/-- `encode_fixed_header`. -/
def encodeFixedHeader (fields : Json) : Py Bytes := do
  let fields ← asObject fields ["fields must be an object"]
  let packetType := Dict.get fields "type"
  let known ← inNames packetType (packetTypes.map Prod.fst)
  require known ["unknown packet type: ", .repr packetType]
  let version ← integer (Dict.get fields "version") ["fields.version"] 0xFF
  require (version = 1) ["packet-envelope-v1 vectors must use version 1"]
  let headerLength ← integer (Dict.get fields "headerLen") ["fields.headerLen"] 0xFFFF
  require (headerLength = 16)
    ["packet suite currently supports only the 16-byte fixed-header vectors"]
  let code ← tableGet packetTypes packetType
  let channelId ← integer (Dict.get fields "channelId") ["fields.channelId"] 0xFFFFFFFF
  let senderId ← integer (Dict.get fields "senderId") ["fields.senderId"] 0xFFFFFFFF
  let seq ← integer (Dict.get fields "seq") ["fields.seq"] 0xFFFF
  let flags ← integer (Dict.get fields "flags") ["fields.flags"] 0xFFFF
  structPack [.uint 1 version, .uint 1 code, .uint 2 headerLength, .uint 4 channelId,
    .uint 4 senderId, .uint 2 seq, .uint 2 flags]

/-- `_encode_codec_config`. -/
def encodeCodecConfig (config : Json) : Py Bytes := do
  let config ← asObject config ["codecConfig must be an object"]
  let flags ← integer (Dict.get config "flags") ["codecConfig.flags"] 0xFF
  let transportId ← integer (Dict.get config "codecTransportId") ["codecConfig.codecTransportId"]
    0xFF
  let modeBps ← integer (Dict.get config "codecModeBps") ["codecConfig.codecModeBps"] 0xFFFFFFFF
  let fecOptions ← integer (Dict.get config "fecOptions") ["codecConfig.fecOptions"] 0xFF
  let nonce ← hexBytesOfLength (Dict.get config "mediaNonceBase96Hex")
    ["codecConfig.mediaNonceBase96Hex"] 12
  structPack [.uint 1 flags, .uint 1 transportId, .uint 4 modeBps, .uint 1 fecOptions,
    .bytes 12 nonce]

/-- `_encode_server_config`. -/
def encodeServerConfig (config : Json) : Py Bytes := do
  let config ← asObject config ["serverConfig must be an object"]
  let multiTalk ← asBool (Dict.get config "multiTalkEnabled")
    ["serverConfig.multiTalkEnabled must be boolean"]
  let talkSeconds ← integer (Dict.get config "maximumTalkSeconds")
    ["serverConfig.maximumTalkSeconds"] 0xFFFF
  let activeTalkers ← integer (Dict.get config "maximumActiveTalkers")
    ["serverConfig.maximumActiveTalkers"] 0xFF
  let leaseSeconds ← integer (Dict.get config "membershipLeaseSeconds")
    ["serverConfig.membershipLeaseSeconds"] 0xFFFF
  let keepaliveSeconds ← integer (Dict.get config "keepaliveIntervalSeconds")
    ["serverConfig.keepaliveIntervalSeconds"] 0xFFFF
  structPack [.uint 2 talkSeconds, .uint 1 multiTalk.toNat, .uint 1 activeTalkers,
    .uint 2 leaseSeconds, .uint 2 keepaliveSeconds]

/-- The payload of a vector with a `talkerId`. -/
def encodeTalker (vector : Dict) (packetType talkerId : Json) : Py Bytes := do
  let allowed ← inNames packetType ["TALK_GRANT", "TALK_DENY", "TALK_RELEASE"]
  require allowed ["talkerId is valid only for TALK_GRANT, TALK_DENY, or TALK_RELEASE"]
  let talkerId ← integer talkerId ["talkerId"] 0xFFFFFFFF
  if packetType.eq (.str "TALK_RELEASE") then
    let reason ← integer (Dict.get vector "releaseReason") ["releaseReason"] 0xFF
    structPack [.uint 4 talkerId, .uint 1 reason]
  else
    require (¬Dict.has vector "releaseReason") ["releaseReason is valid only for TALK_RELEASE"]
    structPack [.uint 4 talkerId]

/-- The payload of a vector with a `pingNonceHex`. -/
def encodePing (packetType nonce : Json) : Py Bytes := do
  let allowed ← inNames packetType ["PING", "PONG"]
  require allowed ["pingNonceHex is valid only for PING or PONG"]
  hexBytesOfLength nonce ["pingNonceHex"] 8

/-- The payload of a vector with an `audioSeq`: there is no envelope around it. -/
def encodeAudio (vector : Dict) (packetType audioSeq : Json) : Py Bytes := do
  require (packetType.eq .null) ["audio payload vector must not include envelope fields"]
  let audioSeq ← integer audioSeq ["audioSeq"] 0xFFFF
  let sequence ← structPack [.uint 2 audioSeq]
  let frame ← hexBytes (Dict.get vector "codecFrameHex") ["codecFrameHex"]
  return sequence ++ frame

/-- `fields.get("type")`, or `None` when the fields are no object. -/
def typeOf (vector : Dict) : Json :=
  match Dict.get vector "fields" with
  | .obj fields => Dict.get fields "type"
  | _ => .null

/-- `encode_payload`. -/
def encodePayload (vector : Json) : Py Bytes := do
  let vector ← asObject vector ["packet vector must be an object"]
  let packetType := typeOf vector
  if let some config := vector.lookup "codecConfig" then
    require (packetType.eq (.str "CODEC_CONFIG")) ["codecConfig is valid only for CODEC_CONFIG"]
    encodeCodecConfig config
  else if let some config := vector.lookup "serverConfig" then
    require (packetType.eq (.str "SERVER_CONFIG")) ["serverConfig is valid only for SERVER_CONFIG"]
    encodeServerConfig config
  else if let some talkerId := vector.lookup "talkerId" then
    encodeTalker vector packetType talkerId
  else if let some nonce := vector.lookup "pingNonceHex" then
    encodePing packetType nonce
  else if let some audioSeq := vector.lookup "audioSeq" then
    encodeAudio vector packetType audioSeq
  else
    let empty ← inNames packetType emptyPayloadTypes
    require empty ["vector has no independently encodable payload definition"]
    return []

/-! ### What the encoders raise -/

section Throws
variable {vector : Dict} {packetType value : Json}

@[simp] theorem throwsOnly_encodeCodecConfig :
    ThrowsOnly IsValidation (encodeCodecConfig value) := by
  simp only [encodeCodecConfig, throwsOnly_bind, throwsOnly_asObject, throwsOnly_integer_validation,
    throwsOnly_hexBytesOfLength_validation, integer_eq_ok, throwsOnly_structPack, true_and,
    isValidation_vectorValidation, or_true]
  intro config _ flags hflags id hid mode hmode fec hfec nonce _
  refine .inl ?_
  simp [Field.fits]
  omega

@[simp] theorem throwsOnly_encodeServerConfig :
    ThrowsOnly IsValidation (encodeServerConfig value) := by
  simp only [encodeServerConfig, throwsOnly_bind, throwsOnly_asObject, throwsOnly_asBool,
    throwsOnly_integer_validation, integer_eq_ok, throwsOnly_structPack, true_and,
    isValidation_vectorValidation, or_true]
  intro config _ multiTalk _ talk htalk active hactive lease hlease keepalive hkeepalive
  have hmulti := Bool.toNat_lt multiTalk
  refine .inl ?_
  simp [Field.fits]
  omega

/-- A header is refused with a validation error, unless its type has no hash. -/
theorem throwsOnly_encodeFixedHeader :
    ThrowsOnly IsValidation (encodeFixedHeader (Dict.get vector "fields")) ↔
      (typeOf vector).hashable = true := by
  unfold typeOf
  cases hfields : Dict.get vector "fields" with
  | obj fields =>
    simp only [encodeFixedHeader, asObject, ok_bind, throwsOnly_bind, throwsOnly_inNames,
      throwsOnly_require, throwsOnly_integer_validation, isValidation_vectorValidation,
      not_isValidation_fault, or_false, or_true, true_and, require_eq_ok, integer_eq_ok,
      tableGet_eq_ok, throwsOnly_structPack]
    refine and_iff_left ?_
    rintro known hknown ⟨⟩ rfl version - ⟨⟩ rfl length - ⟨⟩ rfl
    refine ⟨throwsOnly_tableGet_of_inNames hknown, ?_⟩
    rintro code ⟨name, -, hcode⟩ channel hchannel sender hsender seq hseq flags hflags
    have hlt : ∀ entry ∈ packetTypes, entry.2 < 256 := by decide
    have hcode' := hlt _ (mem_of_lookup hcode)
    simp [Field.fits]
    omega
  | _ => simp [encodeFixedHeader, asObject, Json.hashable]

theorem throwsOnly_encodeTalker :
    ThrowsOnly IsValidation (encodeTalker vector packetType value) ↔ packetType.hashable = true := by
  simp only [encodeTalker, throwsOnly_bind, throwsOnly_inNames, throwsOnly_require,
    throwsOnly_integer_validation, throwsOnly_ite, isValidation_vectorValidation,
    not_isValidation_fault, or_false, or_true, true_and, require_eq_ok, integer_eq_ok,
    throwsOnly_structPack]
  refine and_iff_left ?_
  rintro allowed - ⟨⟩ rfl talker htalker
  refine ⟨fun _ reason hreason => ?_, fun _ _ _ => ?_⟩ <;> simp [Field.fits] <;> omega

theorem throwsOnly_encodePing :
    ThrowsOnly IsValidation (encodePing packetType value) ↔ packetType.hashable = true := by
  simp [encodePing]

theorem throwsOnly_encodeAudio : ThrowsOnly IsValidation (encodeAudio vector packetType value) := by
  simp only [encodeAudio, throwsOnly_bind, throwsOnly_require, throwsOnly_integer_validation,
    throwsOnly_hexBytes_validation, throwsOnly_pure, isValidation_vectorValidation, or_true,
    true_and, integer_eq_ok, throwsOnly_structPack, implies_true, and_true]
  intro _ _ seq hseq
  refine .inl ?_
  simp [Field.fits]
  omega

/-- The key that decides the payload of the vector is looked at without hashing the type. -/
def TypeUnhashed (vector : Dict) : Prop :=
  Dict.has vector "codecConfig" ∨ Dict.has vector "serverConfig" ∨
    (¬Dict.has vector "talkerId" ∧ ¬Dict.has vector "pingNonceHex" ∧ Dict.has vector "audioSeq")

/-- A payload is refused with a validation error, unless its type is hashed and has no hash. -/
theorem throwsOnly_encodePayload :
    ThrowsOnly IsValidation (encodePayload (.obj vector)) ↔
      (typeOf vector).hashable = true ∨ TypeUnhashed vector := by
  simp only [encodePayload, asObject, ok_bind, TypeUnhashed, Dict.has]
  cases vector.lookup "codecConfig" <;> cases vector.lookup "serverConfig" <;>
    cases vector.lookup "talkerId" <;> cases vector.lookup "pingNonceHex" <;>
    cases vector.lookup "audioSeq" <;>
    simp [throwsOnly_encodeTalker, throwsOnly_encodePing, throwsOnly_encodeAudio]

/-- Every payload that is written asks for a type that has a hash. -/
theorem hashable_of_encodePayload {payload : Bytes} (h : encodePayload (.obj vector) = .ok payload) :
    (typeOf vector).hashable = true := by
  simp only [encodePayload, asObject, ok_bind] at h
  split at h
  · obtain ⟨_, htype, -⟩ := bind_eq_ok.mp h
    rw [require_eq_ok, Json.eq_str] at htype
    simp [htype, Json.hashable]
  split at h
  · obtain ⟨_, htype, -⟩ := bind_eq_ok.mp h
    rw [require_eq_ok, Json.eq_str] at htype
    simp [htype, Json.hashable]
  split at h
  · obtain ⟨_, htype, -⟩ := bind_eq_ok.mp h
    exact (inNames_eq_ok.mp htype).1
  split at h
  · obtain ⟨_, htype, -⟩ := bind_eq_ok.mp h
    exact (inNames_eq_ok.mp htype).1
  split at h
  · obtain ⟨_, htype, -⟩ := bind_eq_ok.mp h
    rw [require_eq_ok, Json.eq_null] at htype
    simp [htype, Json.hashable]
  · obtain ⟨_, htype, -⟩ := bind_eq_ok.mp h
    exact (inNames_eq_ok.mp htype).1

end Throws

end IncomUdon.Packet
