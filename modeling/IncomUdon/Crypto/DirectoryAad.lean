import IncomUdon.Crypto.Common
import IncomUdon.Lib.SelfDelimiting

/-! Directory v3: the associated data of an envelope. The context of a datagram is written as

        domain  v  transportBinding  length  type  channelId  epoch  sequence  expiresAt
                1         1             1      *       4        16       8         8

    where only the type has no fixed width. EXACT: the bytes have one reading. -/

namespace IncomUdon.Crypto
open IncomUdon.Python IncomUdon.Lib.ErrorLog IncomUdon.Lib.BigEndian IncomUdon.Lib.SelfDelimiting

/-- `DIRECTORY_AAD_DOMAIN`. -/
def directoryAadDomain : Bytes := bytesLiteral "IncomUdon Directory Envelope AAD v3\x00"

/-- `_directory_aad`. -/
def directoryAad (fixture : Dict) : Py Bytes := do
  let packetType ← asString (Dict.get fixture "type") ["Directory fixture type must be a string"]
  let envelope ← asObject (Dict.get fixture "envelope")
    ["Directory fixture envelope must be an object"]
  let version ← integer (Dict.get envelope "v") ["Directory envelope v"] 0xFF
  let versionByte ← bytesOf [version]
  let binding ← integer (Dict.get fixture "transportBinding") ["transportBinding"] 0xFF
  let bindingByte ← bytesOf [binding]
  let typeBytes ← encodeAscii packetType
  let lengthByte ← bytesOf [typeBytes.length]
  let channelId ← integer (Dict.get envelope "channelId") ["Directory channelId"] 0xFFFFFFFF
  let channelBytes ← structPack [.uint 4 channelId]
  let epoch ← hexBytesOfLength (Dict.get fixture "epochRawHex") ["Directory epochRawHex"] 16
  let sequence ← integer (Dict.get fixture "sequence") ["Directory sequence"] (2 ^ 53 - 1)
  let sequenceBytes ← structPack [.uint 8 sequence]
  let expiresAt ← integer (Dict.get fixture "expiresAt") ["Directory expiresAt"] (2 ^ 53 - 1)
  let expiresBytes ← structPack [.uint 8 expiresAt]
  return directoryAadDomain ++ versionByte ++ bindingByte ++ lengthByte ++ typeBytes ++
    channelBytes ++
    epoch ++ sequenceBytes ++ expiresBytes

/-! ### The context -/

/-- What the associated data authenticates. -/
structure DirectoryContext where
  version : ℕ
  transportBinding : ℕ
  packetType : String
  channelId : ℕ
  epoch : Bytes
  sequence : ℕ
  expiresAt : ℕ

/-- The fixture has this context. -/
structure HasContext (fixture : Dict) (context : DirectoryContext) : Prop where
  packetType : Dict.get fixture "type" = .str context.packetType
  envelope : ∃ envelope, Dict.get fixture "envelope" = .obj envelope ∧
    Dict.get envelope "v" = .int context.version ∧
    Dict.get envelope "channelId" = .int context.channelId
  transportBinding : Dict.get fixture "transportBinding" = .int context.transportBinding
  epoch : IsHex (Dict.get fixture "epochRawHex") context.epoch
  sequence : Dict.get fixture "sequence" = .int context.sequence
  expiresAt : Dict.get fixture "expiresAt" = .int context.expiresAt

/-- A context that can be written, whose type has these bytes. -/
structure Encodable (context : DirectoryContext) (typeBytes : Bytes) : Prop where
  version : context.version < 256
  transportBinding : context.transportBinding < 256
  packetType : encodeAscii? context.packetType = some typeBytes
  typeLength : typeBytes.length < 256
  channelId : context.channelId < 2 ^ 32
  epoch : context.epoch.length = 16
  sequence : context.sequence < 2 ^ 53
  expiresAt : context.expiresAt < 2 ^ 53

/-- The associated data, field by field. -/
def aadOf (context : DirectoryContext) (typeBytes : Bytes) : Bytes :=
  directoryAadDomain ++ (toBE 1 context.version ++ (toBE 1 context.transportBinding ++
    ((toBE 1 typeBytes.length ++ typeBytes) ++ (toBE 4 context.channelId ++ (context.epoch ++
      (toBE 8 context.sequence ++ toBE 8 context.expiresAt))))))

/-- EXACT: the function writes the context of the fixture, and fails when there is none that can be
    written. -/
theorem directoryAad_eq_ok {fixture : Dict} {aad : Bytes} :
    directoryAad fixture = .ok aad ↔
      ∃ context typeBytes, HasContext fixture context ∧ Encodable context typeBytes ∧
        aadOf context typeBytes = aad := by
  simp only [directoryAad, bind_eq_ok, asString_eq_ok, asObject_eq_ok, integer_eq_ok,
    bytesOf_singleton_eq_ok, structPack_uint_eq_ok, hexBytesOfLength_eq_ok, encodeAscii_eq_ok]
  constructor
  · rintro ⟨packetType, htype, envelope, henvelope, version, ⟨hversion, -⟩, _, ⟨hversionLt, rfl⟩,
      binding, ⟨hbinding, -⟩, _, ⟨hbindingLt, rfl⟩, typeBytes, hbytes, _, ⟨hlength, rfl⟩,
      channelId, ⟨hchannel, hchannelLe⟩, _, ⟨-, rfl⟩, epoch, ⟨hepoch, hepochLength⟩,
      sequence, ⟨hsequence, hsequenceLe⟩, _, ⟨-, rfl⟩,
      expiresAt, ⟨hexpires, hexpiresLe⟩, _, ⟨-, rfl⟩, haad⟩
    cases haad
    refine ⟨⟨version, binding, packetType, channelId, epoch, sequence, expiresAt⟩, typeBytes,
      ⟨htype, ⟨envelope, henvelope, hversion, hchannel⟩, hbinding, hepoch, hsequence, hexpires⟩,
      ⟨hversionLt, hbindingLt, hbytes, hlength, ?_, hepochLength, ?_, ?_⟩, ?_⟩
    · exact Nat.lt_succ_of_le hchannelLe
    · exact Nat.lt_of_le_pred (by norm_num) hsequenceLe
    · exact Nat.lt_of_le_pred (by norm_num) hexpiresLe
    · simp [aadOf]
  · rintro ⟨context, typeBytes, h, hwrite, rfl⟩
    obtain ⟨envelope, henvelope, hversion, hchannel⟩ := h.envelope
    have hversionLt := hwrite.version
    have hbindingLt := hwrite.transportBinding
    have hchannelLt := hwrite.channelId
    have hsequenceLt := hwrite.sequence
    have hexpiresLt := hwrite.expiresAt
    refine ⟨_, h.packetType, _, henvelope, _, ⟨hversion, by omega⟩, _, ⟨hversionLt, rfl⟩,
      _, ⟨h.transportBinding, by omega⟩, _, ⟨hbindingLt, rfl⟩, _, hwrite.packetType, _,
      ⟨hwrite.typeLength, rfl⟩, _, ⟨hchannel, by omega⟩, _, ⟨by omega, rfl⟩, _,
      ⟨h.epoch, hwrite.epoch⟩, _, ⟨h.sequence, by omega⟩, _, ⟨by omega, rfl⟩,
      _, ⟨h.expiresAt, by omega⟩, _, ⟨by omega, rfl⟩, ?_⟩
    simp [aadOf, pure, Except.pure]

/-! ### One reading -/

section Reading
variable {context context' : DirectoryContext} {typeBytes typeBytes' : Bytes}

/-- Equal associated data has equal fields. The type is read by its length, every other field by its
    width. -/
theorem aadOf_inj (h : Encodable context typeBytes) (h' : Encodable context' typeBytes')
    (heq : aadOf context typeBytes = aadOf context' typeBytes') : context = context' := by
  have hfields := List.append_cancel_left heq
  obtain ⟨hversion, hfields⟩ := delimits_toBE 1 h.version h'.version hfields
  obtain ⟨hbinding, hfields⟩ := delimits_toBE 1 h.transportBinding h'.transportBinding hfields
  obtain ⟨htype, hfields⟩ := (delimits_toBE 1).lengthPrefixed h.typeLength h'.typeLength hfields
  obtain ⟨hchannel, hfields⟩ := delimits_toBE 4 h.channelId h'.channelId hfields
  obtain ⟨hepoch, hfields⟩ := delimits_fixed 16 h.epoch h'.epoch hfields
  have hwide : 2 ^ 53 ≤ 256 ^ 8 := by norm_num
  obtain ⟨hsequence, hexpires⟩ := delimits_toBE 8 (h.sequence.trans_le hwide)
    (h'.sequence.trans_le hwide) hfields
  have hexpires := (delimits_toBE 8).inj (h.expiresAt.trans_le hwide)
    (h'.expiresAt.trans_le hwide) hexpires
  have htext := encodeAscii?_inj h.packetType (htype ▸ h'.packetType)
  cases context
  cases context'
  simp_all

end Reading

/-- EXACT: two fixtures with the same associated data have the same context. -/
theorem directoryAad_injective {fixture fixture' : Dict} {aad : Bytes}
    (h : directoryAad fixture = .ok aad) (h' : directoryAad fixture' = .ok aad) :
    ∃ context, HasContext fixture context ∧ HasContext fixture' context := by
  obtain ⟨context, typeBytes, hcontext, hwrite, rfl⟩ := directoryAad_eq_ok.mp h
  obtain ⟨context', typeBytes', hcontext', hwrite', heq⟩ := directoryAad_eq_ok.mp h'
  rw [aadOf_inj hwrite' hwrite heq] at hcontext'
  exact ⟨context, hcontext, hcontext'⟩

/-- A request on the dedicated port, with its epoch in hexadecimal. -/
def dedicatedRequest (epoch : String) : Dict :=
  [("epochRawHex", .str epoch), ("sequence", .int 1), ("expiresAt", .int 1700000010),
    ("type", .str "request"), ("transportBinding", .int 0),
    ("envelope", .obj [("v", .int 3), ("type", .str "request"), ("channelId", .int 111)])]

/-- The same epoch in capitals has the same associated data. -/
theorem directoryAad_injective_capitals :
    ∃ context, HasContext (dedicatedRequest "6469726563746f72792d65706f636821") context ∧
      HasContext (dedicatedRequest "6469726563746F72792D65706F636821") context := by
  have haad : directoryAad (dedicatedRequest "6469726563746f72792d65706f636821")
      = .ok (aadOf ⟨3, 0, "request", 111, bytesLiteral "directory-epoch!", 1, 1700000010⟩
        (bytesLiteral "request")) := rfl
  have haad' : directoryAad (dedicatedRequest "6469726563746F72792D65706F636821")
      = .ok (aadOf ⟨3, 0, "request", 111, bytesLiteral "directory-epoch!", 1, 1700000010⟩
        (bytesLiteral "request")) := rfl
  exact directoryAad_injective haad haad'

end IncomUdon.Crypto
