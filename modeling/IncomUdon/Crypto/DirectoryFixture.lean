import IncomUdon.Crypto.DirectoryAad
import IncomUdon.Crypto.MediaNonce
import IncomUdon.Python.JsonText

/-! Directory v3 fixtures, `_validate_directory_v3`. A fixture states one packet several times over,
    and each statement is rebuilt from other members:

        AAD          v, channelId of the envelope; type, transportBinding, epoch, sequence, expiresAt
                     of the fixture
        ciphertext   the AAD, the nonce of the sequence, the plaintext
        datagram     v, channelId of the envelope; type, epoch, sequence, expiresAt of the fixture; the
                     ciphertext
        carrier      the datagram, if the fixture has one

    CONSISTENT: what is compared fixes the datagram. The other members of the envelope are the
    business of its schema, and no transport requires a carrier. -/

namespace IncomUdon.Crypto
open IncomUdon.Python IncomUdon.Loader IncomUdon.Lib.ErrorLog IncomUdon.Lib.BigEndian

/-- `DIRECTORY_CHANNEL_KEY_INFO`. -/
def directoryChannelKeyInfo : Bytes := bytesLiteral "incomudon-directory-channel-v3"

/-- `DIRECTORY_C2R_KEY_INFO`. -/
def directoryC2rKeyInfo : Bytes := bytesLiteral "incomudon-directory-channel-v3 client-to-relay"

/-- `DIRECTORY_R2C_KEY_INFO`. -/
def directoryR2cKeyInfo : Bytes := bytesLiteral "incomudon-directory-channel-v3 relay-to-client"

/-- `DIRECTORY_EPOCH_KEY_INFO`. -/
def directoryEpochKeyInfo : Bytes := bytesLiteral "incomudon-directory-envelope-v3"

/-- The four bytes in front of a sequence number in a nonce, and in front of a carrier. -/
def idp3 : Bytes := bytesLiteral "IDP3"

/-- `value.encode("utf-8")`. -/
def encodeText (value : Json) : Py Bytes :=
  match value with
  | .str text => .ok (encodeUtf8 text)
  | _ => fails .attributeError

/-- The types of the packets that a client sends. -/
def clientTypes : List String := ["request", "register", "heartbeat"]

/-- The types of the packets that the relay sends. -/
def relayTypes : List String := ["snapshot", "participants", "error"]

/-- The direction of a packet, by its type. -/
def directionalInfo (label : Msg) (packetType : Json) : Py Bytes := do
  if ← inNames packetType clientTypes then return directoryC2rKeyInfo
  else if ← inNames packetType relayTypes then return directoryR2cKeyInfo
  else invalid (label.add [": unsupported Directory type ", .repr packetType])

/-- The object of a datagram. -/
def envelopeObject (version packetType channelId epoch sequence expiresAt ciphertext : Json) : Json :=
  .obj [("v", version), ("type", packetType), ("channelId", channelId), ("epoch", epoch),
    ("sequence", sequence), ("expiresAt", expiresAt), ("ciphertext", ciphertext)]

/-- `_directory_datagram`. -/
def directoryDatagram (fixture : Dict) (ciphertext : String) : Py Bytes := do
  let envelope ← subscript fixture "envelope"
  let version ← member envelope "v"
  let packetType ← subscript fixture "type"
  let channelId ← member envelope "channelId"
  let epoch ← subscript fixture "epochBase64Url"
  let sequence ← subscript fixture "sequence"
  let expiresAt ← subscript fixture "expiresAt"
  let canonical :=
    envelopeObject version packetType channelId epoch sequence expiresAt (.str ciphertext)
  return encodeUtf8 (.ofList (dumps canonical))

section Validator
variable (hmac : HmacSha256) (aes : AesGcm) (directoryChannelKey : Bytes) (label : Msg)
  (fixture : Dict)

/-- The key of the epoch. -/
def directoryEpochKey : Check Bytes := do
  let info ← directionalInfo label (Dict.get fixture "type")
  let directionalKey ← hkdfSha256 hmac directoryChannelKey [] info 32
  let epoch ← hexBytesOfLength (Dict.get fixture "epochRawHex") (label.add [".epochRawHex"]) 16
  compare (label.add [" epoch Base64URL"]) (.str (base64url epoch))
    (Dict.get fixture "epochBase64Url")
  hkdfSha256 hmac directionalKey epoch directoryEpochKeyInfo 32

/-- The nonce of the sequence number. -/
def directoryNonce : Check Bytes := do
  let sequence ← integer (Dict.get fixture "sequence") (label.add [".sequence"]) (2 ^ 53 - 1)
  let sequenceBytes ← structPack [.uint 8 sequence]
  let nonce := idp3 ++ sequenceBytes
  let expected ← hexBytesOfLength (Dict.get fixture "nonce12Hex") (label.add [".nonce12Hex"]) 12
  compareBytes (label.add [" nonce"]) nonce expected
  return nonce

/-- The ciphertext, which the fixture and its envelope state. -/
def directoryCiphertext (epochKey nonce : Bytes) : Check String := do
  let aad ← directoryAad fixture
  let expectedAad ← hexBytes (Dict.get fixture "aadHex") (label.add [".aadHex"])
  compareBytes (label.add [" AAD"]) aad expectedAad
  let plaintext ← encodeText (Dict.getD fixture "plaintextUtf8" (.str ""))
  let ciphertext := base64url (aes.encrypt epochKey nonce plaintext aad)
  compare (label.add [" ciphertext"]) (.str ciphertext) (Dict.get fixture "ciphertextBase64Url")
  let envelope ← asObject (Dict.get fixture "envelope") (label.add [".envelope must be an object"])
  compare (label.add [" envelope ciphertext"]) (.str ciphertext) (Dict.get envelope "ciphertext")
  return ciphertext

/-- `if "carrierHex" in fixture`. -/
def directoryCarrier (datagram : Bytes) : Check Unit :=
  if Dict.has fixture "carrierHex" = true then do
    let carrier := idp3 ++ [1] ++ datagram
    let expected ← hexBytes (Dict.get fixture "carrierHex") (label.add [".carrierHex"])
    compareBytes (label.add [" media-port carrier"]) carrier expected
    compare (label.add [" carrier byte length"]) (.int carrier.length)
      (Dict.get fixture "carrierBytes")
  else pure ()

/-- `_validate_directory_fixture`. -/
def validateDirectoryFixture : Check Unit := do
  let epochKey ← directoryEpochKey hmac directoryChannelKey label fixture
  let nonce ← directoryNonce label fixture
  let ciphertext ← directoryCiphertext aes label fixture epochKey nonce
  let datagram ← directoryDatagram fixture ciphertext
  let expected ← encodeText (Dict.getD fixture "datagramUtf8" (.str ""))
  compareBytes (label.add [" datagram"]) datagram expected
  compare (label.add [" datagram byte length"]) (.int datagram.length)
    (Dict.get fixture "datagramBytes")
  directoryCarrier label fixture datagram

end Validator

section Suite
variable (hmac : HmacSha256) (aes : AesGcm)

/-- One fragment of the participants. -/
def directoryFragment (directoryChannelKey : Bytes) (fragment : Json) (position : ℕ) :
    Check Unit := do
  let label : Msg := ["Directory media-port fragment ", .val (.int position)]
  let fragment ← asObject fragment (label.add [" must be an object"])
  validateDirectoryFixture hmac aes directoryChannelKey label fragment

/-- `_validate_directory_v3`. -/
def validateDirectoryV3 (root : Root) : Check Unit := do
  let document ← load root "test-vectors/directory-v3.json"
  let crypto ← asObject (Dict.get document "crypto") ["Directory v3 crypto must be an object"]
  let passwordKey ← hexBytesOfLength (Dict.get crypto "passwordKeyHex")
    ["Directory passwordKeyHex"] 32
  let directoryChannelKey ← hkdfSha256 hmac passwordKey [] directoryChannelKeyInfo 32
  let expected ← hexBytesOfLength (Dict.get crypto "directoryChannelKeyHex")
    ["Directory directoryChannelKeyHex"] 32
  compareBytes ["Directory v3 channel key"] directoryChannelKey expected
  let malformed : Msg := ["Directory v3 crypto fixtures are malformed"]
  let dedicated ← asObject (Dict.get crypto "dedicatedRequest") malformed
  let mediaRequest ← asObject (Dict.get crypto "mediaPortRequest") malformed
  let fragments ← asArray (Dict.get crypto "mediaPortParticipantsFragments") malformed
  validateDirectoryFixture hmac aes directoryChannelKey ["Directory dedicated request"] dedicated
  validateDirectoryFixture hmac aes directoryChannelKey ["Directory media-port request"] mediaRequest
  forM fragments.zipIdx fun (fragment, position) =>
    directoryFragment hmac aes directoryChannelKey fragment position

end Suite

/-! ### The packet of a fixture -/

/-- The key information for the direction of a packet. -/
def Direction (packetType : String) (info : Bytes) : Prop :=
  packetType ∈ clientTypes ∧ info = directoryC2rKeyInfo ∨
    packetType ∈ relayTypes ∧ info = directoryR2cKeyInfo

/-- The key of an epoch, for one direction. -/
def epochKeyOf (hmac : HmacSha256) (directoryChannelKey info epoch : Bytes) : Bytes :=
  let directionalKey := hmac.digest (hmac.digest [] directoryChannelKey) (info ++ toBE 1 1)
  hmac.digest (hmac.digest epoch directionalKey) (directoryEpochKeyInfo ++ toBE 1 1)

namespace DirectoryContext
variable (context : DirectoryContext) (ciphertext : String)

/-- The nonce of the packet. -/
def nonce : Bytes := idp3 ++ toBE 8 context.sequence

/-- The object that is sent. -/
def canonical : Json :=
  envelopeObject (.int context.version) (.str context.packetType) (.int context.channelId)
    (.str (base64url context.epoch)) (.int context.sequence) (.int context.expiresAt) (.str ciphertext)

/-- Its text. -/
def datagramText : String := .ofList (dumps (context.canonical ciphertext))

/-- The datagram behind the mark of a carrier. -/
def carrier : Bytes := idp3 ++ [1] ++ encodeUtf8 (context.datagramText ciphertext)

end DirectoryContext

/-- Fixture and envelope describe the datagram of this context and ciphertext. -/
structure ConsistentDatagram (fixture envelope : Dict) (context : DirectoryContext)
    (ciphertext : String) : Prop where
  hasContext : HasContext fixture context
  epochText : Dict.get fixture "epochBase64Url" = .str (base64url context.epoch)
  envelope_eq : Dict.get fixture "envelope" = .obj envelope
  version : Dict.get envelope "v" = .int context.version
  channelId : Dict.get envelope "channelId" = .int context.channelId
  ciphertext_eq : Dict.get envelope "ciphertext" = .str ciphertext
  datagram : Dict.get fixture "datagramUtf8" = .str (context.datagramText ciphertext)
  carrier : ∀ value, fixture.lookup "carrierHex" = some value →
    IsHex value (context.carrier ciphertext)

/-- An accepted fixture: its ciphertext is that of the packet, and its nonce, associated data and
    lengths are right. -/
structure AcceptedFixture (hmac : HmacSha256) (aes : AesGcm) (directoryChannelKey : Bytes)
    (fixture envelope : Dict) (context : DirectoryContext) (ciphertext : String) : Prop
    extends ConsistentDatagram fixture envelope context ciphertext where
  encrypted : ∃ info typeBytes plaintext, Direction context.packetType info ∧
    Encodable context typeBytes ∧ IsHex (Dict.get fixture "aadHex") (aadOf context typeBytes) ∧
    Dict.getD fixture "plaintextUtf8" (.str "") = .str plaintext ∧
    base64url (aes.encrypt (epochKeyOf hmac directoryChannelKey info context.epoch) context.nonce
      (encodeUtf8 plaintext) (aadOf context typeBytes)) = ciphertext
  nonceHex : IsHex (Dict.get fixture "nonce12Hex") context.nonce
  ciphertextText : Dict.get fixture "ciphertextBase64Url" = .str ciphertext
  datagramBytes : (Json.int (encodeUtf8 (context.datagramText ciphertext)).length).eq
    (Dict.get fixture "datagramBytes") = true
  carrierBytes : Dict.has fixture "carrierHex" = true →
    (Json.int (context.carrier ciphertext).length).eq (Dict.get fixture "carrierBytes") = true

section Steps
variable {hmac : HmacSha256} {aes : AesGcm} {directoryChannelKey : Bytes} {label : Msg}
  {fixture : Dict} {info key nonce data : Bytes} {value : Json} {ciphertext : String}

@[simp] theorem encodeText_eq_ok :
    encodeText value = .ok data ↔ ∃ text, value = .str text ∧ encodeUtf8 text = data := by
  cases value <;> simp [encodeText]

/-- No packet has both directions. -/
theorem relayTypes_disjoint : ∀ packetType ∈ relayTypes, packetType ∉ clientTypes := by decide

theorem directionalInfo_eq_ok : directionalInfo label value = .ok info ↔
    ∃ packetType, value = .str packetType ∧ Direction packetType info := by
  rw [directionalInfo]
  constructor
  · intro h
    obtain ⟨client, hclient, h⟩ := bind_eq_ok.mp h
    cases client with
    | true =>
      obtain ⟨packetType, hmem, rfl⟩ := inNames_eq_true.mp hclient
      exact ⟨packetType, rfl, .inl ⟨hmem, (Except.ok.inj h).symm⟩⟩
    | false =>
      obtain ⟨relay, hrelay, h⟩ := bind_eq_ok.mp h
      cases relay with
      | true =>
        obtain ⟨packetType, hmem, rfl⟩ := inNames_eq_true.mp hrelay
        exact ⟨packetType, rfl, .inr ⟨hmem, (Except.ok.inj h).symm⟩⟩
      | false => cases h
  · rintro ⟨packetType, rfl, ⟨hmem, rfl⟩ | ⟨hmem, rfl⟩⟩
    · rw [inNames_eq_true.mpr ⟨packetType, hmem, rfl⟩]
      rfl
    · have hclient : inNames (.str packetType) clientTypes = .ok false := by
        simpa [inNames_eq_ok, Json.hashable] using fun name hname (heq : packetType = name) =>
          relayTypes_disjoint packetType hmem (heq ▸ hname)
      rw [hclient, ok_bind, if_neg Bool.false_ne_true, inNames_eq_true.mpr ⟨packetType, hmem, rfl⟩]
      rfl

theorem clean_directoryEpochKey :
    Clean (directoryEpochKey hmac directoryChannelKey label fixture) key ↔
      ∃ packetType info epoch, Dict.get fixture "type" = .str packetType ∧
        Direction packetType info ∧
        (IsHex (Dict.get fixture "epochRawHex") epoch ∧ epoch.length = 16) ∧
        Dict.get fixture "epochBase64Url" = .str (base64url epoch) ∧
        epochKeyOf hmac directoryChannelKey info epoch = key := by
  simp only [directoryEpochKey, Run.liftM_eq, clean_bind, clean_lift, directionalInfo_eq_ok,
    hkdfSha256_block, Except.ok.injEq, hexBytesOfLength_eq_ok, clean_compare, Json.eq_str_left,
    exists_unit]
  constructor
  · rintro ⟨info, ⟨packetType, htype, hdirection⟩, _, rfl, epoch, hepoch, htext, hkey⟩
    exact ⟨packetType, info, epoch, htype, hdirection, hepoch, htext, hkey⟩
  · rintro ⟨packetType, info, epoch, htype, hdirection, hepoch, htext, hkey⟩
    exact ⟨info, ⟨packetType, htype, hdirection⟩, _, rfl, epoch, hepoch, htext, hkey⟩

theorem clean_directoryNonce : Clean (directoryNonce label fixture) nonce ↔
    ∃ sequence : ℕ, Dict.get fixture "sequence" = .int sequence ∧ sequence < 2 ^ 53 ∧
      idp3 ++ toBE 8 sequence = nonce ∧ IsHex (Dict.get fixture "nonce12Hex") nonce := by
  simp only [directoryNonce, Run.liftM_eq, clean_bind, clean_lift, integer_eq_ok,
    structPack_uint_eq_ok, hexBytesOfLength_eq_ok, clean_compareBytes, clean_pure, exists_unit]
  constructor
  · rintro ⟨sequence, ⟨hsequence, hle⟩, _, ⟨-, rfl⟩, _, ⟨hhex, -⟩, rfl, rfl⟩
    exact ⟨sequence, hsequence, by omega, rfl, hhex⟩
  · rintro ⟨sequence, hsequence, hlt, rfl, hhex⟩
    have hlength : (idp3 ++ toBE 8 sequence).length = 12 := by simp [idp3, bytesLiteral]
    exact ⟨sequence, ⟨hsequence, by omega⟩, _, ⟨by omega, rfl⟩, _, ⟨hhex, hlength⟩, rfl, rfl⟩

theorem clean_directoryCiphertext :
    Clean (directoryCiphertext aes label fixture key nonce) ciphertext ↔
      ∃ context typeBytes plaintext envelope, HasContext fixture context ∧
        Encodable context typeBytes ∧ IsHex (Dict.get fixture "aadHex") (aadOf context typeBytes) ∧
        Dict.getD fixture "plaintextUtf8" (.str "") = .str plaintext ∧
        base64url (aes.encrypt key nonce (encodeUtf8 plaintext) (aadOf context typeBytes))
          = ciphertext ∧
        Dict.get fixture "ciphertextBase64Url" = .str ciphertext ∧
        Dict.get fixture "envelope" = .obj envelope ∧
        Dict.get envelope "ciphertext" = .str ciphertext := by
  simp only [directoryCiphertext, Run.liftM_eq, clean_bind, clean_lift, directoryAad_eq_ok,
    hexBytes_eq_ok, clean_compareBytes, encodeText_eq_ok, clean_compare, Json.eq_str_left,
    asObject_eq_ok, clean_pure, exists_unit]
  constructor
  · rintro ⟨_, ⟨context, typeBytes, hcontext, hwrite, rfl⟩, _, haad, rfl, _,
      ⟨plaintext, hplaintext, rfl⟩, hciphertext, envelope, henvelope, hinner, rfl⟩
    exact ⟨context, typeBytes, plaintext, envelope, hcontext, hwrite, haad, hplaintext, rfl,
      hciphertext, henvelope, hinner⟩
  · rintro ⟨context, typeBytes, plaintext, envelope, hcontext, hwrite, haad, hplaintext, rfl,
      hciphertext, henvelope, hinner⟩
    exact ⟨_, ⟨context, typeBytes, hcontext, hwrite, rfl⟩, _, haad, rfl, _,
      ⟨plaintext, hplaintext, rfl⟩, hciphertext, envelope, henvelope, hinner, rfl⟩

/-- The datagram is the text of the packet. -/
theorem directoryDatagram_eq {context : DirectoryContext}
    (hcontext : HasContext fixture context)
    (hepoch : Dict.get fixture "epochBase64Url" = .str (base64url context.epoch)) :
    directoryDatagram fixture ciphertext = .ok (encodeUtf8 (context.datagramText ciphertext)) := by
  obtain ⟨envelope, henvelope, hversion, hchannel⟩ := hcontext.envelope
  have hmember : ∀ key value, Dict.get envelope key = value → value ≠ .null →
      member (.obj envelope) key = .ok value := fun key value hget hne =>
    member_eq_ok.mpr ⟨envelope, rfl, Dict.lookup_of_get hget hne⟩
  have hsubscript : ∀ key value, Dict.get fixture key = value → value ≠ .null →
      subscript fixture key = .ok value := fun key value hget hne =>
    subscript_eq_ok.mpr (Dict.lookup_of_get hget hne)
  rw [directoryDatagram, hsubscript _ _ henvelope nofun, ok_bind, hmember _ _ hversion nofun, ok_bind,
    hsubscript _ _ hcontext.packetType nofun, ok_bind, hmember _ _ hchannel nofun, ok_bind,
    hsubscript _ _ hepoch nofun, ok_bind, hsubscript _ _ hcontext.sequence nofun, ok_bind,
    hsubscript _ _ hcontext.expiresAt nofun, ok_bind]
  rfl

/-- A carrier that is there is that of the datagram. -/
theorem clean_directoryCarrier : Clean (directoryCarrier label fixture data) () ↔
    (∀ value, fixture.lookup "carrierHex" = some value → IsHex value (idp3 ++ [1] ++ data)) ∧
    (Dict.has fixture "carrierHex" = true →
      (Json.int (idp3 ++ [1] ++ data).length).eq (Dict.get fixture "carrierBytes") = true) := by
  rw [directoryCarrier]
  cases hcarrier : fixture.lookup "carrierHex" with
  | none =>
    simp [Dict.has, hcarrier]
  | some value =>
    have hget : Dict.get fixture "carrierHex" = value := by simp [Dict.get, Dict.getD, hcarrier]
    rw [if_pos (by simp [Dict.has, hcarrier]), hget]
    simp [Dict.has, hcarrier, clean_compareBytes]

end Steps

section Accepted
variable {hmac : HmacSha256} {aes : AesGcm} {directoryChannelKey : Bytes} {label : Msg}
  {fixture envelope : Dict} {context : DirectoryContext} {ciphertext : String}

/-- The default of `datagramUtf8` is no datagram. -/
theorem getD_datagramUtf8 :
    Dict.getD fixture "datagramUtf8" (.str "") = .str (context.datagramText ciphertext) ↔
      Dict.get fixture "datagramUtf8" = .str (context.datagramText ciphertext) := by
  have hne : "" ≠ context.datagramText ciphertext := by
    intro h
    have htext : [] = dumps (context.canonical ciphertext) := by
      simpa [DirectoryContext.datagramText] using congrArg String.toList h
    cases htext
  cases hdatagram : fixture.lookup "datagramUtf8" with
  | none => simp [Dict.get, Dict.getD, hdatagram, hne]
  | some value => simp [Dict.get, Dict.getD, hdatagram]

/-- ACCEPTED: a fixture passes exactly when it is one of these. -/
theorem clean_validateDirectoryFixture :
    Clean (validateDirectoryFixture hmac aes directoryChannelKey label fixture) () ↔
      ∃ envelope context ciphertext,
        AcceptedFixture hmac aes directoryChannelKey fixture envelope context ciphertext := by
  simp only [validateDirectoryFixture, Run.liftM_eq, clean_bind, clean_lift, clean_directoryEpochKey,
    clean_directoryNonce, clean_directoryCiphertext, encodeText_eq_ok, clean_compareBytes,
    clean_compare, clean_directoryCarrier, exists_unit]
  constructor
  · rintro ⟨_, ⟨packetType, info, epoch, htype, hdirection, ⟨hepoch, -⟩, hepochText, rfl⟩,
      _, ⟨sequence, hsequence, -, rfl, hnonce⟩, ciphertext, ⟨context, typeBytes, plaintext, envelope,
        hcontext, hwrite, haad, hplaintext, hencrypted, hciphertext, henvelope, hinner⟩,
      datagram, hdatagram, _, ⟨text, htext, rfl⟩, heq, hlength, hcarrier, hcarrierLength⟩
    have hpacketType : packetType = context.packetType :=
      Json.str.inj (htype.symm.trans hcontext.packetType)
    have hepochEq : epoch = context.epoch := isHex_unique hepoch hcontext.epoch
    have hsequenceEq : sequence = context.sequence :=
      Int.ofNat.inj (Json.int.inj (hsequence.symm.trans hcontext.sequence))
    subst hpacketType hepochEq hsequenceEq
    obtain rfl : encodeUtf8 (context.datagramText ciphertext) = datagram :=
      Except.ok.inj ((directoryDatagram_eq hcontext hepochText).symm.trans hdatagram)
    obtain rfl := encodeUtf8_injective heq
    obtain ⟨envelope', henvelope', hversion, hchannel⟩ := hcontext.envelope
    obtain rfl := Json.obj.inj (henvelope.symm.trans henvelope')
    exact ⟨envelope, context, ciphertext,
      ⟨hcontext, hepochText, henvelope, hversion, hchannel, hinner, getD_datagramUtf8.mp htext,
      hcarrier⟩, ⟨info, typeBytes, plaintext, hdirection, hwrite, haad, hplaintext,
      hencrypted⟩, hnonce, hciphertext, hlength, hcarrierLength⟩
  · rintro ⟨envelope, context, ciphertext, h⟩
    obtain ⟨info, typeBytes, plaintext, hdirection, hwrite, haad, hplaintext, hencrypted⟩ :=
      h.encrypted
    exact ⟨_, ⟨_, info, context.epoch, h.hasContext.packetType, hdirection,
        ⟨h.hasContext.epoch, hwrite.epoch⟩, h.epochText, rfl⟩,
      _, ⟨_, h.hasContext.sequence, hwrite.sequence, rfl, h.nonceHex⟩,
      ciphertext, ⟨context, typeBytes, plaintext, envelope, h.hasContext, hwrite, haad, hplaintext,
        hencrypted, h.ciphertextText, h.envelope_eq, h.ciphertext_eq⟩,
      _, directoryDatagram_eq h.hasContext h.epochText, _,
      ⟨_, getD_datagramUtf8.mpr h.datagram, rfl⟩, rfl, h.datagramBytes, h.carrier, h.carrierBytes⟩

end Accepted

/-! ### The file -/

/-- The fixtures of the file. -/
def HasFixture (crypto fixture : Dict) : Prop :=
  Dict.get crypto "dedicatedRequest" = .obj fixture ∨
    Dict.get crypto "mediaPortRequest" = .obj fixture ∨
    ∃ fragments, Dict.get crypto "mediaPortParticipantsFragments" = .arr fragments ∧
      .obj fixture ∈ fragments

/-- FILE: a file that passes has accepted fixtures only, all under the channel key it states. -/
theorem accepted_of_clean_validateDirectoryV3 {hmac : HmacSha256} {aes : AesGcm} {root : Root}
    (h : Clean (validateDirectoryV3 hmac aes root) ()) :
    ∃ document crypto directoryChannelKey,
      root "test-vectors/directory-v3.json" = .json (.obj document) ∧
      Dict.get document "crypto" = .obj crypto ∧
      IsHex (Dict.get crypto "directoryChannelKeyHex") directoryChannelKey ∧
      ∀ fixture, HasFixture crypto fixture → ∃ envelope context ciphertext,
        AcceptedFixture hmac aes directoryChannelKey fixture envelope context ciphertext := by
  simp only [validateDirectoryV3, Run.liftM_eq, clean_bind, clean_lift, load_eq_ok, asObject_eq_ok,
    hexBytesOfLength_eq_ok, clean_compareBytes, asArray_eq_ok, clean_validateDirectoryFixture,
    exists_unit] at h
  obtain ⟨document, hdocument, crypto, hcrypto, _, -, _, -, key, ⟨hkey, -⟩, rfl, dedicated,
    hdedicated, mediaRequest, hmedia, fragments, hfragments, hfirst, hsecond, hloop⟩ := h
  refine ⟨document, crypto, _, hdocument, hcrypto, hkey, fun fixture hfixture => ?_⟩
  rcases hfixture with hfixture | hfixture | ⟨fragments', hfragments', hmem⟩
  · cases hdedicated.symm.trans hfixture
    exact hfirst
  · cases hmedia.symm.trans hfixture
    exact hsecond
  · cases hfragments.symm.trans hfragments'
    obtain ⟨position, hposition⟩ := List.getElem?_of_mem hmem
    have hfragment := clean_forM.mp hloop _ (List.mk_mem_zipIdx_iff_getElem?.mpr hposition)
    simpa [directoryFragment, Run.liftM_eq, clean_validateDirectoryFixture] using hfragment

/-- CONSISTENT: a fixture that passes describes one datagram, and no other object has its text. -/
theorem directoryFixture_consistent (hmac : HmacSha256) (aes : AesGcm) (directoryChannelKey : Bytes)
    (label : Msg) (fixture : Dict)
    (h : Clean (validateDirectoryFixture hmac aes directoryChannelKey label fixture) ()) :
    ∃ envelope context ciphertext, ConsistentDatagram fixture envelope context ciphertext ∧
      ∀ value, String.ofList (dumps value) = context.datagramText ciphertext →
        value = context.canonical ciphertext := by
  obtain ⟨envelope, context, ciphertext, haccepted⟩ := clean_validateDirectoryFixture.mp h
  refine ⟨envelope, context, ciphertext, haccepted.toConsistentDatagram, fun value htext => ?_⟩
  exact dumps_injective rfl (String.ofList_injective htext)

/-! ### The requests of the repository -/

/-- HMAC under the keys of the requests, by key. -/
def recordedDigests : List (ℕ × ℕ) :=
  [(0, 0x6f9483c8b513dd8be1bef32c317438d8c673c2e647b5f077a12ac3e33240b6ef),
    (0x6f9483c8b513dd8be1bef32c317438d8c673c2e647b5f077a12ac3e33240b6ef,
      0x5bc63d7c8250c1e3ec1a638b7d29a59d3e63a4f80024c20496da66a55e3f7a44),
    (0x6469726563746f72792d65706f636821,
      0x50100a117f2bf0fb00e99eeb93f7dfb7971228ea3f31519f70772af9b2d5bfe8),
    (0x50100a117f2bf0fb00e99eeb93f7dfb7971228ea3f31519f70772af9b2d5bfe8,
      0xcb76f93a4613bd1af22b9d88b95aa6543fe726fc04ec6d1e355221e1c5ecde59)]

def recordedHmac : HmacSha256 where
  digest key _ := toBE 32 ((recordedDigests.lookup (ofBE key)).getD 0)
  length_digest _ _ := length_toBE 32 _

/-- The encrypted request on the dedicated port. -/
def dedicatedEncrypted : Bytes :=
  toBE 40 0x6fa465b9977cfb99bc37b46be47ce6ca23a961bbdd6c6b971f210644e13f4d15cadcd020ca74d57c ++
  toBE 40 0x90b5556d5f94b13d793286085c3bb009b4efc4c298604b661dbc7998435268a0ea735a13b9c26680 ++
  toBE 40 0xf474ed2f9211ddc46d3c5fe25aad0517396196255db049a5eff5f34790878b197abc3be90ce53e04 ++
  toBE 17 0x102a403e6bcabfcd10df0e520d75eb114b

/-- The encrypted request on the media port. -/
def mediaPortEncrypted : Bytes :=
  toBE 40 0xd7b1c1d46e0d98e2ec96bec1a8b412fb4f8425eaaf71c3a5cd3a6767f62c2feed94190d74b947869 ++
  toBE 40 0xa51157a7b79efaae8b2597bc0b399e3a14cd76b137882945120569b7c2c97b587261a92b356c9d9f ++
  toBE 40 0x8959e7bf1de2f55f501bc422758d7faab1e225187c223ae6ca3d7bc8c9e35cdbe397d334b5639bd0 ++
  toBE 17 0xe7c5901e2b26f07c7c0cbccc4a019384e8

/-- AES-GCM on the plaintext of the requests, by key and nonce. -/
def recordedAes : AesGcm where
  encrypt key nonce _ _ :=
    if ofBE key = 0xcb76f93a4613bd1af22b9d88b95aa6543fe726fc04ec6d1e355221e1c5ecde59 then
      if ofBE nonce = 0x494450330000000000000001 then dedicatedEncrypted
      else if ofBE nonce = 0x494450330000000000000002 then mediaPortEncrypted
      else []
    else []
  decrypt _ _ _ _ := none

/-- The context of the requests, by transport and sequence number. -/
def requestContext (transportBinding sequence : ℕ) : DirectoryContext :=
  ⟨3, transportBinding, "request", 111, bytesLiteral "directory-epoch!", sequence, 1700000010⟩

def requestPlaintext : String :=
  "\x7b\"version\":3,\"issuedAt\":1700000000,\"expiresAt\":1700000010,\"requestId\":\"AAE" ++
  "CAwQFBgcICQoLDA0ODw\",\"resource\":\"participants\"\x7d"

/-- The key of the channel. -/
def requestChannelKey : Bytes :=
  toBE 32 0x174209da75aa25b4f917342071659c2e4d15a1b3b38fd82fad83d519c32cf17e

/-- The key of its epoch. -/
def requestKey : Bytes :=
  epochKeyOf recordedHmac requestChannelKey directoryC2rKeyInfo (bytesLiteral "directory-epoch!")

/-- A request, with its envelope and what else it has. -/
def request (transportBinding sequence : ℕ) (encrypted : Bytes) (envelope rest : Dict) : Dict :=
  let context := requestContext transportBinding sequence
  let ciphertext := base64url encrypted
  [("epochRawHex", .str "6469726563746f72792d65706f636821"),
    ("epochBase64Url", .str "ZGlyZWN0b3J5LWVwb2NoIQ"), ("sequence", .int sequence),
    ("expiresAt", .int 1700000010), ("type", .str "request"),
    ("transportBinding", .int transportBinding), ("plaintextUtf8", .str requestPlaintext),
    ("nonce12Hex", .str (toHex context.nonce)),
    ("aadHex", .str (toHex (aadOf context (bytesLiteral "request")))),
    ("ciphertextBase64Url", .str ciphertext), ("envelope", .obj envelope),
    ("datagramUtf8", .str (context.datagramText ciphertext)),
    ("datagramBytes", .int (encodeUtf8 (context.datagramText ciphertext)).length)] ++ rest

/-- The members of a request with a carrier. -/
def requestCarrier (transportBinding sequence : ℕ) (encrypted : Bytes) : Dict :=
  let carrier := (requestContext transportBinding sequence).carrier (base64url encrypted)
  [("carrierHex", .str (toHex carrier)), ("carrierBytes", .int carrier.length)]

section Requests
variable {transportBinding sequence : ℕ} {encrypted : Bytes} {envelope rest : Dict}

/-- A request passes if its envelope has the members that are compared. -/
theorem clean_request (hbinding : transportBinding < 256) (hsequence : sequence < 2 ^ 53)
    (hversion : Dict.get envelope "v" = .int 3) (hchannel : Dict.get envelope "channelId" = .int 111)
    (hinner : Dict.get envelope "ciphertext" = .str (base64url encrypted))
    (hencrypted : recordedAes.encrypt requestKey (requestContext transportBinding sequence).nonce [] []
      = encrypted)
    (hrest : rest = [] ∨ rest = requestCarrier transportBinding sequence encrypted) :
    Clean (validateDirectoryFixture recordedHmac recordedAes requestChannelKey []
      (request transportBinding sequence encrypted envelope rest)) () := by
  have hwritable : Encodable (requestContext transportBinding sequence) (bytesLiteral "request") :=
    ⟨(by decide : 3 < 256), hbinding,
      (by decide : encodeAscii? "request" = some (bytesLiteral "request")), by decide,
      (by decide : 111 < 2 ^ 32), (by decide : (bytesLiteral "directory-epoch!").length = 16), hsequence,
      (by decide : 1700000010 < 2 ^ 53)⟩
  have hepoch : IsHex (.str "6469726563746f72792d65706f636821") (bytesLiteral "directory-epoch!") :=
    ⟨_, rfl, by decide +kernel⟩
  have hepochText : base64url (bytesLiteral "directory-epoch!") = "ZGlyZWN0b3J5LWVwb2NoIQ" := by
    decide +kernel
  refine clean_validateDirectoryFixture.mpr ⟨envelope, requestContext transportBinding sequence,
    base64url encrypted, ⟨⟨rfl, ⟨envelope, rfl, hversion, hchannel⟩, rfl, hepoch, rfl, rfl⟩,
      congrArg Json.str hepochText.symm, rfl, hversion, hchannel, hinner, rfl, fun value hvalue => ?_⟩,
    ⟨directoryC2rKeyInfo, bytesLiteral "request", requestPlaintext,
      .inl ⟨List.mem_cons_self, rfl⟩, hwritable, isHex_toHex _, rfl, congrArg base64url hencrypted⟩,
    isHex_toHex _, rfl, Json.eq_int_int.mpr rfl, fun hhas => ?_⟩
  · rcases hrest with rfl | rfl
    · cases hvalue
    · cases hvalue
      exact isHex_toHex _
  · rcases hrest with rfl | rfl
    · cases hhas
    · exact Json.eq_int_int.mpr rfl

end Requests

theorem encrypt_dedicated :
    recordedAes.encrypt requestKey (requestContext 0 1).nonce [] [] = dedicatedEncrypted := by
  decide +kernel

theorem encrypt_mediaPort :
    recordedAes.encrypt requestKey (requestContext 1 2).nonce [] [] = mediaPortEncrypted := by
  decide +kernel

/-- The envelope of a request. -/
def requestEnvelope (sequence : ℕ) (encrypted : Bytes) : Dict :=
  [("v", .int 3), ("type", .str "request"), ("channelId", .int 111),
    ("epoch", .str "ZGlyZWN0b3J5LWVwb2NoIQ"), ("sequence", .int sequence),
    ("expiresAt", .int 1700000010), ("ciphertext", .str (base64url encrypted))]

theorem directoryFixture_consistent_dedicated :
    ∃ envelope context ciphertext,
      ConsistentDatagram (request 0 1 dedicatedEncrypted (requestEnvelope 1 dedicatedEncrypted) [])
        envelope context ciphertext ∧
      ∀ value, String.ofList (dumps value) = context.datagramText ciphertext →
        value = context.canonical ciphertext :=
  directoryFixture_consistent recordedHmac recordedAes requestChannelKey [] _
    (clean_request (by decide) (by decide) rfl rfl rfl encrypt_dedicated (.inl rfl))

/-- An envelope without a type and an epoch, with another sequence number and one more member. -/
def looseEnvelope : Dict :=
  [("v", .int 3), ("channelId", .int 111), ("sequence", .int 7), ("note", .null),
    ("ciphertext", .str (base64url dedicatedEncrypted))]

/-- The request on the dedicated port with this envelope. -/
def looseRequest : Dict := request 0 1 dedicatedEncrypted looseEnvelope []

/-- The request on the dedicated port with a carrier. -/
def carriedRequest : Dict :=
  request 0 1 dedicatedEncrypted (requestEnvelope 1 dedicatedEncrypted)
    (requestCarrier 0 1 dedicatedEncrypted)

/-- The request on the media port without its carrier. -/
def bareRequest : Dict := request 1 2 mediaPortEncrypted (requestEnvelope 2 mediaPortEncrypted) []

/-- All three pass. The envelope of the first is not the object of its datagram, which has an epoch
    and the sequence number 1. -/
theorem directoryFixture_inconsistent :
    (Clean (validateDirectoryFixture recordedHmac recordedAes requestChannelKey [] looseRequest) () ∧
      Dict.get looseRequest "datagramUtf8"
        = .str ((requestContext 0 1).datagramText (base64url dedicatedEncrypted)) ∧
      Dict.get looseRequest "envelope" = .obj looseEnvelope ∧
      Dict.has looseEnvelope "epoch" = false ∧ Dict.get looseEnvelope "sequence" = .int 7) ∧
    (Clean (validateDirectoryFixture recordedHmac recordedAes requestChannelKey [] carriedRequest) () ∧
      Dict.get carriedRequest "transportBinding" = .int 0 ∧
      Dict.has carriedRequest "carrierHex" = true) ∧
    (Clean (validateDirectoryFixture recordedHmac recordedAes requestChannelKey [] bareRequest) () ∧
      Dict.get bareRequest "transportBinding" = .int 1 ∧
      Dict.has bareRequest "carrierHex" = false) := by
  refine ⟨⟨?_, rfl, rfl, rfl, rfl⟩, ⟨?_, rfl, rfl⟩, ⟨?_, rfl, rfl⟩⟩
  · exact clean_request (by decide) (by decide) rfl rfl rfl encrypt_dedicated (.inl rfl)
  · exact clean_request (by decide) (by decide) rfl rfl rfl encrypt_dedicated (.inr rfl)
  · exact clean_request (by decide) (by decide) rfl rfl rfl encrypt_mediaPort (.inl rfl)

end IncomUdon.Crypto
