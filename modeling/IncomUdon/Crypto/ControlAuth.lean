import IncomUdon.Crypto.PasswordKey

/-! Control Authentication v1, `_validate_control_auth`. One password key gives two keys, and a relay
    keeps a third:

        password key ──HKDF──▶ media key
                     ──HKDF──▶ control key ──HMAC──▶ tag      domain  header  payload
        relay cookie secret                ──HMAC──▶ cookie   domain  source  header  session  expiry

    The header is 28 bytes, with the channel at 4, the sender at 8 and the control key at 24; the
    cookie takes these three from it. EXACT: a file passes exactly when every value is the one
    computed. -/

namespace IncomUdon.Crypto
open IncomUdon.Python IncomUdon.Loader IncomUdon.Lib.ErrorLog IncomUdon.Lib.BigEndian

/-- `CONTROL_KEY_INFO`. -/
def controlKeyInfo : Bytes := bytesLiteral "incomudon-control-auth-v1"

/-- `CONTROL_TAG_DOMAIN`. -/
def controlTagDomain : Bytes := bytesLiteral "incomudon-control-auth-v1\x00"

/-- `CONTROL_COOKIE_DOMAIN`. -/
def controlCookieDomain : Bytes := bytesLiteral "incomudon-control-cookie-v1\x00"

/-- The file. -/
def controlAuthPath : String := "test-vectors/control-auth-v1.json"

section Validator
variable (lib : KeyLibrary)

/-- The keys of the fixture; the result is the control key. -/
def controlKeys (document : Dict) : Check Bytes := do
  let channelId ← integer (Dict.get document "channelId") ["control-auth-v1 channelId"] 0xFFFFFFFF
  let salt ← channelSalt lib channelId
  let expectedSalt ← hexBytesOfLength (Dict.get document "channelSaltHex") ["channelSaltHex"] 16
  compareBytes ["control-auth-v1 channel salt"] salt expectedSalt
  let passwordKey ← derive lib (Dict.get document "credentialKind") document salt
  let expectedPassword ← hexBytesOfLength (Dict.get document "passwordKeyHex") ["passwordKeyHex"] 32
  compareBytes ["control-auth-v1 password key"] passwordKey expectedPassword
  let mediaKey ← hkdfSha256 lib.hmac passwordKey [] mediaKeyInfo 32
  let controlKey ← hkdfSha256 lib.hmac passwordKey [] controlKeyInfo 32
  let expectedMedia ← hexBytesOfLength (Dict.get document "mediaKeyHex") ["mediaKeyHex"] 32
  compareBytes ["control-auth-v1 media key"] mediaKey expectedMedia
  let expectedControl ← hexBytesOfLength (Dict.get document "controlKeyHex") ["controlKeyHex"] 32
  compareBytes ["control-auth-v1 control key"] controlKey expectedControl
  return controlKey

/-- The tag of the control packet; the result is its header. -/
def controlTag (document : Dict) (controlKey : Bytes) : Check Bytes := do
  let packet ← asObject (Dict.get document "controlPacket") ["controlPacket must be an object"]
  let header ← hexBytesOfLength (Dict.get packet "headerHex") ["controlPacket.headerHex"] 28
  let payload ← hexBytes (Dict.get packet "payloadHex") ["controlPacket.payloadHex"]
  let domain ← hexBytes (Dict.get packet "domainHex") ["controlPacket.domainHex"]
  compareBytes ["control-auth-v1 domain"] domain controlTagDomain
  let tag := (lib.hmac.digest controlKey (domain ++ header ++ payload)).take 16
  let expected ← hexBytesOfLength (Dict.get packet "tagHex") ["controlPacket.tagHex"] 16
  compareBytes ["control-auth-v1 tag"] tag expected
  return header

/-- `cookie_input`. -/
def cookieInput (cookieCase : Dict) (header : Bytes) : Py Bytes := do
  let sourceIp ← hexBytesOfLength (Dict.get cookieCase "sourceIp16Hex") ["sourceIp16Hex"] 16
  let sourcePort ← integer (Dict.get cookieCase "sourcePort") ["sourcePort"] 0xFFFF
  let portBytes ← structPack [.uint 2 sourcePort]
  let clientSessionId ← integer (Dict.get cookieCase "clientSessionId") ["clientSessionId"] 0xFFFFFFFF
  let sessionBytes ← structPack [.uint 4 clientSessionId]
  let expiry ← integer (Dict.get cookieCase "expiryUnixSeconds") ["expiryUnixSeconds"] 0xFFFFFFFF
  let expiryBytes ← structPack [.uint 4 expiry]
  return controlCookieDomain ++ sourceIp ++ portBytes ++ window 4 4 header ++ window 8 4 header ++
    window 24 4 header ++ sessionBytes ++ expiryBytes

/-- The cookie that a relay gives for the packet. -/
def controlCookie (document : Dict) (header : Bytes) : Check Unit := do
  let cookieCase ← asObject (Dict.get document "cookieCase") ["cookieCase must be an object"]
  let input ← cookieInput cookieCase header
  let secret ← hexBytesOfLength (Dict.get cookieCase "relayCookieSecretHex")
    ["relayCookieSecretHex"] 32
  let cookie := (lib.hmac.digest secret input).take 16
  let expected ← hexBytesOfLength (Dict.get cookieCase "cookieHex") ["cookieHex"] 16
  compareBytes ["control-auth-v1 cookie"] cookie expected

/-- `_validate_control_auth`. -/
def validateControlAuth (root : Root) : Check Unit := do
  let document ← load root controlAuthPath
  validateArgon2Parameters (Dict.get document "argon2id") ["control-auth-v1 argon2id"]
  let controlKey ← controlKeys lib document
  let header ← controlTag lib document controlKey
  controlCookie lib document header

end Validator

/-! ### What the checks accept -/

/-- The members of a cookie case that the cookie is computed over. -/
structure CookieFields where
  sourceIp : Bytes
  sourcePort : ℕ
  clientSessionId : ℕ
  expiry : ℕ

namespace CookieFields

/-- The fields are in range. -/
structure InRange (fields : CookieFields) : Prop where
  sourceIp : fields.sourceIp.length = 16
  sourcePort : fields.sourcePort ≤ 0xFFFF
  clientSessionId : fields.clientSessionId ≤ 0xFFFFFFFF
  expiry : fields.expiry ≤ 0xFFFFFFFF

/-- The case has these fields. -/
structure Of (cookieCase : Dict) (fields : CookieFields) : Prop extends InRange fields where
  sourceIp_eq : IsHex (Dict.get cookieCase "sourceIp16Hex") fields.sourceIp
  sourcePort_eq : Dict.get cookieCase "sourcePort" = .int fields.sourcePort
  clientSessionId_eq : Dict.get cookieCase "clientSessionId" = .int fields.clientSessionId
  expiry_eq : Dict.get cookieCase "expiryUnixSeconds" = .int fields.expiry

/-- What the cookie is computed over, for a packet with this header. -/
def message (fields : CookieFields) (header : Bytes) : Bytes :=
  controlCookieDomain ++ fields.sourceIp ++ toBE 2 fields.sourcePort ++ window 4 4 header ++
    window 8 4 header ++ window 24 4 header ++ toBE 4 fields.clientSessionId ++ toBE 4 fields.expiry

end CookieFields

/-- The key that authenticates control packets. -/
def controlKeyOf (hmac : HmacSha256) (passwordKey : Bytes) : Bytes :=
  blockKey hmac passwordKey [] controlKeyInfo

/-- The key that encrypts media packets. -/
def mediaKeyOf (hmac : HmacSha256) (passwordKey : Bytes) : Bytes :=
  blockKey hmac passwordKey [] mediaKeyInfo

/-- The tag of a control packet. -/
def tagOf (hmac : HmacSha256) (controlKey header payload : Bytes) : Bytes :=
  (hmac.digest controlKey (controlTagDomain ++ header ++ payload)).take 16

/-- The cookie for a packet with this header. -/
def cookieOf (hmac : HmacSha256) (secret : Bytes) (fields : CookieFields) (header : Bytes) : Bytes :=
  (hmac.digest secret (fields.message header)).take 16

/-- A control packet that is accepted. -/
structure AcceptsControlPacket (hmac : HmacSha256) (controlKey : Bytes) (packet : Dict)
    (header payload : Bytes) : Prop where
  header_eq : IsHex (Dict.get packet "headerHex") header
  headerLength : header.length = 28
  payload_eq : IsHex (Dict.get packet "payloadHex") payload
  domain : IsHex (Dict.get packet "domainHex") controlTagDomain
  tag : IsHex (Dict.get packet "tagHex") (tagOf hmac controlKey header payload)

/-- A cookie case that is accepted. -/
structure AcceptsCookie (hmac : HmacSha256) (header : Bytes) (cookieCase : Dict)
    (fields : CookieFields) (secret : Bytes) : Prop extends CookieFields.Of cookieCase fields where
  secret_eq : IsHex (Dict.get cookieCase "relayCookieSecretHex") secret
  secretLength : secret.length = 32
  cookie : IsHex (Dict.get cookieCase "cookieHex") (cookieOf hmac secret fields header)

/-- The parts of a Control Authentication document. -/
structure ControlParts where
  channelId : ℕ
  passwordKey : Bytes
  packet : Dict
  header : Bytes
  payload : Bytes
  cookieCase : Dict
  fields : CookieFields
  secret : Bytes

/-- The document has these parts, and each is accepted. -/
structure AcceptsControlAuth (lib : KeyLibrary) (document : Dict) (parts : ControlParts) : Prop where
  parameters : IsArgon2idV1 (Dict.get document "argon2id")
  keys : HasPasswordKey lib document parts.channelId parts.passwordKey
  mediaKey : IsHex (Dict.get document "mediaKeyHex") (mediaKeyOf lib.hmac parts.passwordKey)
  controlKey : IsHex (Dict.get document "controlKeyHex") (controlKeyOf lib.hmac parts.passwordKey)
  packet : Dict.get document "controlPacket" = .obj parts.packet
  authentic : AcceptsControlPacket lib.hmac (controlKeyOf lib.hmac parts.passwordKey) parts.packet
    parts.header parts.payload
  cookieCase : Dict.get document "cookieCase" = .obj parts.cookieCase
  cookie : AcceptsCookie lib.hmac parts.header parts.cookieCase parts.fields parts.secret

section Accepts
variable {lib : KeyLibrary} {document cookieCase : Dict} {header controlKey input : Bytes}

/-- An HMAC is long enough for a tag. -/
theorem length_take_digest (hmac : HmacSha256) (key message : Bytes) :
    ((hmac.digest key message).take 16).length = 16 := by
  rw [List.length_take, hmac.length_digest]
  rfl

theorem clean_controlKeys :
    Clean (controlKeys lib document) controlKey ↔
      ∃ channelId passwordKey, HasPasswordKey lib document channelId passwordKey ∧
        IsHex (Dict.get document "mediaKeyHex") (mediaKeyOf lib.hmac passwordKey) ∧
        IsHex (Dict.get document "controlKeyHex") (controlKeyOf lib.hmac passwordKey) ∧
        controlKeyOf lib.hmac passwordKey = controlKey := by
  simp only [controlKeys, Run.liftM_eq, clean_bind, clean_lift, integer_eq_ok, derive_eq_ok,
    hkdfSha256_blockKey, Except.ok.injEq, hexBytesOfLength_eq_ok, clean_compareBytes, clean_pure,
    exists_unit]
  constructor
  · rintro ⟨channelId, ⟨hchannel, hle⟩, salt, hsalt, _, ⟨hsaltHex, hsaltLength⟩, rfl, passwordKey,
      hderives, _, ⟨hkeyHex, hkeyLength⟩, rfl, _, rfl, _, rfl, _, ⟨hmedia, -⟩, rfl, _, ⟨hcontrol, -⟩,
      rfl, rfl⟩
    obtain rfl := Except.ok.inj ((channelSalt_eq hle).symm.trans hsalt)
    exact ⟨channelId, passwordKey,
      ⟨hchannel, hle, hsaltHex, hsaltLength, hderives, hkeyHex, hkeyLength⟩, hmedia, hcontrol, rfl⟩
  · rintro ⟨channelId, passwordKey, h, hmedia, hcontrol, rfl⟩
    exact ⟨channelId, ⟨h.channelId_eq, h.channelId_le⟩, _, channelSalt_eq h.channelId_le, _,
      ⟨h.salt, h.saltLength⟩, rfl, passwordKey, h.derives, _, ⟨h.passwordKey_eq, h.passwordKeyLength⟩,
      rfl, _, rfl, _, rfl, _, ⟨hmedia, length_blockKey _ _ _ _⟩, rfl, _,
      ⟨hcontrol, length_blockKey _ _ _ _⟩, rfl, rfl⟩

theorem clean_controlTag :
    Clean (controlTag lib document controlKey) header ↔
      ∃ packet payload, Dict.get document "controlPacket" = .obj packet ∧
        AcceptsControlPacket lib.hmac controlKey packet header payload := by
  simp only [controlTag, Run.liftM_eq, clean_bind, clean_lift, asObject_eq_ok, hexBytesOfLength_eq_ok,
    hexBytes_eq_ok, clean_compareBytes, clean_pure, exists_unit]
  constructor
  · rintro ⟨packet, hpacket, header, ⟨hheader, hlength⟩, payload, hpayload, _, hdomain, rfl, _,
      ⟨htag, -⟩, rfl, rfl⟩
    exact ⟨packet, payload, hpacket, hheader, hlength, hpayload, hdomain, htag⟩
  · rintro ⟨packet, payload, hpacket, h⟩
    exact ⟨packet, hpacket, header, ⟨h.header_eq, h.headerLength⟩, payload, h.payload_eq, _,
      h.domain, rfl, _, ⟨h.tag, length_take_digest _ _ _⟩, rfl, rfl⟩

theorem cookieInput_eq_ok :
    cookieInput cookieCase header = .ok input ↔
      ∃ fields : CookieFields, fields.Of cookieCase ∧ fields.message header = input := by
  simp only [cookieInput, bind_eq_ok, hexBytesOfLength_eq_ok, integer_eq_ok, structPack_uint_eq_ok]
  constructor
  · rintro ⟨sourceIp, ⟨hip, hipLength⟩, sourcePort, ⟨hport, hportLe⟩, _, ⟨-, rfl⟩, clientSessionId,
      ⟨hsession, hsessionLe⟩, _, ⟨-, rfl⟩, expiry, ⟨hexpiry, hexpiryLe⟩, _, ⟨-, rfl⟩, hret⟩
    exact ⟨⟨sourceIp, sourcePort, clientSessionId, expiry⟩,
      ⟨⟨hipLength, hportLe, hsessionLe, hexpiryLe⟩, hip, hport, hsession, hexpiry⟩,
      Except.ok.inj hret⟩
  · rintro ⟨fields, h, rfl⟩
    have hport := h.sourcePort
    have hsession := h.clientSessionId
    have hexpiry := h.expiry
    exact ⟨_, ⟨h.sourceIp_eq, h.sourceIp⟩, _, ⟨h.sourcePort_eq, hport⟩, _, ⟨by omega, rfl⟩, _,
      ⟨h.clientSessionId_eq, hsession⟩, _, ⟨by omega, rfl⟩, _, ⟨h.expiry_eq, hexpiry⟩, _,
      ⟨by omega, rfl⟩, rfl⟩

theorem clean_controlCookie :
    Clean (controlCookie lib document header) () ↔
      ∃ cookieCase fields secret, Dict.get document "cookieCase" = .obj cookieCase ∧
        AcceptsCookie lib.hmac header cookieCase fields secret := by
  simp only [controlCookie, Run.liftM_eq, clean_bind, clean_lift, asObject_eq_ok, cookieInput_eq_ok,
    hexBytesOfLength_eq_ok, clean_compareBytes]
  constructor
  · rintro ⟨cookieCase, hcase, _, ⟨fields, hfields, rfl⟩, secret, ⟨hsecret, hlength⟩, _, ⟨hcookie, -⟩,
      rfl⟩
    exact ⟨cookieCase, fields, secret, hcase, hfields, hsecret, hlength, hcookie⟩
  · rintro ⟨cookieCase, fields, secret, hcase, h⟩
    exact ⟨cookieCase, hcase, _, ⟨fields, h.toOf, rfl⟩, secret, ⟨h.secret_eq, h.secretLength⟩, _,
      ⟨h.cookie, length_take_digest _ _ _⟩, rfl⟩

/-- EXACT: the validator returns no error exactly when the parts of the document are accepted. -/
theorem clean_validateControlAuth {root : Root} :
    Clean (validateControlAuth lib root) () ↔
      ∃ document parts, root controlAuthPath = .json (.obj document) ∧
        AcceptsControlAuth lib document parts := by
  simp only [validateControlAuth, Run.liftM_eq, clean_bind, clean_lift, load_eq_ok,
    validateArgon2Parameters_eq_ok, clean_controlKeys, clean_controlTag, clean_controlCookie,
    exists_unit]
  constructor
  · rintro ⟨document, hdocument, hparameters, _, ⟨channelId, passwordKey, hkeys, hmedia,
      hcontrol, rfl⟩, header, ⟨packet, payload, hpacket, hauthentic⟩, cookieCase, fields, secret,
      hcase, hcookie⟩
    exact ⟨document, ⟨channelId, passwordKey, packet, header, payload, cookieCase, fields, secret⟩,
      hdocument, hparameters, hkeys, hmedia, hcontrol, hpacket, hauthentic, hcase, hcookie⟩
  · rintro ⟨document, parts, hdocument, h⟩
    exact ⟨document, hdocument, h.parameters, _, ⟨_, _, h.keys, h.mediaKey, h.controlKey, rfl⟩,
      parts.header, ⟨_, _, h.packet, h.authentic⟩, _, _, _, h.cookieCase, h.cookie⟩

end Accepts

end IncomUdon.Crypto
