import IncomUdon.Crypto.ControlAuth
import IncomUdon.Crypto.DirectoryFixture
import IncomUdon.Crypto.AdmissionBinding

/-! What the validators take a hash over. Every hash and every tag begins with a label that says
    what it is for, and behind the label the fields stand in a fixed order:

        domain 0x00  fields      salt of a channel, control tag, cookie, associated data, proof message
        info   0x01              key of one block

    One label is the beginning of another up to its last byte: `incomudon-control-auth-v1` is both a
    domain and an info. SEPARATED: the bytes say the purpose and all the fields. -/

namespace IncomUdon.Crypto
open IncomUdon.Python IncomUdon.Loader IncomUdon.Lib.ErrorLog IncomUdon.Lib.BigEndian
  IncomUdon.Lib.SelfDelimiting

/-- The infos of the keys. -/
def keyInfos : List Bytes :=
  [mediaKeyInfo, controlKeyInfo, bytesLiteral "incomudon-raw-secret-v1", directoryChannelKeyInfo,
    directoryC2rKeyInfo, directoryR2cKeyInfo, directoryEpochKeyInfo]

/-- The two kinds of admission. -/
def admissionFlows : List AdmissionFlow := [identityAdmission, serviceAdmission]

/-- What a hash is for. -/
inductive Purpose where
  | channelSalt | controlTag | controlCookie | directoryAad
  | admission (domain : Bytes)
  | blockKey (info : Bytes)
  deriving DecidableEq

namespace Purpose

/-- The label. -/
def label : Purpose → Bytes
  | channelSalt => channelSaltDomain
  | controlTag => controlTagDomain
  | controlCookie => controlCookieDomain
  | directoryAad => directoryAadDomain
  | admission domain => domain
  | blockKey info => info ++ toBE 1 1

/-- Every purpose there is. -/
def all : List Purpose :=
  [channelSalt, controlTag, controlCookie, directoryAad] ++
    admissionFlows.map (fun flow => admission flow.domain) ++ keyInfos.map blockKey

/-- No label is the beginning of another. -/
theorem eq_of_isPrefix : ∀ p ∈ all, ∀ q ∈ all, p.label <+: q.label → p = q := by
  decide +kernel

end Purpose

/-- What a hash is taken over. -/
inductive HashInput where
  | channelSalt (channelId : ℕ)
  | controlTag (header payload : Bytes)
  | controlCookie (fields : CookieFields) (channelId senderId controlKeyId : Bytes)
  | directoryAad (context : DirectoryContext) (typeBytes : Bytes)
  | admission (flow : AdmissionFlow) (challenge : Bytes) (channelId senderId : ℕ) (digest : Bytes)
  | blockKey (info : Bytes)

namespace HashInput

/-- The fields are in range. -/
def Valid : HashInput → Prop
  | channelSalt channelId => channelId < 256 ^ 4
  | controlTag header _ => header.length = 28
  | controlCookie fields channelId senderId controlKeyId =>
    fields.InRange ∧ channelId.length = 4 ∧ senderId.length = 4 ∧ controlKeyId.length = 4
  | directoryAad context typeBytes => Encodable context typeBytes
  | admission flow challenge channelId senderId _ =>
    flow ∈ admissionFlows ∧ challenge.length = 32 ∧ channelId < 256 ^ 4 ∧ senderId < 256 ^ 4
  | blockKey info => info ∈ keyInfos

def purpose : HashInput → Purpose
  | channelSalt _ => .channelSalt
  | controlTag _ _ => .controlTag
  | controlCookie _ _ _ _ => .controlCookie
  | directoryAad _ _ => .directoryAad
  | admission flow _ _ _ _ => .admission flow.domain
  | blockKey info => .blockKey info

/-- What stands behind the label. -/
def body : HashInput → Bytes
  | channelSalt channelId => toBE 4 channelId
  | controlTag header payload => header ++ payload
  | controlCookie fields channelId senderId controlKeyId =>
    fields.sourceIp ++ (toBE 2 fields.sourcePort ++ (channelId ++ (senderId ++ (controlKeyId ++
      (toBE 4 fields.clientSessionId ++ toBE 4 fields.expiry)))))
  | directoryAad context typeBytes => (aadOf context typeBytes).drop directoryAadDomain.length
  | admission _ challenge channelId senderId digest =>
    challenge ++ (toBE 4 channelId ++ (toBE 4 senderId ++ digest))
  | blockKey _ => []

/-- The bytes that are hashed. -/
def bytes (u : HashInput) : Bytes := u.purpose.label ++ u.body

theorem purpose_mem {u : HashInput} (h : u.Valid) : u.purpose ∈ Purpose.all := by
  cases u with
  | admission flow challenge channelId senderId digest =>
    exact List.mem_append_left _ (List.mem_append_right _ (List.mem_map_of_mem h.1))
  | blockKey info => exact List.mem_append_right _ (List.mem_map_of_mem h)
  | _ => simp [purpose, Purpose.all]

/-- The label gives the purpose away. -/
theorem bytes_inj_body {u v : HashInput} (hu : u.Valid) (hv : v.Valid) (h : u.bytes = v.bytes) :
    u.purpose = v.purpose ∧ u.body = v.body := by
  have hprefix : u.purpose.label <+: v.bytes := h ▸ List.prefix_append _ _
  have hpurpose : u.purpose = v.purpose := by
    rcases List.prefix_or_prefix_of_prefix hprefix (List.prefix_append _ v.body) with hle | hle
    · exact Purpose.eq_of_isPrefix _ (purpose_mem hu) _ (purpose_mem hv) hle
    · exact (Purpose.eq_of_isPrefix _ (purpose_mem hv) _ (purpose_mem hu) hle).symm
  refine ⟨hpurpose, ?_⟩
  rw [bytes, bytes, hpurpose] at h
  exact List.append_cancel_left h

/-- The associated data is its label and its body. -/
theorem bytes_directoryAad (context : DirectoryContext) (typeBytes : Bytes) :
    (directoryAad context typeBytes).bytes = aadOf context typeBytes := by
  rw [bytes, body, aadOf, List.drop_left]
  rfl

/-- The domain of a flow gives it away. -/
theorem flow_inj : ∀ flow ∈ admissionFlows, ∀ flow' ∈ admissionFlows, flow.domain = flow'.domain →
    flow = flow' := by
  have hdomains : identityAdmission.domain ≠ serviceAdmission.domain := by decide +kernel
  simp [admissionFlows, hdomains, hdomains.symm]

/-- The fields of a cookie, one after the other. -/
theorem controlCookie_inj {fields fields' : CookieFields}
    {channelId channelId' senderId senderId' controlKeyId controlKeyId' : Bytes}
    (h : (controlCookie fields channelId senderId controlKeyId).Valid)
    (h' : (controlCookie fields' channelId' senderId' controlKeyId').Valid)
    (heq : (controlCookie fields channelId senderId controlKeyId).body
      = (controlCookie fields' channelId' senderId' controlKeyId').body) :
    controlCookie fields channelId senderId controlKeyId
      = controlCookie fields' channelId' senderId' controlKeyId' := by
  obtain ⟨hrange, hchannel, hsender, hkeyId⟩ := h
  obtain ⟨hrange', hchannel', hsender', hkeyId'⟩ := h'
  obtain ⟨hip, hrest⟩ := delimits_fixed 16 hrange.sourceIp hrange'.sourceIp heq
  obtain ⟨hport, hrest⟩ := delimits_toBE 2 (Nat.lt_succ_of_le hrange.sourcePort)
    (Nat.lt_succ_of_le hrange'.sourcePort) hrest
  obtain ⟨hchannelId, hrest⟩ := delimits_fixed 4 hchannel hchannel' hrest
  obtain ⟨hsenderId, hrest⟩ := delimits_fixed 4 hsender hsender' hrest
  obtain ⟨hcontrolKeyId, hrest⟩ := delimits_fixed 4 hkeyId hkeyId' hrest
  obtain ⟨hsession, hrest⟩ := delimits_toBE 4 (Nat.lt_succ_of_le hrange.clientSessionId)
    (Nat.lt_succ_of_le hrange'.clientSessionId) hrest
  have hexpiry := (delimits_toBE 4).inj (Nat.lt_succ_of_le hrange.expiry)
    (Nat.lt_succ_of_le hrange'.expiry) hrest
  cases fields
  cases fields'
  simp_all

/-- SEPARATED: the bytes say what the hash is for, and every field. -/
theorem bytes_injective {u v : HashInput} (hu : u.Valid) (hv : v.Valid) (h : u.bytes = v.bytes) :
    u = v := by
  obtain ⟨hpurpose, hbody⟩ := bytes_inj_body hu hv h
  cases u with
  | channelSalt channelId =>
    cases v with
    | channelSalt channelId' => rw [(delimits_toBE 4).inj hu hv hbody]
    | _ => cases hpurpose
  | controlTag header payload =>
    cases v with
    | controlTag header' payload' =>
      obtain ⟨rfl, rfl⟩ := delimits_fixed 28 hu hv hbody
      rfl
    | _ => cases hpurpose
  | controlCookie fields channelId senderId controlKeyId =>
    cases v with
    | controlCookie fields' channelId' senderId' controlKeyId' => exact controlCookie_inj hu hv hbody
    | _ => cases hpurpose
  | directoryAad context typeBytes =>
    cases v with
    | directoryAad context' typeBytes' =>
      rw [bytes_directoryAad, bytes_directoryAad] at h
      obtain rfl := aadOf_inj hu hv h
      rw [Option.some.inj (hu.packetType.symm.trans hv.packetType)]
    | _ => cases hpurpose
  | admission flow challenge channelId senderId digest =>
    cases v with
    | admission flow' challenge' channelId' senderId' digest' =>
      obtain ⟨hflow, hchallenge, hchannel, hsender⟩ := hu
      obtain ⟨hflow', hchallenge', hchannel', hsender'⟩ := hv
      obtain rfl := flow_inj flow hflow flow' hflow' (Purpose.admission.inj hpurpose)
      obtain ⟨rfl, hids⟩ := delimits_fixed 32 hchallenge hchallenge' hbody
      obtain ⟨rfl, hsenderAnd⟩ := delimits_toBE 4 hchannel hchannel' hids
      obtain ⟨rfl, rfl⟩ := delimits_toBE 4 hsender hsender' hsenderAnd
      rfl
    | _ => cases hpurpose
  | blockKey info =>
    cases v with
    | blockKey info' => rw [Purpose.blockKey.inj hpurpose]
    | _ => cases hpurpose

end HashInput

/-! ### The hashes of the validators -/

section Validators
variable {hmac : HmacSha256} {lib : KeyLibrary}

theorem hashes_channelSalt {channelId : ℕ} {salt : Bytes} (h : channelSalt lib channelId = .ok salt) :
    (HashInput.channelSalt channelId).Valid ∧
      salt = (lib.sha256 (HashInput.channelSalt channelId).bytes).take 16 := by
  obtain ⟨channelBytes, hpack, hret⟩ := bind_eq_ok.mp h
  obtain ⟨hlt, rfl⟩ := structPack_uint_eq_ok.mp hpack
  exact ⟨hlt, (Except.ok.inj hret).symm⟩

theorem hashes_directoryAad {fixture : Dict} {aad : Bytes} (h : directoryAad fixture = .ok aad) :
    ∃ context typeBytes, HasContext fixture context ∧
      (HashInput.directoryAad context typeBytes).Valid ∧
      aad = (HashInput.directoryAad context typeBytes).bytes := by
  obtain ⟨context, typeBytes, hcontext, hwrite, rfl⟩ := directoryAad_eq_ok.mp h
  exact ⟨context, typeBytes, hcontext, hwrite, (HashInput.bytes_directoryAad _ _).symm⟩

theorem hashes_tagOf (hmac : HmacSha256) (controlKey header payload : Bytes) :
    tagOf hmac controlKey header payload
      = (hmac.digest controlKey (HashInput.controlTag header payload).bytes).take 16 := by
  rw [tagOf, List.append_assoc]
  rfl

/-- The three fields of the header that a cookie is bound to. -/
def cookieHashInput (fields : CookieFields) (header : Bytes) : HashInput :=
  .controlCookie fields (window 4 4 header) (window 8 4 header) (window 24 4 header)

theorem hashes_cookieOf (hmac : HmacSha256) (secret header : Bytes) (fields : CookieFields) :
    cookieOf hmac secret fields header
      = (hmac.digest secret (cookieHashInput fields header).bytes).take 16 := by
  simp only [cookieOf, CookieFields.message, List.append_assoc]
  rfl

theorem valid_cookieHashInput {fields : CookieFields} {header : Bytes} (hfields : fields.InRange)
    (hlength : header.length = 28) : (cookieHashInput fields header).Valid := by
  simp [cookieHashInput, HashInput.Valid, hfields, window, hlength]

theorem hashes_proofMessage (lib : AdmissionLibrary) (flow : AdmissionFlow) (channelId senderId : ℕ)
    (challenge compactBytes : Bytes) :
    proofMessage lib flow challenge channelId senderId compactBytes
      = lib.sha256 (HashInput.admission flow challenge channelId senderId
          (lib.sha256 compactBytes)).bytes := by
  simp only [proofMessage, List.append_assoc]
  rfl

/-- CONTROL: the tag and the cookie of a file that passes. -/
theorem hashes_controlAuth {root : Root} (h : Clean (validateControlAuth lib root) ()) :
    ∃ document parts, root controlAuthPath = .json (.obj document) ∧
      AcceptsControlAuth lib document parts ∧
      (HashInput.controlTag parts.header parts.payload).Valid ∧
      IsHex (Dict.get parts.packet "tagHex")
        ((lib.hmac.digest (controlKeyOf lib.hmac parts.passwordKey)
          (HashInput.controlTag parts.header parts.payload).bytes).take 16) ∧
      (cookieHashInput parts.fields parts.header).Valid ∧
      IsHex (Dict.get parts.cookieCase "cookieHex")
        ((lib.hmac.digest parts.secret (cookieHashInput parts.fields parts.header).bytes).take 16) := by
  obtain ⟨document, parts, hdocument, haccepts⟩ := clean_validateControlAuth.mp h
  have hlength := haccepts.authentic.headerLength
  exact ⟨document, parts, hdocument, haccepts, hlength, hashes_tagOf _ _ _ _ ▸ haccepts.authentic.tag,
    valid_cookieHashInput haccepts.cookie.toInRange hlength,
    hashes_cookieOf _ _ _ _ ▸ haccepts.cookie.cookie⟩

/-- ADMISSION: the message that the subject of a file signs. -/
theorem hashes_admission {lib : AdmissionLibrary} {root : Root} {flow : AdmissionFlow}
    (hflow : flow ∈ admissionFlows) (h : Clean (validateAdmission lib root flow) ()) :
    ∃ document parts, root flow.relative = .json (.obj document) ∧
      AcceptsAdmission lib flow document parts ∧
      (HashInput.admission flow parts.challengeBytes parts.channelId parts.senderId
        (lib.sha256 parts.compactBytes)).Valid ∧
      IsHex (Dict.get parts.proof "message_sha256_hex")
        (lib.sha256 (HashInput.admission flow parts.challengeBytes parts.channelId parts.senderId
          (lib.sha256 parts.compactBytes)).bytes) := by
  obtain ⟨document, parts, hdocument, haccepts⟩ := clean_validateAdmission.mp h
  have hchannel := haccepts.channelId.2
  have hsender := haccepts.senderId.2
  exact ⟨document, parts, hdocument, haccepts,
    ⟨hflow, haccepts.challengeBytes.2, by omega, by omega⟩,
    hashes_proofMessage _ _ _ _ _ _ ▸ haccepts.signs.messageHash⟩

end Validators

/-- SEPARATED: whatever the validators hash under a label (salts, keys, control tags, cookies,
    associated data of the Directory and proof messages of both admissions) is hashed over the bytes
    of its purpose and its fields, and two such inputs with the same bytes have the same purpose and
    the same fields. -/
theorem hashInputs_separated :
    (∀ u v : HashInput, u.Valid → v.Valid → u.bytes = v.bytes → u = v) ∧
    (∀ (lib : KeyLibrary) channelId salt, channelSalt lib channelId = .ok salt →
      (HashInput.channelSalt channelId).Valid ∧
        salt = (lib.sha256 (HashInput.channelSalt channelId).bytes).take 16) ∧
    (∀ (hmac : HmacSha256) ikm salt info key, info ∈ keyInfos →
      hkdfSha256 hmac ikm salt info 32 = .ok key →
        (HashInput.blockKey info).Valid ∧
          key = hmac.digest (hmac.digest salt ikm) (HashInput.blockKey info).bytes) ∧
    (∀ fixture aad, directoryAad fixture = .ok aad →
      ∃ context typeBytes, HasContext fixture context ∧
        (HashInput.directoryAad context typeBytes).Valid ∧
        aad = (HashInput.directoryAad context typeBytes).bytes) ∧
    (∀ lib root, Clean (validateControlAuth lib root) () →
      ∃ document parts, root controlAuthPath = .json (.obj document) ∧
        AcceptsControlAuth lib document parts ∧
        (HashInput.controlTag parts.header parts.payload).Valid ∧
        IsHex (Dict.get parts.packet "tagHex")
          ((lib.hmac.digest (controlKeyOf lib.hmac parts.passwordKey)
            (HashInput.controlTag parts.header parts.payload).bytes).take 16) ∧
        (cookieHashInput parts.fields parts.header).Valid ∧
        IsHex (Dict.get parts.cookieCase "cookieHex")
          ((lib.hmac.digest parts.secret
            (cookieHashInput parts.fields parts.header).bytes).take 16)) ∧
    (∀ lib root, ∀ flow ∈ admissionFlows, Clean (validateAdmission lib root flow) () →
      ∃ document parts, root flow.relative = .json (.obj document) ∧
        AcceptsAdmission lib flow document parts ∧
        (HashInput.admission flow parts.challengeBytes parts.channelId parts.senderId
          (lib.sha256 parts.compactBytes)).Valid ∧
        IsHex (Dict.get parts.proof "message_sha256_hex")
          (lib.sha256 (HashInput.admission flow parts.challengeBytes parts.channelId parts.senderId
            (lib.sha256 parts.compactBytes)).bytes)) := by
  refine ⟨fun u v => HashInput.bytes_injective, fun lib channelId salt => hashes_channelSalt, ?_,
    fun fixture aad => hashes_directoryAad, fun lib root => hashes_controlAuth,
    fun lib root flow => hashes_admission⟩
  rintro hmac ikm salt info key hinfo hkey
  obtain rfl := Except.ok.inj ((hkdfSha256_blockKey hmac ikm salt info).symm.trans hkey)
  refine ⟨hinfo, ?_⟩
  rw [blockKey, HashInput.bytes, HashInput.body, List.append_nil]
  rfl

end IncomUdon.Crypto
