import IncomUdon.Lifecycle.FloorInterrupt

/-! The framing of a Floor Interrupt packet. A receiver splits a datagram at the header length that
    its header declares, and before the tag:

        version type header_len channel sender seq flags nonce key │ payload │ tag
        └───────────────────── 28 bytes ────────────────────────┘           └ 16 ┘

    A fixture lists the header, the payload, the tag and the datagram; they are compared with each
    other.

    FRAMED: an accepted fixture is a well-framed authenticated control packet exactly when its fields
    are those of one. -/

namespace IncomUdon.Lifecycle
open IncomUdon.Python IncomUdon.Lib.ErrorLog IncomUdon.Lib.BigEndian

/-! ### What a receiver asks -/

/-- The parts of a control packet. -/
structure ControlPacket where
  header : Bytes
  payload : Bytes
  tag : Bytes

/-- A datagram, split at the declared header length and before the last 16 bytes. -/
def splitControl (datagram : Bytes) : ControlPacket :=
  let headerLen := ofBE (window 2 2 datagram)
  let payloadLen := datagram.length - headerLen - 16
  ⟨datagram.take headerLen, window headerLen payloadLen datagram,
    datagram.drop (headerLen + payloadLen)⟩

/-- The header of an authenticated control packet. -/
structure ControlHeader (header : Bytes) : Prop where
  length : header.length = 28
  version : ofBE (window 0 1 header) = 1
  headerLen : ofBE (window 2 2 header) = 28
  authenticated : ofBE (window 14 2 header) &&& 0x0002 ≠ 0
  plaintext : ofBE (window 14 2 header) &&& 0x0001 = 0
  nonce : window 16 8 header ≠ zeros 8
  keyId : ofBE (window 24 4 header) ≠ 0

/-- The texts of a fixture are a control packet, and a receiver recovers its parts. -/
def WellFramed (fixture auth : Dict) : Prop :=
  ∃ header payload tag datagram, IsHex (Dict.get auth "authenticatedHeaderHex") header ∧
    IsHex (Dict.get fixture "payloadHex") payload ∧ IsHex (Dict.get auth "tagHex") tag ∧
    IsHex (Dict.get fixture "datagramHex") datagram ∧ ControlHeader header ∧ tag.length = 16 ∧
    datagram = header ++ payload ++ tag ∧ splitControl datagram = ⟨header, payload, tag⟩

/-- The fields of an authenticated control packet. -/
structure ControlFields (fields auth : Dict) : Prop where
  version : Dict.get fields "version" = .int 1
  headerLen : Dict.get fields "headerLen" = .int 28
  flags : ∃ flags : ℕ, Dict.get fields "flags" = .int flags ∧ flags &&& 0x0002 ≠ 0 ∧
    flags &&& 0x0001 = 0
  nonce : ∃ nonce, IsHex (Dict.get auth "nonceHex") nonce ∧ nonce.length = 8 ∧ nonce ≠ zeros 8
  keyId : Dict.get auth "controlKeyId" ≠ .int 0
  tag : ∃ tag, IsHex (Dict.get auth "tagHex") tag ∧ tag.length = 16

/-! ### The header of a fixture -/

/-- The values that the header is packed from. -/
structure FloorHeader where
  version : ℕ
  packetType : ℕ
  headerLen : ℕ
  channelId : ℕ
  senderId : ℕ
  seq : ℕ
  flags : ℕ
  nonce : Bytes
  keyId : ℕ

namespace FloorHeader

/-- The bytes of the header. -/
def bytes (h : FloorHeader) : Bytes :=
  toBE 1 h.version ++ (toBE 1 h.packetType ++ (toBE 2 h.headerLen ++ (toBE 4 h.channelId ++
    (toBE 4 h.senderId ++ (toBE 2 h.seq ++ (toBE 2 h.flags ++ (h.nonce ++ toBE 4 h.keyId)))))))

/-- The values are those of a fixture. -/
structure Of (fields auth : Dict) (h : FloorHeader) : Prop where
  version : Dict.get fields "version" = .int h.version ∧ h.version ≤ 0xFF
  headerLen : Dict.get fields "headerLen" = .int h.headerLen ∧ h.headerLen ≤ 0xFFFF
  flags : Dict.get fields "flags" = .int h.flags ∧ h.flags ≤ 0xFFFF
  nonce : IsHex (Dict.get auth "nonceHex") h.nonce
  keyId : Dict.get auth "controlKeyId" = .int h.keyId ∧ h.keyId ≤ 0xFFFFFFFF

variable {h : FloorHeader} {fields auth : Dict}

theorem length_bytes : h.bytes.length = 20 + h.nonce.length := by
  simp [bytes]
  omega

/-- The version stands first. -/
theorem read_version (hlt : h.version < 256 ^ 1) (rest : Bytes) :
    ofBE (window 0 1 (h.bytes ++ rest)) = h.version := by
  have hread : ∀ after, ofBE (window 0 1 ([] ++ (toBE 1 h.version ++ after))) = h.version :=
    fun _ => ofBE_window rfl hlt
  simp only [bytes, List.append_assoc, List.nil_append] at hread ⊢
  exact hread _

/-- The header length stands behind the version and the type. -/
theorem read_headerLen (hlt : h.headerLen < 256 ^ 2) (rest : Bytes) :
    ofBE (window 2 2 (h.bytes ++ rest)) = h.headerLen := by
  have hread : ∀ after, ofBE (window 2 2 ((toBE 1 h.version ++ toBE 1 h.packetType) ++
      (toBE 2 h.headerLen ++ after))) = h.headerLen := fun _ => ofBE_window (by simp) hlt
  simp only [bytes, List.append_assoc] at hread ⊢
  exact hread _

/-- The flags end the fixed part. -/
theorem read_flags (hlt : h.flags < 256 ^ 2) : ofBE (window 14 2 h.bytes) = h.flags := by
  have hread : ∀ after, ofBE (window 14 2 ((toBE 1 h.version ++ toBE 1 h.packetType ++
      toBE 2 h.headerLen ++ toBE 4 h.channelId ++ toBE 4 h.senderId ++ toBE 2 h.seq) ++
      (toBE 2 h.flags ++ after))) = h.flags := fun _ => ofBE_window (by simp) hlt
  simp only [bytes, List.append_assoc] at hread ⊢
  exact hread _

/-- A nonce of eight bytes follows them. -/
theorem window_nonce (hlength : h.nonce.length = 8) : window 16 8 h.bytes = h.nonce := by
  have hread : ∀ after, window 16 8 ((toBE 1 h.version ++ toBE 1 h.packetType ++ toBE 2 h.headerLen ++
      toBE 4 h.channelId ++ toBE 4 h.senderId ++ toBE 2 h.seq ++ toBE 2 h.flags) ++
      (h.nonce ++ after)) = h.nonce := fun _ => window_append (by simp) hlength
  simp only [bytes, List.append_assoc] at hread ⊢
  exact hread _

/-- The key ID follows the nonce. -/
theorem read_keyId (hlength : h.nonce.length = 8) (hlt : h.keyId < 256 ^ 4) :
    ofBE (window 24 4 h.bytes) = h.keyId := by
  have hread : ofBE (window 24 4 ((toBE 1 h.version ++ toBE 1 h.packetType ++ toBE 2 h.headerLen ++
      toBE 4 h.channelId ++ toBE 4 h.senderId ++ toBE 2 h.seq ++ toBE 2 h.flags ++ h.nonce) ++
      (toBE 4 h.keyId ++ []))) = h.keyId := ofBE_window (by simp [hlength]) hlt
  simpa only [bytes, List.append_assoc, List.append_nil] using hread

/-- What the bytes of the header say when its values fit. -/
theorem controlHeader_iff (hof : Of fields auth h) : ControlHeader h.bytes ↔
    h.version = 1 ∧ h.headerLen = 28 ∧ (h.flags &&& 0x0002 ≠ 0 ∧ h.flags &&& 0x0001 = 0) ∧
      (h.nonce.length = 8 ∧ h.nonce ≠ zeros 8) ∧ h.keyId ≠ 0 := by
  have hversion := read_version (show h.version < 256 ^ 1 by have := hof.version.2; omega) []
  have hheaderLen := read_headerLen (show h.headerLen < 256 ^ 2 by have := hof.headerLen.2; omega) []
  have hflags := read_flags (show h.flags < 256 ^ 2 by have := hof.flags.2; omega)
  have hkeyId : h.nonce.length = 8 → ofBE (window 24 4 h.bytes) = h.keyId := fun hlength =>
    read_keyId hlength (by have := hof.keyId.2; omega)
  rw [List.append_nil] at hversion hheaderLen
  constructor
  · intro hcontrol
    have hlength : h.nonce.length = 8 := by
      have := hcontrol.length
      rw [length_bytes] at this
      omega
    have hnonce := hcontrol.nonce
    have hkey := hcontrol.keyId
    rw [window_nonce hlength] at hnonce
    rw [hkeyId hlength] at hkey
    exact ⟨hversion ▸ hcontrol.version, hheaderLen ▸ hcontrol.headerLen,
      ⟨hflags ▸ hcontrol.authenticated, hflags ▸ hcontrol.plaintext⟩, ⟨hlength, hnonce⟩, hkey⟩
  · rintro ⟨hone, hlen, ⟨hauth, hplain⟩, ⟨hlength, hnonce⟩, hkey⟩
    exact ⟨by rw [length_bytes, hlength], hversion.trans hone, hheaderLen.trans hlen,
      hflags.symm ▸ hauth, hflags.symm ▸ hplain, (window_nonce hlength).symm ▸ hnonce,
      (hkeyId hlength).symm ▸ hkey⟩

end FloorHeader

/-! ### Accepted fixtures -/

/-- The fixture states every value of the header. -/
structure StatesHeader (fields auth : Dict) (h : FloorHeader) : Prop extends h.Of fields auth where
  packetType : ∃ type, Dict.get fields "type" = .str type ∧
    floorPacketTypes.lookup type = some h.packetType
  channelId : Dict.get fields "channelId" = .int h.channelId ∧ h.channelId ≤ 0xFFFFFFFF
  senderId : Dict.get fields "senderId" = .int h.senderId ∧ h.senderId ≤ 0xFFFFFFFF
  seq : Dict.get fields "seq" = .int h.seq ∧ h.seq ≤ 0xFFFF

/-- The tag of a control packet. -/
def floorTag (lib : Library) (key domain header payload : Bytes) : Bytes :=
  (lib.hmacSha256 key (domain ++ header ++ payload)).take 16

/-- The fixture states a packet with this header and payload, its tag and its datagram. -/
structure StatesPacket (lib : Library) (key domain : Bytes) (fixture : Dict) (h : FloorHeader)
    (payload : Bytes) : Prop where
  headerTexts : ∃ fields auth, Dict.get fixture "fields" = .obj fields ∧
    Dict.get fixture "controlAuth" = .obj auth ∧ StatesHeader fields auth h ∧
    IsHex (Dict.get auth "authenticatedHeaderHex") h.bytes ∧
    IsHex (Dict.get auth "tagHex") (floorTag lib key domain h.bytes payload)
  payloadText : IsHex (Dict.get fixture "payloadHex") payload
  datagramText : IsHex (Dict.get fixture "datagramHex")
    (h.bytes ++ payload ++ floorTag lib key domain h.bytes payload)

section Packets
variable {fixture fields auth : Dict} {name : Msg} {lib : Library}
  {key domain header payload tag : Bytes}

theorem floorPacketHeader_eq_ok : floorPacketHeader fields auth name = .ok header ↔
    ∃ h, StatesHeader fields auth h ∧ h.bytes = header := by
  simp only [floorPacketHeader, bind_eq_ok, integer_eq_ok, tableGet_eq_ok, structPack_eq_ok,
    hexBytes_eq_ok, pure, Except.pure, Except.ok.injEq]
  constructor
  · rintro ⟨version, hversion, packetType, htype, headerLen, hheaderLen, channelId, hchannelId,
      senderId, hsenderId, seq, hseq, flags, hflags, _, ⟨-, rfl⟩, nonce, hnonce, keyId, hkeyId, _,
      ⟨-, rfl⟩, rfl⟩
    refine ⟨⟨version, packetType, headerLen, channelId, senderId, seq, flags, nonce, keyId⟩,
      ⟨⟨hversion, hheaderLen, hflags, hnonce, hkeyId⟩, htype, hchannelId, hsenderId, hseq⟩, ?_⟩
    simp [FloorHeader.bytes, Field.encode]
  · rintro ⟨h, hstates, rfl⟩
    obtain ⟨type, htype, hlookup⟩ := hstates.packetType
    have hbyte : h.packetType < 256 := by
      obtain ⟨byte, hbyte, hlt⟩ :=
        lookup_floorPacketTypes (List.mem_map_of_mem (mem_of_lookup hlookup))
      rwa [Option.some.inj (hlookup.symm.trans hbyte)]
    refine ⟨h.version, hstates.version, h.packetType, ⟨type, htype, hlookup⟩, h.headerLen,
      hstates.headerLen, h.channelId, hstates.channelId, h.senderId, hstates.senderId, h.seq,
      hstates.seq, h.flags, hstates.flags, _, ⟨?_, rfl⟩, h.nonce, hstates.nonce, h.keyId,
      hstates.keyId, _, ⟨?_, rfl⟩, ?_⟩
    · have hversion := hstates.version.2
      have hheaderLen := hstates.headerLen.2
      have hchannelId := hstates.channelId.2
      have hsenderId := hstates.senderId.2
      have hseq := hstates.seq.2
      have hflags := hstates.flags.2
      simp
      omega
    · have hkeyId := hstates.keyId.2
      simp
      omega
    · simp [FloorHeader.bytes, Field.encode]

/-- EXACT: a packet fixture is accepted exactly when it states a packet. -/
theorem clean_floorPacket : Clean (floorPacket lib key domain value) () ↔
    ∃ fixture h payload, value = .obj fixture ∧ StatesPacket lib key domain fixture h payload := by
  simp only [floorPacket, Run.liftM_eq, clean_bind, clean_lift, asObject_eq_ok, hexBytes_eq_ok,
    clean_compareBytes, floorPacketHeader_eq_ok, exists_unit]
  constructor
  · rintro ⟨fixture, rfl, fields, hfields, auth, hauth, _, ⟨h, hstates, rfl⟩, _, hheader, rfl,
      payload, hpayload, _, htag, rfl, _, hdatagram, rfl⟩
    exact ⟨fixture, h, payload, rfl, ⟨fields, auth, hfields, hauth, hstates, hheader, htag⟩,
      hpayload, hdatagram⟩
  · rintro ⟨fixture, h, payload, rfl, ⟨⟨fields, auth, hfields, hauth, hstates, hheader, htag⟩,
      hpayload, hdatagram⟩⟩
    exact ⟨fixture, rfl, fields, hfields, auth, hauth, _, ⟨h, hstates, rfl⟩, _, hheader, rfl,
      payload, hpayload, _, htag, rfl, _, hdatagram, rfl⟩

/-- FIXTURE: the texts of an accepted packet are the header of its fields, a payload, a tag of no more
    than 16 bytes, and the three in a row. -/
theorem texts_of_floorPacket (hfields : Dict.get fixture "fields" = .obj fields)
    (hauth : Dict.get fixture "controlAuth" = .obj auth)
    (hclean : Clean (floorPacket lib key domain (.obj fixture)) ()) :
    ∃ h payload, FloorHeader.Of fields auth h ∧
      IsHex (Dict.get auth "authenticatedHeaderHex") h.bytes ∧
      IsHex (Dict.get fixture "payloadHex") payload ∧
      IsHex (Dict.get auth "tagHex") ((lib.hmacSha256 key (domain ++ h.bytes ++ payload)).take 16) ∧
      IsHex (Dict.get fixture "datagramHex")
        (h.bytes ++ payload ++ (lib.hmacSha256 key (domain ++ h.bytes ++ payload)).take 16) := by
  obtain ⟨_, h, payload, ⟨⟩, ⟨fields', auth', hfields', hauth', hstates, hheader, htag⟩, hpayload,
    hdatagram⟩ := clean_floorPacket.mp hclean
  obtain rfl : fields = fields' := by simpa [hfields] using hfields'
  obtain rfl : auth = auth' := by simpa [hauth] using hauth'
  exact ⟨h, payload, hstates.toOf, hheader, hpayload, htag, hdatagram⟩

/-- A receiver recovers the parts behind a header that declares its own length. -/
theorem splitControl_append (hlen : ofBE (window 2 2 (header ++ payload ++ tag)) = header.length)
    (htag : tag.length = 16) : splitControl (header ++ payload ++ tag) = ⟨header, payload, tag⟩ := by
  have hpayload : (header ++ payload ++ tag).length - header.length - 16 = payload.length := by
    simp only [List.length_append, htag]
    omega
  rw [splitControl, hlen, hpayload]
  simp [window]

/-- FRAMED: an accepted fixture is a well-framed authenticated control packet exactly when it has the
    version, the header length, the flags, the nonce, the key ID and the tag length of one. -/
theorem floorPacket_wellFramed_iff (hfields : Dict.get fixture "fields" = .obj fields)
    (hauth : Dict.get fixture "controlAuth" = .obj auth)
    (hclean : Clean (floorPacket lib key domain (.obj fixture)) ()) :
    WellFramed fixture auth ↔ ControlFields fields auth := by
  obtain ⟨h, payload, hof, hheader, hpayload, htag, hdatagram⟩ :=
    texts_of_floorPacket hfields hauth hclean
  have hcontrol := FloorHeader.controlHeader_iff hof
  constructor
  · rintro ⟨header, payload', tag, datagram, hheader', -, htag', -, hcontrolHeader, hlength, -, -⟩
    obtain rfl := isHex_unique hheader' hheader
    obtain ⟨hversion, hheaderLen, hflags, hnonce, hkeyId⟩ := hcontrol.mp hcontrolHeader
    refine ⟨?_, ?_, ⟨h.flags, hof.flags.1, hflags⟩, ⟨h.nonce, hof.nonce, hnonce⟩, ?_, tag, htag',
      hlength⟩
    · rw [hof.version.1, hversion]
      rfl
    · rw [hof.headerLen.1, hheaderLen]
      rfl
    · rw [hof.keyId.1]
      simpa using hkeyId
  · intro hcontrolFields
    have hversion : h.version = 1 := by simpa using hof.version.1.symm.trans hcontrolFields.version
    have hheaderLen : h.headerLen = 28 := by
      have := hof.headerLen.1.symm.trans hcontrolFields.headerLen
      simp only [Json.int.injEq] at this
      omega
    obtain ⟨flags, hflags, hbits⟩ := hcontrolFields.flags
    obtain rfl : h.flags = flags := by simpa using hof.flags.1.symm.trans hflags
    obtain ⟨nonce, hnonce, hnonzero⟩ := hcontrolFields.nonce
    obtain rfl := isHex_unique hof.nonce hnonce
    have hkeyId : h.keyId ≠ 0 := fun hzero => hcontrolFields.keyId (by rw [hof.keyId.1, hzero]; rfl)
    have hcontrolHeader := hcontrol.mpr ⟨hversion, hheaderLen, hbits, hnonzero, hkeyId⟩
    obtain ⟨tag, htag', hlength⟩ := hcontrolFields.tag
    obtain rfl := isHex_unique htag htag'
    have hdeclared : ofBE (window 2 2 (h.bytes ++ payload ++
        (lib.hmacSha256 key (domain ++ h.bytes ++ payload)).take 16)) = h.bytes.length := by
      rw [hcontrolHeader.length, List.append_assoc,
        FloorHeader.read_headerLen (by have := hof.headerLen.2; omega), hheaderLen]
    exact ⟨h.bytes, payload, _, _, hheader, hpayload, htag, hdatagram, hcontrolHeader, hlength, rfl,
      splitControl_append hdeclared hlength⟩

/-- A digest of 32 bytes leaves a tag of 16. -/
theorem tag_of_digest (hfields : Dict.get fixture "fields" = .obj fields)
    (hauth : Dict.get fixture "controlAuth" = .obj auth)
    (hclean : Clean (floorPacket lib key domain (.obj fixture)) ())
    (hdigest : ∀ key data, (lib.hmacSha256 key data).length = 32) :
    ∃ tag, IsHex (Dict.get auth "tagHex") tag ∧ tag.length = 16 := by
  obtain ⟨h, payload, -, -, -, htag, -⟩ := texts_of_floorPacket hfields hauth hclean
  exact ⟨_, htag, by rw [List.length_take, hdigest]; rfl⟩

end Packets

/-- A packet fixture with these members. -/
def packetFixture (fields auth : Dict) (payload datagram : String) : Dict :=
  [("fields", .obj fields), ("controlAuth", .obj auth), ("payloadHex", .str payload),
    ("datagramHex", .str datagram)]

/-- The fields of a request on channel 111. -/
def requestFields (version headerLen flags : ℕ) : Dict :=
  [("version", .int version), ("type", .str "PTT_REQUEST"), ("headerLen", .int headerLen),
    ("channelId", .int 111), ("senderId", .int 1002), ("seq", .int 45), ("flags", .int flags)]

/-- The authentication of a packet. -/
def packetAuth (nonce : String) (keyId : ℕ) (header tag : String) : Dict :=
  [("nonceHex", .str nonce), ("controlKeyId", .int keyId), ("authenticatedHeaderHex", .str header),
    ("tagHex", .str tag)]

/-- A library that has this digest for the message at hand. -/
def digestLibrary (digest : Bytes) : Library where
  loads _ := fails .jsonDecodeError
  dictReader _ := fails .csvError
  sha256 _ := []
  hmacSha256 _ _ := digest

/-- The control key of the suite. -/
def suiteControlKey : Bytes :=
  (fromHex "f7bf50ee89a0e406253d1a31040a54ac9681e6bacdd4346251b365a757bd5153").getD []

/-- The domain of the suite. -/
def suiteControlDomain : Bytes :=
  (fromHex "696e636f6d75646f6e2d636f6e74726f6c2d617574682d763100").getD []

/-- The digest of the interrupt request of the suite. -/
def requestDigest : Bytes :=
  (fromHex "c107ff2f229865a400b023975bdf0b1243b25fa3cd1b893f102ceddb2f9dc09d").getD []

/-- The authentication of the interrupt request of the suite. -/
def requestAuth : Dict :=
  packetAuth "1234567800000004" 1 "011a001c0000006f000003ea002d0002123456780000000400000001"
    "c107ff2f229865a400b023975bdf0b12"

/-- The interrupt request of the suite. -/
def requestFixture : Dict :=
  packetFixture (requestFields 1 28 2) requestAuth "01"
    "011a001c0000006f000003ea002d000212345678000000040000000101c107ff2f229865a400b023975bdf0b12"

/-- The interrupt request of the suite is framed as its fields say. -/
theorem floorPacket_wellFramed_iff_request :
    WellFramed requestFixture requestAuth ↔ ControlFields (requestFields 1 28 2) requestAuth := by
  have hclean : Clean (floorPacket (digestLibrary requestDigest) suiteControlKey suiteControlDomain
      (.obj requestFixture)) () := clean_of_isClean (by decide +kernel)
  exact floorPacket_wellFramed_iff rfl rfl hclean

/-- The authentication of a request without a nonce, with key ID 0. -/
def barrenAuth : Dict :=
  packetAuth "" 0 "001a00000000006f000003ea002d000000000000" "00000000000000000000000000000000"

/-- A request of version 0 that declares no header, has no flags and no nonce. -/
def barrenFixture : Dict :=
  packetFixture (requestFields 0 0 0) barrenAuth "01"
    "001a00000000006f000003ea002d0000000000000100000000000000000000000000000000"

/-- The texts of the request agree with each other, so that it is accepted. -/
theorem floorPacket_barren :
    Clean (floorPacket (digestLibrary (zeros 32)) suiteControlKey suiteControlDomain
        (.obj barrenFixture)) () ∧
      ¬WellFramed barrenFixture barrenAuth := by
  refine ⟨clean_of_isClean (by decide +kernel), ?_⟩
  rintro ⟨header, -, -, -, hheader, -, -, -, hcontrol, -⟩
  have hgiven : IsHex (Dict.get barrenAuth "authenticatedHeaderHex")
      [0, 26, 0, 0, 0, 0, 0, 111, 0, 0, 3, 234, 0, 45, 0, 0, 0, 0, 0, 0] := ⟨_, rfl, by decide +kernel⟩
  obtain rfl := isHex_unique hheader hgiven
  exact absurd hcontrol.length (by decide)

end IncomUdon.Lifecycle
