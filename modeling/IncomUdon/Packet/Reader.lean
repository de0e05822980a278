import IncomUdon.Lib.Codec
import IncomUdon.Packet.Datagram

/-! Reading a datagram. A receiver takes the header off by its widths, looks the type up by its
    code, and reads the rest as the payload that the type carries, with nothing left over:

        bytes ──read──▶ Datagram ──encode──▶ the same bytes
        vector ──encoders──▶ bytes ──read──▶ what the vector describes

    EXACT: the strings that are read are the strings that the encoders write for some vector. -/

namespace IncomUdon.Packet
open IncomUdon.Python IncomUdon.Lib IncomUdon.Lib.ErrorLog IncomUdon.Lib.BigEndian

/-- One byte for a flag: 0 or 1. -/
def flagByte : Codec UInt8 Bool :=
  (Codec.word 1).restrict (fun b => ⟨b.toNat, boolToNat_lt b⟩)
    (fun n => if n.1 = 0 then some false else if n.1 = 1 then some true else none)
    (by decide) (by
      intro n b h
      split at h
      · next hzero =>
        cases h
        exact Fin.ext hzero.symm
      · split at h
        · next hone =>
          cases h
          exact Fin.ext hone.symm
        · cases h)

/-- Flags, transport, mode, FEC options, nonce. -/
def codecConfigFormat : Codec UInt8 (Word 1 × Word 1 × Word 4 × Word 1 × Octets 12) :=
  (Codec.word 1).pair ((Codec.word 1).pair ((Codec.word 4).pair ((Codec.word 1).pair (Codec.octets 12))))

/-- Talk time, multi-talk, talkers, lease, keepalive. -/
def serverConfigFormat : Codec UInt8 (Word 2 × Bool × Word 1 × Word 2 × Word 2) :=
  (Codec.word 2).pair (flagByte.pair ((Codec.word 1).pair ((Codec.word 2).pair (Codec.word 2))))

/-- The payload that a packet type carries. -/
def readPayload (type : String) (bs : Bytes) : Option Payload :=
  if type = "CODEC_CONFIG" then
    (codecConfigFormat.whole bs).map fun (flags, transportId, modeBps, fecOptions, nonce) =>
      .codecConfig flags transportId modeBps fecOptions nonce
  else if type = "SERVER_CONFIG" then
    (serverConfigFormat.whole bs).map fun (talk, multiTalk, talkers, lease, keepalive) =>
      .serverConfig talk multiTalk talkers lease keepalive
  else if type = "TALK_GRANT" ∨ type = "TALK_DENY" then
    ((Codec.word 4).whole bs).map .talker
  else if type = "TALK_RELEASE" then
    (((Codec.word 4).pair (Codec.word 1)).whole bs).map fun (talkerId, reason) =>
      .talkRelease talkerId reason
  else if type = "PING" ∨ type = "PONG" then ((Codec.octets 8).whole bs).map .ping
  else if type = "PTT_ON" ∧ bs = [] then some .empty
  else none

/-- Version, type code, header length, channel, sender, sequence number, flags. -/
def headerFormat : Codec UInt8 (Unit × Word 1 × Unit × Word 4 × Word 4 × Word 2 × Word 2) :=
  (Codec.literal [1]).pair ((Codec.word 1).pair ((Codec.literal [0, 16]).pair
    ((Codec.word 4).pair ((Codec.word 4).pair ((Codec.word 2).pair (Codec.word 2))))))

/-- The type with this code. -/
def typeOfCode (code : ℕ) : Option String :=
  (packetTypes.find? fun entry => entry.2 = code).map Prod.fst

/-- Read a datagram. -/
def readDatagram (bs : Bytes) : Option Datagram := do
  let ((_, code, _, channelId, senderId, seq, flags), rest) ← headerFormat.read bs
  let type ← typeOfCode code
  let payload ← readPayload type rest
  if carried : type ∈ payload.carriers then
    some ⟨type, channelId, senderId, seq, flags, payload, carried⟩
  else none

section Reading
variable {type : String} {payload : Payload} {bs : Bytes}

theorem encode_octets {n : ℕ} (data : Octets n) : (Field.bytes n data).encode = data := by
  rw [Field.encode, ljust_of_le data.2.ge, List.take_of_length_le data.2.le]

theorem record_codecConfig (flags transportId : Word 1) (modeBps : Word 4) (fecOptions : Word 1)
    (nonce : Octets 12) :
    (Payload.codecConfig flags transportId modeBps fecOptions nonce).record.flatMap Field.encode
      = codecConfigFormat.write (flags, transportId, modeBps, fecOptions, nonce) := by
  simp only [Payload.record, List.flatMap_cons, List.flatMap_nil, encode_octets, List.append_nil]
  rfl

theorem record_serverConfig (talk : Word 2) (multiTalk : Bool) (talkers : Word 1)
    (lease keepalive : Word 2) :
    (Payload.serverConfig talk multiTalk talkers lease keepalive).record.flatMap Field.encode
      = serverConfigFormat.write (talk, multiTalk, talkers, lease, keepalive) := by
  simp only [Payload.record, List.flatMap_cons, List.flatMap_nil, List.append_nil]
  rfl

theorem record_talker (talkerId : Word 4) :
    (Payload.talker talkerId).record.flatMap Field.encode = (Codec.word 4).write talkerId := by
  simp only [Payload.record, List.flatMap_cons, List.flatMap_nil, List.append_nil]
  rfl

theorem record_talkRelease (talkerId : Word 4) (reason : Word 1) :
    (Payload.talkRelease talkerId reason).record.flatMap Field.encode
      = ((Codec.word 4).pair (Codec.word 1)).write (talkerId, reason) := by
  simp only [Payload.record, List.flatMap_cons, List.flatMap_nil, List.append_nil]
  rfl

theorem record_ping (nonce : Octets 8) :
    (Payload.ping nonce).record.flatMap Field.encode = (Codec.octets 8).write nonce := by
  simp only [Payload.record, List.flatMap_cons, List.flatMap_nil, encode_octets, List.append_nil]
  rfl

/-- A payload is read exactly from its own bytes, under a type that carries it. -/
theorem readPayload_eq_some :
    readPayload type bs = some payload ↔
      type ∈ payload.carriers ∧ payload.record.flatMap Field.encode = bs := by
  constructor
  · intro h
    unfold readPayload at h
    split_ifs at h with hcodec hserver htalker hrelease hping hempty
    · obtain ⟨⟨flags, transportId, modeBps, fecOptions, nonce⟩, hread, rfl⟩ :=
        Option.map_eq_some_iff.mp h
      exact ⟨List.mem_singleton.mpr hcodec,
        (record_codecConfig _ _ _ _ _).trans ((Codec.whole_eq_some _).mp hread)⟩
    · obtain ⟨⟨talk, multiTalk, talkers, lease, keepalive⟩, hread, rfl⟩ := Option.map_eq_some_iff.mp h
      exact ⟨List.mem_singleton.mpr hserver,
        (record_serverConfig _ _ _ _ _).trans ((Codec.whole_eq_some _).mp hread)⟩
    · obtain ⟨talkerId, hread, rfl⟩ := Option.map_eq_some_iff.mp h
      exact ⟨by simpa [Payload.carriers] using htalker,
        (record_talker _).trans ((Codec.whole_eq_some _).mp hread)⟩
    · obtain ⟨⟨talkerId, reason⟩, hread, rfl⟩ := Option.map_eq_some_iff.mp h
      exact ⟨List.mem_singleton.mpr hrelease,
        (record_talkRelease _ _).trans ((Codec.whole_eq_some _).mp hread)⟩
    · obtain ⟨nonce, hread, rfl⟩ := Option.map_eq_some_iff.mp h
      exact ⟨by simpa [Payload.carriers] using hping,
        (record_ping _).trans ((Codec.whole_eq_some _).mp hread)⟩
    · cases h
      exact ⟨List.mem_singleton.mpr hempty.1, hempty.2.symm⟩
  · rintro ⟨htype, rfl⟩
    cases payload with
    | codecConfig flags transportId modeBps fecOptions nonce =>
      obtain rfl := List.mem_singleton.mp htype
      rw [record_codecConfig, readPayload, if_pos rfl, Codec.whole_write]
      rfl
    | serverConfig talk multiTalk talkers lease keepalive =>
      obtain rfl := List.mem_singleton.mp htype
      rw [record_serverConfig, readPayload, if_neg (by decide), if_pos rfl, Codec.whole_write]
      rfl
    | talker talkerId =>
      have hname : type = "TALK_GRANT" ∨ type = "TALK_DENY" := by simpa [Payload.carriers] using htype
      rw [record_talker, readPayload, if_neg (by rcases hname with rfl | rfl <;> decide),
        if_neg (by rcases hname with rfl | rfl <;> decide), if_pos hname, Codec.whole_write]
      rfl
    | talkRelease talkerId reason =>
      obtain rfl := List.mem_singleton.mp htype
      rw [record_talkRelease, readPayload, if_neg (by decide), if_neg (by decide), if_neg (by decide),
        if_pos rfl, Codec.whole_write]
      rfl
    | ping nonce =>
      have hname : type = "PING" ∨ type = "PONG" := by simpa [Payload.carriers] using htype
      rw [record_ping, readPayload, if_neg (by rcases hname with rfl | rfl <;> decide),
        if_neg (by rcases hname with rfl | rfl <;> decide),
        if_neg (by rcases hname with rfl | rfl <;> decide),
        if_neg (by rcases hname with rfl | rfl <;> decide), if_pos hname, Codec.whole_write]
      rfl
    | empty =>
      obtain rfl := List.mem_singleton.mp htype
      rfl

/-- A type that carries a payload is found by its code. -/
theorem typeOfCode_typeCode (h : type ∈ payload.carriers) :
    typeOfCode (typeCode type) = some type := by
  have hall : ∀ name ∈ ["CODEC_CONFIG", "SERVER_CONFIG", "TALK_GRANT", "TALK_DENY", "TALK_RELEASE",
      "PING", "PONG", "PTT_ON"], typeOfCode (typeCode name) = some name := by decide
  refine hall type ?_
  cases payload <;> simp only [Payload.carriers, List.mem_cons, List.not_mem_nil, or_false] at h ⊢ <;>
    tauto

/-- Only the code of a type finds it. -/
theorem typeCode_of_typeOfCode {code : ℕ} (h : typeOfCode code = some type) :
    typeCode type = code := by
  have hall : ∀ entry ∈ packetTypes, typeCode entry.1 = entry.2 := by decide
  obtain ⟨entry, hfind, rfl⟩ := Option.map_eq_some_iff.mp h
  rw [hall entry (List.mem_of_find?_eq_some hfind)]
  simpa using List.find?_some hfind

theorem encode_header (g : Datagram) (rest : Bytes) (hcode : typeCode g.type < 256 ^ 1) :
    g.header.flatMap Field.encode ++ rest
      = headerFormat.write ((), ⟨typeCode g.type, hcode⟩, (), g.channelId, g.senderId, g.seq, g.flags)
        ++ rest := rfl

/-- EXACT: a string is read as a datagram exactly when it is what the datagram writes. -/
theorem readDatagram_eq_some {g : Datagram} : readDatagram bs = some g ↔ g.encode = bs := by
  constructor
  · intro h
    simp only [readDatagram, Option.bind_eq_bind, Option.bind_eq_some_iff] at h
    obtain ⟨⟨⟨_, code, _, channelId, senderId, seq, flags⟩, rest⟩, hheader, type, htype, payload,
      hpayload, h⟩ := h
    split at h
    · next carried =>
      cases h
      have hwrite := headerFormat.write_of_read hheader
      have hcode := typeCode_of_typeOfCode htype
      rw [Datagram.encode, (readPayload_eq_some.mp hpayload).2]
      rw [encode_header _ _ (typeCode_lt carried), ← hwrite]
      simp only [hcode]
    · cases h
  · rintro rfl
    rw [Datagram.encode, encode_header _ _ (typeCode_lt g.carried), readDatagram,
      headerFormat.read_write]
    simp [typeOfCode_typeCode g.carried, readPayload_eq_some.mpr ⟨g.carried, rfl⟩, g.carried]

end Reading

/-! ### A vector for every datagram -/

/-- The members of a vector for this payload. -/
def Payload.members : Payload → Dict
  | codecConfig flags transportId modeBps fecOptions nonce =>
    [("codecConfig", .obj [("flags", .int flags.val), ("codecTransportId", .int transportId.val),
      ("codecModeBps", .int modeBps.val), ("fecOptions", .int fecOptions.val),
      ("mediaNonceBase96Hex", .str (toHex nonce))])]
  | serverConfig talk multiTalk talkers lease keepalive =>
    [("serverConfig", .obj [("maximumTalkSeconds", .int talk.val), ("multiTalkEnabled", .bool multiTalk),
      ("maximumActiveTalkers", .int talkers.val), ("membershipLeaseSeconds", .int lease.val),
      ("keepaliveIntervalSeconds", .int keepalive.val)])]
  | talker talkerId => [("talkerId", .int talkerId.val)]
  | talkRelease talkerId reason =>
      [("talkerId", .int talkerId.val), ("releaseReason", .int reason.val)]
  | ping nonce => [("pingNonceHex", .str (toHex nonce))]
  | empty => []

/-- The fields of a vector for this datagram. -/
def Datagram.fields (g : Datagram) : Dict :=
  [("type", .str g.type), ("version", .int 1), ("headerLen", .int 16), ("channelId", .int g.channelId.val),
    ("senderId", .int g.senderId.val), ("seq", .int g.seq.val), ("flags", .int g.flags.val)]

/-- A vector for this datagram. -/
def Datagram.vector (g : Datagram) : Dict := ("fields", .obj g.fields) :: g.payload.members

section Vector

/-- A word is an integer in the range of its width. -/
theorem integer_word {width : ℕ} (n : Word width) {label : Msg} {maximum : ℕ}
    (hmax : 256 ^ width = maximum + 1) : integer (.int (n.val : ℕ)) label maximum = .ok n.val :=
  integer_eq_ok.mpr ⟨rfl, Nat.lt_succ_iff.mp (n.isLt.trans_eq hmax)⟩

theorem integer_of_hasWord {d : Dict} {key : String} {width : ℕ} {n : Word width} {label : Msg}
    {maximum : ℕ} (h : HasWord d key n) (hmax : 256 ^ width = maximum + 1) :
    integer (Dict.get d key) label maximum = .ok n.val := by
  rw [h]
  exact integer_word n hmax

theorem hexBytesOfLength_octets {n : ℕ} (data : Octets n) {label : Msg} :
    hexBytesOfLength (.str (toHex data)) label n = .ok data.val :=
  hexBytesOfLength_eq_ok.mpr ⟨isHex_toHex _, data.2⟩

/-- Fields that are written without loss are packed. -/
theorem structPack_of_exact {fields : List Field} (h : ∀ f ∈ fields, f.Exact) :
    structPack fields = .ok (fields.flatMap Field.encode) := by
  refine structPack_eq_ok.mpr ⟨fun f hf => ?_, rfl⟩
  have hexact := h f hf
  cases f with
  | uint width value => exact Field.fits_uint.mpr hexact
  | bytes width data => rfl

theorem encodeFixedHeader_vector (g : Datagram) :
    encodeFixedHeader (Dict.get g.vector "fields") = .ok (g.header.flatMap Field.encode) := by
  have hentry := Payload.mem_packetTypes g.carried
  have hknown : inNames (.str g.type) (packetTypes.map Prod.fst) = .ok true :=
    inNames_eq_true.mpr ⟨g.type, List.mem_map_of_mem hentry, rfl⟩
  have hcode : tableGet packetTypes (.str g.type) = .ok (typeCode g.type) := by
    obtain ⟨code, hlookup⟩ := throwsOnly_never.mp (throwsOnly_tableGet_of_inNames hknown)
    obtain ⟨name, hname, hfound⟩ := tableGet_eq_ok.mp hlookup
    cases hname
    rw [hlookup, typeCode, hfound]
    rfl
  simp only [encodeFixedHeader, bind_eq_ok, asObject_eq_ok, require_eq_ok]
  exact ⟨g.fields, rfl, true, hknown, (), rfl, 1, rfl, (), rfl, 16, rfl, (), rfl, _, hcode,
    _, integer_word g.channelId rfl, _, integer_word g.senderId rfl, _, integer_word g.seq rfl,
    _, integer_word g.flags rfl, structPack_of_exact g.exact_header⟩

theorem encodePayload_vector (g : Datagram) :
    encodePayload (.obj g.vector) = .ok (g.payload.record.flatMap Field.encode) := by
  have hpack := structPack_of_exact g.payload.exact_record
  obtain ⟨type, channelId, senderId, seq, flags, payload, carried⟩ := g
  cases payload with
  | codecConfig flags transportId modeBps fecOptions nonce =>
    obtain rfl := List.mem_singleton.mp carried
    refine bind_eq_ok.mpr ⟨_, rfl, bind_eq_ok.mpr ⟨(), rfl, ?_⟩⟩
    simp only [encodeCodecConfig, bind_eq_ok, asObject_eq_ok]
    exact ⟨_, rfl, _, integer_word flags rfl, _, integer_word transportId rfl, _,
      integer_word modeBps rfl, _, integer_word fecOptions rfl, _,
      hexBytesOfLength_octets nonce, hpack⟩
  | serverConfig talk multiTalk talkers lease keepalive =>
    obtain rfl := List.mem_singleton.mp carried
    refine bind_eq_ok.mpr ⟨_, rfl, bind_eq_ok.mpr ⟨(), rfl, ?_⟩⟩
    simp only [encodeServerConfig, bind_eq_ok, asObject_eq_ok, asBool_eq_ok]
    exact ⟨_, rfl, _, rfl, _, integer_word talk rfl, _, integer_word talkers rfl, _,
      integer_word lease rfl, _, integer_word keepalive rfl, hpack⟩
  | talker talkerId =>
    have hname : type = "TALK_GRANT" ∨ type = "TALK_DENY" := by simpa [Payload.carriers] using carried
    refine bind_eq_ok.mpr ⟨_, rfl, ?_⟩
    rcases hname with rfl | rfl
    · refine bind_eq_ok.mpr ⟨true, rfl, bind_eq_ok.mpr ⟨(), rfl, ?_⟩⟩
      exact bind_eq_ok.mpr ⟨_, integer_word talkerId rfl, hpack⟩
    · refine bind_eq_ok.mpr ⟨true, rfl, bind_eq_ok.mpr ⟨(), rfl, ?_⟩⟩
      exact bind_eq_ok.mpr ⟨_, integer_word talkerId rfl, hpack⟩
  | talkRelease talkerId reason =>
    obtain rfl := List.mem_singleton.mp carried
    refine bind_eq_ok.mpr ⟨_, rfl, bind_eq_ok.mpr ⟨true, rfl, bind_eq_ok.mpr ⟨(), rfl, ?_⟩⟩⟩
    exact bind_eq_ok.mpr ⟨_, integer_word talkerId rfl,
      bind_eq_ok.mpr ⟨_, integer_word reason rfl, hpack⟩⟩
  | ping nonce =>
    have hname : type = "PING" ∨ type = "PONG" := by simpa [Payload.carriers] using carried
    refine bind_eq_ok.mpr ⟨_, rfl, ?_⟩
    have hrecord : (Payload.ping nonce).record.flatMap Field.encode = nonce.val := record_ping nonce
    rw [hrecord]
    rcases hname with rfl | rfl
    · refine bind_eq_ok.mpr ⟨true, rfl, bind_eq_ok.mpr ⟨(), rfl, ?_⟩⟩
      exact hexBytesOfLength_octets nonce
    · refine bind_eq_ok.mpr ⟨true, rfl, bind_eq_ok.mpr ⟨(), rfl, ?_⟩⟩
      exact hexBytesOfLength_octets nonce
  | empty =>
    obtain rfl := List.mem_singleton.mp carried
    rfl

end Vector

/-- The encoders write these bytes for the vector. -/
def Encodes (vector : Dict) (bs : Bytes) : Prop :=
  ∃ header payload, encodeFixedHeader (Dict.get vector "fields") = .ok header ∧
    encodePayload (.obj vector) = .ok payload ∧ header ++ payload = bs

/-- ROUND TRIP: what the encoders write for a vector is read as what the vector describes, and the
    strings that are read are exactly those that the encoders write for some vector. -/
theorem readDatagram_encodes :
    (∀ vector bs, Encodes vector bs → ∃ g, readDatagram bs = some g ∧ Describes vector g) ∧
    (∀ g bs, readDatagram bs = some g → Encodes g.vector bs ∧ Describes g.vector g) ∧
    ∀ bs, (∃ vector, Encodes vector bs) ↔ (readDatagram bs).isSome = true := by
  have hread : ∀ vector bs, Encodes vector bs → ∃ g, readDatagram bs = some g ∧
      Describes vector g := by
    rintro vector bs ⟨header, payload, hheader, hpayload, rfl⟩
    obtain ⟨g, hdescribes, hencode⟩ := encoders_describe hheader hpayload
    exact ⟨g, readDatagram_eq_some.mpr hencode, hdescribes⟩
  have hwrite : ∀ g bs, readDatagram bs = some g → Encodes g.vector bs := by
    intro g bs h
    exact ⟨_, _, encodeFixedHeader_vector g, encodePayload_vector g, readDatagram_eq_some.mp h⟩
  refine ⟨hread, fun g bs h => ⟨hwrite g bs h, ?_⟩, fun bs => ⟨?_, fun h => ?_⟩⟩
  · obtain ⟨g', hg', hdescribes⟩ := hread _ _ (hwrite g bs h)
    cases h.symm.trans hg'
    exact hdescribes
  · rintro ⟨vector, hencodes⟩
    obtain ⟨g, hg, -⟩ := hread vector bs hencodes
    rw [hg]
    rfl
  · obtain ⟨g, hg⟩ := Option.isSome_iff_exists.mp h
    exact ⟨g.vector, hwrite g bs hg⟩

end IncomUdon.Packet
