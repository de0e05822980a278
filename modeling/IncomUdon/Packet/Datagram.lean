import Mathlib.Data.List.Nodup
import IncomUdon.Packet.Encoder

/-! What a datagram means. `Datagram` is a packet as both ends understand it: every field has the
    range of its width, and the payload is one that the packet type carries, so a datagram with a
    field out of range or with the payload of another type cannot be built.

        vector ──encoders──▶ bytes
           └──describes──▶ Datagram ──encode──▶ the same bytes      (REFINES)

    Since `encode` is injective, equal bytes come from vectors that describe one datagram. -/

namespace IncomUdon.Packet
open IncomUdon.Python IncomUdon.Lib.ErrorLog

/-- An unsigned integer of `width` bytes. -/
abbrev Word (width : ℕ) := Fin (256 ^ width)

/-- A byte string of fixed length. -/
abbrev Octets (length : ℕ) := { data : Bytes // data.length = length }

/-- The payloads of the packet types that have an encoder. -/
inductive Payload where
  | codecConfig (flags codecTransportId : Word 1) (codecModeBps : Word 4) (fecOptions : Word 1)
      (mediaNonceBase96 : Octets 12)
  | serverConfig (maximumTalkSeconds : Word 2) (multiTalkEnabled : Bool)
      (maximumActiveTalkers : Word 1) (membershipLeaseSeconds keepaliveIntervalSeconds : Word 2)
  | talker (talkerId : Word 4)
  | talkRelease (talkerId : Word 4) (releaseReason : Word 1)
  | ping (nonce : Octets 8)
  | empty

namespace Payload

/-- The packet types that carry the payload. -/
def carriers : Payload → List String
  | codecConfig .. => ["CODEC_CONFIG"]
  | serverConfig .. => ["SERVER_CONFIG"]
  | talker _ => ["TALK_GRANT", "TALK_DENY"]
  | talkRelease .. => ["TALK_RELEASE"]
  | ping _ => ["PING", "PONG"]
  | empty => ["PTT_ON"]

/-- The payload as a record of fixed-width fields. -/
def record : Payload → List Field
  | codecConfig flags transportId modeBps fecOptions nonce =>
    [.uint 1 flags, .uint 1 transportId, .uint 4 modeBps, .uint 1 fecOptions, .bytes 12 nonce]
  | serverConfig talkSeconds multiTalk activeTalkers leaseSeconds keepaliveSeconds =>
    [.uint 2 talkSeconds, .uint 1 multiTalk.toNat, .uint 1 activeTalkers, .uint 2 leaseSeconds,
      .uint 2 keepaliveSeconds]
  | talker talkerId => [.uint 4 talkerId]
  | talkRelease talkerId reason => [.uint 4 talkerId, .uint 1 reason]
  | ping nonce => [.bytes 8 nonce]
  | empty => []

end Payload

/-- The payload length of a packet type. -/
def payloadLength (type : String) : ℕ :=
  if type = "CODEC_CONFIG" then 19
  else if type ∈ ["SERVER_CONFIG", "PING", "PONG"] then 8
  else if type = "TALK_RELEASE" then 5
  else if type ∈ ["TALK_GRANT", "TALK_DENY"] then 4
  else 0

/-- The code of a packet type. -/
def typeCode (type : String) : ℕ := (packetTypes.lookup type).getD 0

/-- A Version 1 datagram with the fixed 16-byte header. -/
structure Datagram where
  type : String
  channelId : Word 4
  senderId : Word 4
  seq : Word 2
  flags : Word 2
  payload : Payload
  carried : type ∈ payload.carriers

namespace Datagram

/-- The header as a record of fixed-width fields. -/
def header (g : Datagram) : List Field :=
  [.uint 1 1, .uint 1 (typeCode g.type), .uint 2 16, .uint 4 g.channelId, .uint 4 g.senderId,
    .uint 2 g.seq, .uint 2 g.flags]

/-- The bytes of the datagram. -/
def encode (g : Datagram) : Bytes :=
  g.header.flatMap Field.encode ++ g.payload.record.flatMap Field.encode

end Datagram

/-! ### What a vector describes -/

/-- The member `key` is this integer. -/
def HasWord (d : Dict) (key : String) {width : ℕ} (word : Word width) : Prop :=
  Dict.get d key = .int (word : ℕ)

/-- The payload that the members of a vector describe. -/
def Payload.Describes (vector : Dict) : Payload → Prop
  | codecConfig flags transportId modeBps fecOptions nonce =>
    ∃ config, vector.lookup "codecConfig" = some (.obj config) ∧ HasWord config "flags" flags ∧
      HasWord config "codecTransportId" transportId ∧ HasWord config "codecModeBps" modeBps ∧
      HasWord config "fecOptions" fecOptions ∧
      IsHex (Dict.get config "mediaNonceBase96Hex") nonce
  | serverConfig talkSeconds multiTalk activeTalkers leaseSeconds keepaliveSeconds =>
    ∃ config, vector.lookup "serverConfig" = some (.obj config) ∧
      HasWord config "maximumTalkSeconds" talkSeconds ∧
      Dict.get config "multiTalkEnabled" = .bool multiTalk ∧
      HasWord config "maximumActiveTalkers" activeTalkers ∧
      HasWord config "membershipLeaseSeconds" leaseSeconds ∧
      HasWord config "keepaliveIntervalSeconds" keepaliveSeconds
  | talker talkerId => HasWord vector "talkerId" talkerId
  | talkRelease talkerId reason =>
    HasWord vector "talkerId" talkerId ∧ HasWord vector "releaseReason" reason
  | ping nonce => IsHex (Dict.get vector "pingNonceHex") nonce
  | empty => ∀ key ∈ ["codecConfig", "serverConfig", "talkerId", "pingNonceHex", "audioSeq"],
      ¬Dict.has vector key

/-- The datagram that a vector describes. -/
structure Describes (vector : Dict) (g : Datagram) : Prop where
  header : ∃ fields, Dict.get vector "fields" = .obj fields ∧
    Dict.get fields "type" = .str g.type ∧ HasWord fields "channelId" g.channelId ∧
    HasWord fields "senderId" g.senderId ∧ HasWord fields "seq" g.seq ∧
    HasWord fields "flags" g.flags
  payload : g.payload.Describes vector

/-! ### Equal bytes, equal datagrams -/

section Injective

theorem boolToNat_lt : ∀ b : Bool, b.toNat < 256 := by decide

theorem boolToNat_inj : ∀ a b : Bool, a.toNat = b.toNat ↔ a = b := by decide

theorem Payload.exact_record (payload : Payload) : ∀ f ∈ payload.record, f.Exact := by
  have hnonce : ∀ {n} (data : Octets n), data.val.length = n := Subtype.property
  cases payload <;> simp [Payload.record, Field.Exact, boolToNat_lt, hnonce]

/-- A type that carries a payload is in the table. -/
theorem Payload.mem_packetTypes {payload : Payload} {type : String} (h : type ∈ payload.carriers) :
    (type, typeCode type) ∈ packetTypes := by
  have hall : ∀ name ∈ ["CODEC_CONFIG", "SERVER_CONFIG", "TALK_GRANT", "TALK_DENY", "TALK_RELEASE",
      "PING", "PONG", "PTT_ON"], (name, typeCode name) ∈ packetTypes := by decide
  refine hall type ?_
  cases payload <;> simp only [Payload.carriers, List.mem_cons, List.not_mem_nil, or_false] at h ⊢ <;>
    tauto

/-- No two types share a code. -/
theorem nodup_typeCodes : (packetTypes.map Prod.snd).Nodup := by decide

theorem typeCode_lt {payload : Payload} {type : String} (h : type ∈ payload.carriers) :
    typeCode type < 256 ^ 1 := by
  have hall : ∀ entry ∈ packetTypes, entry.2 < 256 ^ 1 := by decide
  exact hall _ (Payload.mem_packetTypes h)

theorem typeCode_inj {p q : Payload} {s t : String} (hs : s ∈ p.carriers) (ht : t ∈ q.carriers)
    (h : typeCode s = typeCode t) : s = t := by
  have hentry := List.inj_on_of_nodup_map nodup_typeCodes (Payload.mem_packetTypes hs)
    (Payload.mem_packetTypes ht) h
  exact congrArg Prod.fst hentry

theorem Datagram.exact_header (g : Datagram) : ∀ f ∈ g.header, f.Exact := by
  have htype := typeCode_lt g.carried
  simpa [Datagram.header, Field.Exact] using htype

/-- The type of a packet fixes the format of its payload. -/
theorem Payload.shape_eq {p q : Payload} {type : String} (hp : type ∈ p.carriers)
    (hq : type ∈ q.carriers) : p.record.map Field.shape = q.record.map Field.shape := by
  cases p <;> cases q <;> first
    | rfl
    | simp only [Payload.carriers, List.mem_cons, List.not_mem_nil, or_false] at hp hq
      grind

theorem Payload.record_injective : Function.Injective Payload.record := by
  intro p q h
  cases p <;> cases q <;>
    simp_all [Payload.record, Fin.ext_iff, Subtype.ext_iff, boolToNat_inj]

@[simp] theorem length_flatMap_encode (fs : List Field) :
    (fs.flatMap Field.encode).length = (fs.map fun f => f.shape.2).sum := by
  simp [List.length_flatMap]

/-- INJECTIVE: two datagrams with the same bytes are the same. -/
theorem Datagram.encode_injective : Function.Injective Datagram.encode := by
  intro g g' h
  have hlen : (g.header.flatMap Field.encode).length = (g'.header.flatMap Field.encode).length := by
    simp [Datagram.header, Field.shape]
  obtain ⟨hheader, hpayload⟩ := List.append_inj h hlen
  have hformat : g.header.map Field.shape = g'.header.map Field.shape := rfl
  have hfields := Field.flatMap_encode_inj hformat g.exact_header g'.exact_header hheader
  simp only [Datagram.header, List.cons.injEq, Field.uint.injEq, true_and, and_true,
    Fin.val_inj] at hfields
  obtain ⟨hcode, hchannel, hsender, hseq, hflags⟩ := hfields
  have htype := typeCode_inj g.carried g'.carried hcode
  have hshape := Payload.shape_eq g.carried (htype ▸ g'.carried)
  have hrecord := Field.flatMap_encode_inj hshape g.payload.exact_record g'.payload.exact_record
    hpayload
  have hpayload' := Payload.record_injective hrecord
  cases g; cases g'
  simp_all

/-- The type of a packet fixes its length. -/
theorem Datagram.length_encode (g : Datagram) : g.encode.length = 16 + payloadLength g.type := by
  have hpayload : ∀ {p : Payload} {type : String}, type ∈ p.carriers →
      (p.record.map fun f => f.shape.2).sum = payloadLength type := by
    intro p type h
    cases p <;> simp only [Payload.carriers, List.mem_cons, List.not_mem_nil, or_false] at h <;>
      rcases h with rfl | rfl <;> rfl
  rw [Datagram.encode, List.length_append, length_flatMap_encode, length_flatMap_encode,
    hpayload g.carried]
  rfl

end Injective

/-! ### The encoders write the datagram that the vector describes -/

section Refines
variable {vector : Dict} {type : String}

/-- An integer that `_integer` accepts is a word of the width it is packed in. -/
theorem hasWord_of_integer {d : Dict} {key : String} {label : Msg} {maximum n : ℕ} (width : ℕ)
    (h : integer (Dict.get d key) label maximum = .ok n) (hmax : maximum < 256 ^ width) :
    ∃ word : Word width, HasWord d key word ∧ (word : ℕ) = n := by
  obtain ⟨hval, hle⟩ := integer_eq_ok.mp h
  exact ⟨⟨n, hle.trans_lt hmax⟩, hval, rfl⟩

theorem get_of_lookup {d : Dict} {key : String} {value : Json} (h : d.lookup key = some value) :
    Dict.get d key = value := by
  simp [Dict.get, Dict.getD, h]

/-- The payload describes the vector and has these bytes. -/
def Payload.Writes (vector : Dict) (type : String) (data : Bytes) (payload : Payload) : Prop :=
  type ∈ payload.carriers ∧ payload.Describes vector ∧ payload.record.flatMap Field.encode = data

theorem encodeCodecConfig_writes {config : Json} {data : Bytes}
    (hlookup : vector.lookup "codecConfig" = some config)
    (h : encodeCodecConfig config = .ok data) : ∃ p : Payload, p.Writes vector "CODEC_CONFIG" data := by
  simp only [encodeCodecConfig, bind_eq_ok, asObject_eq_ok, structPack_eq_ok,
    hexBytesOfLength_eq_ok] at h
  obtain ⟨d, rfl, flags, h₁, id, h₂, mode, h₃, fec, h₄, nonce, ⟨hnonce, hlen⟩, -, rfl⟩ := h
  obtain ⟨flags, hflags, rfl⟩ := hasWord_of_integer 1 h₁ (by decide)
  obtain ⟨id, hid, rfl⟩ := hasWord_of_integer 1 h₂ (by decide)
  obtain ⟨mode, hmode, rfl⟩ := hasWord_of_integer 4 h₃ (by decide)
  obtain ⟨fec, hfec, rfl⟩ := hasWord_of_integer 1 h₄ (by decide)
  exact ⟨.codecConfig flags id mode fec ⟨nonce, hlen⟩, List.mem_singleton_self _,
    ⟨d, hlookup, hflags, hid, hmode, hfec, hnonce⟩, rfl⟩

theorem encodeServerConfig_writes {config : Json} {data : Bytes}
    (hlookup : vector.lookup "serverConfig" = some config)
    (h : encodeServerConfig config = .ok data) :
    ∃ p : Payload, p.Writes vector "SERVER_CONFIG" data := by
  simp only [encodeServerConfig, bind_eq_ok, asObject_eq_ok, asBool_eq_ok, structPack_eq_ok] at h
  obtain ⟨d, rfl, multi, hmulti, talk, h₁, active, h₂, lease, h₃, keepalive, h₄, -, rfl⟩ := h
  obtain ⟨talk, htalk, rfl⟩ := hasWord_of_integer 2 h₁ (by decide)
  obtain ⟨active, hactive, rfl⟩ := hasWord_of_integer 1 h₂ (by decide)
  obtain ⟨lease, hlease, rfl⟩ := hasWord_of_integer 2 h₃ (by decide)
  obtain ⟨keepalive, hkeepalive, rfl⟩ := hasWord_of_integer 2 h₄ (by decide)
  exact ⟨.serverConfig talk multi active lease keepalive, List.mem_singleton_self _,
    ⟨d, hlookup, htalk, hmulti, hactive, hlease, hkeepalive⟩, rfl⟩

theorem encodeTalker_writes {talkerId : Json} {data : Bytes}
    (hlookup : vector.lookup "talkerId" = some talkerId)
    (h : encodeTalker vector (.str type) talkerId = .ok data) :
    ∃ p : Payload, p.Writes vector type data := by
  simp only [encodeTalker, bind_eq_ok, require_eq_ok] at h
  obtain ⟨allowed, hin, -, rfl, talker, h₁, h⟩ := h
  obtain ⟨_, hmem, ⟨⟩⟩ := inNames_eq_true.mp hin
  rw [← get_of_lookup hlookup] at h₁
  obtain ⟨talker, htalker, rfl⟩ := hasWord_of_integer 4 h₁ (by decide)
  split at h
  · rename_i hrelease
    obtain ⟨reason, h₂, hpack⟩ := bind_eq_ok.mp h
    obtain ⟨reason, hreason, rfl⟩ := hasWord_of_integer 1 h₂ (by decide)
    obtain ⟨-, rfl⟩ := structPack_eq_ok.mp hpack
    exact ⟨.talkRelease talker reason, by simpa [Payload.carriers] using hrelease,
      ⟨htalker, hreason⟩, rfl⟩
  · rename_i hgrant
    obtain ⟨-, -, hpack⟩ := bind_eq_ok.mp h
    obtain ⟨-, rfl⟩ := structPack_eq_ok.mp hpack
    exact ⟨.talker talker, by simp_all [Payload.carriers], htalker, rfl⟩

theorem encodePing_writes {nonce : Json} {data : Bytes}
    (hlookup : vector.lookup "pingNonceHex" = some nonce)
    (h : encodePing (.str type) nonce = .ok data) : ∃ p : Payload, p.Writes vector type data := by
  simp only [encodePing, bind_eq_ok, require_eq_ok, hexBytesOfLength_eq_ok] at h
  obtain ⟨allowed, hin, -, rfl, hhex, hlen⟩ := h
  obtain ⟨_, hmem, ⟨⟩⟩ := inNames_eq_true.mp hin
  refine ⟨.ping ⟨data, hlen⟩, hmem, ?_, ?_⟩
  · rwa [Payload.Describes, get_of_lookup hlookup]
  · simp [Payload.record, Field.encode, ljust_of_le hlen.ge, List.take_of_length_le hlen.le]

/-- A payload with an envelope type is one that the type carries. -/
theorem encodePayload_writes {data : Bytes} (htype : typeOf vector = .str type)
    (h : encodePayload (.obj vector) = .ok data) : ∃ p : Payload, p.Writes vector type data := by
  simp only [encodePayload, asObject, ok_bind, htype] at h
  split at h
  next config hconfig =>
    obtain ⟨_, hname, h⟩ := bind_eq_ok.mp h
    cases Json.eq_str.mp (require_eq_ok.mp hname)
    exact encodeCodecConfig_writes hconfig h
  next hcodec =>
  split at h
  next config hconfig =>
    obtain ⟨_, hname, h⟩ := bind_eq_ok.mp h
    cases Json.eq_str.mp (require_eq_ok.mp hname)
    exact encodeServerConfig_writes hconfig h
  next hserver =>
  split at h
  next talkerId htalker => exact encodeTalker_writes htalker h
  next htalker =>
  split at h
  next nonce hnonce => exact encodePing_writes hnonce h
  next hnonce =>
  split at h
  next audioSeq haudio =>
    obtain ⟨_, hnull, -⟩ := bind_eq_ok.mp h
    simp at hnull
  next haudio =>
    simp only [bind_eq_ok, require_eq_ok] at h
    obtain ⟨empty, hin, -, rfl, ⟨⟩⟩ := h
    obtain ⟨_, hmem, ⟨⟩⟩ := inNames_eq_true.mp hin
    have habsent : ∀ {key}, (∀ value, vector.lookup key = some value → False) →
        ¬Dict.has vector key := fun h hhas => (Option.isSome_iff_exists.mp hhas).elim h
    refine ⟨.empty, hmem, ?_, rfl⟩
    simp only [Payload.Describes, List.forall_mem_cons, List.not_mem_nil, false_imp_iff,
      implies_true, and_true]
    exact ⟨habsent hcodec, habsent hserver, habsent htalker, habsent hnonce, habsent haudio⟩

/-- REFINES: header and payload of one vector are the datagram that the vector describes. -/
theorem encoders_describe {header payload : Bytes}
    (hh : encodeFixedHeader (Dict.get vector "fields") = .ok header)
    (hp : encodePayload (.obj vector) = .ok payload) :
    ∃ g : Datagram, Describes vector g ∧ g.encode = header ++ payload := by
  simp only [encodeFixedHeader, bind_eq_ok, asObject_eq_ok, require_eq_ok, tableGet_eq_ok] at hh
  obtain ⟨fields, hfields, -, -, -, -, version, -, -, rfl, length, -, -, rfl, code,
    ⟨type, htype, hcode⟩, channel, h₁, sender, h₂, seq, h₃, flags, h₄, hpack⟩ := hh
  obtain ⟨channel, hchannel, rfl⟩ := hasWord_of_integer 4 h₁ (by decide)
  obtain ⟨sender, hsender, rfl⟩ := hasWord_of_integer 4 h₂ (by decide)
  obtain ⟨seq, hseq, rfl⟩ := hasWord_of_integer 2 h₃ (by decide)
  obtain ⟨flags, hflags, rfl⟩ := hasWord_of_integer 2 h₄ (by decide)
  obtain ⟨-, rfl⟩ := structPack_eq_ok.mp hpack
  have htypeOf : typeOf vector = .str type := by rw [typeOf, hfields]; exact htype
  obtain ⟨p, hcarried, hdescribes, rfl⟩ := encodePayload_writes htypeOf hp
  refine ⟨⟨type, channel, sender, seq, flags, p, hcarried⟩,
    ⟨⟨fields, hfields, htype, hchannel, hsender, hseq, hflags⟩, hdescribes⟩, ?_⟩
  simp only [Datagram.encode, Datagram.header, typeCode, hcode, Option.getD_some]

end Refines

/-- INJECTIVE ON VECTORS: two vectors whose encodings are equal describe one datagram, and the
    length of an encoding is 16 plus a payload length that the type alone determines. -/
theorem encoders_injective (v v' : Dict) (header payload header' payload' : Bytes)
    (hh : encodeFixedHeader (Dict.get v "fields") = .ok header)
    (hp : encodePayload (.obj v) = .ok payload)
    (hh' : encodeFixedHeader (Dict.get v' "fields") = .ok header')
    (hp' : encodePayload (.obj v') = .ok payload') :
    (header ++ payload = header' ++ payload' → ∃ g : Datagram, Describes v g ∧ Describes v' g) ∧
      ∃ g : Datagram, Describes v g ∧ (header ++ payload).length = 16 + payloadLength g.type := by
  obtain ⟨g, hg, hgenc⟩ := encoders_describe hh hp
  obtain ⟨g', hg', hgenc'⟩ := encoders_describe hh' hp'
  refine ⟨fun heq => ?_, g, hg, hgenc ▸ g.length_encode⟩
  rw [← hgenc, ← hgenc'] at heq
  exact ⟨g, hg, Datagram.encode_injective heq ▸ hg'⟩

/-- A PING whose nonce is written in two ways. -/
def pingVector (nonce : String) : Dict :=
  [("fields", .obj [("type", .str "PING"), ("version", .int 1), ("headerLen", .int 16),
    ("channelId", .int 7), ("senderId", .int 300), ("seq", .int 1), ("flags", .int 0)]),
    ("pingNonceHex", .str nonce)]

theorem encoders_injective_ping :
    ∃ g : Datagram, Describes (pingVector "0a0b0c0d0e0f1011") g ∧
      Describes (pingVector "0A0B 0C0D 0E0F 1011") g :=
  (encoders_injective (pingVector "0a0b0c0d0e0f1011") (pingVector "0A0B 0C0D 0E0F 1011")
    [1, 0x0E, 0, 16, 0, 0, 0, 7, 0, 0, 1, 44, 0, 1, 0, 0] [10, 11, 12, 13, 14, 15, 16, 17]
    [1, 0x0E, 0, 16, 0, 0, 0, 7, 0, 0, 1, 44, 0, 1, 0, 0] [10, 11, 12, 13, 14, 15, 16, 17]
    (by rfl) (by rfl) (by rfl) (by rfl)).1 rfl

end IncomUdon.Packet
