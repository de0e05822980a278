import IncomUdon.Crypto.ControlAuth
import IncomUdon.Crypto.MediaNonce
import IncomUdon.Packet.Reader

/-! Accepted AES-GCM v2 files. The header of a media packet is 36 bytes, and it is the associated
    data:

        1  AUDIO  headerLen  channelId  senderId  seq  flags  base  counter  mediaKeyId
        1    1        2          4          4      2     2     12      4         4

    EXACT: a file passes exactly when every value is the one computed. OPENS: whoever has the media
    key reads header, base and counter off the datagram of the file, and decrypts to its plaintext. -/

namespace IncomUdon.Crypto
open IncomUdon.Python IncomUdon.Loader IncomUdon.Packet IncomUdon.Lib IncomUdon.Lib.ErrorLog
  IncomUdon.Lib.BigEndian

/-- The file. -/
def aesGcmPath : String := "test-vectors/aes-gcm-v2.json"

/-- The header of a media packet. -/
structure MediaHeader where
  headerLen : Word 2
  channelId : Word 4
  senderId : Word 4
  seq : Word 2
  flags : Word 2
  base : Octets 12
  counter : Word 4
  mediaKeyId : Word 4

namespace MediaHeader

/-- The fields, one after the other. -/
abbrev Fields : Type :=
  Unit × Word 2 × Word 4 × Word 4 × Word 2 × Word 2 × Octets 12 × Word 4 × Word 4

def ofFields : Fields ≃ MediaHeader where
  toFun := fun (_, headerLen, channelId, senderId, seq, flags, base, counter, mediaKeyId) =>
    ⟨headerLen, channelId, senderId, seq, flags, base, counter, mediaKeyId⟩
  invFun h := ((), h.headerLen, h.channelId, h.senderId, h.seq, h.flags, h.base, h.counter, h.mediaKeyId)
  left_inv _ := rfl
  right_inv _ := rfl

/-- The format of the header. -/
def format : Codec UInt8 MediaHeader :=
  ((Codec.literal [1, 1]).pair ((Codec.word 2).pair ((Codec.word 4).pair ((Codec.word 4).pair
    ((Codec.word 2).pair ((Codec.word 2).pair ((Codec.octets 12).pair ((Codec.word 4).pair
      (Codec.word 4)))))))) : Codec UInt8 Fields).rename ofFields

/-- The header in bytes. -/
def bytes (h : MediaHeader) : Bytes := format.write h

/-- The sum of base and counter. -/
def nonceValue (h : MediaHeader) : ℕ := ofBE h.base + h.counter

/-- The file states the fields of this header. -/
structure Of (document packet : Dict) (h : MediaHeader) : Prop where
  headerLen : HasWord packet "headerLen" h.headerLen
  senderId : HasWord packet "senderId" h.senderId
  seq : HasWord packet "seq" h.seq
  flags : HasWord packet "flags" h.flags
  base : IsHex (Dict.get packet "mediaNonceBase96Hex") h.base
  counter : HasWord packet "mediaCounter" h.counter
  mediaKeyId : HasWord document "mediaKeyId" h.mediaKeyId

theorem write_format (h : MediaHeader) :
    format.write h = [1, 1] ++ (toBE 2 h.headerLen ++ (toBE 4 h.channelId ++ (toBE 4 h.senderId ++
      (toBE 2 h.seq ++ (toBE 2 h.flags ++ (h.base.val ++ (toBE 4 h.counter ++ toBE 4 h.mediaKeyId))))))) := rfl

theorem length_bytes (h : MediaHeader) : h.bytes.length = 36 := by
  have hbase := h.base.2
  rw [bytes, write_format]
  simp [hbase]

end MediaHeader

/-- The encrypted packet: header, ciphertext and tag. -/
def mediaPacket (aes : AesGcm) (key : Bytes) (header : MediaHeader) (plaintext : Bytes) : Bytes :=
  header.bytes ++ aes.encrypt key (toBE 12 header.nonceValue) plaintext header.bytes

/-- What a receiver makes of a datagram: the nonce is computed from the header it reads. -/
def openPacket (aes : AesGcm) (key datagram : Bytes) : Option (MediaHeader × Bytes) := do
  let (header, encrypted) ← MediaHeader.format.read datagram
  let plaintext ← aes.decrypt key (toBE 12 header.nonceValue) encrypted header.bytes
  return (header, plaintext)

/-- Decryption undoes encryption. -/
def AesGcm.Correct (aes : AesGcm) : Prop :=
  ∀ key nonce data aad, aes.decrypt key nonce (aes.encrypt key nonce data aad) aad = some data

/-- The parts of an AES-GCM v2 document. -/
structure MediaParts where
  channelId : ℕ
  passwordKey : Bytes
  packet : Dict
  header : MediaHeader
  plaintext : Bytes
  negative : Dict
  offset : ℕ
  mask : UInt8

namespace MediaParts
variable (lib : KeyLibrary) (aes : AesGcm) (parts : MediaParts)

/-- The media key. -/
def key : Bytes := mediaKeyOf lib.hmac parts.passwordKey

/-- Ciphertext and tag. -/
def encrypted : Bytes :=
  aes.encrypt (parts.key lib) (toBE 12 parts.header.nonceValue) parts.plaintext parts.header.bytes

/-- The datagram. -/
def datagram : Bytes := mediaPacket aes (parts.key lib) parts.header parts.plaintext

/-- The datagram with one byte changed. -/
def mutated : Bytes := (parts.datagram lib aes).modify parts.offset (· ^^^ parts.mask)

end MediaParts

/-- The document has these parts, and each is accepted. -/
structure AcceptsMedia (lib : KeyLibrary) (aes : AesGcm) (document : Dict) (parts : MediaParts) :
    Prop where
  parameters : IsArgon2idV1 (Dict.get document "argon2id")
  keys : HasPasswordKey lib document parts.channelId parts.passwordKey
  mediaKey : IsHex (Dict.get document "keyHex") (parts.key lib)
  packet : Dict.get document "packet" = .obj parts.packet
  audio : Dict.get parts.packet "type" = .str "AUDIO"
  header : parts.header.Of document parts.packet
  channelId : (parts.header.channelId : ℕ) = parts.channelId
  nonceFits : parts.header.nonceValue < 2 ^ 96
  nonce : IsHex (Dict.get parts.packet "derivedNonce96Hex") (toBE 12 parts.header.nonceValue)
  aad : IsHex (Dict.get document "aadHex") parts.header.bytes
  plaintext : IsHex (Dict.get document "plaintextHex") parts.plaintext
  ciphertext : IsHex (Dict.get document "ciphertextHex")
    ((parts.encrypted lib aes).take ((parts.encrypted lib aes).length - 16))
  tag : IsHex (Dict.get document "tagHex")
    ((parts.encrypted lib aes).drop ((parts.encrypted lib aes).length - 16))
  tagLength : ((parts.encrypted lib aes).drop ((parts.encrypted lib aes).length - 16)).length = 16
  datagram : IsHex (Dict.get document "datagramHex") (parts.datagram lib aes)
  negative : Dict.get document "negativeCase" = .obj parts.negative
  offset : Dict.get parts.negative "mutateOffset" = .int parts.offset
  offset_le : parts.offset ≤ (parts.datagram lib aes).length - 1
  mask : IsHex (Dict.get parts.negative "xor") [parts.mask]
  rejected : aes.decrypt (parts.key lib) (toBE 12 parts.header.nonceValue)
    ((parts.mutated lib aes).drop 36) ((parts.mutated lib aes).take 36) = none

section Header
variable {document packet : Dict} {channelId counter : ℕ} {base data : Bytes}

theorem mediaHeader_eq_ok (hchannel : channelId ≤ 0xFFFFFFFF)
    (hbase : IsHex (Dict.get packet "mediaNonceBase96Hex") base) (hlength : base.length = 12)
    (hcounter : Dict.get packet "mediaCounter" = .int counter) (hle : counter ≤ 0xFFFFFFFF) :
    mediaHeader document packet channelId base counter = .ok data ↔
      ∃ h : MediaHeader, h.Of document packet ∧ (h.channelId : ℕ) = channelId ∧ h.bytes = data := by
  have hencode : (Field.bytes 12 base).encode = base := encode_octets ⟨base, hlength⟩
  simp only [mediaHeader, bind_eq_ok, structPack_eq_ok]
  constructor
  · rintro ⟨headerLen, h₁, senderId, h₂, seq, h₃, flags, h₄, mediaKeyId, h₅, -, rfl⟩
    obtain ⟨headerLen, hheaderLen, rfl⟩ := hasWord_of_integer 2 h₁ (by decide)
    obtain ⟨senderId, hsenderId, rfl⟩ := hasWord_of_integer 4 h₂ (by decide)
    obtain ⟨seq, hseq, rfl⟩ := hasWord_of_integer 2 h₃ (by decide)
    obtain ⟨flags, hflags, rfl⟩ := hasWord_of_integer 2 h₄ (by decide)
    obtain ⟨mediaKeyId, hmediaKeyId, rfl⟩ := hasWord_of_integer 4 h₅ (by decide)
    refine ⟨⟨headerLen, ⟨channelId, by omega⟩, senderId, seq, flags, ⟨base, hlength⟩,
      ⟨counter, by omega⟩, mediaKeyId⟩,
      ⟨hheaderLen, hsenderId, hseq, hflags, hbase, hcounter, hmediaKeyId⟩, rfl, ?_⟩
    simp only [List.flatMap_cons, List.flatMap_nil, hencode, List.append_nil]
    rfl
  · rintro ⟨h, hof, rfl, rfl⟩
    obtain rfl := isHex_unique hof.base hbase
    have hcounterEq : (h.counter : ℕ) = counter := by
      simpa [HasWord] using hof.counter.symm.trans hcounter
    subst hcounterEq
    have hpack : ∀ f ∈ [Field.uint 1 1, .uint 1 0x01, .uint 2 h.headerLen, .uint 4 h.channelId,
        .uint 4 h.senderId, .uint 2 h.seq, .uint 2 h.flags, .bytes 12 h.base, .uint 4 h.counter,
        .uint 4 h.mediaKeyId], f.fits = true := by
      simp [Field.fits]
    refine ⟨_, integer_of_hasWord hof.headerLen rfl, _, integer_of_hasWord hof.senderId rfl, _,
      integer_of_hasWord hof.seq rfl, _, integer_of_hasWord hof.flags rfl, _,
      integer_of_hasWord hof.mediaKeyId rfl, hpack, ?_⟩
    simp only [List.flatMap_cons, List.flatMap_nil, hencode, List.append_nil]
    rfl

end Header

section Accepts
variable {lib : KeyLibrary} {aes : AesGcm} {document : Dict} {channelId : ℕ}
  {key nonce header datagram : Bytes}

theorem clean_mediaKeys :
    Clean (mediaKeys lib document) (channelId, key) ↔
      ∃ passwordKey, HasPasswordKey lib document channelId passwordKey ∧
        IsHex (Dict.get document "keyHex") (mediaKeyOf lib.hmac passwordKey) ∧
        mediaKeyOf lib.hmac passwordKey = key := by
  simp only [mediaKeys, Run.liftM_eq, clean_bind, clean_lift, integer_eq_ok, derive_eq_ok,
    hkdfSha256_blockKey, Except.ok.injEq, hexBytesOfLength_eq_ok, clean_compareBytes, clean_pure,
    exists_unit]
  constructor
  · rintro ⟨channelId, ⟨hchannel, hle⟩, salt, hsalt, _, ⟨hsaltHex, hsaltLength⟩, rfl, passwordKey,
      hderives, _, ⟨hkeyHex, hkeyLength⟩, rfl, _, rfl, _, ⟨hmedia, -⟩, rfl, ⟨⟩⟩
    obtain rfl := Except.ok.inj ((channelSalt_eq hle).symm.trans hsalt)
    exact ⟨passwordKey, ⟨hchannel, hle, hsaltHex, hsaltLength, hderives, hkeyHex, hkeyLength⟩,
      hmedia, rfl⟩
  · rintro ⟨passwordKey, h, hmedia, rfl⟩
    exact ⟨channelId, ⟨h.channelId_eq, h.channelId_le⟩, _, channelSalt_eq h.channelId_le, _,
      ⟨h.salt, h.saltLength⟩, rfl, passwordKey, h.derives, _, ⟨h.passwordKey_eq, h.passwordKeyLength⟩,
      rfl, _, rfl, _, ⟨hmedia, length_blockKey _ _ _ _⟩, rfl, rfl⟩

theorem clean_mediaDatagram :
    Clean (mediaDatagram aes document key nonce header) datagram ↔
      ∃ plaintext encrypted, aes.encrypt key nonce plaintext header = encrypted ∧
        IsHex (Dict.get document "aadHex") header ∧
        IsHex (Dict.get document "plaintextHex") plaintext ∧
        IsHex (Dict.get document "ciphertextHex") (encrypted.take (encrypted.length - 16)) ∧
        (IsHex (Dict.get document "tagHex") (encrypted.drop (encrypted.length - 16)) ∧
          (encrypted.drop (encrypted.length - 16)).length = 16) ∧
        IsHex (Dict.get document "datagramHex") (header ++ encrypted) ∧
        header ++ encrypted = datagram := by
  simp only [mediaDatagram, Run.liftM_eq, clean_bind, clean_lift, hexBytes_eq_ok,
    hexBytesOfLength_eq_ok, clean_compareBytes, clean_pure, exists_unit]
  constructor
  · rintro ⟨_, haad, rfl, plaintext, hplaintext, _, hciphertext, rfl, _, htag, rfl, _, hdatagram,
      rfl, rfl⟩
    exact ⟨plaintext, _, rfl, haad, hplaintext, hciphertext, htag, hdatagram, rfl⟩
  · rintro ⟨plaintext, _, rfl, haad, hplaintext, hciphertext, htag, hdatagram, rfl⟩
    exact ⟨_, haad, rfl, plaintext, hplaintext, _, hciphertext, rfl, _, htag, rfl, _, hdatagram,
      rfl, rfl⟩

theorem clean_mutatedDatagram :
    Clean (mutatedDatagram aes document key nonce datagram) () ↔
      ∃ negative offset mask, Dict.get document "negativeCase" = .obj negative ∧
        (Dict.get negative "mutateOffset" = .int (offset : ℕ) ∧ offset ≤ datagram.length - 1) ∧
        IsHex (Dict.get negative "xor") [mask] ∧
        aes.decrypt key nonce ((datagram.modify offset (· ^^^ mask)).drop 36)
          ((datagram.modify offset (· ^^^ mask)).take 36) = none := by
  simp only [mutatedDatagram, Run.liftM_eq, clean_bind, clean_lift, asObject_eq_ok, integer_eq_ok,
    hexBytesOfLength_eq_ok, index_eq_ok, clean_reportIf, Option.not_isSome_iff_eq_none]
  constructor
  · rintro ⟨negative, hnegative, offset, hoffset, xor, ⟨hxor, hlength⟩, mask, hmask, hrejected⟩
    obtain ⟨mask', rfl⟩ := List.length_eq_one_iff.mp hlength
    cases hmask
    exact ⟨negative, offset, mask, hnegative, hoffset, hxor, hrejected⟩
  · rintro ⟨negative, offset, mask, hnegative, hoffset, hxor, hrejected⟩
    exact ⟨negative, hnegative, offset, hoffset, [mask], ⟨hxor, rfl⟩, mask, rfl, hrejected⟩

/-- EXACT: the validator returns no error exactly when the parts of the document are accepted. -/
theorem clean_validateAesGcmV2 {root : Root} :
    Clean (validateAesGcmV2 lib aes root) () ↔
      ∃ document parts, root aesGcmPath = .json (.obj document) ∧
        AcceptsMedia lib aes document parts := by
  simp only [validateAesGcmV2, Run.liftM_eq, clean_bind, clean_lift, load_eq_ok,
    validateArgon2Parameters_eq_ok, asObject_eq_ok, require_eq_ok, Json.eq_str, exists_unit,
    Prod.exists, clean_mediaKeys, clean_packetNonce, clean_mediaDatagram, clean_mutatedDatagram]
  constructor
  · rintro ⟨document, hdocument, hparameters, channelId, _, ⟨passwordKey, hkeys, hkeyHex,
      rfl⟩, packet, hpacket, haudio, base, counter, _, ⟨⟨hbase, hlength⟩, ⟨hcounter, hcounterLe⟩,
      ⟨hfits, rfl⟩, hnonce⟩, header, hheader, datagram, ⟨plaintext, _, rfl, haad, hplaintext,
        hciphertext, ⟨htag, htagLength⟩, hdatagram, rfl⟩, negative, offset, mask, hnegative,
        ⟨hoffset, hoffsetLe⟩, hmask, hrejected⟩
    obtain ⟨h, hof, hchannel, rfl⟩ :=
      (mediaHeader_eq_ok hkeys.channelId_le hbase hlength hcounter hcounterLe).mp hheader
    have hbaseEq : (h.base : Bytes) = base := isHex_unique hof.base hbase
    have hcounterEq : (h.counter : ℕ) = counter := by
      simpa [HasWord] using hof.counter.symm.trans hcounter
    subst hbaseEq hcounterEq
    exact ⟨document, ⟨channelId, passwordKey, packet, h, plaintext, negative, offset, mask⟩,
      hdocument, hparameters, hkeys, hkeyHex, hpacket, haudio, hof, hchannel, hfits, hnonce, haad,
      hplaintext, hciphertext, htag, htagLength, hdatagram, hnegative, hoffset, hoffsetLe, hmask,
      hrejected⟩
  · rintro ⟨document, parts, hdocument, h⟩
    have hcounterLe : (parts.header.counter : ℕ) ≤ 0xFFFFFFFF :=
      Nat.le_of_lt_succ parts.header.counter.isLt
    exact ⟨document, hdocument, h.parameters, parts.channelId, _, ⟨parts.passwordKey, h.keys,
      h.mediaKey, rfl⟩, parts.packet, h.packet, h.audio, parts.header.base, parts.header.counter, _,
      ⟨⟨h.header.base, parts.header.base.2⟩, ⟨h.header.counter, hcounterLe⟩, ⟨h.nonceFits, rfl⟩,
      h.nonce⟩, _, (mediaHeader_eq_ok h.keys.channelId_le h.header.base parts.header.base.2
      h.header.counter
        hcounterLe).mpr ⟨parts.header, h.header, h.channelId, rfl⟩, _,
      ⟨parts.plaintext, _, rfl, h.aad, h.plaintext, h.ciphertext, ⟨h.tag, h.tagLength⟩,
      h.datagram, rfl⟩, parts.negative, parts.offset, parts.mask, h.negative,
      ⟨h.offset, h.offset_le⟩, h.mask, h.rejected⟩

end Accepts

/-! ### Receiving the datagram -/

namespace MediaHeader

theorem window_base (h : MediaHeader) (rest : Bytes) : window 16 12 (h.bytes ++ rest) = h.base := by
  have hbase := h.base.2
  rw [bytes, write_format]
  simp [window, List.drop_append, List.drop_eq_nil_of_le, hbase]

theorem window_counter (h : MediaHeader) (rest : Bytes) :
    window 28 4 (h.bytes ++ rest) = toBE 4 h.counter := by
  have hbase := h.base.2
  rw [bytes, write_format]
  simp [window, List.drop_append, List.drop_eq_nil_of_le, hbase]

/-- The nonce is read off two windows of the datagram. -/
theorem nonceValue_eq_of_windows {h h' : MediaHeader} (rest rest' : Bytes)
    (hbase : window 16 12 (h.bytes ++ rest) = window 16 12 (h'.bytes ++ rest'))
    (hcounter : window 28 4 (h.bytes ++ rest) = window 28 4 (h'.bytes ++ rest')) :
    h.nonceValue = h'.nonceValue := by
  rw [window_base, window_base] at hbase
  rw [window_counter, window_counter] at hcounter
  rw [nonceValue, nonceValue, hbase, (toBE_inj h.counter.isLt h'.counter.isLt).mp hcounter]

end MediaHeader

section Receive
variable {lib : KeyLibrary} {aes : AesGcm} {key datagram plaintext : Bytes} {header : MediaHeader}

theorem openPacket_eq_some :
    openPacket aes key datagram = some (header, plaintext) ↔
      ∃ encrypted, header.bytes ++ encrypted = datagram ∧
        aes.decrypt key (toBE 12 header.nonceValue) encrypted header.bytes = some plaintext := by
  simp only [openPacket, Option.bind_eq_bind, Option.bind_eq_some_iff, Option.pure_def]
  constructor
  · rintro ⟨⟨header, encrypted⟩, hread, plaintext, hdecrypt, ⟨⟩⟩
    exact ⟨encrypted, MediaHeader.format.write_of_read hread, hdecrypt⟩
  · rintro ⟨encrypted, rfl, hdecrypt⟩
    exact ⟨_, MediaHeader.format.read_write header encrypted, plaintext, hdecrypt, rfl⟩

theorem openPacket_mediaPacket (hcorrect : aes.Correct) :
    openPacket aes key (mediaPacket aes key header plaintext) = some (header, plaintext) :=
  openPacket_eq_some.mpr ⟨_, rfl, hcorrect _ _ _ _⟩

/-- A datagram with another byte outside base and counter is read with the same nonce, so what does
    not decrypt with this nonce is not opened. -/
theorem openPacket_modify {offset : ℕ} {f : UInt8 → UInt8} {encrypted : Bytes}
    (houtside : offset < 16 ∨ 32 ≤ offset)
    (hrejected : aes.decrypt key (toBE 12 header.nonceValue)
      (((header.bytes ++ encrypted).modify offset f).drop 36)
      (((header.bytes ++ encrypted).modify offset f).take 36) = none) :
    openPacket aes key ((header.bytes ++ encrypted).modify offset f) = none := by
  rw [Option.eq_none_iff_forall_not_mem]
  rintro ⟨header', plaintext⟩ hopen
  obtain ⟨encrypted', hbytes, hdecrypt⟩ := openPacket_eq_some.mp (Option.mem_def.mp hopen)
  have hnonce : header'.nonceValue = header.nonceValue := by
    refine MediaHeader.nonceValue_eq_of_windows encrypted' encrypted ?_ ?_
    · rw [hbytes, window_modify (by omega)]
    · rw [hbytes, window_modify (by omega)]
  rw [← hbytes, List.drop_left' header'.length_bytes, List.take_left' header'.length_bytes, ← hnonce,
    hdecrypt] at hrejected
  cases hrejected

end Receive

/-- OPENS: with the key of a file that passes, a receiver reads from its datagram the header that the
    file states, and decrypts to its plaintext; the datagram of the negative case is not opened. A
    change of base or counter is left out: there the validator decrypts with the nonce before it. -/
theorem openPacket_of_clean {lib : KeyLibrary} {aes : AesGcm} {root : Root} (hcorrect : aes.Correct)
    (h : Clean (validateAesGcmV2 lib aes root) ()) :
    ∃ (document packet negative : Dict) (header : MediaHeader) (key plaintext datagram : Bytes)
      (offset : ℕ) (mask : UInt8),
      root aesGcmPath = .json (.obj document) ∧
      Dict.get document "packet" = .obj packet ∧ header.Of document packet ∧
      Dict.get document "channelId" = .int (header.channelId : ℕ) ∧
      IsHex (Dict.get document "keyHex") key ∧ IsHex (Dict.get document "plaintextHex") plaintext ∧
      IsHex (Dict.get document "datagramHex") datagram ∧
      openPacket aes key datagram = some (header, plaintext) ∧
      Dict.get document "negativeCase" = .obj negative ∧
      Dict.get negative "mutateOffset" = .int offset ∧ IsHex (Dict.get negative "xor") [mask] ∧
      (offset < 16 ∨ 32 ≤ offset → openPacket aes key (datagram.modify offset (· ^^^ mask)) = none) := by
  obtain ⟨document, parts, hdocument, h⟩ := clean_validateAesGcmV2.mp h
  exact ⟨document, parts.packet, parts.negative, parts.header, _, parts.plaintext, _, parts.offset,
    parts.mask, hdocument, h.packet, h.header, h.channelId ▸ h.keys.channelId_eq, h.mediaKey,
    h.plaintext, h.datagram, openPacket_mediaPacket hcorrect, h.negative, h.offset, h.mask,
    fun houtside => openPacket_modify houtside h.rejected⟩

/-! ### The packet of the repository -/

def packetHeader : MediaHeader where
  headerLen := ⟨36, by decide⟩
  channelId := ⟨1234, by decide⟩
  senderId := ⟨5678, by decide⟩
  seq := ⟨42, by decide⟩
  flags := ⟨1, by decide⟩
  base := ⟨[1, 2, 3, 4, 5, 6, 7, 8, 9, 10, 11, 12], by decide⟩
  counter := ⟨42, by decide⟩
  mediaKeyId := ⟨2, by decide⟩

def packetPlaintext : Bytes := toBE 6 0x002a11223344

/-- Its ciphertext and tag. -/
def packetEncrypted : Bytes := toBE 22 0x900c290f44c8ef4a6dda44b425bbf2580d88e1bed5d1

def packetPasswordKey : Bytes :=
  toBE 32 0xbcad701cf1a05f957d93aad27ea055a7d76f2d2650c89ab5bcb0790182854e4b

/-- HMAC under the keys of the packet, by key. -/
def packetDigests : List (ℕ × ℕ) :=
  [(0, 0xa0a882db1edae5d9e9a7edecabf4cf15e0bc2fb76a30c3cdc54deee9fdfc5a34),
    (0xa0a882db1edae5d9e9a7edecabf4cf15e0bc2fb76a30c3cdc54deee9fdfc5a34,
      0x98d59cc1721c51b90c86f227c21953ecf96336ac848475ce5d2ea728ed954036)]

/-- The library on the credential of the packet. -/
def packetLibrary : KeyLibrary where
  hmac :=
    { digest := fun key _ => toBE 32 ((packetDigests.lookup (ofBE key)).getD 0)
      length_digest := fun _ _ => length_toBE 32 _ }
  sha256 _ := toBE 32 0x63b6415e8f58a6bb2c439eb5128f715700d31ef4aaeb33b85c2cd742c9db1ff1
  argon2id _ _ := packetPasswordKey
  nfc text := text

/-- AES-GCM on the packet. Elsewhere it writes a zero byte before the data. -/
def packetAes : AesGcm where
  encrypt _ nonce data aad :=
    if ofBE nonce = packetHeader.nonceValue ∧ data = packetPlaintext ∧ aad = packetHeader.bytes then
      packetEncrypted
    else 0 :: data
  decrypt _ nonce data aad :=
    if ofBE nonce = packetHeader.nonceValue ∧ data = packetEncrypted ∧ aad = packetHeader.bytes then
      some packetPlaintext
    else if data.head? = some 0 then some data.tail else none

theorem packetAes_correct : packetAes.Correct := by
  intro key nonce data aad
  have hhead : ∀ rest : Bytes, 0 :: rest ≠ packetEncrypted := by
    intro rest heq
    have hfirst : some 0 = packetEncrypted.head? := congrArg List.head? heq
    exact absurd hfirst (by decide)
  by_cases hpacket : ofBE nonce = packetHeader.nonceValue ∧ data = packetPlaintext ∧
      aad = packetHeader.bytes
  · simp [packetAes, hpacket]
  · simp [packetAes, hpacket, hhead]

def packetParts : MediaParts where
  channelId := 1234
  passwordKey := packetPasswordKey
  packet := [("type", .str "AUDIO"), ("senderId", .int 5678), ("seq", .int 42), ("headerLen", .int 36),
    ("flags", .int 1), ("mediaNonceBase96Hex", .str (toHex packetHeader.base)), ("mediaCounter", .int 42),
    ("derivedNonce96Hex", .str (toHex (toBE 12 packetHeader.nonceValue)))]
  header := packetHeader
  plaintext := packetPlaintext
  negative := [("mutateOffset", .int 4), ("xor", .str (toHex [1]))]
  offset := 4
  mask := 1

def packetDocument : Dict :=
  [("mode", .str "aes-gcm-v2"), ("channelId", .int 1234), ("passwordKeyHex", .str (toHex packetPasswordKey)),
    ("keyHex", .str (toHex (packetParts.key packetLibrary))), ("mediaKeyId", .int 2),
    ("packet", .obj packetParts.packet), ("aadHex", .str (toHex packetHeader.bytes)),
    ("plaintextHex", .str (toHex packetPlaintext)),
    ("ciphertextHex", .str (toHex (packetEncrypted.take 6))),
    ("tagHex", .str (toHex (packetEncrypted.drop 6))),
    ("datagramHex", .str (toHex (packetHeader.bytes ++ packetEncrypted))),
    ("negativeCase", .obj packetParts.negative), ("credentialKind", .str "argon2id-v1"),
    ("passwordInput", .str "test-password"), ("channelSaltHex", .str (toHex (saltOf packetLibrary 1234))),
    ("argon2id", .obj (argon2idV1.map fun (name, value) => (name, .int value)))]

/-- The file alone. -/
def packetRoot : Root := fun _ => .json (.obj packetDocument)

theorem encrypted_packetParts : packetParts.encrypted packetLibrary packetAes = packetEncrypted := by
  decide +kernel

theorem datagram_packetParts :
    packetParts.datagram packetLibrary packetAes = packetHeader.bytes ++ packetEncrypted := by
  rw [MediaParts.datagram, mediaPacket, ← encrypted_packetParts]
  rfl

theorem accepts_packetDocument : AcceptsMedia packetLibrary packetAes packetDocument packetParts where
  parameters := ⟨_, rfl, by decide⟩
  keys := ⟨rfl, by decide, isHex_toHex _, by decide +kernel, .passphrase rfl, isHex_toHex _, by decide +kernel⟩
  mediaKey := isHex_toHex _
  packet := rfl
  audio := rfl
  header := ⟨rfl, rfl, rfl, rfl, isHex_toHex _, rfl, rfl⟩
  channelId := rfl
  nonceFits := by decide +kernel
  nonce := isHex_toHex _
  aad := isHex_toHex _
  plaintext := isHex_toHex _
  ciphertext := by
    rw [encrypted_packetParts]
    exact isHex_toHex _
  tag := by
    rw [encrypted_packetParts]
    exact isHex_toHex _
  tagLength := by
    rw [encrypted_packetParts]
    rfl
  datagram := by
    rw [datagram_packetParts]
    exact isHex_toHex _
  negative := rfl
  offset := rfl
  offset_le := by decide +kernel
  mask := isHex_toHex _
  rejected := by decide +kernel

theorem openPacket_of_clean_packet :
    ∃ (document packet negative : Dict) (header : MediaHeader) (key plaintext datagram : Bytes)
      (offset : ℕ) (mask : UInt8),
      packetRoot aesGcmPath = .json (.obj document) ∧
      Dict.get document "packet" = .obj packet ∧ header.Of document packet ∧
      Dict.get document "channelId" = .int (header.channelId : ℕ) ∧
      IsHex (Dict.get document "keyHex") key ∧ IsHex (Dict.get document "plaintextHex") plaintext ∧
      IsHex (Dict.get document "datagramHex") datagram ∧
      openPacket packetAes key datagram = some (header, plaintext) ∧
      Dict.get document "negativeCase" = .obj negative ∧
      Dict.get negative "mutateOffset" = .int offset ∧ IsHex (Dict.get negative "xor") [mask] ∧
      (offset < 16 ∨ 32 ≤ offset →
        openPacket packetAes key (datagram.modify offset (· ^^^ mask)) = none) :=
  openPacket_of_clean packetAes_correct
    (clean_validateAesGcmV2.mpr ⟨packetDocument, packetParts, rfl, accepts_packetDocument⟩)

end IncomUdon.Crypto
