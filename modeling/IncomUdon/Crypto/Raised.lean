import IncomUdon.Crypto.AdmissionBinding
import IncomUdon.Crypto.DirectoryFixture
import IncomUdon.Crypto.MediaPacket

/-! What the crypto validators raise. Their handler catches

        VectorValidationError, ValueError (JSONDecodeError and UnicodeEncodeError too), struct.error

    and lets KeyError, TypeError, AttributeError and RecursionError through. Three of the validators
    never raise these. The Directory fixtures do for a type without a hash, a missing epoch text,
    and a plaintext or datagram that is no string; the admissions do when `json.loads` does. -/

namespace IncomUdon.Crypto
open IncomUdon.Python IncomUdon.Loader IncomUdon.Lib.ErrorLog IncomUdon.Lib.BigEndian

/-- The `except` clause of `validate_crypto_vectors`. -/
def cryptoCaught : PyExc → Bool
  | .vectorValidation _ => true
  | .fault kind => kind == .valueError || kind == .jsonDecodeError || kind == .structError

/-- The handler catches the exception. -/
def CryptoCaught (exc : PyExc) : Prop := cryptoCaught exc = true

section Steps
variable {value : Json} {label msg : Msg} {n : ℕ} {lib : KeyLibrary} {aes : AesGcm}

@[simp] theorem cryptoCaught_vectorValidation : CryptoCaught (.vectorValidation msg) := rfl

@[simp] theorem cryptoCaught_fault {kind : Fault} : CryptoCaught (.fault kind) ↔
    kind = .valueError ∨ kind = .jsonDecodeError ∨ kind = .structError := by
  simp [CryptoCaught, cryptoCaught, or_assoc]

@[simp] theorem throwsOnly_integer_crypto : ThrowsOnly CryptoCaught (integer value label n) :=
  throwsOnly_integer cryptoCaught_vectorValidation

@[simp] theorem throwsOnly_hexBytes_crypto : ThrowsOnly CryptoCaught (hexBytes value label) :=
  throwsOnly_hexBytes cryptoCaught_vectorValidation cryptoCaught_vectorValidation

@[simp] theorem throwsOnly_hexBytesOfLength_crypto :
    ThrowsOnly CryptoCaught (hexBytesOfLength value label n) := by
  simp [hexBytesOfLength]

@[simp] theorem throwsOnly_load_crypto {root : Root} {relative : String} :
    ThrowsOnly CryptoCaught (load root relative) :=
    throwsOnly_load fun _ => cryptoCaught_vectorValidation

@[simp] theorem throwsOnly_bytesOf_crypto {values : List ℕ} :
    ThrowsOnly CryptoCaught (bytesOf values) := by
  unfold bytesOf
  split <;> simp

@[simp] theorem throwsOnly_encodeAscii_crypto {text : String} :
    ThrowsOnly CryptoCaught (encodeAscii text) := by
  unfold encodeAscii
  split <;> simp

@[simp] theorem throwsOnly_hkdf {E : PyExc → Prop} {hmac : HmacSha256} {ikm salt info : Bytes} :
    ThrowsOnly E (hkdfSha256 hmac ikm salt info 32) := by
  rw [hkdfSha256_blockKey]
  exact throwsOnly_ok _

@[simp] theorem throwsOnly_channelSalt_crypto {channelId : ℕ} :
    ThrowsOnly CryptoCaught (channelSalt lib channelId) := by
  simp [channelSalt]

@[simp] theorem throwsOnly_derive_crypto {vector : Dict} {salt : Bytes} :
    ThrowsOnly CryptoCaught (derive lib value vector salt) := by
  simp [derive]

@[simp] theorem throwsOnly_validateArgon2Parameters_crypto :
    ThrowsOnly CryptoCaught (validateArgon2Parameters value label) := by
  simp only [validateArgon2Parameters, throwsOnly_bind, throwsOnly_asObject,
    cryptoCaught_vectorValidation, or_true, true_and]
  exact fun _ _ => throwsOnly_forM fun _ _ => by simp

end Steps

/-! ### Validators that are always caught -/

section Caught
variable {lib : KeyLibrary} {aes : AesGcm} {root : Root} {vector : Dict} {name : Msg}

theorem raisesOnly_credentialCase : RaisesOnly CryptoCaught (credentialCase lib name vector) := by
  rw [credentialCase]
  split_ifs with hreject hkind
  · simp [rejectedCase]
  · obtain ⟨expected, hexpected⟩ : ∃ expected,
      subscript vector "expectedCredentialKind" = .ok expected := by
      simpa [Dict.has, Option.isSome_iff_exists, subscript_eq_ok] using hkind
    simp [classificationCase, hexpected]
  · simp [derivationCase]

theorem raisesOnly_reportInvalid {m : Check Unit} (h : RaisesOnly CryptoCaught m) :
    RaisesOnly CryptoCaught (reportInvalid name m) := by
  match m with
  | .returned () log => exact nofun
  | .raised (.vectorValidation msg) log => exact nofun
  | .raised (.fault kind) log => exact h

theorem raisesOnly_validatePasswordKdf : RaisesOnly CryptoCaught (validatePasswordKdf lib root) := by
  have hvector : ∀ value position, RaisesOnly CryptoCaught (passwordVector lib value position) := by
    intro value position
    cases value with
    | obj vector => exact raisesOnly_reportInvalid raisesOnly_credentialCase
    | _ => exact raisesOnly_append _
  simp only [validatePasswordKdf, Run.liftM_eq, raisesOnly_bind, raisesOnly_lift,
    throwsOnly_load_crypto, throwsOnly_validateArgon2Parameters_crypto, throwsOnly_asArray,
    cryptoCaught_vectorValidation, or_true, true_and]
  exact fun _ _ _ _ vectors _ => raisesOnly_forM fun pair _ => hvector pair.1 pair.2

/-- The mask is one byte long, so it has a first byte. -/
theorem raisesOnly_mutatedDatagram {document : Dict} {key nonce datagram : Bytes} :
    RaisesOnly CryptoCaught (mutatedDatagram aes document key nonce datagram) := by
  simp only [mutatedDatagram, Run.liftM_eq, raisesOnly_bind, raisesOnly_lift, throwsOnly_asObject,
    throwsOnly_integer_crypto, throwsOnly_hexBytesOfLength_crypto, cryptoCaught_vectorValidation,
    or_true, true_and, returns_lift, hexBytesOfLength_eq_ok, throwsOnly_index, raisesOnly_reportIf,
    implies_true, and_true]
  rintro negative - offset - xor ⟨-, hlength⟩
  exact .inl (by omega)

theorem raisesOnly_validateAesGcmV2 : RaisesOnly CryptoCaught (validateAesGcmV2 lib aes root) := by
  simp [validateAesGcmV2, mediaKeys, packetNonce, mediaNonce, mediaHeader, mediaDatagram,
    raisesOnly_mutatedDatagram]

theorem raisesOnly_validateControlAuth : RaisesOnly CryptoCaught (validateControlAuth lib root) := by
  simp [validateControlAuth, controlKeys, controlTag, controlCookie, cookieInput]

end Caught

/-! ### Directory fixtures -/

/-- A string. -/
def IsText (value : Json) : Prop := ∃ text, value = .str text

/-- The fixture gets as far as its plaintext: key, nonce and associated data are read. -/
def ReachesPlaintext (fixture : Dict) : Prop :=
  ∃ context typeBytes info, HasContext fixture context ∧ Encodable context typeBytes ∧
    Direction context.packetType info ∧
    (∃ nonce, IsHex (Dict.get fixture "nonce12Hex") nonce ∧ nonce.length = 12) ∧
    ∃ aad, IsHex (Dict.get fixture "aadHex") aad

/-- The plaintext, the epoch text and the datagram are of the types that the fixture needs. -/
structure HasTexts (fixture : Dict) : Prop where
  plaintext : IsText (Dict.getD fixture "plaintextUtf8" (.str ""))
  epochText : Dict.has fixture "epochBase64Url" = true
  datagram : IsText (Dict.getD fixture "datagramUtf8" (.str ""))

/-- The fixture raises nothing that the handler lets through. -/
structure FixtureHandled (fixture : Dict) : Prop where
  packetType : (Dict.get fixture "type").hashable = true
  texts : ReachesPlaintext fixture → HasTexts fixture

/-- The fixture is read to its end. -/
structure FixtureRead (fixture : Dict) : Prop extends HasTexts fixture where
  reaches : ReachesPlaintext fixture
  carrier : ∀ value, fixture.lookup "carrierHex" = some value → ∃ data, IsHex value data

section Fixture
variable {hmac : HmacSha256} {aes : AesGcm} {channelKey key nonce datagram : Bytes} {label : Msg}
  {fixture : Dict} {value : Json} {ciphertext : String} {context : DirectoryContext}

@[simp] theorem throwsOnly_encodeText_crypto :
    ThrowsOnly CryptoCaught (encodeText value) ↔ IsText value := by
  cases value <;> simp [encodeText, IsText]

theorem throwsOnly_directionalInfo_crypto :
    ThrowsOnly CryptoCaught (directionalInfo label value) ↔ value.hashable = true := by
  simp +contextual [directionalInfo]

theorem throwsOnly_directoryAad_crypto : ThrowsOnly CryptoCaught (directoryAad fixture) := by
  simp [directoryAad]

theorem raisesOnly_directoryEpochKey :
    RaisesOnly CryptoCaught (directoryEpochKey hmac channelKey label fixture) ↔
      (Dict.get fixture "type").hashable = true := by
  simp [directoryEpochKey, throwsOnly_directionalInfo_crypto]

theorem returns_directoryEpochKey :
    Returns (directoryEpochKey hmac channelKey label fixture) key ↔
      ∃ packetType info epoch, Dict.get fixture "type" = .str packetType ∧
        Direction packetType info ∧
        (IsHex (Dict.get fixture "epochRawHex") epoch ∧ epoch.length = 16) ∧
        epochKeyOf hmac channelKey info epoch = key := by
  simp only [directoryEpochKey, Run.liftM_eq, returns_bind, returns_lift, directionalInfo_eq_ok,
    hkdfSha256_block, Except.ok.injEq, hexBytesOfLength_eq_ok, returns_compare, exists_unit, true_and]
  constructor
  · rintro ⟨info, ⟨packetType, htype, hdirection⟩, _, rfl, epoch, hepoch, hkey⟩
    exact ⟨packetType, info, epoch, htype, hdirection, hepoch, hkey⟩
  · rintro ⟨packetType, info, epoch, htype, hdirection, hepoch, hkey⟩
    exact ⟨info, ⟨packetType, htype, hdirection⟩, _, rfl, epoch, hepoch, hkey⟩

theorem raisesOnly_directoryNonce : RaisesOnly CryptoCaught (directoryNonce label fixture) := by
  simp [directoryNonce]

theorem returns_directoryNonce : Returns (directoryNonce label fixture) nonce ↔
    ∃ sequence : ℕ, Dict.get fixture "sequence" = .int sequence ∧ sequence < 2 ^ 53 ∧
      idp3 ++ toBE 8 sequence = nonce ∧
      ∃ expected, IsHex (Dict.get fixture "nonce12Hex") expected ∧ expected.length = 12 := by
  simp only [directoryNonce, Run.liftM_eq, returns_bind, returns_lift, integer_eq_ok,
    structPack_uint_eq_ok, hexBytesOfLength_eq_ok, returns_compareBytes, returns_pure, exists_unit,
    true_and]
  constructor
  · rintro ⟨sequence, ⟨hsequence, hle⟩, _, ⟨-, rfl⟩, expected, hexpected, rfl⟩
    exact ⟨sequence, hsequence, by omega, rfl, expected, hexpected⟩
  · rintro ⟨sequence, hsequence, hlt, rfl, expected, hexpected⟩
    exact ⟨sequence, ⟨hsequence, by omega⟩, _, ⟨by omega, rfl⟩, expected, hexpected, rfl⟩

theorem raisesOnly_directoryCiphertext :
    RaisesOnly CryptoCaught (directoryCiphertext aes label fixture key nonce) ↔
      ((∃ context typeBytes, HasContext fixture context ∧ Encodable context typeBytes) →
        (∃ aad, IsHex (Dict.get fixture "aadHex") aad) →
        IsText (Dict.getD fixture "plaintextUtf8" (.str ""))) := by
  simp only [directoryCiphertext, Run.liftM_eq, raisesOnly_bind, raisesOnly_lift,
    throwsOnly_directoryAad_crypto, throwsOnly_hexBytes_crypto, raisesOnly_compareBytes,
    throwsOnly_encodeText_crypto, raisesOnly_compare, throwsOnly_asObject,
    cryptoCaught_vectorValidation, raisesOnly_pure, returns_lift, directoryAad_eq_ok,
    hexBytes_eq_ok, returns_compareBytes, or_true, implies_true, and_true, true_and, forall_const]
  constructor
  · rintro h ⟨context, typeBytes, hcontext, hwrite⟩ ⟨aad, haad⟩
    exact h _ ⟨context, typeBytes, hcontext, hwrite, rfl⟩ aad haad
  · rintro h _ ⟨context, typeBytes, hcontext, hwrite, -⟩ aad haad
    exact h ⟨context, typeBytes, hcontext, hwrite⟩ ⟨aad, haad⟩

theorem returns_directoryCiphertext :
    (∃ ciphertext, Returns (directoryCiphertext aes label fixture key nonce) ciphertext) ↔
      (∃ context typeBytes, HasContext fixture context ∧ Encodable context typeBytes) ∧
        (∃ aad, IsHex (Dict.get fixture "aadHex") aad) ∧
        IsText (Dict.getD fixture "plaintextUtf8" (.str "")) := by
  simp only [directoryCiphertext, Run.liftM_eq, returns_bind, returns_lift, directoryAad_eq_ok,
    hexBytes_eq_ok, returns_compareBytes, encodeText_eq_ok, returns_compare, asObject_eq_ok,
    returns_pure, exists_unit, true_and]
  constructor
  · rintro ⟨_, _, ⟨context, typeBytes, hcontext, hwrite, -⟩, aad, haad, _, ⟨text, htext, -⟩, -⟩
    exact ⟨⟨context, typeBytes, hcontext, hwrite⟩, ⟨aad, haad⟩, text, htext⟩
  · rintro ⟨⟨context, typeBytes, hcontext, hwrite⟩, ⟨aad, haad⟩, text, htext⟩
    obtain ⟨envelope, henvelope, -⟩ := hcontext.envelope
    exact ⟨_, _, ⟨context, typeBytes, hcontext, hwrite, rfl⟩, aad, haad, _, ⟨text, htext, rfl⟩,
      envelope, henvelope, rfl⟩

/-- The datagram of a fixture with a context needs the epoch text, and nothing else. -/
theorem directoryDatagram_of_context (hcontext : HasContext fixture context) :
    (Dict.has fixture "epochBase64Url" = true → ∃ data, directoryDatagram fixture ciphertext = .ok data) ∧
    (Dict.has fixture "epochBase64Url" = false →
      directoryDatagram fixture ciphertext = .error (.fault .keyError)) := by
  obtain ⟨envelope, henvelope, hversion, hchannel⟩ := hcontext.envelope
  have hmember : ∀ key value, Dict.get envelope key = value → value ≠ .null →
      member (.obj envelope) key = .ok value := fun key value hget hne =>
    member_eq_ok.mpr ⟨envelope, rfl, Dict.lookup_of_get hget hne⟩
  have hsubscript : ∀ key value, Dict.get fixture key = value → value ≠ .null →
      subscript fixture key = .ok value := fun key value hget hne =>
    subscript_eq_ok.mpr (Dict.lookup_of_get hget hne)
  rw [directoryDatagram, hsubscript _ _ henvelope (by simp), ok_bind,
    hmember _ _ hversion (by simp), ok_bind, hsubscript _ _ hcontext.packetType (by simp), ok_bind,
    hmember _ _ hchannel (by simp), ok_bind, hsubscript _ _ hcontext.sequence (by simp),
    hsubscript _ _ hcontext.expiresAt (by simp)]
  cases hepoch : fixture.lookup "epochBase64Url" with
  | none => simp [Dict.has, hepoch, subscript, fails, bind, Except.bind]
  | some value => simp [Dict.has, hepoch, subscript, pure, Except.pure]

theorem raisesOnly_directoryCarrier :
    RaisesOnly CryptoCaught (directoryCarrier label fixture datagram) := by
  simp [directoryCarrier]

theorem returns_directoryCarrier : Returns (directoryCarrier label fixture datagram) () ↔
    ∀ value, fixture.lookup "carrierHex" = some value → ∃ data, IsHex value data := by
  rw [directoryCarrier]
  cases hcarrier : fixture.lookup "carrierHex" with
  | none => simp [Dict.has, hcarrier]
  | some value =>
    have hget : Dict.get fixture "carrierHex" = value := by simp [Dict.get, Dict.getD, hcarrier]
    rw [if_pos (by simp [Dict.has, hcarrier]), hget]
    simp

theorem reachesPlaintext_iff (hkey : Returns (directoryEpochKey hmac channelKey label fixture) key)
    (hnonce : Returns (directoryNonce label fixture) nonce) :
    ReachesPlaintext fixture ↔
      (∃ context typeBytes, HasContext fixture context ∧ Encodable context typeBytes) ∧
        ∃ aad, IsHex (Dict.get fixture "aadHex") aad := by
  obtain ⟨packetType, info, -, htype, hdirection, -⟩ := returns_directoryEpochKey.mp hkey
  obtain ⟨-, -, -, -, hexpected⟩ := returns_directoryNonce.mp hnonce
  constructor
  · rintro ⟨context, typeBytes, -, hcontext, hwrite, -, -, haad⟩
    exact ⟨⟨context, typeBytes, hcontext, hwrite⟩, haad⟩
  · rintro ⟨⟨context, typeBytes, hcontext, hwrite⟩, haad⟩
    obtain rfl : packetType = context.packetType :=
      Json.str.inj (htype.symm.trans hcontext.packetType)
    exact ⟨context, typeBytes, info, hcontext, hwrite, hdirection, hexpected, haad⟩

theorem returns_of_reachesPlaintext (hmac : HmacSha256) (channelKey : Bytes) (label : Msg)
    (h : ReachesPlaintext fixture) :
    (∃ key, Returns (directoryEpochKey hmac channelKey label fixture) key) ∧
      ∃ nonce, Returns (directoryNonce label fixture) nonce := by
  obtain ⟨context, typeBytes, info, hcontext, hwrite, hdirection, hexpected, -⟩ := h
  exact ⟨⟨_, returns_directoryEpochKey.mpr ⟨_, info, _, hcontext.packetType, hdirection,
      ⟨hcontext.epoch, hwrite.epoch⟩, rfl⟩⟩,
    _, returns_directoryNonce.mpr ⟨_, hcontext.sequence, hwrite.sequence, rfl, hexpected⟩⟩

/-- RAISES: a fixture raises only what is caught exactly when it is handled. -/
theorem raisesOnly_validateDirectoryFixture :
    RaisesOnly CryptoCaught (validateDirectoryFixture hmac aes channelKey label fixture) ↔
      FixtureHandled fixture := by
  simp only [validateDirectoryFixture, Run.liftM_eq, raisesOnly_bind, raisesOnly_lift,
    raisesOnly_directoryEpochKey, raisesOnly_directoryNonce, raisesOnly_directoryCiphertext,
    throwsOnly_encodeText_crypto, raisesOnly_compareBytes, raisesOnly_compare,
    raisesOnly_directoryCarrier, returns_lift, implies_true, and_true, true_and]
  constructor
  · rintro ⟨htype, h⟩
    refine ⟨htype, fun hreaches => ?_⟩
    obtain ⟨⟨key, hkey⟩, nonce, hnonce⟩ := returns_of_reachesPlaintext hmac channelKey label hreaches
    obtain ⟨hcontext, haad⟩ := (reachesPlaintext_iff hkey hnonce).mp hreaches
    obtain ⟨hplaintext, hrest⟩ := h key hkey nonce hnonce
    have htext := hplaintext hcontext haad
    obtain ⟨ciphertext, hciphertext⟩ := returns_directoryCiphertext.mpr ⟨hcontext, haad, htext⟩
    obtain ⟨hdatagram, hlast⟩ := hrest ciphertext hciphertext
    obtain ⟨context, typeBytes, hcontext, -⟩ := hcontext
    obtain ⟨hpresent, habsent⟩ := directoryDatagram_of_context hcontext
    cases hepoch : Dict.has fixture "epochBase64Url" with
    | false =>
      rw [habsent hepoch] at hdatagram
      simp at hdatagram
    | true =>
      obtain ⟨data, hdata⟩ := hpresent hepoch
      exact ⟨htext, hepoch, hlast data hdata⟩
  · rintro ⟨htype, h⟩
    refine ⟨htype, fun key hkey nonce hnonce => ⟨fun hcontext haad => ?_,
      fun ciphertext hciphertext => ?_⟩⟩
    · exact (h ((reachesPlaintext_iff hkey hnonce).mpr ⟨hcontext, haad⟩)).plaintext
    · obtain ⟨hcontext, haad, -⟩ := returns_directoryCiphertext.mp ⟨ciphertext, hciphertext⟩
      have htexts := h ((reachesPlaintext_iff hkey hnonce).mpr ⟨hcontext, haad⟩)
      obtain ⟨context, typeBytes, hcontext, -⟩ := hcontext
      obtain ⟨data, hdata⟩ := (directoryDatagram_of_context hcontext).1 htexts.epochText
      refine ⟨?_, fun _ _ => htexts.datagram⟩
      rw [hdata]
      exact throwsOnly_ok data

/-- RETURNS: a fixture is checked to its end exactly when it is read to its end. -/
theorem returns_validateDirectoryFixture :
    Returns (validateDirectoryFixture hmac aes channelKey label fixture) () ↔
      FixtureRead fixture := by
  simp only [validateDirectoryFixture, Run.liftM_eq, returns_bind, returns_lift, encodeText_eq_ok,
    returns_compareBytes, returns_compare, exists_unit, true_and, returns_directoryCarrier]
  constructor
  · rintro ⟨key, hkey, nonce, hnonce, ciphertext, hciphertext, data, hdata, _, ⟨text, htext, -⟩,
      hcarrier⟩
    obtain ⟨hcontext, haad, hplaintext⟩ := returns_directoryCiphertext.mp ⟨ciphertext, hciphertext⟩
    have hreaches := (reachesPlaintext_iff hkey hnonce).mpr ⟨hcontext, haad⟩
    refine ⟨⟨hplaintext, ?_, text, htext⟩, hreaches, hcarrier⟩
    obtain ⟨context, typeBytes, hcontext, -⟩ := hcontext
    by_contra habsent
    rw [(directoryDatagram_of_context hcontext).2 (Bool.eq_false_iff.mpr habsent)] at hdata
    cases hdata
  · rintro ⟨⟨hplaintext, hepoch, text, htext⟩, hreaches, hcarrier⟩
    obtain ⟨⟨key, hkey⟩, nonce, hnonce⟩ := returns_of_reachesPlaintext hmac channelKey label hreaches
    obtain ⟨hcontext, haad⟩ := (reachesPlaintext_iff hkey hnonce).mp hreaches
    obtain ⟨ciphertext, hciphertext⟩ :
        ∃ ciphertext, Returns (directoryCiphertext aes label fixture key nonce) ciphertext :=
      returns_directoryCiphertext.mpr ⟨hcontext, haad, hplaintext⟩
    obtain ⟨context, typeBytes, hcontext, -⟩ := hcontext
    obtain ⟨data, hdata⟩ := (directoryDatagram_of_context hcontext).1 hepoch
    exact ⟨key, hkey, nonce, hnonce, ciphertext, hciphertext, data, hdata, _, ⟨text, htext, rfl⟩,
      hcarrier⟩

end Fixture

/-- The file gets as far as these fixtures. -/
structure HasFixtures (document dedicated mediaRequest : Dict) (fragments : List Json) : Prop where
  crypto : ∃ crypto, Dict.get document "crypto" = .obj crypto ∧
    (∃ key, IsHex (Dict.get crypto "passwordKeyHex") key ∧ key.length = 32) ∧
    (∃ key, IsHex (Dict.get crypto "directoryChannelKeyHex") key ∧ key.length = 32) ∧
    Dict.get crypto "dedicatedRequest" = .obj dedicated ∧
    Dict.get crypto "mediaPortRequest" = .obj mediaRequest ∧
    Dict.get crypto "mediaPortParticipantsFragments" = .arr fragments

/-- A fixture in the file raises nothing that the handler lets through. -/
def EntryHandled (entry : Json) : Prop := ∀ fixture, entry = .obj fixture → FixtureHandled fixture

/-- A fixture in the file is read to its end. -/
def EntryRead (entry : Json) : Prop := ∃ fixture, entry = .obj fixture ∧ FixtureRead fixture

/-- The fixtures are handled, up to the first one that raises at all. -/
def DirectoryHandled (document : Dict) : Prop :=
  ∀ dedicated mediaRequest fragments, HasFixtures document dedicated mediaRequest fragments →
    EachReached EntryRead EntryHandled (.obj dedicated :: .obj mediaRequest :: fragments)

section Directory
variable {hmac : HmacSha256} {aes : AesGcm} {channelKey : Bytes} {root : Root} {fragment : Json}
  {position : ℕ}

theorem entryHandled_obj {fixture : Dict} : EntryHandled (.obj fixture) ↔ FixtureHandled fixture := by
  simp [EntryHandled]

theorem entryRead_obj {fixture : Dict} : EntryRead (.obj fixture) ↔ FixtureRead fixture := by
  simp [EntryRead]

theorem raisesOnly_directoryFragment :
    RaisesOnly CryptoCaught (directoryFragment hmac aes channelKey fragment position) ↔
      EntryHandled fragment := by
  simp [directoryFragment, raisesOnly_validateDirectoryFixture, EntryHandled]

theorem returns_directoryFragment :
    Returns (directoryFragment hmac aes channelKey fragment position) () ↔ EntryRead fragment := by
  simp [directoryFragment, returns_validateDirectoryFixture, EntryRead]

theorem raisesOnly_directoryFragments {fragments : List Json} :
    RaisesOnly CryptoCaught (forM fragments.zipIdx fun (fragment, position) =>
      directoryFragment hmac aes channelKey fragment position) ↔
      EachReached EntryRead EntryHandled fragments := by
  have hfst : fragments.zipIdx.map Prod.fst = fragments := List.zipIdx_map_fst 0 fragments
  rw [raisesOnly_forM_iff, ← hfst, eachReached_map, hfst]
  exact eachReached_congr (fun _ => returns_directoryFragment) fun _ => raisesOnly_directoryFragment

/-- RAISES: the Directory file raises only what is caught exactly when it is handled. -/
theorem raisesOnly_validateDirectoryV3 :
    RaisesOnly CryptoCaught (validateDirectoryV3 hmac aes root) ↔
      ∀ document, root "test-vectors/directory-v3.json" = .json (.obj document) →
        DirectoryHandled document := by
  simp only [validateDirectoryV3, Run.liftM_eq, raisesOnly_bind, raisesOnly_lift,
    throwsOnly_load_crypto, throwsOnly_asObject, throwsOnly_hexBytesOfLength_crypto, throwsOnly_ok,
    throwsOnly_asArray, cryptoCaught_vectorValidation, raisesOnly_compareBytes,
    raisesOnly_validateDirectoryFixture, raisesOnly_directoryFragments, or_true, true_and,
    returns_lift, load_eq_ok, asObject_eq_ok, hexBytesOfLength_eq_ok, hkdfSha256_blockKey,
    Except.ok.injEq, asArray_eq_ok, returns_compareBytes,
    returns_validateDirectoryFixture, forall_unit, forall_const, forall_eq']
  constructor
  · rintro h document hdocument dedicated mediaRequest fragments
      ⟨crypto, hcrypto, ⟨key, hkey⟩, ⟨channelKey, hchannelKey⟩, hdedicated, hmedia, hfragments⟩
    have hfixtures := h document hdocument crypto hcrypto key hkey channelKey hchannelKey dedicated
      hdedicated mediaRequest hmedia fragments hfragments
    simpa [entryHandled_obj, entryRead_obj] using hfixtures
  · rintro h document hdocument crypto hcrypto key hkey channelKey hchannelKey dedicated hdedicated
      mediaRequest hmedia fragments hfragments
    have hfixtures := h document hdocument dedicated mediaRequest fragments
      ⟨crypto, hcrypto, ⟨key, hkey⟩, ⟨channelKey, hchannelKey⟩, hdedicated, hmedia, hfragments⟩
    simpa [entryHandled_obj, entryRead_obj] using hfixtures

end Directory

/-! ### Admissions -/

/-- A member states a key of 32 bytes. -/
def StatesKey (keys : Dict) (name : String) (key : Bytes) : Prop :=
  IsHex (Dict.get keys name) key ∧ key.length = 32

/-- The document gets as far as decoding this payload: its keys are read, and the signature of its
    token verifies. -/
def ReachesClaims (lib : AdmissionLibrary) (flow : AdmissionFlow) (document : Dict)
    (payload : String) : Prop :=
  ∃ keys jws issuerSeed issuerPublic protectedHeader,
    Dict.get document "synthetic_keys" = .obj keys ∧
    StatesKey keys "issuer_private_seed_hex" issuerSeed ∧
    StatesKey keys "issuer_public_key_hex" issuerPublic ∧
    (∃ key, StatesKey keys (flow.subjectKeyName ++ "_private_seed_hex") key) ∧
    (∃ key, StatesKey keys (flow.subjectKeyName ++ "_public_key_hex") key) ∧
    Dict.get document flow.jwsName = .obj jws ∧
    Dict.get jws "protected_header_json" = .str protectedHeader ∧
    Dict.get jws "payload_json" = .str payload ∧
    let signed := bytesLiteral (Token.signingInput ⟨protectedHeader, payload, []⟩)
    lib.verify issuerPublic (lib.sign issuerSeed signed) signed = true

/-- What is decoded raises nothing that the handler lets through. -/
def AdmissionHandled (lib : AdmissionLibrary) (flow : AdmissionFlow) (document : Dict) : Prop :=
  ∀ payload, ReachesClaims lib flow document payload → ThrowsOnly CryptoCaught (lib.loads payload)

section Admission
variable {lib : AdmissionLibrary} {flow : AdmissionFlow} {root : Root} {label : Msg}
  {value value' : Json} {seed key : Bytes} {compact : String}

theorem raisesOnly_validateKeyPair :
    RaisesOnly CryptoCaught (validateKeyPair lib label value value') := by
  simp [validateKeyPair]

theorem returns_validateKeyPair : Returns (validateKeyPair lib label value value') (seed, key) ↔
    (IsHex value seed ∧ seed.length = 32) ∧ IsHex value' key ∧ key.length = 32 := by
  simp only [validateKeyPair, Run.liftM_eq, returns_bind, returns_lift, hexBytesOfLength_eq_ok,
    returns_compareBytes, returns_pure, exists_unit, true_and]
  constructor
  · rintro ⟨seed, hseed, key, hkey, ⟨⟩⟩
    exact ⟨hseed, hkey⟩
  · rintro ⟨hseed, hkey⟩
    exact ⟨seed, hseed, key, hkey, rfl⟩

theorem raisesOnly_validateJws : RaisesOnly CryptoCaught (validateJws lib label value seed key) := by
  simp [validateJws]

theorem returns_validateJws_iff :
    (∃ compact, Returns (validateJws lib label value seed key) compact) ↔
      ∃ jws protectedHeader payload, value = .obj jws ∧
        Dict.get jws "protected_header_json" = .str protectedHeader ∧
        Dict.get jws "payload_json" = .str payload ∧
        let signed := bytesLiteral (Token.signingInput ⟨protectedHeader, payload, []⟩)
        lib.verify key (lib.sign seed signed) signed = true := by
  simp only [validateJws, Run.liftM_eq, returns_bind, returns_lift, asObject_eq_ok, asString_eq_ok,
    encodeAscii_eq_ok, returns_compare, require_eq_ok, returns_pure, exists_unit, true_and]
  constructor
  · rintro ⟨_, jws, rfl, protectedHeader, hheader, payload, hpayload, signing, hsigning, bytes, -,
      hverify, -⟩
    obtain rfl : bytesLiteral (Token.signingInput ⟨protectedHeader, payload, []⟩) = signing :=
      Option.some.inj ((encodeAscii?_of_ascii (Token.asciiText_signingInput _)).symm.trans hsigning)
    exact ⟨jws, protectedHeader, payload, rfl, hheader, hpayload, hverify⟩
  · rintro ⟨jws, protectedHeader, payload, rfl, hheader, hpayload, hverify⟩
    have hsigning := encodeAscii?_of_ascii (Token.asciiText_signingInput ⟨protectedHeader, payload, []⟩)
    have hcompact := encodeAscii?_of_ascii (Token.asciiText_compact ⟨protectedHeader, payload,
      lib.sign seed (bytesLiteral (Token.signingInput ⟨protectedHeader, payload, []⟩))⟩)
    exact ⟨_, jws, rfl, protectedHeader, hheader, payload, hpayload, _, hsigning, _, hcompact,
      hverify, rfl⟩

theorem throwsOnly_loadsPayload {payload : String} :
    ThrowsOnly CryptoCaught (loadsPayload lib label (.str payload)) ↔
      ThrowsOnly CryptoCaught (lib.loads payload) := by
  cases hloads : lib.loads payload with
  | ok claims => simp [loadsPayload, hloads]
  | error exc =>
    match exc with
    | .vectorValidation msg => simp [loadsPayload, hloads]
    | .fault kind => cases kind <;> simp [loadsPayload, hloads]

theorem throwsOnly_jwsClaims {jws : Dict} {payload : String}
    (hpayload : Dict.get jws "payload_json" = .str payload) :
    ThrowsOnly CryptoCaught (jwsClaims lib label (.obj jws)) ↔
      ThrowsOnly CryptoCaught (lib.loads payload) := by
  have hlookup : subscript jws "payload_json" = .ok (.str payload) :=
    subscript_eq_ok.mpr (Dict.lookup_of_get hpayload nofun)
  rw [jwsClaims, asObject, ok_bind, hlookup, ok_bind]
  simp [throwsOnly_loadsPayload]

theorem raisesOnly_checkProof {challenge proof : Dict} {channelId senderId : ℕ}
    {compactBytes subjectSeed subjectPublic : Bytes} :
    RaisesOnly CryptoCaught (checkProof lib flow challenge proof channelId senderId compactBytes
      subjectSeed subjectPublic) := by
  simp [checkProof]

theorem raisesOnly_checkBegin {document : Dict} {compactBytes subjectPublic : Bytes} :
    RaisesOnly CryptoCaught (checkBegin flow document compactBytes subjectPublic) := by
  simp [checkBegin]

theorem raisesOnly_checkChallenge {challenge : Dict} {challengeBytes : Bytes} :
    RaisesOnly CryptoCaught (checkChallenge flow challenge challengeBytes) := by
  simp [checkChallenge]

theorem raisesOnly_checkDenials {denies : List Json} :
    RaisesOnly CryptoCaught
      (forM denies.zipIdx fun (denial, index) => checkDenial flow denial index) :=
  raisesOnly_forM fun _ _ => by simp [checkDenial]

/-- RAISES: an admission raises only what is caught exactly when it is handled. -/
theorem raisesOnly_validateAdmission :
    RaisesOnly CryptoCaught (validateAdmission lib root flow) ↔
      ∀ document, root flow.relative = .json (.obj document) →
        AdmissionHandled lib flow document := by
  simp only [validateAdmission, Run.liftM_eq, raisesOnly_bind, raisesOnly_lift,
    throwsOnly_load_crypto, throwsOnly_asObject, cryptoCaught_vectorValidation,
    raisesOnly_validateKeyPair, raisesOnly_compare, raisesOnly_validateJws,
    throwsOnly_encodeAscii_crypto, raisesOnly_checkProof, raisesOnly_checkBegin,
    raisesOnly_checkChallenge, throwsOnly_asArray, raisesOnly_checkDenials, or_true, implies_true,
    and_true, true_and, returns_lift, load_eq_ok, asObject_eq_ok, returns_compare, forall_const,
    Prod.forall, returns_validateKeyPair]
  constructor
  · rintro h document hdocument payload ⟨keys, jws, issuerSeed, issuerPublic, protectedHeader, hkeys,
      hseed, hpublic, ⟨subjectSeed, hsubjectSeed⟩, ⟨subjectPublic, hsubjectPublic⟩, hjws, hheader,
      hpayload, hverify⟩
    obtain ⟨compact, hcompact⟩ :=
      returns_validateJws_iff.mpr ⟨jws, protectedHeader, payload, hjws, hheader, hpayload, hverify⟩
    have hclaims := h document hdocument keys hkeys issuerSeed issuerPublic ⟨hseed, hpublic⟩ subjectSeed
      subjectPublic ⟨hsubjectSeed, hsubjectPublic⟩ compact hcompact
    rw [hjws] at hclaims
    exact (throwsOnly_jwsClaims hpayload).mp hclaims
  · rintro h document hdocument keys hkeys issuerSeed issuerPublic ⟨hseed, hpublic⟩ subjectSeed
      subjectPublic ⟨hsubjectSeed, hsubjectPublic⟩ compact hcompact
    obtain ⟨jws, protectedHeader, payload, hjws, hheader, hpayload, hverify⟩ :=
      returns_validateJws_iff.mp ⟨compact, hcompact⟩
    rw [hjws]
    exact (throwsOnly_jwsClaims hpayload).mpr (h document hdocument payload ⟨keys, jws, issuerSeed,
      issuerPublic, protectedHeader, hkeys, hseed, hpublic, ⟨subjectSeed, hsubjectSeed⟩,
      ⟨subjectPublic, hsubjectPublic⟩, hjws, hheader, hpayload, hverify⟩)

end Admission

end IncomUdon.Crypto
