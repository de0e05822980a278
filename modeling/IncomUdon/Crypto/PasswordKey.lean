import IncomUdon.Crypto.Credential

/-! The keys of a channel. Three files state the same chain, each from its own members:

        channel ──SHA-256──▶ salt ──▶ password key ──HKDF──▶ keys of one block

    and the password key comes from a passphrase or from a raw secret. What a file states is accepted
    exactly when it is the chain of its channel and credential. -/

namespace IncomUdon.Crypto
open IncomUdon.Python IncomUdon.Loader IncomUdon.Lib.ErrorLog IncomUdon.Lib.BigEndian

/-- `CHANNEL_SALT_DOMAIN`. -/
def channelSaltDomain : Bytes := bytesLiteral "incomudon-channel-password-salt-v1\x00"

/-- The salt of a channel. -/
def saltOf (lib : KeyLibrary) (channelId : ℕ) : Bytes :=
  (lib.sha256 (channelSaltDomain ++ toBE 4 channelId)).take 16

/-- A key of one block. -/
def blockKey (hmac : HmacSha256) (ikm salt info : Bytes) : Bytes :=
  hmac.digest (hmac.digest salt ikm) (info ++ toBE 1 1)

/-- The key that a credential gives, by its kind. -/
inductive Derives (lib : KeyLibrary) (vector : Dict) (salt : Bytes) : Json → Bytes → Prop where
  | passphrase {password : String} (input : Dict.get vector "passwordInput" = .str password) :
    Derives lib vector salt (.str "argon2id-v1") (argon2idV1Key lib password salt)
  | rawSecret {credential : String} {secret : Bytes}
    (input : Dict.get vector "credentialInput" = .str credential)
    (front : startsWith credential "secret:" = true)
    (digits : IsHex (.str (dropChars credential 7)) secret) (length : secret.length = 32) :
    Derives lib vector salt (.str "raw-secret-v1")
      (blockKey lib.hmac secret salt (bytesLiteral "incomudon-raw-secret-v1"))

theorem Derives.exists_kind {lib : KeyLibrary} {vector : Dict} {salt key : Bytes} {kind : Json}
    (h : Derives lib vector salt kind key) : ∃ text, kind = .str text := by
  cases h with
  | passphrase _ => exact ⟨_, rfl⟩
  | rawSecret _ _ _ _ => exact ⟨_, rfl⟩

/-- The parameters are those of `argon2id-v1`; a number is compared by its value. -/
def IsArgon2idV1 (parameters : Json) : Prop :=
  ∃ d, parameters = .obj d ∧
    ∀ parameter ∈ argon2idV1, (Dict.get d parameter.1).eq (.int parameter.2) = true

/-- The document states the salt of its channel and the password key of its credential. -/
structure HasPasswordKey (lib : KeyLibrary) (document : Dict) (channelId : ℕ) (passwordKey : Bytes) :
    Prop where
  channelId_eq : Dict.get document "channelId" = .int channelId
  channelId_le : channelId ≤ 0xFFFFFFFF
  salt : IsHex (Dict.get document "channelSaltHex") (saltOf lib channelId)
  saltLength : (saltOf lib channelId).length = 16
  derives : Derives lib document (saltOf lib channelId) (Dict.get document "credentialKind") passwordKey
  passwordKey_eq : IsHex (Dict.get document "passwordKeyHex") passwordKey
  passwordKeyLength : passwordKey.length = 32

section Chain
variable {lib : KeyLibrary} {vector : Dict} {salt key : Bytes} {kind value : Json} {label : Msg}
  {channelId : ℕ}

theorem hkdfSha256_blockKey (hmac : HmacSha256) (ikm salt info : Bytes) :
    hkdfSha256 hmac ikm salt info 32 = .ok (blockKey hmac ikm salt info) :=
  hkdfSha256_block hmac ikm salt info

@[simp] theorem length_blockKey (hmac : HmacSha256) (ikm salt info : Bytes) :
    (blockKey hmac ikm salt info).length = 32 := hmac.length_digest _ _

theorem channelSalt_eq (h : channelId ≤ 0xFFFFFFFF) :
    channelSalt lib channelId = .ok (saltOf lib channelId) := by
  have hpack := structPack_uint_eq_ok.mpr ⟨(by omega : channelId < 256 ^ 4), rfl⟩
  rw [channelSalt, hpack, ok_bind]
  rfl

@[simp] theorem validateArgon2Parameters_eq_ok {u : Unit} :
    validateArgon2Parameters value label = .ok u ↔ IsArgon2idV1 value := by
  cases u
  simp only [validateArgon2Parameters, bind_eq_ok, asObject_eq_ok, forM_eq_ok, require_eq_ok,
    IsArgon2idV1]

/-- DERIVES: the two kinds, and no third. -/
theorem derive_eq_ok : derive lib kind vector salt = .ok key ↔ Derives lib vector salt kind key := by
  constructor
  · intro h
    rw [derive] at h
    split at h
    · next hkind =>
      rw [Json.eq_str] at hkind
      obtain ⟨password, hinput, hret⟩ := bind_eq_ok.mp h
      cases hret
      exact hkind ▸ .passphrase (asString_eq_ok.mp hinput)
    · split at h
      · next hkind =>
        rw [Json.eq_str] at hkind
        simp only [bind_eq_ok, asString_eq_ok, require_eq_ok, hexBytesOfLength_eq_ok,
          hkdfSha256_blockKey, Except.ok.injEq] at h
        obtain ⟨credential, hinput, -, hfront, secret, ⟨hdigits, hlength⟩, rfl⟩ := h
        exact hkind ▸ .rawSecret hinput hfront hdigits hlength
      · exact absurd h invalid_ne_ok
  · rintro (⟨hinput⟩ | ⟨hinput, hfront, hdigits, hlength⟩)
    · exact (derive_passphrase_eq_ok hinput).mpr rfl
    · exact (derive_raw_eq_ok hinput).mpr ⟨hfront, _, hdigits, hlength, rfl⟩

end Chain

/-! ### The vectors of the password file -/

/-- The file. -/
def passwordKdfPath : String := "test-vectors/password-kdf-v1.json"

/-- The three kinds of vectors: a removed form of credential, a credential with its kind, and a
    chain. -/
inductive AcceptsVector (lib : KeyLibrary) (vector : Dict) : Prop where
  | removed {credential : String} (expected : Dict.get vector "expected" = .str "reject")
    (input : Dict.get vector "credentialInput" = .str credential)
    (front : startsWith credential "sha256:" = true)
  | classified {credential : String} (expected : Dict.get vector "expected" ≠ .str "reject")
    (input : Dict.get vector "credentialInput" = .str credential)
    (kind : vector.lookup "expectedCredentialKind"
      = some (.str (if startsWith credential "secret:" = true then "raw-secret-v1" else "argon2id-v1")))
  | derived {channelId : ℕ} {passwordKey : Bytes}
    (expected : Dict.get vector "expected" ≠ .str "reject")
    (kind : Dict.has vector "expectedCredentialKind" = false)
    (keys : HasPasswordKey lib vector channelId passwordKey)
    (mediaKey : IsHex (Dict.get vector "mediaKeyHex") (blockKey lib.hmac passwordKey [] mediaKeyInfo))

/-- The document has the parameters of its derivation, and its vectors are accepted. -/
structure AcceptsPasswordKdf (lib : KeyLibrary) (document : Dict) : Prop where
  parameters : IsArgon2idV1 (Dict.get document "argon2idV1")
  vectors : ∃ vectors, Dict.get document "vectors" = .arr vectors ∧
    ∀ vector ∈ vectors, ∃ d, vector = .obj d ∧ AcceptsVector lib d

section Vectors
variable {lib : KeyLibrary} {vector : Dict} {name : Msg}

theorem rejectedCase_eq_ok : rejectedCase vector = .ok () ↔
    ∃ credential, Dict.get vector "credentialInput" = .str credential ∧
      startsWith credential "sha256:" = true := by
  simp [rejectedCase, bind_eq_ok]

theorem clean_classificationCase : Clean (classificationCase name vector) () ↔
    ∃ credential, Dict.get vector "credentialInput" = .str credential ∧
      vector.lookup "expectedCredentialKind"
        = some (.str (if startsWith credential "secret:" = true then "raw-secret-v1"
            else "argon2id-v1")) := by
  simp only [classificationCase, Run.liftM_eq, clean_bind, clean_lift, asString_eq_ok,
    subscript_eq_ok, clean_compare, Json.eq_str_left]
  constructor
  · rintro ⟨credential, hinput, expected, hexpected, rfl⟩
    exact ⟨credential, hinput, hexpected⟩
  · rintro ⟨credential, hinput, hexpected⟩
    exact ⟨credential, hinput, _, hexpected, rfl⟩

theorem clean_derivationCase : Clean (derivationCase lib name vector) () ↔
    ∃ channelId passwordKey, HasPasswordKey lib vector channelId passwordKey ∧
      IsHex (Dict.get vector "mediaKeyHex") (blockKey lib.hmac passwordKey [] mediaKeyInfo) := by
  simp only [derivationCase, Run.liftM_eq, clean_bind, clean_lift, integer_eq_ok, asString_eq_ok,
    derive_eq_ok, hkdfSha256_blockKey, Except.ok.injEq, hexBytesOfLength_eq_ok, clean_compareBytes,
    exists_unit]
  constructor
  · rintro ⟨channelId, ⟨hchannel, hle⟩, salt, hsalt, _, ⟨hsaltHex, hsaltLength⟩, rfl, kind, hkind,
      passwordKey, hderives, _, ⟨hkeyHex, hkeyLength⟩, rfl, _, rfl, _, ⟨hmedia, -⟩, rfl⟩
    obtain rfl := Except.ok.inj ((channelSalt_eq hle).symm.trans hsalt)
    exact ⟨channelId, passwordKey,
      ⟨hchannel, hle, hsaltHex, hsaltLength, hkind ▸ hderives, hkeyHex, hkeyLength⟩, hmedia⟩
  · rintro ⟨channelId, passwordKey, h, hmedia⟩
    obtain ⟨kind, hkind⟩ := h.derives.exists_kind
    exact ⟨channelId, ⟨h.channelId_eq, h.channelId_le⟩, _, channelSalt_eq h.channelId_le, _,
      ⟨h.salt, h.saltLength⟩, rfl, kind, hkind, passwordKey, hkind ▸ h.derives, _,
      ⟨h.passwordKey_eq, h.passwordKeyLength⟩, rfl, _, rfl, _, ⟨hmedia, length_blockKey _ _ _ _⟩, rfl⟩

theorem clean_credentialCase :
    Clean (credentialCase lib name vector) () ↔ AcceptsVector lib vector := by
  rw [credentialCase]
  split_ifs with hreject hkind
  · rw [clean_lift, rejectedCase_eq_ok]
    rw [Json.eq_str] at hreject
    constructor
    · rintro ⟨credential, hinput, hfront⟩
      exact .removed hreject hinput hfront
    · rintro (⟨-, hinput, hfront⟩ | ⟨hexpected, -, -⟩ | ⟨hexpected, -, -, -⟩)
      · exact ⟨_, hinput, hfront⟩
      · exact absurd hreject hexpected
      · exact absurd hreject hexpected
  · rw [clean_classificationCase]
    rw [Json.eq_str] at hreject
    constructor
    · rintro ⟨credential, hinput, hstated⟩
      exact .classified hreject hinput hstated
    · rintro (⟨hexpected, -, -⟩ | ⟨-, hinput, hstated⟩ | ⟨-, hnone, -, -⟩)
      · exact absurd hexpected hreject
      · exact ⟨_, hinput, hstated⟩
      · exact absurd hkind (Bool.eq_false_iff.mp hnone)
  · rw [clean_derivationCase]
    rw [Json.eq_str] at hreject
    constructor
    · rintro ⟨channelId, passwordKey, hkeys, hmedia⟩
      exact .derived hreject (Bool.eq_false_iff.mpr hkind) hkeys hmedia
    · rintro (⟨hexpected, -, -⟩ | ⟨-, -, hstated⟩ | ⟨-, -, hkeys, hmedia⟩)
      · exact absurd hexpected hreject
      · exact absurd (by simp [Dict.has, hstated]) hkind
      · exact ⟨_, _, hkeys, hmedia⟩

theorem clean_passwordVector {value : Json} {position : ℕ} :
    Clean (passwordVector lib value position) () ↔ ∃ d, value = .obj d ∧ AcceptsVector lib d := by
  cases value with
  | obj d =>
    rw [passwordVector, clean_reportInvalid, clean_credentialCase]
    simp
  | _ => simp [passwordVector]

/-- EXACT: the file passes exactly when its vectors are of the three kinds. -/
theorem clean_validatePasswordKdf {root : Root} :
    Clean (validatePasswordKdf lib root) () ↔
      ∃ document, root passwordKdfPath = .json (.obj document) ∧ AcceptsPasswordKdf lib document := by
  simp only [validatePasswordKdf, Run.liftM_eq, clean_bind, clean_lift, load_eq_ok,
    validateArgon2Parameters_eq_ok, asArray_eq_ok, exists_unit]
  constructor
  · rintro ⟨document, hdocument, hparameters, vectors, hvectors, h⟩
    exact ⟨document, hdocument, hparameters, vectors, hvectors,
      (clean_forM_zipIdx fun _ _ => clean_passwordVector).mp h⟩
  · rintro ⟨document, hdocument, hparameters, vectors, hvectors, h⟩
    exact ⟨document, hdocument, hparameters, vectors, hvectors,
      (clean_forM_zipIdx fun _ _ => clean_passwordVector).mpr h⟩

end Vectors

end IncomUdon.Crypto
