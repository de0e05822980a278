import IncomUdon.Crypto.Hkdf
import IncomUdon.Python.Text

/-! Channel credentials. The protocol gives every credential one kind, by its text:

        sha256:…                      rejected
        secret: and 64 hex digits     raw-secret-v1
        anything else                 argon2id-v1

    and the validator decides the kind in three places: the classification vectors look at the front
    only, `derive` decodes what follows `secret:` for one kind, and looks at nothing for the other.
    PARTITION: they agree with the protocol on the credentials with neither front. -/

namespace IncomUdon.Crypto
open IncomUdon.Python IncomUdon.Loader IncomUdon.Lib.ErrorLog

/-- `ARGON2ID_V1`. -/
def argon2idV1 : List (String × ℕ) :=
  [("version", 19), ("memoryKiB", 65536), ("iterations", 3), ("parallelism", 4), ("outputBytes", 32)]

/-- `_validate_argon2_parameters`. -/
def validateArgon2Parameters (parameters : Json) (label : Msg) : Py Unit := do
  let parameters ← asObject parameters (label.add [" must be an object"])
  forM argon2idV1 fun (name, expected) =>
    require ((Dict.get parameters name).eq (.int expected) = true)
      (label.add [".", name, " must be the argon2id-v1 value ", .val (.int expected)])

/-- The library functions that key derivation calls. -/
structure KeyLibrary where
  hmac : HmacSha256
  /-- `hashlib.sha256(data).digest()`. -/
  sha256 : Bytes → Bytes
  /-- `hash_secret_raw` with the parameters of `ARGON2ID_V1`, on a password and a salt. -/
  argon2id : Bytes → Bytes → Bytes
  /-- `unicodedata.normalize("NFC", text)`. -/
  nfc : String → String

/-- `MEDIA_KEY_INFO`. -/
def mediaKeyInfo : Bytes := bytesLiteral "incomudon-session-aesgcm-v2"

section Derive
variable (lib : KeyLibrary)

/-- `_channel_salt`. -/
def channelSalt (channelId : ℕ) : Py Bytes := do
  let channelBytes ← structPack [.uint 4 channelId]
  return (lib.sha256 (bytesLiteral "incomudon-channel-password-salt-v1\x00" ++ channelBytes)).take 16

/-- `CredentialDeriver.argon2id_v1`. Its cache holds what the function returned before. -/
def argon2idV1Key (passphrase : String) (salt : Bytes) : Bytes :=
  lib.argon2id (encodeUtf8 (lib.nfc passphrase)) salt

/-- `CredentialDeriver.derive`. -/
def derive (kind : Json) (vector : Dict) (salt : Bytes) : Py Bytes :=
  if kind.eq (.str "argon2id-v1") = true then do
    let password ← asString (Dict.get vector "passwordInput")
      ["argon2id-v1 vector requires passwordInput"]
    return argon2idV1Key lib password salt
  else if kind.eq (.str "raw-secret-v1") = true then do
    let required : Msg := ["raw-secret-v1 vector requires a secret: credentialInput"]
    let credential ← asString (Dict.get vector "credentialInput") required
    require (startsWith credential "secret:" = true) required
    let secret ← hexBytesOfLength (.str (dropChars credential 7)) ["raw-secret credential"] 32
    hkdfSha256 lib.hmac secret salt (bytesLiteral "incomudon-raw-secret-v1") 32
  else invalid ["unsupported credential kind: ", .repr kind]

/-- A vector whose credential is to be rejected. -/
def rejectedCase (vector : Dict) : Py Unit := do
  let removed : Msg := ["removed credential case must use sha256: input"]
  let credential ← asString (Dict.get vector "credentialInput") removed
  require (startsWith credential "sha256:" = true) removed

/-- A vector that states the kind of its credential. -/
def classificationCase (name : Msg) (vector : Dict) : Check Unit := do
  let credential ← asString (Dict.get vector "credentialInput")
    ["credential classification case requires credentialInput"]
  let actualKind := if startsWith credential "secret:" then "raw-secret-v1" else "argon2id-v1"
  let expected ← subscript vector "expectedCredentialKind"
  compare (name.add [" credential kind"]) (.str actualKind) expected

/-- A vector that states the keys. -/
def derivationCase (name : Msg) (vector : Dict) : Check Unit := do
  let channelId ← integer (Dict.get vector "channelId") (name.add [".channelId"]) 0xFFFFFFFF
  let salt ← channelSalt lib channelId
  let expectedSalt ← hexBytesOfLength (Dict.get vector "channelSaltHex")
    (name.add [".channelSaltHex"]) 16
  compareBytes (name.add [" channel salt"]) salt expectedSalt
  let kind ← asString (Dict.get vector "credentialKind")
    ["credential vector requires credentialKind"]
  let passwordKey ← derive lib (.str kind) vector salt
  let expectedKey ← hexBytesOfLength (Dict.get vector "passwordKeyHex")
    (name.add [".passwordKeyHex"]) 32
  compareBytes (name.add [" password key"]) passwordKey expectedKey
  let mediaKey ← hkdfSha256 lib.hmac passwordKey [] mediaKeyInfo 32
  let expectedMedia ← hexBytesOfLength (Dict.get vector "mediaKeyHex") (name.add [".mediaKeyHex"]) 32
  compareBytes (name.add [" media key"]) mediaKey expectedMedia

/-- The body of the `try` statement. -/
def credentialCase (name : Msg) (vector : Dict) : Check Unit :=
  if (Dict.get vector "expected").eq (.str "reject") = true then
    Run.lift (rejectedCase vector)
  else if Dict.has vector "expectedCredentialKind" = true then
    classificationCase name vector
  else
    derivationCase lib name vector

/-- `except VectorValidationError as exc: errors.append(f"{name}: {exc}")`. -/
def reportInvalid (name : Msg) : Check Unit → Check Unit
  | .raised (.vectorValidation msg) log => .returned () (log ++ [name.add (": " :: msg)])
  | run => run

/-- One vector. -/
def passwordVector (vector : Json) (position : ℕ) : Check Unit :=
  let default : Msg := ["password-kdf vector ", .val (.int position)]
  match vector with
  | .obj vector =>
    let name := nameLabel vector default
    reportInvalid name (credentialCase lib name vector)
  | _ => Run.append [default.add [": must be an object"]]

/-- `_validate_password_kdf`. -/
def validatePasswordKdf (root : Root) : Check Unit := do
  let document ← load root "test-vectors/password-kdf-v1.json"
  validateArgon2Parameters (Dict.get document "argon2idV1") ["password-kdf argon2idV1"]
  let vectors ← asArray (Dict.get document "vectors") ["password-kdf vectors must be an array"]
  forM vectors.zipIdx fun (vector, position) => passwordVector lib vector position

end Derive

/-! ### The kinds of the protocol -/

inductive CredentialKind where
  | rawSecretV1 | argon2idV1
  deriving DecidableEq

def CredentialKind.name : CredentialKind → String
  | rawSecretV1 => "raw-secret-v1"
  | argon2idV1 => "argon2id-v1"

/-- Exactly 64 hexadecimal characters. -/
def SixtyFourHex (text : List Char) : Prop :=
  text.length = 64 ∧ ∀ c ∈ text, (hexDigit? c).isSome = true

instance (text : List Char) : Decidable (SixtyFourHex text) := inferInstanceAs (Decidable (_ ∧ _))

/-- `secret:` and exactly 64 hexadecimal characters. -/
def IsRawSecret (s : String) : Prop := startsWith s "secret:" = true ∧ SixtyFourHex (s.toList.drop 7)

instance (s : String) : Decidable (IsRawSecret s) := inferInstanceAs (Decidable (_ ∧ _))

/-- The kind of a credential; the empty one and `sha256:…` have none. -/
def kindOf (s : String) : Option CredentialKind :=
  if s = "" ∨ startsWith s "sha256:" = true then none
  else if IsRawSecret s then some .rawSecretV1
  else some .argon2idV1

/-- A classification vector for this credential passes exactly when it states the kind. -/
def ReportsKind (lib : KeyLibrary) (s : String) : Prop :=
  ∀ (vector : Dict) (expected : Json) (position : ℕ),
    (Dict.get vector "expected").eq (.str "reject") = false →
    Dict.get vector "credentialInput" = .str s →
    vector.lookup "expectedCredentialKind" = some expected →
    (Clean (passwordVector lib (.obj vector) position) () ↔
      ∃ kind, kindOf s = some kind ∧ expected = .str kind.name)

/-- A raw secret is derived from this credential only if it is one. -/
def DerivesRawOnly (lib : KeyLibrary) (s : String) : Prop :=
  ∀ vector salt key, Dict.get vector "credentialInput" = .str s →
    derive lib (.str "raw-secret-v1") vector salt = .ok key → kindOf s = some .rawSecretV1

/-- A passphrase key is derived from this credential only if it is a passphrase. -/
def DerivesPassphraseOnly (lib : KeyLibrary) (s : String) : Prop :=
  ∀ vector salt key, Dict.get vector "passwordInput" = .str s →
    derive lib (.str "argon2id-v1") vector salt = .ok key → kindOf s = some .argon2idV1

section Kinds
variable {lib : KeyLibrary} {s : String} {vector : Dict} {salt key : Bytes}

theorem clean_reportInvalid {name : Msg} {m : Check Unit} :
    Clean (reportInvalid name m) () ↔ Clean m () := by
  match m with
  | .returned () log => rfl
  | .raised (.vectorValidation msg) log => simp [reportInvalid, Clean]
  | .raised (.fault kind) log => simp [reportInvalid, Clean]

/-- What the classification branch compares with. -/
theorem clean_classification {expected : Json} {position : ℕ}
    (hreject : (Dict.get vector "expected").eq (.str "reject") = false)
    (hinput : Dict.get vector "credentialInput" = .str s)
    (hexpected : vector.lookup "expectedCredentialKind" = some expected) :
    Clean (passwordVector lib (.obj vector) position) () ↔
      expected = .str (if startsWith s "secret:" = true then "raw-secret-v1" else "argon2id-v1") := by
  have hhas : Dict.has vector "expectedCredentialKind" = true := by simp [Dict.has, hexpected]
  rw [passwordVector, clean_reportInvalid, credentialCase, hreject, hhas]
  simp [classificationCase, hinput, subscript_eq_ok, hexpected, Json.eq_str_left]

theorem derive_raw_eq_ok (hinput : Dict.get vector "credentialInput" = .str s) :
    derive lib (.str "raw-secret-v1") vector salt = .ok key ↔
      startsWith s "secret:" = true ∧ ∃ secret, IsHex (.str (dropChars s 7)) secret ∧
        secret.length = 32 ∧
        lib.hmac.digest (lib.hmac.digest salt secret)
          (bytesLiteral "incomudon-raw-secret-v1" ++ [1]) = key := by
  have hkind : ¬(Json.str "raw-secret-v1").eq (.str "argon2id-v1") = true := by simp
  rw [derive, if_neg hkind, if_pos (by simp), hinput]
  simp only [bind_eq_ok, asString_eq_ok, Json.str.injEq, require_eq_ok, hexBytesOfLength_eq_ok,
    hkdfSha256_block, Except.ok.injEq]
  constructor
  · rintro ⟨_, rfl, -, hfront, secret, ⟨hhex, hlength⟩, hkey⟩
    exact ⟨hfront, secret, hhex, hlength, hkey⟩
  · rintro ⟨hfront, secret, hhex, hlength, hkey⟩
    exact ⟨s, rfl, (), hfront, secret, ⟨hhex, hlength⟩, hkey⟩

theorem derive_passphrase_eq_ok (hinput : Dict.get vector "passwordInput" = .str s) :
    derive lib (.str "argon2id-v1") vector salt = .ok key ↔ argon2idV1Key lib s salt = key := by
  rw [derive, if_pos (by simp), hinput]
  simp [bind_eq_ok, pure, Except.pure]

/-- The two fronts differ in their second character. -/
theorem not_sha256_of_secret (h : startsWith s "secret:" = true) :
    startsWith s "sha256:" = false := by
  obtain ⟨rest, hrest⟩ := List.isPrefixOf_iff_prefix.mp h
  rw [startsWith, ← hrest]
  rfl

theorem kindOf_eq_rawSecret : kindOf s = some .rawSecretV1 ↔ IsRawSecret s := by
  unfold kindOf
  split_ifs with hnone hraw
  · simp only [false_iff]
    rintro ⟨hfront, -⟩
    rcases hnone with rfl | hsha
    · exact absurd hfront (by decide)
    · exact absurd hsha (by simp [not_sha256_of_secret hfront])
  · simpa using hraw
  · simpa using hraw

theorem kindOf_eq_passphrase : kindOf s = some .argon2idV1 ↔
    s ≠ "" ∧ startsWith s "sha256:" = false ∧ ¬IsRawSecret s := by
  unfold kindOf
  split_ifs with hnone hraw
  · simp only [false_iff]
    rintro ⟨hne, hsha, -⟩
    simp [hne, hsha] at hnone
  · simpa using fun _ _ => hraw
  · simpa [hraw] using hnone

/-! ### Each path -/

/-- The classification looks at the front only. -/
theorem reportsKind_iff (hne : s ≠ "") : ReportsKind lib s ↔
    startsWith s "sha256:" = false ∧
      (startsWith s "secret:" = true → SixtyFourHex (s.toList.drop 7)) := by
  constructor
  · intro h
    set text := if startsWith s "secret:" = true then "raw-secret-v1" else "argon2id-v1" with htext
    have hpasses := (h [("credentialInput", .str s), ("expectedCredentialKind", .str text)]
      (.str text) 0 rfl rfl rfl).mp ((clean_classification rfl rfl rfl).mpr (by rw [htext]))
    obtain ⟨kind, hkind, hname⟩ := hpasses
    rw [Json.str.injEq] at hname
    cases kind with
    | rawSecretV1 =>
      obtain ⟨hfront, hdigits⟩ := kindOf_eq_rawSecret.mp hkind
      exact ⟨not_sha256_of_secret hfront, fun _ => hdigits⟩
    | argon2idV1 =>
      obtain ⟨-, hsha, -⟩ := kindOf_eq_passphrase.mp hkind
      refine ⟨hsha, fun hfront => ?_⟩
      rw [htext, if_pos hfront] at hname
      exact absurd hname (by decide)
  · rintro ⟨hsha, hraw⟩ vector expected position hreject hinput hexpected
    rw [clean_classification hreject hinput hexpected]
    split_ifs with hfront
    · have hkind := kindOf_eq_rawSecret.mpr ⟨hfront, hraw hfront⟩
      simp [hkind, CredentialKind.name]
    · have hkind := kindOf_eq_passphrase.mpr ⟨hne, hsha, fun h => hfront h.1⟩
      simp [hkind, CredentialKind.name]

/-- Decoding takes more than the 64 digits: white space may stand between the bytes. -/
theorem derivesRawOnly_iff : DerivesRawOnly lib s ↔
    (startsWith s "secret:" = true →
      (∃ secret, IsHex (.str (dropChars s 7)) secret ∧ secret.length = 32) →
        SixtyFourHex (s.toList.drop 7)) := by
  constructor
  · rintro h hfront ⟨secret, hhex, hlength⟩
    have hderived := h [("credentialInput", .str s)] [] _ rfl
      ((derive_raw_eq_ok rfl).mpr ⟨hfront, secret, hhex, hlength, rfl⟩)
    exact (kindOf_eq_rawSecret.mp hderived).2
  · intro h vector salt key hinput hkey
    obtain ⟨hfront, secret, hhex, hlength, -⟩ := (derive_raw_eq_ok hinput).mp hkey
    exact kindOf_eq_rawSecret.mpr ⟨hfront, h hfront ⟨secret, hhex, hlength⟩⟩

/-- A passphrase key is derived from any text. -/
theorem derivesPassphraseOnly_iff (hne : s ≠ "") : DerivesPassphraseOnly lib s ↔
    startsWith s "sha256:" = false ∧ ¬IsRawSecret s := by
  have hkind : DerivesPassphraseOnly lib s ↔ kindOf s = some .argon2idV1 := by
    constructor
    · intro h
      exact h [("passwordInput", .str s)] [] _ rfl ((derive_passphrase_eq_ok rfl).mpr rfl)
    · exact fun h _ _ _ _ _ => h
  rw [hkind, kindOf_eq_passphrase, and_iff_right hne]

end Kinds

/-- PARTITION: where each path follows the kinds of the protocol, and that all three do exactly on
    the credentials that begin with neither `sha256:` nor `secret:`. -/
theorem credential_paths_agree_iff (lib : KeyLibrary) (s : String) (hne : s ≠ "") :
    (ReportsKind lib s ↔ startsWith s "sha256:" = false ∧
      (startsWith s "secret:" = true → SixtyFourHex (s.toList.drop 7))) ∧
    (DerivesRawOnly lib s ↔ (startsWith s "secret:" = true →
      (∃ secret, IsHex (.str (dropChars s 7)) secret ∧ secret.length = 32) →
        SixtyFourHex (s.toList.drop 7))) ∧
    (DerivesPassphraseOnly lib s ↔ startsWith s "sha256:" = false ∧ ¬IsRawSecret s) ∧
    (ReportsKind lib s ∧ DerivesRawOnly lib s ∧ DerivesPassphraseOnly lib s ↔
      startsWith s "sha256:" = false ∧ startsWith s "secret:" = false) := by
  refine ⟨reportsKind_iff hne, derivesRawOnly_iff, derivesPassphraseOnly_iff hne, ?_⟩
  rw [reportsKind_iff hne, derivesRawOnly_iff, derivesPassphraseOnly_iff hne]
  constructor
  · rintro ⟨⟨hsha, hdigits⟩, -, -, hraw⟩
    refine ⟨hsha, ?_⟩
    rw [Bool.eq_false_iff]
    exact fun hfront => hraw ⟨hfront, hdigits hfront⟩
  · rintro ⟨hsha, hfront⟩
    refine ⟨⟨hsha, ?_⟩, ?_, hsha, ?_⟩
    · simp [hfront]
    · simp [hfront]
    · simp [IsRawSecret, hfront]

/-- A stand-in for the library. -/
def plainKeyLibrary : KeyLibrary where
  hmac := lastBytesHmac
  sha256 data := ljust (data.reverse.take 32) 32
  argon2id password salt := ljust ((password ++ salt).take 32) 32
  nfc text := text

theorem credential_paths_agree_passphrase :
    ReportsKind plainKeyLibrary "test-password" ∧ DerivesRawOnly plainKeyLibrary "test-password" ∧
      DerivesPassphraseOnly plainKeyLibrary "test-password" :=
  (credential_paths_agree_iff plainKeyLibrary "test-password" (by decide)).2.2.2.mpr (by decide)

/-- A raw secret with a blank between its first two bytes. -/
def blankSecret : String :=
  "secret:00 112233445566778899aabbccddeeff00112233445566778899aabbccddeeff"

theorem decodes_blankSecret :
    ∃ secret, IsHex (.str (dropChars blankSecret 7)) secret ∧ secret.length = 32 := by
  have hlength : (fromHex (dropChars blankSecret 7)).map List.length = some 32 := by decide +kernel
  obtain ⟨secret, hdecoded, hlength⟩ := Option.map_eq_some_iff.mp hlength
  exact ⟨secret, ⟨_, rfl, hdecoded⟩, hlength⟩

/-- A malformed secret is reported as a raw secret, and a removed form as a passphrase, from which a
    key is derived; and the secret with a blank is derived as a raw one. -/
theorem credential_paths_disagree :
    ¬ReportsKind plainKeyLibrary "secret:zz" ∧ ¬ReportsKind plainKeyLibrary "sha256:00" ∧
      ¬DerivesPassphraseOnly plainKeyLibrary "sha256:00" ∧
      ¬DerivesRawOnly plainKeyLibrary blankSecret := by
  rw [reportsKind_iff (by decide), reportsKind_iff (by decide), derivesPassphraseOnly_iff (by decide),
    derivesRawOnly_iff]
  refine ⟨by decide, by decide, by decide, fun h => ?_⟩
  exact absurd (h (by decide) decodes_blankSecret) (by decide)

end IncomUdon.Crypto
