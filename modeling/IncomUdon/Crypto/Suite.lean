import IncomUdon.Crypto.DomainSeparation
import IncomUdon.Crypto.Raised

/-! The crypto suite: six validators in order, each inside one handler. An exception that the handler
    catches becomes one entry and the next validator runs; any other ends the suite:

        password KDF, AES-GCM v2, Control Authentication      always caught
        Directory UDP v3, both admissions                      caught, if handled

    HANDLED: when the suite returns. ACCEPTED: when it returns without errors. -/

namespace IncomUdon.Crypto
open IncomUdon.Python IncomUdon.Loader IncomUdon.Lib.ErrorLog

/-- The library functions that the suite calls. -/
structure CryptoLibrary where
  keys : KeyLibrary
  aes : AesGcm
  admission : AdmissionLibrary

/-- `validators`. -/
def validators (lib : CryptoLibrary) (root : Root) : List (String × Check Unit) :=
  [("password KDF", validatePasswordKdf lib.keys root),
    ("AES-GCM v2", validateAesGcmV2 lib.keys lib.aes root),
    ("Control Authentication v1", validateControlAuth lib.keys root),
    ("Directory UDP v3", validateDirectoryV3 lib.keys.hmac lib.aes root),
    ("Identity Admission v1", validateAdmission lib.admission root identityAdmission),
    ("Managed Service Admission v1", validateAdmission lib.admission root serviceAdmission)]

/-- `validate_crypto_vectors`. -/
def validateCryptoVectors (lib : CryptoLibrary) (root : Root) : Py (List Msg) :=
  List.flatten <$> (validators lib root).mapM fun (label, validator) =>
    handle cryptoCaught [label] validator

/-- The Directory file. -/
def directoryV3Path : String := "test-vectors/directory-v3.json"

/-- The stored values make no validator raise what the handler lets through. -/
structure RootHandled (lib : CryptoLibrary) (root : Root) : Prop where
  directory : ∀ document, root directoryV3Path = .json (.obj document) → DirectoryHandled document
  admission : ∀ flow ∈ admissionFlows, ∀ document, root flow.relative = .json (.obj document) →
    AdmissionHandled lib.admission flow document

/-- A Directory document that is accepted: the channel key is that of the password key, and under it
    every fixture is. -/
structure AcceptsDirectory (hmac : HmacSha256) (aes : AesGcm) (document : Dict) : Prop where
  crypto : ∃ crypto passwordKey dedicated mediaRequest fragments,
    Dict.get document "crypto" = .obj crypto ∧ StatesKey crypto "passwordKeyHex" passwordKey ∧
    IsHex (Dict.get crypto "directoryChannelKeyHex")
      (blockKey hmac passwordKey [] directoryChannelKeyInfo) ∧
    Dict.get crypto "dedicatedRequest" = .obj dedicated ∧
    Dict.get crypto "mediaPortRequest" = .obj mediaRequest ∧
    Dict.get crypto "mediaPortParticipantsFragments" = .arr fragments ∧
    ∀ entry ∈ .obj dedicated :: .obj mediaRequest :: fragments, ∃ fixture envelope context ciphertext,
      entry = .obj fixture ∧
      AcceptedFixture hmac aes (blockKey hmac passwordKey [] directoryChannelKeyInfo) fixture envelope
        context ciphertext

/-- Every file is stored, and accepted. -/
structure RootAccepted (lib : CryptoLibrary) (root : Root) : Prop where
  passwordKdf : ∃ document, root passwordKdfPath = .json (.obj document) ∧
    AcceptsPasswordKdf lib.keys document
  media : ∃ document parts, root aesGcmPath = .json (.obj document) ∧
    AcceptsMedia lib.keys lib.aes document parts
  controlAuth : ∃ document parts, root controlAuthPath = .json (.obj document) ∧
    AcceptsControlAuth lib.keys document parts
  directory : ∃ document, root directoryV3Path = .json (.obj document) ∧
    AcceptsDirectory lib.keys.hmac lib.aes document
  admission : ∀ flow ∈ admissionFlows, ∃ document parts, root flow.relative = .json (.obj document) ∧
    AcceptsAdmission lib.admission flow document parts

theorem forall_admissionFlows {P : AdmissionFlow → Prop} :
    (∀ flow ∈ admissionFlows, P flow) ↔ P identityAdmission ∧ P serviceAdmission := by
  simp [admissionFlows]

section Suite
variable {lib : CryptoLibrary} {root : Root}

theorem clean_directoryFragment {hmac : HmacSha256} {aes : AesGcm} {channelKey : Bytes}
    {fragment : Json} {position : ℕ} :
    Clean (directoryFragment hmac aes channelKey fragment position) () ↔
      ∃ fixture envelope context ciphertext, fragment = .obj fixture ∧
        AcceptedFixture hmac aes channelKey fixture envelope context ciphertext := by
  simp [directoryFragment, clean_validateDirectoryFixture]

theorem clean_directoryFragments {hmac : HmacSha256} {aes : AesGcm} {channelKey : Bytes}
    {fragments : List Json} :
    Clean (forM fragments.zipIdx fun (fragment, position) =>
      directoryFragment hmac aes channelKey fragment position) () ↔
      ∀ fragment ∈ fragments, ∃ fixture envelope context ciphertext, fragment = .obj fixture ∧
        AcceptedFixture hmac aes channelKey fixture envelope context ciphertext :=
  clean_forM_zipIdx fun _ _ => clean_directoryFragment

/-- EXACT: the Directory file passes exactly when its document is accepted. -/
theorem clean_validateDirectoryV3 {hmac : HmacSha256} {aes : AesGcm} :
    Clean (validateDirectoryV3 hmac aes root) () ↔
      ∃ document, root directoryV3Path = .json (.obj document) ∧
        AcceptsDirectory hmac aes document := by
  simp only [validateDirectoryV3, Run.liftM_eq, clean_bind, clean_lift, load_eq_ok, asObject_eq_ok,
    hexBytesOfLength_eq_ok, hkdfSha256_blockKey, Except.ok.injEq, clean_compareBytes, asArray_eq_ok,
    clean_validateDirectoryFixture, exists_unit, clean_directoryFragments]
  constructor
  · rintro ⟨document, hdocument, crypto, hcrypto, passwordKey, hkey, _, rfl, _, ⟨hchannelKey, -⟩, rfl,
      dedicated, hdedicated, mediaRequest, hmedia, fragments, hfragments, hfirst, hsecond, hrest⟩
    refine ⟨document, hdocument, crypto, passwordKey, dedicated, mediaRequest, fragments,
      hcrypto, hkey, hchannelKey, hdedicated, hmedia, hfragments, ?_⟩
    simp only [List.forall_mem_cons]
    exact ⟨⟨dedicated, by simpa using hfirst⟩, ⟨mediaRequest, by simpa using hsecond⟩, hrest⟩
  · rintro ⟨document, hdocument, crypto, passwordKey, dedicated, mediaRequest, fragments,
      hcrypto, hkey, hchannelKey, hdedicated, hmedia, hfragments, hentries⟩
    simp only [List.forall_mem_cons] at hentries
    obtain ⟨⟨_, envelope, context, ciphertext, ⟨⟩, hfirst⟩,
      ⟨_, envelope', context', ciphertext', ⟨⟩, hsecond⟩, hrest⟩ := hentries
    exact ⟨document, hdocument, crypto, hcrypto, passwordKey, hkey, _, rfl, _,
      ⟨hchannelKey, length_blockKey _ _ _ _⟩, rfl, dedicated, hdedicated, mediaRequest, hmedia,
      fragments, hfragments, ⟨_, _, _, hfirst⟩, ⟨_, _, _, hsecond⟩, hrest⟩

end Suite

/-- HANDLED: the suite returns exactly when the Directory document and the tokens that are decoded are
    handled; nothing else that is stored makes it raise. -/
theorem cryptoSuite_returns_iff (lib : CryptoLibrary) (root : Root) :
    (∃ errors, validateCryptoVectors lib root = .ok errors) ↔ RootHandled lib root := by
  rw [validateCryptoVectors, ← throwsOnly_never, throwsOnly_map, throwsOnly_never, mapM_isOk]
  have hcaught : (∀ validator ∈ validators lib root,
      ∃ errors, handle cryptoCaught [Frag.lit validator.1] validator.2 = .ok errors) ↔
      ∀ validator ∈ validators lib root, RaisesOnly CryptoCaught validator.2 :=
    forall₂_congr fun _ _ => handle_isOk
  rw [hcaught]
  simp only [validators, List.forall_mem_cons, List.not_mem_nil, false_imp_iff, implies_true,
    and_true, raisesOnly_validatePasswordKdf, raisesOnly_validateAesGcmV2,
    raisesOnly_validateControlAuth, raisesOnly_validateDirectoryV3, raisesOnly_validateAdmission,
    true_and]
  constructor
  · rintro ⟨hdirectory, hidentity, hservice⟩
    exact ⟨hdirectory, forall_admissionFlows.mpr ⟨hidentity, hservice⟩⟩
  · rintro ⟨hdirectory, hadmission⟩
    exact ⟨hdirectory, forall_admissionFlows.mp hadmission⟩

/-- ACCEPTED: the suite returns no error exactly when all six files are stored and accepted. -/
theorem cryptoSuite_passes_iff (lib : CryptoLibrary) (root : Root) :
    validateCryptoVectors lib root = .ok [] ↔ RootAccepted lib root := by
  rw [validateCryptoVectors, mapM_flatten_eq_nil]
  simp only [handle_eq_nil, validators, List.forall_mem_cons, List.not_mem_nil, false_imp_iff,
    implies_true, and_true, clean_validatePasswordKdf, clean_validateAesGcmV2,
    clean_validateControlAuth, clean_validateDirectoryV3, clean_validateAdmission]
  constructor
  · rintro ⟨hpassword, hmedia, hcontrol, hdirectory, hidentity, hservice⟩
    exact ⟨hpassword, hmedia, hcontrol, hdirectory, forall_admissionFlows.mpr ⟨hidentity, hservice⟩⟩
  · rintro ⟨hpassword, hmedia, hcontrol, hdirectory, hadmission⟩
    exact ⟨hpassword, hmedia, hcontrol, hdirectory, forall_admissionFlows.mp hadmission⟩

end IncomUdon.Crypto
