import IncomUdon.Crypto.Suite
import IncomUdon.Fec.Verdict
import IncomUdon.Lifecycle.Suite
import IncomUdon.SchemaTargets.Coverage
import IncomUdon.SchemaTargets.Handled
import IncomUdon.Validator.Documents

/-! `validate_vectors.py`, the program that runs the suites. An argument chooses one or all, the
    errors are collected, and any error makes the status 1:

        structural   SPEC_VERSION, vectors, schemas, OpenAPI, targets    the files of a checkout
        packet       crypto       fec       lifecycle                    the documents stored in it

    EXACT: the status is 0 exactly when each chosen suite accepts, and the suites do not affect one
    another. ONE VERSION: the structural suite binds the documents of all others to SPEC_VERSION. -/

namespace IncomUdon.Validator
open IncomUdon.Python IncomUdon.Loader IncomUdon.SchemaTargets IncomUdon.SpecVersion IncomUdon.Lib.ErrorLog

/-- The library functions that the suites call. -/
structure ToolLibrary where
  documents : DocumentLibrary
  crypto : Crypto.CryptoLibrary
  lifecycle : Lifecycle.Library

/-- The documents that the suites load. -/
def suitePaths : List String :=
  [Packet.vectorPath, Crypto.passwordKdfPath, Crypto.aesGcmPath, Crypto.controlAuthPath,
    Crypto.directoryV3Path, "test-vectors/identity-admission-v1.json", Lifecycle.serviceAdmissionPath,
    "test-vectors/fec-rs-6-2.json", "test-vectors/fec-v2-variable-6-2.json",
    "test-vectors/ptt-timeout-v1.json", "test-vectors/membership-lease-v1.json",
    "test-vectors/management/event-stream-resume-v1.json", Lifecycle.privateControlLinkPath,
    Lifecycle.relayCsvPath, "test-vectors/media-replay-v1.json", Lifecycle.floorInterruptPath]

/-- What `load_json` gives for a file of the checkout. -/
inductive Holds (lib : Library) (checkout : Checkout) (relative : String) : Stored → Prop
  | unreadable {reason : String} (read : checkout.readText (checkout.file relative) = .error (.osError reason)) :
    Holds lib checkout relative (.unreadable reason)
  | malformed {text reason : String} (read : checkout.readText (checkout.file relative) = .ok text)
    (loads : lib.loads text = .error .jsonDecodeError) : Holds lib checkout relative (.malformed reason)
  | json {text : String} {value : Json} (read : checkout.readText (checkout.file relative) = .ok text)
    (loads : lib.loads text = .ok value) : Holds lib checkout relative (.json value)

/-- A checkout with the documents that its files hold; those that can be read are found below
    `test-vectors/`. -/
structure Snapshot (lib : Library) extends DocumentCheckout where
  root : Root
  holds : ∀ path ∈ suitePaths, Holds lib toCheckout path (root path)
  found : ∀ path ∈ suitePaths, ∀ text, readText (file path) = .ok text → path ∈ vectorFiles

/-- The suites. -/
inductive Part where
  | structural | packet | crypto | fec | lifecycle
  deriving DecidableEq

/-- `--suite`. -/
inductive Suite where
  | one (part : Part)
  | all

/-- What is run, in this order. -/
def Suite.parts : Suite → List Part
  | .one part => [part]
  | .all => [.structural, .packet, .crypto, .fec, .lifecycle]

def Part.name : Part → String
  | structural => "structural"
  | packet => "packet"
  | crypto => "crypto"
  | fec => "fec"
  | lifecycle => "lifecycle"

section Program
variable (lib : ToolLibrary) (snapshot : Snapshot lib.documents.toLibrary)

/-- `validate_metadata`. -/
def validateMetadata : Py (List Msg) :=
  match readSpecVersion snapshot.toCheckout with
  | .error (.valueError msg) => .ok [msg]
  | .error (.fault kind) => if isValueError kind then .ok [[.fault kind]] else fails kind
  | .ok version => validateVectors lib.documents.toLibrary snapshot.toCheckout version

/-- The errors of the structural suite. -/
def structuralErrors : Py (List Msg) := do
  let metadata ← validateMetadata lib snapshot
  let schemas ← validateSchemaDocuments lib.documents snapshot.toDocumentCheckout
  let openapi ← validateOpenapiDocument lib.documents snapshot.toDocumentCheckout
  let targets ← validateSchemaTargets snapshot.toRepository lib.documents.toLibrary
  return metadata ++ schemas ++ openapi ++ targets

/-- The errors of a suite. -/
def partErrors : Part → Py (List Msg)
  | .structural => structuralErrors lib snapshot
  | .packet => Packet.validatePacketEnvelopeVectors snapshot.root
  | .crypto => Crypto.validateCryptoVectors lib.crypto snapshot.root
  | .fec => Fec.validateFecVectors snapshot.root
  | .lifecycle => Lifecycle.validateLifecycleVectors lib.lifecycle snapshot.root

/-- `main`. -/
def main (suite : Suite) : Py Exit := do
  let errors ← suite.parts.mapM (partErrors lib snapshot)
  match errors.flatten with
  | [] => return ⟨0, [["validated ", ", ".intercalate (suite.parts.map Part.name), " test-vector suite(s)"]]⟩
  | errors => return ⟨1, errors.map fun error => Msg.add ["error: "] error⟩

/-! ### What the structural suite accepts -/

/-- A target of the manifest has a name, is evaluated, and each value is as it expects. -/
def TargetMet (repo : Repository) (lib : Library) (target : Json) (schema : Json) : Prop :=
  ∃ d, target = .obj d ∧ Dict.has d "name" = true ∧ d.lookup "schema" = some schema ∧
    ∃ schemaValue selection values, Evaluated repo lib d schemaValue selection values ∧
      ∀ value ∈ values, Checked lib d schemaValue value

/-- The targets of a manifest are met, and every schema file is the schema of one. -/
structure TargetsMet (repo : Repository) (lib : Library) (items : List Json) : Prop where
  met : ∀ target ∈ items, ∃ schema, TargetMet repo lib target schema
  covered : ∀ path ∈ repo.schemaFiles, ∃ target ∈ items, TargetMet repo lib target (.str path)

/-- The checker accepts the manifest, and it is `null` or all its targets are met. -/
def ManifestAccepted (repo : Repository) (lib : Library) : Prop :=
  ∃ value schema, loadPath repo lib manifestPath = .ok value ∧
    loadPath repo lib manifestSchemaPath = .ok schema ∧
    lib.iterErrors schema value = [] ∧
    (value = .null ∨ ∃ targets items, member value "targets" = .ok targets ∧ iterate targets = .ok items ∧
      TargetsMet repo lib items)

/-- Everything that the structural suite looks at. -/
structure StructuralAccepted : Prop where
  version : ∃ version, StatesVersion snapshot.toCheckout version ∧
    VectorsState lib.documents.toLibrary snapshot.toCheckout version
  schemas : ∀ path ∈ snapshot.schemaFiles, SchemaAccepted lib.documents snapshot.toDocumentCheckout path
  openapi : OpenapiAccepted lib.documents snapshot.toDocumentCheckout
  targets : ManifestAccepted snapshot.toRepository lib.documents.toLibrary

/-- What a suite accepts. -/
def Accepted : Part → Prop
  | .structural => StructuralAccepted lib snapshot
  | .packet => ∃ vectors, Packet.StoresVectors snapshot.root vectors ∧
      ∀ vector ∈ vectors, Packet.Conforms vector
  | .crypto => Crypto.RootAccepted lib.crypto snapshot.root
  | .fec => Fec.FecAccepted snapshot.root
  | .lifecycle => ∀ validator ∈ Lifecycle.validators lib.lifecycle snapshot.root, Clean validator.2 ()

/-- Nothing but what is caught is raised by the structural suite. -/
structure StructuralHandled : Prop where
  version : ∀ kind, snapshot.readText (snapshot.file "SPEC_VERSION") = .error (.other kind) →
    isValueError kind = true
  vectors : ∀ version, StatesVersion snapshot.toCheckout version → ∀ path ∈ snapshot.vectorFiles,
    FileReadable snapshot.toRepository lib.documents.toLibrary (snapshot.file path)
  schemas : ∀ path ∈ snapshot.schemaFiles, Validator.SchemaHandled lib.documents snapshot.toDocumentCheckout path
  openapi : OpenapiHandled lib.documents snapshot.toDocumentCheckout
  manifest : FileHandled snapshot.toRepository lib.documents.toLibrary manifestPath
  targets : ∀ value, loadPath snapshot.toRepository lib.documents.toLibrary manifestPath = .ok value →
    ManifestHandled snapshot.toRepository lib.documents.toLibrary value

/-- Nothing but what is caught is raised by a suite. -/
def Handled : Part → Prop
  | .structural => StructuralHandled lib snapshot
  | .packet => ∀ vectors, Packet.StoresVectors snapshot.root vectors →
      ∀ vector ∈ vectors, Packet.VectorHandled vector
  | .crypto => Crypto.RootHandled lib.crypto snapshot.root
  | .fec => True
  | .lifecycle =>
    (∀ document, snapshot.root Lifecycle.directoryPath = .json (.obj document) →
      Lifecycle.DirectoryHandled lib.lifecycle document) ∧
    (∀ document, snapshot.root Lifecycle.privateControlLinkPath = .json (.obj document) →
      Lifecycle.PrivateControlLinkHandled lib.lifecycle snapshot.root document) ∧
    ∀ document, snapshot.root Lifecycle.floorInterruptPath = .json (.obj document) →
      Lifecycle.FloorInterruptHandled document

end Program

/-! ### The manifest -/

section Manifest
variable {repo : Repository} {lib : Library} {value targets target schema : Json} {items : List Json}
  {errors : List Msg}

theorem targetMet_iff : targetOutcome repo lib target = .ok (schema, []) ↔
    TargetMet repo lib target schema := by
  cases target with
  | obj d => simp [targetOutcome_clean, TargetMet]
  | _ => simp [targetOutcome, TargetMet]

/-- The run of the targets depends on the manifest only through the items of `targets`. -/
theorem checkTargets_eq_nil (htargets : member value "targets" = .ok targets)
    (hitems : iterate targets = .ok items) :
    checkTargets repo lib value errors = .ok [] ↔ errors = [] ∧ TargetsMet repo lib items := by
  have hitems' : checkTargets repo lib value errors =
      checkTargets repo lib (.obj [("targets", .arr items)]) errors := by
    rw [checkTargets_eq, checkTargets_eq, htargets, ok_bind, hitems]
    rfl
  rw [hitems', checkTargets_clean rfl]
  refine and_congr_right fun _ => ?_
  simp only [targetMet_iff]
  constructor
  · rintro ⟨hmet, hcovered⟩
    exact ⟨hmet, hcovered⟩
  · intro h
    exact ⟨h.met, h.covered⟩

theorem exists_items_of_checkTargets (h : checkTargets repo lib value errors = .ok []) :
    ∃ targets items, member value "targets" = .ok targets ∧ iterate targets = .ok items := by
  rw [checkTargets_eq] at h
  obtain ⟨targets, htargets, h⟩ := bind_eq_ok.mp h
  obtain ⟨items, hitems, -⟩ := bind_eq_ok.mp h
  exact ⟨targets, items, htargets, hitems⟩

/-- A manifest that cannot be loaded is reported. -/
theorem validateSchemaTargets_of_invalid {msg : Msg}
    (hfound : loadPath repo lib manifestPath = .error (.vectorValidation msg)) :
    ∃ entry, validateSchemaTargets repo lib = .ok [entry] := by
  refine ⟨Msg.add [manifestPath, ": invalid manifest: "] msg, ?_⟩
  rw [validateSchemaTargets, loadManifest, readManifest, hfound]
  rfl

theorem validateSchemaTargets_of_fault {kind : Fault}
    (hfound : loadPath repo lib manifestPath = .error (.fault kind)) :
    validateSchemaTargets repo lib = fails kind := by
  rw [validateSchemaTargets, loadManifest, readManifest, hfound]
  rfl

theorem validateSchemaTargets_eq_nil :
    validateSchemaTargets repo lib = .ok [] ↔ ManifestAccepted repo lib := by
  rcases hfound : loadPath repo lib manifestPath with (msg | kind) | value
  · obtain ⟨entry, hrun⟩ := validateSchemaTargets_of_invalid hfound
    simp [ManifestAccepted, hfound, hrun]
  · simp [ManifestAccepted, hfound, validateSchemaTargets_of_fault hfound, fails]
  · rcases validateSchemaTargets_cases hfound with
      ⟨msg, entry, hschema, hrun⟩ | ⟨kind, hschema, hrun⟩ |
      ⟨schema, errors, hschema, herrors, hrun⟩
    · simp [ManifestAccepted, hfound, hschema, hrun]
    · simp [ManifestAccepted, hfound, hschema, hrun, fails]
    · have haccepted : ManifestAccepted repo lib ↔ errors = [] ∧
          (value = .null ∨ ∃ targets items, member value "targets" = .ok targets ∧ iterate targets = .ok items ∧
            TargetsMet repo lib items) := by
        simp only [ManifestAccepted, hfound, hschema, Except.ok.injEq, exists_and_left,
          exists_eq_left', ← herrors]
      rw [haccepted]
      rcases hrun with ⟨rfl, hrun⟩ | ⟨hvalue, hrun⟩
      · simp [hrun]
      · rw [hrun, or_iff_right hvalue]
        constructor
        · intro h
          obtain ⟨targets, items, htargets, hitems⟩ := exists_items_of_checkTargets h
          obtain ⟨hnil, hmet⟩ := (checkTargets_eq_nil htargets hitems).mp h
          exact ⟨hnil, targets, items, htargets, hitems, hmet⟩
        · rintro ⟨hnil, targets, items, htargets, hitems, hmet⟩
          exact (checkTargets_eq_nil htargets hitems).mpr ⟨hnil, hmet⟩

theorem validateSchemaTargets_isOk : (∃ errors, validateSchemaTargets repo lib = .ok errors) ↔
    FileHandled repo lib manifestPath ∧
      ∀ value, loadPath repo lib manifestPath = .ok value → ManifestHandled repo lib value := by
  rw [← throwsOnly_loadPath]
  rcases hfound : loadPath repo lib manifestPath with (msg | kind) | value
  · obtain ⟨entry, hrun⟩ := validateSchemaTargets_of_invalid hfound
    simp [hrun]
  · simp [validateSchemaTargets_of_fault hfound, fails]
  · simp only [throwsOnly_ok, true_and, Except.ok.injEq, forall_eq', ManifestHandled,
      ← throwsOnly_loadPath]
    rcases validateSchemaTargets_cases hfound with
      ⟨msg, entry, hschema, hrun⟩ | ⟨kind, hschema, hrun⟩ |
      ⟨schema, errors, hschema, -, hrun⟩
    · simp [hschema, hrun]
    · simp [hschema, hrun]
    · simp only [hschema, throwsOnly_ok, true_and, Except.ok.injEq, forall_eq',
        ← checkTargets_isOk errors]
      rcases hrun with ⟨hnull, hrun⟩ | ⟨hvalue, hrun⟩
      · exact iff_of_true ⟨errors, hrun⟩ (.inl hnull)
      · rw [hrun, or_iff_right hvalue]

end Manifest

/-! ### The suites -/

section Parts
variable {lib : ToolLibrary} {snapshot : Snapshot lib.documents.toLibrary} {part : Part}
  {suite : Suite}

theorem validateMetadata_eq_nil : validateMetadata lib snapshot = .ok [] ↔
    ∃ version, StatesVersion snapshot.toCheckout version ∧
      VectorsState lib.documents.toLibrary snapshot.toCheckout version := by
  simp only [← readSpecVersion_eq_ok, ← validateVectors_eq_nil, validateMetadata]
  rcases readSpecVersion snapshot.toCheckout with (msg | kind) | version
  · simp
  · cases hkind : isValueError kind <;> simp [hkind]
  · simp

theorem validateMetadata_isOk : (∃ errors, validateMetadata lib snapshot = .ok errors) ↔
    (∀ kind, snapshot.readText (snapshot.file "SPEC_VERSION") = .error (.other kind) → isValueError kind = true) ∧
    ∀ version, StatesVersion snapshot.toCheckout version → ∀ path ∈ snapshot.vectorFiles,
      FileReadable snapshot.toRepository lib.documents.toLibrary (snapshot.file path) := by
  have hread : ∀ kind, readSpecVersion snapshot.toCheckout = .error (.fault kind) ↔
      snapshot.readText (snapshot.file "SPEC_VERSION") = .error (.other kind) := by
    intro kind
    unfold readSpecVersion
    rcases snapshot.readText (snapshot.file "SPEC_VERSION") with (reason | other) | text
    · simp
    · simp
    · simp only [reduceCtorEq, iff_false]
      split
      · split <;> simp
      · simp
  have hvectors : ∀ version,
      (∃ errors, validateVectors lib.documents.toLibrary snapshot.toCheckout version = .ok errors) ↔ _ :=
    fun _ => validateVectors_isOk
  simp only [← hread, ← readSpecVersion_eq_ok, validateMetadata]
  rcases readSpecVersion snapshot.toCheckout with (msg | kind) | version
  · simp
  · cases hkind : isValueError kind <;> simp [hkind]
  · simpa using hvectors version

theorem structuralErrors_eq_nil : structuralErrors lib snapshot = .ok [] ↔
    StructuralAccepted lib snapshot := by
  have hparts : structuralErrors lib snapshot = .ok [] ↔ validateMetadata lib snapshot = .ok [] ∧
      validateSchemaDocuments lib.documents snapshot.toDocumentCheckout = .ok [] ∧
      validateOpenapiDocument lib.documents snapshot.toDocumentCheckout = .ok [] ∧
      validateSchemaTargets snapshot.toRepository lib.documents.toLibrary = .ok [] := by
    simp only [structuralErrors, bind_eq_ok]
    constructor
    · rintro ⟨metadata, hmetadata, schemas, hschemas, openapi, hopenapi, targets, htargets, hret⟩
      obtain ⟨hthree, rfl⟩ := List.append_eq_nil_iff.mp (Except.ok.inj hret)
      obtain ⟨htwo, rfl⟩ := List.append_eq_nil_iff.mp hthree
      obtain ⟨rfl, rfl⟩ := List.append_eq_nil_iff.mp htwo
      exact ⟨hmetadata, hschemas, hopenapi, htargets⟩
    · rintro ⟨hmetadata, hschemas, hopenapi, htargets⟩
      exact ⟨[], hmetadata, [], hschemas, [], hopenapi, [], htargets, rfl⟩
  rw [hparts, validateMetadata_eq_nil, validateSchemaDocuments_eq_nil, validateOpenapiDocument_eq_nil,
    validateSchemaTargets_eq_nil]
  constructor
  · rintro ⟨hversion, hschemas, hopenapi, htargets⟩
    exact ⟨hversion, hschemas, hopenapi, htargets⟩
  · intro h
    exact ⟨h.version, h.schemas, h.openapi, h.targets⟩

theorem structuralErrors_isOk : (∃ errors, structuralErrors lib snapshot = .ok errors) ↔
    StructuralHandled lib snapshot := by
  have hparts : (∃ errors, structuralErrors lib snapshot = .ok errors) ↔
      (∃ errors, validateMetadata lib snapshot = .ok errors) ∧
      (∃ errors, validateSchemaDocuments lib.documents snapshot.toDocumentCheckout = .ok errors) ∧
      (∃ errors, validateOpenapiDocument lib.documents snapshot.toDocumentCheckout = .ok errors) ∧
      ∃ errors, validateSchemaTargets snapshot.toRepository lib.documents.toLibrary = .ok errors := by
    simp only [structuralErrors, bind_eq_ok]
    constructor
    · rintro ⟨errors, metadata, hmetadata, schemas, hschemas, openapi, hopenapi, targets, htargets, -⟩
      exact ⟨⟨_, hmetadata⟩, ⟨_, hschemas⟩, ⟨_, hopenapi⟩, ⟨_, htargets⟩⟩
    · rintro ⟨⟨metadata, hmetadata⟩, ⟨schemas, hschemas⟩, ⟨openapi, hopenapi⟩, ⟨targets, htargets⟩⟩
      exact ⟨_, metadata, hmetadata, schemas, hschemas, openapi, hopenapi, targets, htargets, rfl⟩
  rw [hparts, validateMetadata_isOk, validateSchemaDocuments_isOk, validateOpenapiDocument_isOk,
    validateSchemaTargets_isOk]
  constructor
  · rintro ⟨⟨hversion, hvectors⟩, hschemas, hopenapi, hmanifest, htargets⟩
    exact ⟨hversion, hvectors, hschemas, hopenapi, hmanifest, htargets⟩
  · intro h
    exact ⟨⟨h.version, h.vectors⟩, h.schemas, h.openapi, h.manifest, h.targets⟩

theorem packetErrors_eq_nil {root : Root} : Packet.validatePacketEnvelopeVectors root = .ok [] ↔
    ∃ vectors, Packet.StoresVectors root vectors ∧ ∀ vector ∈ vectors, Packet.Conforms vector := by
  rcases hroot : root Packet.vectorPath with reason | reason | document
  · simp [Packet.validatePacketEnvelopeVectors, Loader.loadJson, hroot, invalid, Packet.StoresVectors]
  · simp [Packet.validatePacketEnvelopeVectors, Loader.loadJson, hroot, invalid, Packet.StoresVectors]
  · exact Packet.packetSuite_exact.1 root document hroot

/-- A document that is not there is a validation error, whatever is read of it. -/
theorem raisesOnly_unstored {α : Type} {E : PyExc → Prop} (hE : ∀ msg, E (.vectorValidation msg))
    {root : Root} {path : String} (hroot : ¬∃ value, root path = .json value) {run : Dict → Check α} :
    RaisesOnly E (Run.lift (load root path) >>= run) := by
  rw [raisesOnly_bind, raisesOnly_lift]
  refine ⟨throwsOnly_load hE, fun document hdocument => ?_⟩
  exact absurd ⟨_, load_eq_ok.mp (returns_lift.mp hdocument)⟩ hroot

theorem fecErrors_isOk (root : Root) : ∃ errors, Fec.validateFecVectors root = .ok errors := by
  have hv1 : RaisesOnly (fun exc => Fec.fecCaught exc = true) (Fec.validateFecV1 root) := by
    by_cases hroot : ∃ value, root "test-vectors/fec-rs-6-2.json" = .json value
    · obtain ⟨value, hvalue⟩ := hroot
      exact fun exc w h => (Fec.validateFecV1_ordinary hvalue exc w h).caught
    · exact raisesOnly_unstored (fun _ => rfl) hroot
  have hv2 : RaisesOnly (fun exc => Fec.fecCaught exc = true) (Fec.validateFecV2 root) := by
    by_cases hroot : ∃ value, root "test-vectors/fec-v2-variable-6-2.json" = .json value
    · obtain ⟨value, hvalue⟩ := hroot
      exact fun exc w h => (Fec.validateFecV2_ordinary hvalue exc w h).caught
    · exact raisesOnly_unstored (fun _ => rfl) hroot
  obtain ⟨errors1, herrors1⟩ := handle_isOk.mpr hv1
  obtain ⟨errors2, herrors2⟩ := handle_isOk.mpr hv2
  refine ⟨errors1 ++ errors2, ?_⟩
  rw [Fec.validateFecVectors, herrors1, herrors2]
  rfl

theorem lifecycleErrors_eq_nil {library : Lifecycle.Library} {root : Root} :
    Lifecycle.validateLifecycleVectors library root = .ok [] ↔
      ∀ validator ∈ Lifecycle.validators library root, Clean validator.2 () := by
  refine mapM_flatten_eq_nil.trans ?_
  exact forall₂_congr fun _ _ => handle_eq_nil

theorem partErrors_eq_nil : partErrors lib snapshot part = .ok [] ↔ Accepted lib snapshot part := by
  cases part with
  | structural => exact structuralErrors_eq_nil
  | packet => exact packetErrors_eq_nil
  | crypto => exact Crypto.cryptoSuite_passes_iff lib.crypto snapshot.root
  | fec => exact Fec.fecSuite_passes_iff snapshot.root
  | lifecycle => exact lifecycleErrors_eq_nil

theorem partErrors_isOk : (∃ errors, partErrors lib snapshot part = .ok errors) ↔
    Handled lib snapshot part := by
  cases part with
  | structural => exact structuralErrors_isOk
  | packet => exact Packet.validatePacketEnvelopeVectors_isOk
  | crypto => exact Crypto.cryptoSuite_returns_iff lib.crypto snapshot.root
  | fec => exact iff_true_intro (fecErrors_isOk snapshot.root)
  | lifecycle => exact Lifecycle.validateLifecycleVectors_isOk

theorem main_zero : (∃ printed, main lib snapshot suite = .ok ⟨0, printed⟩) ↔
    ∀ part ∈ suite.parts, Accepted lib snapshot part := by
  simp only [← partErrors_eq_nil]
  rw [← mapM_flatten_eq_nil, main]
  rcases suite.parts.mapM (partErrors lib snapshot) with exc | entries
  · simp [bind, Except.bind, Functor.map, Except.map]
  · cases hentries : entries.flatten <;> simp [hentries, bind, Except.bind, pure, Except.pure]

theorem main_isOk : (∃ exit, main lib snapshot suite = .ok exit) ↔
    ∀ part ∈ suite.parts, Handled lib snapshot part := by
  simp only [← partErrors_isOk]
  rw [← mapM_isOk, main]
  rcases suite.parts.mapM (partErrors lib snapshot) with exc | entries
  · simp [bind, Except.bind]
  · cases hentries : entries.flatten <;> simp [hentries, bind, Except.bind, pure, Except.pure]

end Parts

/-- A vector. -/
def timeoutVector : Json := .obj [("specVersion", .str "unreleased"), ("timeline_cases", .arr [])]

/-- A target for the whole vector. -/
def timeoutTarget : Json :=
  .obj [("name", .str "Timeout"), ("vector", .str "test-vectors/ptt-timeout-v1.json"), ("pointer", .str ""),
    ("schema", .str "schemas/timeout.schema.json")]

/-- The JSON documents of the checkout. -/
def timeoutDocuments : Dict :=
  [(manifestPath, .obj [("manifestVersion", .int 1), ("targets", .arr [timeoutTarget])]),
    (manifestSchemaPath, manifestSchema), ("test-vectors/ptt-timeout-v1.json", timeoutVector),
    ("schemas/timeout.schema.json", .obj [("type", .str "object")])]

/-- Its libraries: a checker that accepts every value, and the smallest OpenAPI document. -/
def timeoutLibrary : ToolLibrary where
  documents :=
    { Library.ofDocuments timeoutDocuments fun _ _ => [] with
      checkSchema := fun _ => .ok ()
      safeLoad := fun _ => .ok (.mapping [(.str "openapi", .str "3.1.0"), (.str "paths", .mapping [])])
      validateOpenapi := fun _ _ => .ok () }
  crypto := ⟨Crypto.packetLibrary, Crypto.packetAes, Crypto.ForeignTicket.library⟩
  lifecycle :=
    { loads := fun _ => fails .jsonDecodeError
      dictReader := fun _ => .ok []
      sha256 := fun _ => []
      hmacSha256 := fun _ _ => [] }

/-- The files. -/
def timeoutCheckout : DocumentCheckout where
  isAbsolute _ := false
  resolve := .ok
  isInside _ := true
  readText path :=
    if path = "SPEC_VERSION" then .ok "unreleased\n"
    else (Repository.ofDocuments timeoutDocuments ∅).readText path
  schemaFiles := {"schemas/timeout.schema.json"}
  file := id
  vectorFiles := {"test-vectors/ptt-timeout-v1.json"}
  tags := .ok ""
  readUtf8 _ := .ok "openapi: 3.1.0\npaths: \x7b\x7d\n"
  uriOf path := .ok ("file:///" ++ path)

section Timeout
variable {path : String} {value : Json}

theorem timeoutCheckout_missing (hpath : path ∈ suitePaths)
    (hvector : path ≠ "test-vectors/ptt-timeout-v1.json") :
    timeoutCheckout.readText path = .error (.osError "No such file or directory") := by
  have hmissing : ∀ path ∈ suitePaths, path ≠ "test-vectors/ptt-timeout-v1.json" →
      path ≠ "SPEC_VERSION" ∧ (timeoutDocuments.lookup path).isNone = true := by decide
  obtain ⟨hspec, hnone⟩ := hmissing path hpath hvector
  simp [timeoutCheckout, hspec, Repository.ofDocuments, Option.isNone_iff_eq_none.mp hnone]

/-- The text of a document is read, and loaded as the document. -/
theorem loads_timeoutDocuments (hpath : path ≠ "SPEC_VERSION")
    (h : timeoutDocuments.lookup path = some value)
    (hfloat : noFloat value = true) : timeoutCheckout.readText path = .ok (.ofList (dumps value)) ∧
      timeoutLibrary.documents.loads (.ofList (dumps value)) = .ok value := by
  constructor
  · simp [timeoutCheckout, hpath, Repository.ofDocuments, h]
  · cases hfind : timeoutDocuments.find? fun document => dumps document.2 = dumps value with
    | none => exact absurd (List.find?_eq_none.mp hfind _ (mem_of_lookup h)) (by simp)
    | some document =>
      have hdumps := List.find?_some hfind
      simp only [timeoutLibrary, Library.ofDocuments, String.toList_ofList, hfind]
      exact congrArg Except.ok (dumps_injective hfloat (of_decide_eq_true hdumps))

theorem loads_timeoutVector : timeoutCheckout.readText "test-vectors/ptt-timeout-v1.json" =
    .ok (.ofList (dumps timeoutVector)) ∧
    timeoutLibrary.documents.loads (.ofList (dumps timeoutVector)) = .ok timeoutVector :=
  loads_timeoutDocuments (by decide) rfl rfl

theorem loadJson_timeoutDocuments (hpath : path ≠ "SPEC_VERSION")
    (h : timeoutDocuments.lookup path = some value) (hfloat : noFloat value = true) :
    loadJson timeoutCheckout.toRepository timeoutLibrary.documents.toLibrary path = .ok value := by
  obtain ⟨hread, hloads⟩ := loads_timeoutDocuments hpath h hfloat
  rw [SchemaTargets.loadJson, hread]
  exact parse_eq_ok.mpr hloads

theorem loadPath_timeoutDocuments (hpath : path ≠ "SPEC_VERSION")
    (h : timeoutDocuments.lookup path = some value) (hfloat : noFloat value = true) :
    loadPath timeoutCheckout.toRepository timeoutLibrary.documents.toLibrary path = .ok value :=
  loadJson_timeoutDocuments hpath h hfloat

end Timeout

/-- And the document that the suites find. -/
def timeoutSnapshot : Snapshot timeoutLibrary.documents.toLibrary where
  toDocumentCheckout := timeoutCheckout
  root path :=
    if path = "test-vectors/ptt-timeout-v1.json" then .json timeoutVector
    else .unreadable "No such file or directory"
  holds := by
    intro path hpath
    by_cases hvector : path = "test-vectors/ptt-timeout-v1.json"
    · rw [if_pos hvector, hvector]
      exact .json loads_timeoutVector.1 loads_timeoutVector.2
    · rw [if_neg hvector]
      exact .unreadable (timeoutCheckout_missing hpath hvector)
  found := by
    intro path hpath text hread
    by_cases hvector : path = "test-vectors/ptt-timeout-v1.json"
    · exact Finset.mem_singleton.mpr hvector
    · cases hread.symm.trans (timeoutCheckout_missing hpath hvector)

theorem targetMet_timeout :
    TargetMet timeoutCheckout.toRepository timeoutLibrary.documents.toLibrary timeoutTarget
    (.str "schemas/timeout.schema.json") := by
  refine ⟨_, rfl, rfl, rfl, .obj [("type", .str "object")], timeoutVector, [timeoutVector],
    ⟨?_, ?_, rfl⟩, ?_⟩
  · exact ⟨_, rfl, loadPath_timeoutDocuments (by decide) rfl rfl⟩
  · exact ⟨_, timeoutVector, _, rfl, loadPath_timeoutDocuments (by decide) rfl rfl, rfl, rfl⟩
  · intro value _
    have hexpected : ∀ d, timeoutTarget = .obj d → expectedOf d = .str "valid" := by
      rintro d ⟨⟩
      rfl
    refine ⟨value, .inl ⟨rfl, rfl⟩, fun _ => rfl, ?_⟩
    rw [hexpected _ rfl]
    simp

theorem structuralAccepted_timeout : StructuralAccepted timeoutLibrary timeoutSnapshot where
  version := by
    refine ⟨"unreleased", ⟨.inl rfl, "unreleased\n", rfl, .inr ⟨['\n'], ?_, rfl⟩⟩,
      Finset.singleton_nonempty _, ?_⟩
    · exact .inr ⟨'\n', by decide, rfl⟩
    · intro path hpath
      cases Finset.mem_singleton.mp hpath
      exact ⟨_, _, loads_timeoutVector.1, loads_timeoutVector.2, rfl⟩
  schemas := by
    intro path hpath
    cases Finset.mem_singleton.mp hpath
    exact ⟨_, loadJson_timeoutDocuments (by decide) rfl rfl, rfl⟩
  openapi := ⟨_, rfl, _, rfl, _, ⟨rfl, rfl, _, rfl⟩, _, rfl, rfl⟩
  targets := by
    refine ⟨_, manifestSchema, loadPath_timeoutDocuments (by decide) rfl rfl,
      loadPath_timeoutDocuments (by decide) rfl rfl, rfl, .inr ⟨.arr [timeoutTarget], _, rfl, rfl,
      ?_, ?_⟩⟩
    · exact List.forall_mem_singleton.mpr ⟨_, targetMet_timeout⟩
    · intro path hpath
      cases Finset.mem_singleton.mp hpath
      exact ⟨_, List.mem_singleton_self _, targetMet_timeout⟩

end IncomUdon.Validator
