import IncomUdon.Lifecycle.Directory.Registration
import IncomUdon.Lifecycle.FloorInterrupt
import IncomUdon.Lifecycle.MediaReplay
import IncomUdon.Lifecycle.Membership
import IncomUdon.Lifecycle.PrivateControlLink.Snapshot
import IncomUdon.Lifecycle.Release
import IncomUdon.Lifecycle.SseResume
import IncomUdon.Packet.Suite

/-! The lifecycle suite: nine validators in order, each inside one handler. An exception that the
    handler catches becomes one entry and the next validator runs; any other ends the suite:

        PTT timeout, membership lease, security mode registry,        always caught
        admission expiry, SSE resume, media replay
        Directory, Private Control Link, Floor Interrupt              caught, if handled

    HANDLED: when this suite and the packet suite both return, whatever is stored. -/

namespace IncomUdon.Lifecycle
open IncomUdon.Python IncomUdon.Loader IncomUdon.Packet IncomUdon.Lib.ErrorLog

/-- `validators`. -/
def validators (lib : Library) (root : Root) : List (String × Check Unit) :=
  [("PTT timeout", validatePttTimeout root),
    ("Membership lease", validateMembership root),
    ("Media security mode registry", validateMediaSecurityModeRegistry root),
    ("Admission expiry", validateAdmissionExpiry root),
    ("Management SSE resume", validateManagementSseResume root),
    ("Directory lifecycle", validateDirectoryLifecycle lib root),
    ("Private Control Link", validatePrivateControlLink lib root),
    ("Media replay", validateMediaReplay root),
    ("Floor Interrupt", validateFloorInterrupt lib root)]

/-- `validate_lifecycle_vectors`. -/
def validateLifecycleVectors (lib : Library) (root : Root) : Py (List Msg) := do
  let errors ← (validators lib root).mapM fun (label, validator) =>
    handle lifecycleCaught [label] validator
  return errors.flatten

/-- The stored values make no validator raise what its handler lets through. -/
structure RootHandled (lib : Library) (root : Root) : Prop where
  directory : ∀ document, root directoryPath = .json (.obj document) → DirectoryHandled lib document
  privateControlLink : ∀ document, root privateControlLinkPath = .json (.obj document) →
    PrivateControlLinkHandled lib root document
  floorInterrupt : ∀ document, root floorInterruptPath = .json (.obj document) →
    FloorInterruptHandled document
  packets : ∀ vectors, StoresVectors root vectors → ∀ vector ∈ vectors, VectorHandled vector

section Suite
variable {lib : Library} {root : Root}

/-- The suite returns exactly when every validator raises only what is caught. -/
theorem validateLifecycleVectors_isOk_iff :
    (∃ errors, validateLifecycleVectors lib root = .ok errors) ↔
      ∀ validator ∈ validators lib root, RaisesOnly Caught validator.2 := by
  have hreports : ∀ reports : List (List Msg),
      ThrowsOnly Never (pure reports.flatten : Py (List Msg)) :=
    fun reports => throwsOnly_pure reports.flatten
  rw [← throwsOnly_never, validateLifecycleVectors, throwsOnly_bind,
    and_iff_left fun reports _ => hreports reports, throwsOnly_never, mapM_isOk]
  exact forall₂_congr fun _ _ => handle_isOk

/-- HANDLED: the suite returns exactly when the three documents are handled. -/
theorem validateLifecycleVectors_isOk :
    (∃ errors, validateLifecycleVectors lib root = .ok errors) ↔
      (∀ document, root directoryPath = .json (.obj document) → DirectoryHandled lib document) ∧
      (∀ document, root privateControlLinkPath = .json (.obj document) →
        PrivateControlLinkHandled lib root document) ∧
      ∀ document, root floorInterruptPath = .json (.obj document) →
        FloorInterruptHandled document := by
  rw [validateLifecycleVectors_isOk_iff]
  simp only [validators, List.forall_mem_cons, List.not_mem_nil, false_imp_iff, implies_true,
    and_true, validatePttTimeout_caught, validateMembership_caught,
    validateMediaSecurityModeRegistry_caught, validateAdmissionExpiry_caught,
    validateManagementSseResume_caught, validateMediaReplay_caught, true_and,
    raisesOnly_validateDirectoryLifecycle, raisesOnly_validatePrivateControlLink,
    raisesOnly_validateFloorInterrupt]

/-- HANDLED: the lifecycle and the packet suite both return exactly when the stored values are
    handled. -/
theorem suites_return_iff_handled (lib : Library) (root : Root) :
    ((∃ errors, validateLifecycleVectors lib root = .ok errors) ∧
      ∃ errors, validatePacketEnvelopeVectors root = .ok errors) ↔ RootHandled lib root := by
  rw [validateLifecycleVectors_isOk, validatePacketEnvelopeVectors_isOk]
  constructor
  · rintro ⟨⟨hdirectory, hlink, hfloor⟩, hpackets⟩
    exact ⟨hdirectory, hlink, hfloor, hpackets⟩
  · rintro ⟨hdirectory, hlink, hfloor, hpackets⟩
    exact ⟨⟨hdirectory, hlink, hfloor⟩, hpackets⟩

end Suite

/-! ### Values that are not handled -/

/-- A Directory document with a snapshot that has no page. -/
def emptySnapshotDocument : Dict :=
  [("limits", .obj [("replayWindowSize", .int 64), ("maxActiveRegistrations", .int 64),
      ("registrationTtlSeconds", .int 90)]),
    ("replayWindowCases", .arr []), ("fragmentReassemblyCases", .arr []),
    ("snapshotPaginationCases", .arr [.obj [("name", .str "empty"), ("pages", .arr [])]])]

/-- A packet document with an array for a packet type. -/
def arrayTypeDocument : Dict :=
  [("vectors", .arr [.obj [("name", .str "ptt"), ("fields", .obj [("type", .arr [])]),
    ("payloadHex", .str "")]])]

/-- These two documents; every other file holds `null`. -/
def malformedRoot : Root := fun path =>
  .json (if path = directoryPath then .obj emptySnapshotDocument
    else if path = vectorPath then .obj arrayTypeDocument
    else .null)

/-- Both suites let an exception escape, though every file holds JSON. -/
theorem malformedRoot_escapes :
    (∀ path, ∃ value, malformedRoot path = .json value) ∧
      (∀ lib, validateLifecycleVectors lib malformedRoot = .error (.fault .indexError)) ∧
      validatePacketEnvelopeVectors malformedRoot = .error (.fault .typeError) :=
  ⟨fun _ => ⟨_, rfl⟩, fun _ => rfl, rfl⟩

end IncomUdon.Lifecycle
