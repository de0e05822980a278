import IncomUdon.Lifecycle.PrivateControlLink.GrantHash

/-! Private Control Link: the Managed Service ID, on the surfaces that name one service:

        grant svc ── shared service ID ── PCL revocation target
                           │
        management-services.csv ── management-channel-acl.csv
                           └────── management-global-permissions.csv

    HANDLED: of all that is read here, only the parsing of a CSV text can raise what the handler does
    not catch. -/

namespace IncomUdon.Lifecycle
open IncomUdon.Python IncomUdon.Loader IncomUdon.Lib.ErrorLog

def relayCsvPath : String := "test-vectors/configuration/relay-csv-v1.json"

/-- `MANAGED_SERVICE_ID_GRAMMAR`. -/
def managedServiceIdGrammar : String := "^[A-Za-z0-9][A-Za-z0-9._-]\x7b0,127\x7d$"

/-- A full match of the grammar. -/
def isManagedServiceId (text : String) : Bool :=
  match text.toList with
  | [] => false
  | first :: rest =>
    first.isAlphanum && rest.length ≤ 127 &&
      rest.all fun c => c.isAlphanum || c == '.' || c == '_' || c == '-'

/-- `_is_managed_service_id`. -/
def isManagedServiceIdValue : Json → Bool
  | .str text => isManagedServiceId text
  | _ => false

/-! ### Managed Service ID -/

/-- One spelling of the `valid` or the `invalid` ones. -/
def spelling (expectation : String) (shouldMatch : Bool) (value : Json) (index : ℕ) :
    Check Unit := do
  let label : Msg := ["Managed Service ID ", expectation, " case ", .val (.int index)]
  let text ← asString value (label.add [" must be a string"])
  reportIf (isManagedServiceId text ≠ shouldMatch)
    (label.add [" does not match the canonical grammar"])

/-- The `valid` or the `invalid` spellings. -/
def checkSpellings (case : Dict) (expectation : String) (shouldMatch : Bool) : Check Unit := do
  let nonEmpty : Msg := ["Managed Service ID ", expectation, " cases must be a non-empty array"]
  let values ← asArray (Dict.get case expectation) nonEmpty
  require (values ≠ []) nonEmpty
  forM values.zipIdx fun (value, index) => spelling expectation shouldMatch value index

/-- The one command of the service ID vector. -/
def checkServiceCommand (commands : List Dict) (shared : Json) : Check Unit :=
  match commands with
  | [command] =>
    compare ["Managed Service ID PCL revocation target"] (Dict.get command "service_id") shared
  | _ => .append [["Managed Service ID cross-vector command must identify one valid message"]]

/-- The one hello message. -/
def checkHello (hellos : List Dict) (managementServiceId : Json) : Check Unit :=
  match hellos with
  | [hello] =>
    compare ["PCL management_service_id"] (Dict.get hello "management_service_id")
      managementServiceId
  | _ => .append [["Managed Service ID cross-vector must identify one PCL hello message"]]

/-- `service_id_cross_surface_vector`, up to the CSV files: the shared service ID. -/
def checkServiceId (document : Dict) (grantHash : GrantHash) : Check Json := do
  let case ← asObject (Dict.get document "service_id_cross_surface_vector")
    ["Private Control Link service_id_cross_surface_vector must be an object"]
  compare ["Managed Service ID grammar"] (Dict.get case "grammar") (.str managedServiceIdGrammar)
  reportIf (¬(Dict.get case "source_csv_vector").eq (.str relayCsvPath))
    ["Managed Service ID CSV source vector is incorrect"]
  reportIf (¬(Dict.get case "source_service_admission_vector").eq (.str serviceAdmissionPath))
    ["Managed Service ID Service Admission source vector is incorrect"]
  checkSpellings case "valid" true
  checkSpellings case "invalid" false
  let shared := Dict.get case "shared_service_id"
  compare ["Managed Service ID grant svc"] (Dict.get grantHash.claims "svc") shared
  reportIf (¬isManagedServiceIdValue shared) ["Managed Service ID shared value is not canonical"]
  checkServiceCommand
    (revocationCommands grantHash.messages (Dict.get case "pcl_command_message_id")) shared
  let managementServiceId := Dict.get case "pcl_management_service_id"
  checkHello (messagesOfType grantHash.messages "hello") managementServiceId
  reportIf (¬isManagedServiceIdValue managementServiceId)
    ["PCL management_service_id is not canonical"]
  return shared

/-! ### CSV files -/

/-- The rows of a CSV file of the fixture. -/
def csvRows (lib : Library) (files : Dict) (filename : String) : Py (List CsvRow) := do
  let text ← asString (Dict.get files filename)
    ["Managed Service ID CSV fixture lacks ", filename]
  lib.dictReader text

/-- The column is a Managed Service ID. -/
def isServiceCell (cell : Option String) : Bool := cell.any isManagedServiceId

/-- `configured_service_ids`, from the rows of `management-services.csv`. -/
def configuredServices (rows : List CsvRow) : List String :=
  rows.filterMap fun row => row "service_id"

/-- One row of `management-services.csv`. -/
def servicesRow (row : CsvRow) : Check Unit :=
  reportIf (¬isServiceCell (row "service_id"))
    ["Managed Service ID CSV fixture has invalid management-services.csv service_id"]

/-- One row of `management-channel-acl.csv`. -/
def aclRow (configured : List String) (row : CsvRow) : Check Unit := do
  reportIf (¬isServiceCell (row "service_id"))
    ["Managed Service ID CSV fixture has invalid management-channel-acl.csv service_id"]
  reportIf (¬(row "service_id").any configured.contains)
    ["Managed Service ID CSV fixture ACL references an unconfigured service"]

/-- The loop over `management-global-permissions.csv`: the pairs seen, and those that are enabled. -/
structure GlobalPermissions where
  seen : List (String × String)
  granted : List (String × String)

/-- One row of `management-global-permissions.csv`; a row that is reported is skipped. -/
def globalPermissionRow (configured : List String) (state : GlobalPermissions) (row : CsvRow) :
    Check GlobalPermissions :=
  let serviceId := row "service_id"
  let permission := row "permission"
  let enabled := row "enabled"
  let key := (serviceId.getD "", permission.getD "")
  if ¬(isServiceCell serviceId ∧ serviceId.any configured.contains) then
    skip "Managed Service global permission references an unconfigured service"
  else if ¬(permission = some "health.read" ∨ permission = some "service_admission.revoke") then
    skip "Managed Service global permission is not defined by Version 1"
  else if ¬(enabled = some "true" ∨ enabled = some "false") then
    skip "Managed Service global permission enabled value is not canonical"
  else if key ∈ state.seen then
    skip "Managed Service global permission is duplicated"
  else
    return ⟨key :: state.seen,
      if enabled = some "true" then state.granted ++ [key] else state.granted⟩
where
  skip (problem : String) : Check GlobalPermissions := do
    .append [[problem]]
    return state

/-- An entry of the permission list. -/
def permissionEntry (key : String × String) : Json :=
  .obj [("service_id", .str key.1), ("permission", .str key.2)]

/-- The sort key `(entry["service_id"], entry["permission"])`. -/
def permissionKey (entry : Json) : Py (Json × Json) := do
  let serviceId ← member entry "service_id"
  let permission ← member entry "permission"
  return (entry, .arr [serviceId, permission])

/-- `sorted(entries, key=...)`. -/
def sortedPermissions (entries : List Json) : Py (List Json) := do
  let keyed ← entries.mapM permissionKey
  let sorted ← sortedOn Prod.snd keyed
  return sorted.map Prod.fst

/-- One of `management_grant_inputs`. -/
def grantInput (configured : List String) (input : Json) (index : ℕ) : Check Unit := do
  let label : Msg := ["Managed Service ID grant input ", .val (.int index)]
  let input ← asObject input (label.add [" must be an object"])
  let serviceId := Dict.get input "service_id"
  if ¬isManagedServiceIdValue serviceId then .append [label.add [" is not canonical"]]
  else
    let known ← inNames serviceId configured
    reportIf (¬known) (label.add [" is not configured"])

/-- What the CSV fixture expects. -/
def checkExpectedCsv (csv : Dict) (configured : List String) (granted : List (String × String)) :
    Check Unit := do
  let lacks : Msg := ["Managed Service ID CSV fixture lacks management_grant_inputs"]
  let expected ← asObject (Dict.get csv "expected") lacks
  let inputs ← asArray (Dict.get expected "management_grant_inputs") lacks
  let permissions ← asArray (Dict.get expected "management_api_global_permissions")
    ["Managed Service ID CSV fixture lacks management_api_global_permissions"]
  let actual ← sortedPermissions (granted.map permissionEntry)
  let permissions ← sortedPermissions permissions
  compare ["Managed Service global permissions"] (.arr actual) (.arr permissions)
  forM inputs.zipIdx fun (input, index) => grantInput configured input index

/-- The CSV files: the configured services. -/
def checkCsvFiles (lib : Library) (root : Root) (shared : Json) : Check Unit := do
  let csv ← load root relayCsvPath
  let files ← asObject (Dict.get csv "valid")
    ["Managed Service ID CSV fixture must define valid files"]
  let services ← csvRows lib files "management-services.csv"
  forM services servicesRow
  let configured := configuredServices services
  let acl ← csvRows lib files "management-channel-acl.csv"
  forM acl (aclRow configured)
  let permissions ← csvRows lib files "management-global-permissions.csv"
  let state ← permissions.foldlM (globalPermissionRow configured) ⟨[], []⟩
  checkExpectedCsv csv configured state.granted
  let known ← inNames shared configured
  reportIf (¬known) ["Managed Service ID shared value is not configured by the CSV fixture"]

/-! ### What is read without an exception -/

/-- A list of texts that is not empty. -/
def SpellingsReadable (value : Json) : Prop :=
  ∃ values, value = .arr values ∧ values ≠ [] ∧ ∀ value ∈ values, ∃ text, value = .str text

/-- The spellings of the service ID vector are there. -/
def ServiceIdReadable (document : Dict) : Prop :=
  ∃ case, Dict.get document "service_id_cross_surface_vector" = .obj case ∧
    SpellingsReadable (Dict.get case "valid") ∧ SpellingsReadable (Dict.get case "invalid")

/-- The file is there and parses. -/
def CsvReadable (lib : Library) (files : Dict) (filename : String) : Prop :=
  ∃ text, Dict.get files filename = .str text ∧ ∃ rows, lib.dictReader text = .ok rows

section Readable
variable {document case files : Dict} {lib : Library} {grantHash : GrantHash}
  {expectation filename : String} {commands : List Dict} {shouldMatch : Bool} {u : Unit}

theorem returns_checkSpellings :
    Returns (checkSpellings case expectation shouldMatch) () ↔
      SpellingsReadable (Dict.get case expectation) := by
  have hloop : ∀ values : List Json, Returns (forM values.zipIdx fun (value, index) =>
      spelling expectation shouldMatch value index) () ↔ ∀ value ∈ values, ∃ text, value = .str text :=
    fun _ => returns_forM_zipIdx fun _ _ => by simp [spelling]
  simp [checkSpellings, SpellingsReadable, hloop]

@[simp] theorem returns_checkServiceCommand {shared : Json} :
    Returns (checkServiceCommand commands shared) u := by
  unfold checkServiceCommand
  split <;> simp

@[simp] theorem returns_checkHello {managementServiceId : Json} :
    Returns (checkHello commands managementServiceId) u := by
  unfold checkHello
  split <;> simp

theorem exists_returns_checkServiceId :
    (∃ shared, Returns (checkServiceId document grantHash) shared) ↔ ServiceIdReadable document := by
  simp [checkServiceId, ServiceIdReadable, exists_unit, returns_checkSpellings]

theorem csvRows_isOk :
    (∃ rows, csvRows lib files filename = .ok rows) ↔ CsvReadable lib files filename := by
  simp only [csvRows, CsvReadable, bind_eq_ok, asString_eq_ok]
  constructor
  · rintro ⟨rows, text, htext, hrows⟩
    exact ⟨text, htext, rows, hrows⟩
  · rintro ⟨text, htext, rows, hrows⟩
    exact ⟨rows, text, htext, hrows⟩

end Readable

/-! ### What is not caught -/

/-- Parsing the file raises nothing that the handler lets through. -/
def CsvHandled (lib : Library) (files : Dict) (filename : String) : Prop :=
  ∀ text, Dict.get files filename = .str text → ThrowsOnly Caught (lib.dictReader text)

/-- The CSV files, in the order they are parsed. -/
def csvFilenames : List String :=
  ["management-services.csv", "management-channel-acl.csv", "management-global-permissions.csv"]

section Handled
variable {document case files csv : Dict} {value shared : Json} {lib : Library} {root : Root}
  {grantHash : GrantHash} {filename : String} {commands : List Dict} {configured : List String}

theorem checkSpellings_caught {expectation : String} {shouldMatch : Bool} :
    RaisesOnly Caught (checkSpellings case expectation shouldMatch) := by
  have hloop : ∀ values : List Json, RaisesOnly Caught (forM values.zipIdx
      fun (value, index) => spelling expectation shouldMatch value index) := fun _ =>
    caught_forM_zipIdx fun _ _ => by simp [spelling]
  simp [checkSpellings, hloop]

@[simp] theorem checkServiceCommand_caught :
    RaisesOnly Caught (checkServiceCommand commands shared) := by
  unfold checkServiceCommand
  split <;> simp

@[simp] theorem checkHello_caught : RaisesOnly Caught (checkHello commands value) := by
  unfold checkHello
  split <;> simp

theorem checkServiceId_caught : RaisesOnly Caught (checkServiceId document grantHash) := by
  simp [checkServiceId, checkSpellings_caught]

theorem throwsOnly_csvRows :
    ThrowsOnly Caught (csvRows lib files filename) ↔ CsvHandled lib files filename := by
  simp [csvRows, CsvHandled]

theorem globalPermissionRow_caught {state : GlobalPermissions} {row : CsvRow} :
    RaisesOnly Caught (globalPermissionRow configured state row) := by
  simp [globalPermissionRow, globalPermissionRow.skip]

theorem sortedPermissions_caught {entries : List Json} :
    ThrowsOnly Caught (sortedPermissions entries) := by
  have hkey : ∀ entry, ThrowsOnly Caught (permissionKey entry) := fun entry => by
    simp [permissionKey]
  simp [sortedPermissions, throwsOnly_mapM, hkey]

theorem checkExpectedCsv_caught {granted : List (String × String)} :
    RaisesOnly Caught (checkExpectedCsv csv configured granted) := by
  have hloop : ∀ inputs : List Json, RaisesOnly Caught (forM inputs.zipIdx
      fun (input, index) => grantInput configured input index) := fun _ =>
    caught_forM_zipIdx fun _ _ => by simp [grantInput]
  simp [checkExpectedCsv, sortedPermissions_caught, hloop]

/-- HANDLED: the check raises only what is caught exactly when the CSV files that are parsed are
    handled. -/
theorem raisesOnly_checkCsvFiles :
    RaisesOnly Caught (checkCsvFiles lib root shared) ↔
      ∀ csv, root relayCsvPath = .json (.obj csv) → ∀ files, Dict.get csv "valid" = .obj files →
        EachReached (CsvReadable lib files) (CsvHandled lib files) csvFilenames := by
  have hservices : ∀ rows, RaisesOnly Caught (forM rows servicesRow) ∧
      Returns (forM rows servicesRow) () := fun rows =>
    ⟨raisesOnly_forM fun _ _ => by simp [servicesRow], returns_forM.mpr fun _ _ => by simp [servicesRow]⟩
  have hacl : ∀ configured rows, RaisesOnly Caught (forM rows (aclRow configured)) ∧
      Returns (forM rows (aclRow configured)) () := fun configured rows =>
    ⟨raisesOnly_forM fun _ _ => by simp [aclRow], returns_forM.mpr fun _ _ => by simp [aclRow]⟩
  have hpermissions : ∀ configured (rows : List CsvRow) state,
      RaisesOnly Caught (rows.foldlM (globalPermissionRow configured) state) := fun _ _ _ =>
    raisesOnly_foldlM fun _ _ _ => globalPermissionRow_caught
  simp [checkCsvFiles, throwsOnly_csvRows, csvFilenames, ← csvRows_isOk, hservices, hacl,
    hpermissions, checkExpectedCsv_caught]

end Handled

end IncomUdon.Lifecycle
