import Mathlib.Data.List.Nodup
import IncomUdon.Lifecycle.PrivateControlLink.ServiceId

/-! Private Control Link: what the authorization files of the relay may say about a service. The
    services are put in a set, row by row, and a row of the other two files must be in it:

        management-services.csv ──▶ { service ID }
                                         ▲  ▲
        management-channel-acl.csv ──────┘  └────── management-global-permissions.csv

    A set keeps neither how often a service is listed nor whether it is enabled.

    RULES: accepted files follow the rules exactly when no service is listed twice and no disabled
    service is named. -/

namespace IncomUdon.Lifecycle
open IncomUdon.Python IncomUdon.Loader IncomUdon.Lib.ErrorLog

/-- The rows of the three files of the fixture. -/
def HasCsvRows (lib : Library) (root : Root) (services acl permissions : List CsvRow) : Prop :=
  ∃ csv files, load root relayCsvPath = .ok csv ∧ Dict.get csv "valid" = .obj files ∧
    csvRows lib files "management-services.csv" = .ok services ∧
    csvRows lib files "management-channel-acl.csv" = .ok acl ∧
    csvRows lib files "management-global-permissions.csv" = .ok permissions

/-- A row names the service of a row of `management-services.csv`. -/
def Names (row service : CsvRow) : Prop :=
  ∃ serviceId, row "service_id" = some serviceId ∧ service "service_id" = some serviceId

/-- The service of the row may authenticate. -/
def Enabled (service : CsvRow) : Prop := service "enabled" = some "true"

/-- No service is listed twice. -/
def UniqueServices (services : List CsvRow) : Prop := (services.map (· "service_id")).Nodup

/-- The rules for the service IDs of the three files. -/
structure CsvRules (services acl permissions : List CsvRow) : Prop where
  unique : UniqueServices services
  enabled : ∀ row ∈ acl ++ permissions, ∃ service ∈ services, Names row service ∧ Enabled service

section Rules
variable {lib : Library} {root : Root} {shared : Json} {services acl permissions : List CsvRow}
  {configured : List String} {state state' : GlobalPermissions} {row service service' : CsvRow}

/-- The service of the row is in the set. -/
theorem any_configuredServices :
    (row "service_id").any (configuredServices services).contains = true ↔
    ∃ service ∈ services, Names row service := by
  simp only [Option.any_eq_true, List.contains_iff_mem, configuredServices, List.mem_filterMap, Names]
  constructor
  · rintro ⟨serviceId, hrow, service, hservice, hid⟩
    exact ⟨service, hservice, serviceId, hrow, hid⟩
  · rintro ⟨service, hservice, serviceId, hrow, hid⟩
    exact ⟨serviceId, hrow, service, hservice, hid⟩

/-- STEP: a row of the global permissions that is not reported names a configured service. -/
theorem known_of_globalPermissionRow (h : Clean (globalPermissionRow configured state row) state') :
    (row "service_id").any configured.contains = true := by
  by_contra hunknown
  have hskip : globalPermissionRow configured state row = globalPermissionRow.skip state
      "Managed Service global permission references an unconfigured service" :=
    if_pos fun hknown => hunknown hknown.2
  rw [hskip] at h
  simp [globalPermissionRow.skip] at h

/-- RUN: so do all rows of a file without a report. -/
theorem known_of_globalPermissions
    (h : Clean (permissions.foldlM (globalPermissionRow configured) state) state') :
    ∀ row ∈ permissions, (row "service_id").any configured.contains = true := by
  induction permissions generalizing state with
  | nil => exact nofun
  | cons row permissions ih =>
    rw [List.foldlM_cons, clean_bind] at h
    obtain ⟨next, hrow, hrest⟩ := h
    exact List.forall_mem_cons.mpr ⟨known_of_globalPermissionRow hrow, ih hrest⟩

/-- Accepted files name configured services. -/
theorem named_of_clean (hrows : HasCsvRows lib root services acl permissions)
    (hclean : Clean (checkCsvFiles lib root shared) ()) :
    ∀ row ∈ acl ++ permissions, ∃ service ∈ services, Names row service := by
  obtain ⟨csv, files, hcsv, hfiles, hservices, hacl, hpermissions⟩ := hrows
  simp only [checkCsvFiles, Run.liftM_eq, clean_bind, clean_lift, hcsv, Except.ok.injEq,
    exists_eq_left', hfiles, asObject_eq_ok, hservices, hacl, hpermissions, Json.obj.injEq] at hclean
  obtain ⟨_, -, _, haclRows, state, hpermissionRows, -⟩ := hclean
  intro row hrow
  rw [← any_configuredServices]
  rcases List.mem_append.mp hrow with hmem | hmem
  · have haclRow := clean_forM.mp haclRows row hmem
    simp only [aclRow, clean_bind, clean_reportIf, not_not] at haclRow
    exact haclRow.choose_spec.2
  · exact known_of_globalPermissions hpermissionRows row hmem

/-- Where no service is listed twice, a name determines its row. -/
theorem UniqueServices.eq_of_names (hunique : UniqueServices services) (hservice : service ∈ services)
    (hservice' : service' ∈ services) (h : Names row service) (h' : Names row service') :
    service = service' := by
  obtain ⟨serviceId, hrow, hid⟩ := h
  obtain ⟨serviceId', hrow', hid'⟩ := h'
  obtain rfl : serviceId = serviceId' := Option.some.inj (hrow.symm.trans hrow')
  exact List.inj_on_of_nodup_map hunique hservice hservice' (hid.trans hid'.symm)

/-- RULES: the files of an accepted fixture follow the rules exactly when no service is listed twice
    and none that is not enabled is named. -/
theorem csvFiles_rules_iff (hrows : HasCsvRows lib root services acl permissions)
    (hclean : Clean (checkCsvFiles lib root shared) ()) :
    CsvRules services acl permissions ↔ UniqueServices services ∧
      ∀ service ∈ services, ¬Enabled service → ∀ row ∈ acl ++ permissions, ¬Names row service := by
  constructor
  · rintro ⟨hunique, henabled⟩
    refine ⟨hunique, fun service hservice hdisabled row hrow hnames => hdisabled ?_⟩
    obtain ⟨service', hservice', hnames', hon⟩ := henabled row hrow
    rwa [hunique.eq_of_names hservice hservice' hnames hnames']
  · rintro ⟨hunique, hnamed⟩
    refine ⟨hunique, fun row hrow => ?_⟩
    obtain ⟨service, hservice, hnames⟩ := named_of_clean hrows hclean row hrow
    have hon : Enabled service := by
      by_contra hdisabled
      exact hnamed service hservice hdisabled row hrow hnames
    exact ⟨service, hservice, hnames, hon⟩

end Rules

/-! ### Small files -/

/-- A CSV file without quotes. -/
structure PlainCsv where
  columns : List String
  lines : List (List String)

/-- The text of the file. -/
def PlainCsv.text (file : PlainCsv) : String :=
  (file.columns :: file.lines).foldl (fun text cells => text ++ ",".intercalate cells ++ "\n") ""

/-- The rows of the file, as `csv.DictReader` reads them. -/
def PlainCsv.rows (file : PlainCsv) : List CsvRow :=
  file.lines.map fun cells column => (file.columns.zip cells).lookup column

/-- `management-services.csv` with one line for each digest and flag. -/
def servicesFile (services : List (String × String)) : PlainCsv where
  columns := ["service_id", "certificate_sha256", "api_role", "enabled"]
  lines := services.map fun (digest, enabled) => ["admin", digest, "admin", enabled]

/-- `management-channel-acl.csv` with one line. -/
def aclFile : PlainCsv where
  columns := ["service_id", "channel_id", "sender_id", "admission_role", "allow_listen", "allow_talk",
    "allow_interrupt", "interrupt_priority", "enabled"]
  lines := [["admin", "111", "9001", "recorder", "true", "false", "false", "0", "true"]]

/-- `management-global-permissions.csv` without a line. -/
def permissionsFile : PlainCsv where
  columns := ["service_id", "permission", "enabled"]
  lines := []

/-- A library that reads the texts of these files. -/
def fileLibrary (services : PlainCsv) : Library where
  loads _ := fails .jsonDecodeError
  dictReader text :=
    if text = permissionsFile.text then .ok permissionsFile.rows
    else if text = aclFile.text then .ok aclFile.rows
    else if text = services.text then .ok services.rows
    else fails .csvError
  sha256 _ := []
  hmacSha256 _ _ := []

/-- A relay with these files. -/
def fileRoot (services : PlainCsv) : Root := fun path =>
  if path = relayCsvPath then
    .json (.obj [
      ("valid", .obj [("management-services.csv", .str services.text),
        ("management-channel-acl.csv", .str aclFile.text),
        ("management-global-permissions.csv", .str permissionsFile.text)]),
      ("expected", .obj [("management_grant_inputs", .arr []),
        ("management_api_global_permissions", .arr [])])])
  else .unreadable "absent"

theorem hasCsvRows_fileRoot {services : PlainCsv}
    (hpermissions : services.text ≠ permissionsFile.text) (hacl : services.text ≠ aclFile.text) :
    HasCsvRows (fileLibrary services) (fileRoot services) services.rows aclFile.rows
      permissionsFile.rows := by
  have hdistinct : aclFile.text ≠ permissionsFile.text := by decide +kernel
  have hreadServices : (fileLibrary services).dictReader services.text = .ok services.rows := by
    simp [fileLibrary, hpermissions, hacl]
  have hreadAcl : (fileLibrary services).dictReader aclFile.text = .ok aclFile.rows := by
    simp [fileLibrary, hdistinct]
  have hreadPermissions : (fileLibrary services).dictReader permissionsFile.text
      = .ok permissionsFile.rows := by
    simp [fileLibrary]
  exact ⟨_, _, load_eq_ok.mpr (if_pos rfl), rfl, bind_eq_ok.mpr ⟨_, asString_eq_ok.mpr rfl,
    hreadServices⟩, bind_eq_ok.mpr ⟨_, asString_eq_ok.mpr rfl, hreadAcl⟩,
    bind_eq_ok.mpr ⟨_, asString_eq_ok.mpr rfl, hreadPermissions⟩⟩

/-- One enabled service. -/
def enabledService : PlainCsv :=
  servicesFile [("aaaaaaaaaaaaaaaaaaaaaaaaaaaaaaaaaaaaaaaaaaaaaaaaaaaaaaaaaaaaaaaa", "true")]

/-- One service, listed twice. -/
def repeatedService : PlainCsv :=
  servicesFile [("aaaaaaaaaaaaaaaaaaaaaaaaaaaaaaaaaaaaaaaaaaaaaaaaaaaaaaaaaaaaaaaa", "true"),
    ("bbbbbbbbbbbbbbbbbbbbbbbbbbbbbbbbbbbbbbbbbbbbbbbbbbbbbbbbbbbbbbbb", "true")]

/-- One disabled service. -/
def disabledService : PlainCsv :=
  servicesFile [("aaaaaaaaaaaaaaaaaaaaaaaaaaaaaaaaaaaaaaaaaaaaaaaaaaaaaaaaaaaaaaaa", "false")]

/-- An enabled service and a channel list that names it. -/
theorem csvFiles_rules_iff_enabled :
    CsvRules enabledService.rows aclFile.rows permissionsFile.rows ↔
      UniqueServices enabledService.rows ∧
        ∀ service ∈ enabledService.rows, ¬Enabled service →
          ∀ row ∈ aclFile.rows ++ permissionsFile.rows, ¬Names row service := by
  have hclean : Clean (checkCsvFiles (fileLibrary enabledService) (fileRoot enabledService)
      (.str "admin")) () := clean_of_isClean (by decide +kernel)
  exact csvFiles_rules_iff (hasCsvRows_fileRoot (by decide +kernel) (by decide +kernel)) hclean

/-- A service that is listed twice is accepted, and so is a disabled one that the channel list
    names. -/
theorem csvFiles_lenient :
    (HasCsvRows (fileLibrary repeatedService) (fileRoot repeatedService) repeatedService.rows
        aclFile.rows permissionsFile.rows ∧
      Clean (checkCsvFiles (fileLibrary repeatedService) (fileRoot repeatedService) (.str "admin")) () ∧
      ¬CsvRules repeatedService.rows aclFile.rows permissionsFile.rows) ∧
    HasCsvRows (fileLibrary disabledService) (fileRoot disabledService) disabledService.rows
        aclFile.rows permissionsFile.rows ∧
      Clean (checkCsvFiles (fileLibrary disabledService) (fileRoot disabledService) (.str "admin")) () ∧
      ¬CsvRules disabledService.rows aclFile.rows permissionsFile.rows := by
  have hrepeated : ¬(repeatedService.rows.map (· "service_id")).Nodup := by decide
  have hdisabled : ∀ service ∈ disabledService.rows, ¬service "enabled" = some "true" := by decide
  refine ⟨⟨hasCsvRows_fileRoot (by decide +kernel) (by decide +kernel),
      clean_of_isClean (by decide +kernel), fun h => hrepeated h.unique⟩,
    hasCsvRows_fileRoot (by decide +kernel) (by decide +kernel),
    clean_of_isClean (by decide +kernel), fun h => ?_⟩
  obtain ⟨service, hservice, -, hon⟩ := h.enabled _ List.mem_cons_self
  exact hdisabled service hservice hon

end IncomUdon.Lifecycle
