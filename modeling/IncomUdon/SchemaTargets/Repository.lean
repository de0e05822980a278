import Mathlib.Data.Finset.Defs
import IncomUdon.Python.JsonText

/-! Files by relative path, `repository_path` and `load_json`. Of the failures on the way only these
    are a `VectorValidationError`; any other exception goes through:

        relative ──▶ absolute?  ──▶ resolved ──▶ outside the root?  ──▶ text ──▶ JSON
                       caught                         caught         OSError   JSONDecodeError  -/

namespace IncomUdon.SchemaTargets
open IncomUdon.Python IncomUdon.Lib.ErrorLog

/-- Why a file has no text: an `OSError` with its text, or another exception, such as that of bytes
    that are no UTF-8. -/
inductive ReadError where
  | osError (reason : String)
  | other (kind : Fault)

/-- What the operating system answers about the files of a root. -/
structure Repository where
  /-- `Path(relative).is_absolute()`. -/
  isAbsolute : String → Bool
  /-- `(root.resolve() / relative).resolve()`. -/
  resolve : String → Except Fault String
  /-- `resolved.relative_to(root.resolve())` is no `ValueError`. -/
  isInside : String → Bool
  /-- `path.read_text(encoding="utf-8-sig")`. -/
  readText : String → Except ReadError String
  /-- The files `*.json` under `schemas/`, relative to the root. -/
  schemaFiles : Finset String

/-- An error of `iter_errors`. -/
structure Violation where
  absolutePath : List Json
  message : String

/-- The library functions that the validator calls. -/
structure Library where
  /-- `json.loads`. -/
  loads : String → Except Fault Json
  /-- `list(Draft202012Validator(schema).iter_errors(instance))`. -/
  iterErrors : Json → Json → List Violation

variable (repo : Repository) (lib : Library)

/-- `repository_path`. -/
def repositoryPath (relative : String) : Py String := do
  require (repo.isAbsolute relative = false) ["path must be repository-relative: ", relative]
  match repo.resolve relative with
  | .error kind => fails kind
  | .ok resolved =>
    require (repo.isInside resolved = true) ["path escapes repository root: ", relative]
    return resolved

/-- `json.loads(text)`, with `msg` before the text of a `JSONDecodeError`. -/
def parse (text : String) (msg : Msg) : Py Json :=
  match lib.loads text with
  | .ok value => .ok value
  | .error .jsonDecodeError => invalid (msg.add [.fault .jsonDecodeError])
  | .error kind => fails kind

/-- `load_json`. -/
def loadJson (path : String) : Py Json :=
  match repo.readText path with
  | .error (.osError reason) => invalid ["cannot read ", path, ": ", reason]
  | .error (.other kind) => fails kind
  | .ok text => parse lib text ["invalid JSON in ", path, ": "]

/-- `load_json(repository_path(root, relative))`. -/
def loadPath (relative : String) : Py Json := do
  let path ← repositoryPath repo relative
  loadJson repo lib path

/-- `load_json(repository_path(root, relative))`, where `Path(relative)` takes only a string. -/
def loadValue (relative : Json) : Py Json :=
  match relative with
  | .str path => loadPath repo lib path
  | _ => fails .typeError

/-! ### What is caught -/

/-- The text is JSON, or `json.loads` says with a `JSONDecodeError` that it is not. -/
def TextHandled (text : String) : Prop :=
  ∀ kind, lib.loads text = .error kind → kind = .jsonDecodeError

/-- Reading a file ends in a text that is handled or in an `OSError`. -/
def FileReadable (path : String) : Prop :=
  match repo.readText path with
  | .error (.osError _) => True
  | .error (.other _) => False
  | .ok text => TextHandled lib text

/-- A relative path is refused, or leads to a readable file. -/
def FileHandled (relative : String) : Prop :=
  repo.isAbsolute relative = true ∨ ∃ path, repo.resolve relative = .ok path ∧
    (repo.isInside path = true → FileReadable repo lib path)

section Handled
variable {repo lib}

@[simp] theorem parse_eq_ok {text : String} {msg : Msg} {value : Json} :
    parse lib text msg = .ok value ↔ lib.loads text = .ok value := by
  unfold parse
  rcases lib.loads text with kind | value
  · cases kind <;> simp
  · simp

theorem throwsOnly_parse {text : String} {msg : Msg} :
    ThrowsOnly IsValidation (parse lib text msg) ↔ TextHandled lib text := by
  unfold parse TextHandled
  rcases lib.loads text with kind | value
  · cases kind <;> simp
  · simp

theorem throwsOnly_loadJson {path : String} :
    ThrowsOnly IsValidation (loadJson repo lib path) ↔ FileReadable repo lib path := by
  unfold loadJson FileReadable
  rcases repo.readText path with (reason | kind) | text
  · simp
  · simp
  · exact throwsOnly_parse

theorem throwsOnly_loadPath {relative : String} :
    ThrowsOnly IsValidation (loadPath repo lib relative) ↔ FileHandled repo lib relative := by
  simp only [loadPath, repositoryPath, FileHandled, throwsOnly_bind, throwsOnly_require, bind_eq_ok,
    require_eq_ok, isValidation_vectorValidation, or_true, true_and]
  cases habsolute : repo.isAbsolute relative with
  | true => simp
  | false =>
    rcases repo.resolve relative with kind | path
    · simp
    · simp [bind_eq_ok, throwsOnly_loadJson, pure, Except.pure]

theorem throwsOnly_loadValue {relative : Json} :
    ThrowsOnly IsValidation (loadValue repo lib relative) ↔
    ∃ path, relative = .str path ∧ FileHandled repo lib path := by
  cases relative <;> simp [loadValue, throwsOnly_loadPath]

@[simp] theorem loadValue_eq_ok {relative value : Json} : loadValue repo lib relative = .ok value ↔
    ∃ path, relative = .str path ∧ loadPath repo lib path = .ok value := by
  cases relative <;> simp [loadValue]

end Handled

/-! ### A repository of JSON documents -/

/-- Each path holds the text of a JSON value; there are no other files. -/
def Repository.ofDocuments (documents : Dict) (schemaFiles : Finset String) : Repository where
  isAbsolute relative := relative.toList.head? = some '/'
  resolve := .ok
  isInside _ := true
  readText path :=
    match documents.lookup path with
    | some value => .ok (.ofList (dumps value))
    | none => .error (.osError "No such file or directory")
  schemaFiles := schemaFiles

/-- `json.loads` on these texts. -/
def Library.ofDocuments (documents : Dict) (iterErrors : Json → Json → List Violation) : Library where
  loads text :=
    match documents.find? fun document => dumps document.2 = text.toList with
    | some document => .ok document.2
    | none => .error .jsonDecodeError
  iterErrors := iterErrors

/-- A document without floats is loaded as it is. -/
theorem loadPath_ofDocuments {documents : Dict} {schemaFiles : Finset String}
    {check : Json → Json → List Violation} {path : String} {value : Json}
    (hpath : path.toList.head? ≠ some '/') (h : documents.lookup path = some value)
    (hfloat : noFloat value = true) :
    loadPath (.ofDocuments documents schemaFiles) (.ofDocuments documents check) path = .ok value := by
  have hresolve : repositoryPath (.ofDocuments documents schemaFiles) path = .ok path := by
    simp [repositoryPath, Repository.ofDocuments, hpath, bind_eq_ok, pure, Except.pure]
  have hloads : (Library.ofDocuments documents check).loads (.ofList (dumps value)) = .ok value := by
    cases hfind : documents.find? fun document => dumps document.2 = dumps value with
    | none => exact absurd (List.find?_eq_none.mp hfind _ (mem_of_lookup h)) (by simp)
    | some document =>
      have hdumps := List.find?_some hfind
      simp only [Library.ofDocuments, String.toList_ofList, hfind]
      exact congrArg Except.ok (dumps_injective hfloat (of_decide_eq_true hdumps))
  rw [loadPath, hresolve, ok_bind, loadJson]
  simp only [Repository.ofDocuments, h]
  exact parse_eq_ok.mpr hloads

end IncomUdon.SchemaTargets
