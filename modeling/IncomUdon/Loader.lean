import IncomUdon.Python.Outcome

/-! The repository as the validators see it: at each relative path a stored JSON value, or a file
    that cannot be read or parsed. Both failures are a `VectorValidationError`. A file on which
    `load_json` raises anything else (bytes that are not UTF-8, too deep a value, an integer of too
    many digits) is left out. -/

namespace IncomUdon.Loader
open IncomUdon.Python IncomUdon.Lib.ErrorLog

/-- What is stored at a path; `reason` is the text of the operating system or of the parser. -/
inductive Stored where
  | unreadable (reason : String)
  | malformed (reason : String)
  | json (value : Json)

/-- The repository root. -/
abbrev Root := String → Stored

/-- `load_json`. -/
def loadJson (root : Root) (path : String) : Py Json :=
  match root path with
  | .unreadable reason => invalid ["cannot read ", path, ": ", reason]
  | .malformed reason => invalid ["invalid JSON in ", path, ": ", reason]
  | .json value => .ok value

/-- `_load`: a vector file must contain an object. -/
def load (root : Root) (relative : String) : Py Dict := do
  let value ← loadJson root relative
  asObject value [relative, " must contain an object"]

@[simp] theorem loadJson_eq_ok {root : Root} {path : String} {value : Json} :
    loadJson root path = .ok value ↔ root path = .json value := by
  unfold loadJson; split <;> simp_all

@[simp] theorem load_eq_ok {root : Root} {relative : String} {document : Dict} :
    load root relative = .ok document ↔ root relative = .json (.obj document) := by
  simp [load, bind_eq_ok]

/-- Loading fails with a validation error only. -/
theorem throwsOnly_loadJson {E : PyExc → Prop} (h : ∀ msg, E (.vectorValidation msg))
    {root : Root} {path : String} : ThrowsOnly E (loadJson root path) := by
  unfold loadJson; split <;> simp [h]

theorem throwsOnly_load {E : PyExc → Prop} (h : ∀ msg, E (.vectorValidation msg))
    {root : Root} {relative : String} : ThrowsOnly E (load root relative) := by
  simp [load, throwsOnly_loadJson h, h]

end IncomUdon.Loader
