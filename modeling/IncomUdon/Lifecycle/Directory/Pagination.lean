import IncomUdon.Lifecycle.Common

/-! The Directory lifecycle: snapshot pagination. A staged snapshot replaces the previous one when its
    pages are all complete, in order, and the last of them names no further page.

    HANDLED: what the validator's handler does not catch, and when it comes to that. -/

namespace IncomUdon.Lifecycle
open IncomUdon.Python IncomUdon.Loader IncomUdon.Lib.ErrorLog

/-- `page.get("complete")`, as a truth value. -/
def pageComplete (page : Json) : Py Bool := Json.truthy <$> getAttr page "complete"

/-- All pages are complete, in order, and the last has no cursor. -/
def pagesComplete (pages : List Json) : Py Bool := do
  if !(← pages.allM pageComplete) then return false
  let indexes ← pages.mapM fun page => getAttr page "index"
  if !(Json.arr indexes).eq (.arr (Json.range pages.length)) then return false
  let last ← lastItem pages
  let cursor ← getAttr last "nextCursor"
  return cursor.eq .null

/-- `complete`: no value but an array is. -/
def snapshotComplete (case : Dict) : Py Bool :=
  match Dict.get case "pages" with
  | .arr pages => pagesComplete pages
  | _ => .ok false

/-- A case with `pages`. -/
def pagesCase (case : Dict) (name : Msg) : Check Unit := do
  let complete ← snapshotComplete case
  compare (name.add [" action"])
    (.str (if complete then "replace_static_snapshot_atomically" else "retain_previous_snapshot"))
    (Dict.get case "expected")

/-- A case with `receivedRevisions`. -/
def revisionsCase (case : Dict) (name : Msg) : Check Unit := do
  let revisions ← asSet (Dict.get case "receivedRevisions")
  compare (name.add [" action"])
    (.str (if setSize revisions > 1 then "discard_staged_snapshot_restart_pagination"
      else "replace_static_snapshot_atomically"))
    (Dict.get case "expected")

/-- One `snapshotPaginationCases` fixture. -/
def paginationCase (case : Json) : Check Unit := do
  let case ← asObject case ["Directory pagination case must be an object"]
  let name := nameLabel case ["pagination case"]
  if Dict.has case "pages" then pagesCase case name
  else if Dict.has case "receivedRevisions" then revisionsCase case name
  else compare (name.add [" action"]) (.str "retain_previous_snapshot") (Dict.get case "expected")

/-! ### What is read without an exception -/

/-- A page that is an object and complete, so that the next one is looked at. -/
def PageComplete (page : Json) : Prop := ∃ d, page = .obj d ∧ (Dict.get d "complete").truthy = true

/-- There is a page, and none before the first incomplete one is anything but an object. -/
def PagesReadable (pages : List Json) : Prop :=
  pages ≠ [] ∧ EachReached PageComplete IsObject pages

/-- What each kind of pagination case must have. -/
def PaginationCaseReadable (case : Json) : Prop :=
  ∃ d, case = .obj d ∧
    if Dict.has d "pages" then ∀ pages, Dict.get d "pages" = .arr pages → PagesReadable pages
    else if Dict.has d "receivedRevisions" then Hashables (Dict.get d "receivedRevisions")
    else True

section Readable
variable {case : Dict} {value : Json} {pages : List Json} {E : PyExc → Prop}

theorem pageComplete_eq_true : pageComplete value = .ok true ↔ PageComplete value := by
  cases value <;> simp [pageComplete, PageComplete, getAttr, Functor.map, Except.map, fails]

/-- The last page is read only when all are complete, and so objects. -/
theorem throwsOnly_pagesComplete (hattr : ¬E (.fault .attributeError))
    (hindex : ¬E (.fault .indexError)) :
    ThrowsOnly E (pagesComplete pages) ↔ PagesReadable pages := by
  have hpage : ∀ page, ThrowsOnly E (pageComplete page) ↔ IsObject page := fun page => by
    simp [pageComplete, IsObject, hattr]
  have hreach : ThrowsOnly E (pages.allM pageComplete) ↔ EachReached PageComplete IsObject pages :=
    throwsOnly_allM.trans (eachReached_congr (fun _ => pageComplete_eq_true) hpage)
  constructor
  · intro h
    refine ⟨?_, hreach.mp (throwsOnly_bind.mp h).1⟩
    rintro rfl
    exact hindex (throwsOnly_error.mp h)
  · rintro ⟨hne, hpages⟩
    refine throwsOnly_bind.mpr ⟨hreach.mpr hpages, fun complete hcomplete => ?_⟩
    cases complete with
    | false => simp
    | true =>
      have hobj : ∀ page ∈ pages, IsObject page := fun page hmem => by
        obtain ⟨d, hd, -⟩ := pageComplete_eq_true.mp (allM_eq_true.mp hcomplete page hmem)
        exact ⟨d, hd⟩
      have hindexes : ThrowsOnly E (pages.mapM fun page => getAttr page "index") :=
        throwsOnly_mapM fun page hmem => throwsOnly_getAttr.mpr (.inl (hobj page hmem))
      refine throwsOnly_bind.mpr ⟨hindexes, fun indexes _ => throwsOnly_ite.mpr ⟨fun _ => ?_,
        fun _ => ?_⟩⟩
      · simp
      · refine throwsOnly_bind.mpr ⟨throwsOnly_lastItem.mpr (.inl hne), fun last hlast => ?_⟩
        have hmem : last ∈ pages := List.mem_of_getLast? (lastItem_eq_ok.mp hlast)
        exact throwsOnly_bind.mpr
          ⟨throwsOnly_getAttr.mpr (.inl (hobj last hmem)), fun _ _ => throwsOnly_pure _⟩

theorem snapshotComplete_isOk :
    (∃ complete, snapshotComplete case = .ok complete) ↔
      ∀ pages, Dict.get case "pages" = .arr pages → PagesReadable pages := by
  rw [← throwsOnly_never]
  unfold snapshotComplete
  cases Dict.get case "pages" <;> simp [throwsOnly_pagesComplete]

theorem returns_paginationCase :
    Returns (paginationCase value) () ↔ PaginationCaseReadable value := by
  simp only [paginationCase, Run.liftM_eq, returns_bind, returns_lift, asObject_eq_ok,
    PaginationCaseReadable]
  refine exists_congr fun d => and_congr_right fun _ => ?_
  split_ifs <;>
    simp [-Bool.exists_bool, pagesCase, revisionsCase, asSet_isOk, snapshotComplete_isOk]

end Readable

/-! ### What is not caught -/

/-- The pages of a case can be read. -/
def PaginationCaseHandled (case : Json) : Prop :=
  ∀ d pages, case = .obj d → Dict.get d "pages" = .arr pages → PagesReadable pages

section Handled
variable {value : Json} {cases : List Json}

theorem raisesOnly_paginationCase :
    RaisesOnly Caught (paginationCase value) ↔ PaginationCaseHandled value := by
  have hcomplete : ∀ d, ThrowsOnly Caught (snapshotComplete d) ↔
      ∀ pages, Dict.get d "pages" = .arr pages → PagesReadable pages := fun d => by
    unfold snapshotComplete
    cases Dict.get d "pages" <;> simp [throwsOnly_pagesComplete]
  simp only [paginationCase, PaginationCaseHandled, pagesCase, revisionsCase, Run.liftM_eq,
    raisesOnly_bind, raisesOnly_lift, raisesOnly_ite, raisesOnly_compare, returns_lift,
    throwsOnly_asObject, asObject_eq_ok, throwsOnly_asSet, hcomplete, caught_vectorValidation,
    caught_fault, handled, or_true, implies_true, and_true, true_and]
  constructor
  · intro h d pages hd hpages
    exact h d hd (Dict.has_of_get_ne_null (by simp [hpages])) pages hpages
  · intro h d hd _ pages hpages
    exact h d pages hd hpages

/-- HANDLED: the loop raises only what is caught exactly when the cases that are looked at are
    handled. -/
theorem raisesOnly_paginationCases :
    RaisesOnly Caught (forM cases paginationCase) ↔
      EachReached PaginationCaseReadable PaginationCaseHandled cases :=
  raisesOnly_forM_iff.trans
    (eachReached_congr (fun _ => returns_paginationCase) fun _ => raisesOnly_paginationCase)

theorem returns_paginationCases :
    Returns (forM cases paginationCase) () ↔ ∀ case ∈ cases, PaginationCaseReadable case :=
  returns_forM.trans (forall₂_congr fun _ _ => returns_paginationCase)

end Handled

end IncomUdon.Lifecycle
