import IncomUdon.Lifecycle.Directory.Pagination

/-! What the pages of a staged snapshot are asked before it replaces the previous one. The flags, the
    positions and the last cursor are read; the count and the other cursors are not:

        complete, index 0, 1, …, last cursor null      replace
        and each count is the number of pages          not asked
        and each page but the last has a cursor        not asked

    STAGED: a replaced snapshot is whole exactly when what is not asked holds anyway. -/

namespace IncomUdon.Lifecycle
open IncomUdon.Python IncomUdon.Lib.ErrorLog

/-- Every page is complete and at its position, and the last names no further page. -/
structure SelfConsistent (pages : List Dict) : Prop where
  complete : ∀ page ∈ pages, (Dict.get page "complete").truthy = true
  inOrder : ∀ (i : ℕ) page, pages[i]? = some page → (Dict.get page "index").eq (.int i) = true
  ended : ∀ page ∈ pages.getLast?, Dict.get page "nextCursor" = .null

/-- Every page counts the pages that are there. -/
def CountsAgree (pages : List Dict) : Prop :=
  ∀ page ∈ pages, (Dict.get page "count").eq (.int pages.length) = true

/-- Every page but the last names a further one. -/
def CursorsContinue (pages : List Dict) : Prop :=
  ∀ page ∈ pages.dropLast, Dict.get page "nextCursor" ≠ .null

/-- All pages of the snapshot are there. -/
structure WholeSnapshot (pages : List Dict) : Prop extends SelfConsistent pages where
  counted : CountsAgree pages
  continued : CursorsContinue pages

section Pages
variable {case : Dict} {pages : List Dict} {name : Msg}

/-- FIXTURE: a case with `pages` reports nothing exactly when it expects what the pages decide. -/
theorem clean_pagesCase : Clean (pagesCase case name) () ↔
    ∃ complete, snapshotComplete case = .ok complete ∧ Dict.get case "expected" =
      .str (if complete then "replace_static_snapshot_atomically" else "retain_previous_snapshot") := by
  simp only [pagesCase, Run.liftM_eq, clean_bind, clean_lift, clean_compare, Json.eq_str_left]

/-- The indexes of the pages are compared with the positions. -/
theorem indexes_eq_range :
    (Json.arr (pages.map (Dict.get · "index"))).eq (.arr (Json.range pages.length)) = true ↔
      ∀ (i : ℕ) page, pages[i]? = some page → (Dict.get page "index").eq (.int i) = true := by
  rw [Json.eq_range, List.length_map]
  simp only [true_and, List.getElem?_map, Option.map_eq_some_iff]
  constructor
  · exact fun h i page hpage => h i _ ⟨page, hpage, rfl⟩
  · rintro h i _ ⟨page, hpage, rfl⟩
    exact h i page hpage

/-- `all` passes when every flag is set. -/
theorem allM_pageComplete : (pages.map Json.obj).allM pageComplete = .ok true ↔
    ∀ page ∈ pages, (Dict.get page "complete").truthy = true := by
  simp [allM_eq_true, pageComplete_eq_true, PageComplete]

/-- With all flags set, the positions and the last cursor decide. -/
theorem pagesComplete_of_complete {last : Dict} (hlast : pages.getLast? = some last)
    (hcomplete : ∀ page ∈ pages, (Dict.get page "complete").truthy = true) :
    pagesComplete (pages.map .obj) =
      .ok ((Json.arr (pages.map (Dict.get · "index"))).eq (.arr (Json.range pages.length)) &&
        (Dict.get last "nextCursor").eq .null) := by
  have hindexes : ((pages.map Json.obj).mapM fun page => getAttr page "index")
      = .ok (pages.map (Dict.get · "index")) := mapM_map_eq_ok fun _ _ => rfl
  have hlastItem : lastItem (pages.map Json.obj) = .ok (.obj last) := by
    rw [lastItem_eq_ok, List.getLast?_map, hlast]
    rfl
  rw [pagesComplete, allM_pageComplete.mpr hcomplete, hindexes, hlastItem, List.length_map]
  simp only [ok_bind]
  cases (Json.arr (pages.map (Dict.get · "index"))).eq (.arr (Json.range pages.length)) <;> rfl

/-- The decision is to replace exactly when the pages are self-consistent. -/
theorem pagesComplete_iff (hne : pages ≠ []) :
    pagesComplete (pages.map .obj) = .ok true ↔ SelfConsistent pages := by
  obtain ⟨last, hlast⟩ : ∃ last, pages.getLast? = some last :=
    Option.isSome_iff_exists.mp (by simpa using hne)
  constructor
  · intro h
    have hcomplete : ∀ page ∈ pages, (Dict.get page "complete").truthy = true := by
      obtain ⟨_ | _, hflags, hrest⟩ := bind_eq_ok.mp h
      · cases hrest
      · exact allM_pageComplete.mp hflags
    rw [pagesComplete_of_complete hlast hcomplete, Except.ok.injEq, Bool.and_eq_true,
      Json.eq_null] at h
    refine ⟨hcomplete, indexes_eq_range.mp h.1, ?_⟩
    rw [hlast]
    rintro page ⟨⟩
    exact h.2
  · intro h
    rw [pagesComplete_of_complete hlast h.complete, Except.ok.injEq, Bool.and_eq_true, Json.eq_null]
    exact ⟨indexes_eq_range.mpr h.inOrder, h.ended last hlast⟩

/-- STAGED: the pages replace the previous snapshot only as a whole exactly when self-consistent pages
    also agree on their count and continue each other. -/
theorem snapshotComplete_whole_iff (hpages : Dict.get case "pages" = .arr (pages.map .obj))
    (hne : pages ≠ []) :
    (snapshotComplete case = .ok true → WholeSnapshot pages) ↔
      (SelfConsistent pages → CountsAgree pages ∧ CursorsContinue pages) := by
  have hdecision : snapshotComplete case = .ok true ↔ SelfConsistent pages := by
    rw [snapshotComplete, hpages]
    exact pagesComplete_iff hne
  rw [hdecision]
  constructor
  · intro h hconsistent
    have hwhole := h hconsistent
    exact ⟨hwhole.counted, hwhole.continued⟩
  · intro h hconsistent
    have hrest := h hconsistent
    exact ⟨hconsistent, hrest.1, hrest.2⟩

end Pages

/-- A page with these members. -/
def stagedPage (index count : ℕ) (nextCursor : Json) : Dict :=
  [("index", .int index), ("count", .int count), ("nextCursor", nextCursor), ("complete", .bool true)]

/-- A pagination case that expects these pages to replace the previous snapshot. -/
def replacingCase (pages : List Dict) : Dict :=
  [("pages", .arr (pages.map .obj)), ("expected", .str "replace_static_snapshot_atomically")]

/-- Two pages of two. -/
theorem snapshotComplete_whole_iff_two :
    (snapshotComplete (replacingCase [stagedPage 0 2 (.str "next"), stagedPage 1 2 .null]) = .ok true →
      WholeSnapshot [stagedPage 0 2 (.str "next"), stagedPage 1 2 .null]) ↔
    (SelfConsistent [stagedPage 0 2 (.str "next"), stagedPage 1 2 .null] →
      CountsAgree [stagedPage 0 2 (.str "next"), stagedPage 1 2 .null] ∧
      CursorsContinue [stagedPage 0 2 (.str "next"), stagedPage 1 2 .null]) :=
  snapshotComplete_whole_iff rfl (List.cons_ne_nil _ _)

/-- The first page of two replaces the snapshot alone, and so do two pages that do not continue each
    other. -/
theorem snapshotComplete_truncated :
    (Clean (paginationCase (.obj (replacingCase [stagedPage 0 2 .null]))) () ∧
      ¬WholeSnapshot [stagedPage 0 2 .null]) ∧
    Clean (paginationCase (.obj (replacingCase [stagedPage 0 2 .null, stagedPage 1 2 .null]))) () ∧
      ¬WholeSnapshot [stagedPage 0 2 .null, stagedPage 1 2 .null] := by
  refine ⟨⟨clean_of_isClean (by decide), fun h => ?_⟩, clean_of_isClean (by decide), fun h => ?_⟩
  · exact absurd (h.counted _ List.mem_cons_self) (by decide)
  · exact h.continued _ List.mem_cons_self rfl

end IncomUdon.Lifecycle
