import IncomUdon.Lib.RetainedLog
import IncomUdon.Lifecycle.SseResume

/-! A client of the management event stream over time. The service emits events with greater and
    greater IDs and keeps each for a while; the client asks with the last ID it got, and gets the
    first event past it that it is authorized for:

        emit ──▶ retained ──▶ purged        cursor ∉ retained: refused
                    │
                    ▼ selectFirstAuthorizedReplayEvent
                 received

    COMPLETE: in every run the client has received, in order and once each, the authorized events
    from its start up to its cursor. An event that it has not received is still ahead of it, or it
    is refused. -/

namespace IncomUdon.Lifecycle
open IncomUdon.Python IncomUdon.Loader IncomUdon.Lib.ErrorLog IncomUdon.Lib IncomUdon.Lib.RetainedLog

/-- The lists of a case are what the service retains, and what of it this client may get. -/
def Serves (authorized : String → Bool) (case : Dict) (retained : List String) : Prop :=
  HasIds case retained (retained.filter authorized)

/-- The service emits an event or lets the oldest go, or the client resumes. -/
inductive SseStep (authorized : String → Bool) (s : State String) : State String → Prop
  | emit (eventId : String) (hdecimal : isDecimalEventCursor (.str eventId) = true)
      (hnew : ∀ previous ∈ s.history, decimalValue previous < decimalValue eventId) :
      SseStep authorized s { s with retained := s.retained ++ [eventId] }
  | purge (oldest : String) (rest : List String) (hretained : s.retained = oldest :: rest) :
      SseStep authorized s { s with purged := s.purged ++ [oldest], retained := rest }
  | resume (case : Dict) (label : Msg) (eventId : String) (hcase : Serves authorized case s.retained)
      (hselect : selectFirstAuthorizedReplayEvent case label s.cursor = .ok (some eventId)) :
      SseStep authorized s { s with cursor := eventId, received := s.received ++ [eventId] }

/-- The error about a cursor that is not retained. -/
def cursorNotRetained (label : Msg) : Msg := label.add [" selected cursor is not retained"]

section Stream
variable {authorized : String → Bool} {s start : State String} {case : Dict} {label : Msg}
  {first : Option String}

theorem OrderedIds.filter {ids : List String} (h : OrderedIds ids) :
    OrderedIds (ids.filter authorized) :=
  ⟨fun eventId hmem => h.decimal eventId (List.mem_of_mem_filter hmem), h.increasing.filter _⟩

/-- ANSWER: over what the service retains, the function answers exactly for a retained cursor. -/
theorem selectFirst_of_serves (hcase : Serves authorized case s.retained)
    (hids : OrderedIds s.retained) :
    selectFirstAuthorizedReplayEvent case label s.cursor = .ok first ↔ s.cursor ∈ s.retained ∧
      first = ExclusiveCursor.next decimalValue (s.retained.filter authorized) (decimalValue s.cursor) := by
  rw [selectFirst_eq_ok]
  constructor
  · rintro ⟨retained, visible, hids', -, -, -, hcursor, rfl⟩
    obtain ⟨rfl, rfl⟩ := hids'.unique hcase
    exact ⟨hcursor, rfl⟩
  · rintro ⟨hcursor, rfl⟩
    exact ⟨s.retained, s.retained.filter authorized, hcase, hids, hids.filter,
      List.filter_sublist.subset, hcursor, rfl⟩

/-- REFUSED: a cursor that is not retained raises the error about it. -/
theorem selectFirst_of_not_retained (hcase : Serves authorized case s.retained)
    (hids : OrderedIds s.retained) (hcursor : s.cursor ∉ s.retained) :
    selectFirstAuthorizedReplayEvent case label s.cursor
      = .error (.vectorValidation (cursorNotRetained label)) := by
  have hretained : ∀ field, validateOrderedIds label (s.retained.map Json.str) field = .ok s.retained :=
    fun field => validateOrderedIds_eq_ok.mpr ⟨rfl, hids⟩
  have hauthorized : ∀ field, validateOrderedIds label ((s.retained.filter authorized).map Json.str) field
      = .ok (s.retained.filter authorized) := fun field => validateOrderedIds_eq_ok.mpr ⟨rfl, hids.filter⟩
  have hsubset : ∀ eventId ∈ s.retained.filter authorized, eventId ∈ s.retained :=
    fun _ => List.mem_of_mem_filter
  rw [selectFirstAuthorizedReplayEvent, hcase.retained, hcase.authorized]
  simp only [asArray, bind, Except.bind, hretained, hauthorized, require]
  rw [if_pos hsubset, if_neg hcursor]
  rfl

/-- The history stays ordered. -/
theorem SseStep.orderedIds {t : State String} (hstep : SseStep authorized s t)
    (hids : OrderedIds s.history) :
    OrderedIds t.history := by
  cases hstep with
  | emit eventId hdecimal hnew =>
    rw [State.history, ← List.append_assoc]
    refine ⟨?_, List.pairwise_append.mpr ⟨hids.increasing, List.pairwise_singleton .., ?_⟩⟩
    · exact List.forall_mem_append.mpr ⟨hids.decimal, List.forall_mem_singleton.mpr hdecimal⟩
    · exact fun previous hprevious _ hmem => List.mem_singleton.mp hmem ▸ hnew previous hprevious
  | purge oldest rest hretained =>
    rw [State.history, hretained] at hids
    rw [State.history, List.append_assoc]
    exact hids
  | resume case label eventId hcase hselect => exact hids

theorem OrderedIds.retained (h : OrderedIds s.history) : OrderedIds s.retained :=
  ⟨fun eventId hmem => h.decimal eventId (List.mem_append_right _ hmem), (List.pairwise_append.mp h.increasing).2.1⟩

/-- REFINES: a step of the service and its client is a step of the log and its reader. -/
theorem SseStep.refines {t : State String} (hstep : SseStep authorized s t)
    (hids : OrderedIds s.history) :
    Step decimalValue authorized s t := by
  cases hstep with
  | emit eventId _ hnew => exact .emit eventId hnew
  | purge oldest rest hretained => exact .purge oldest rest hretained
  | resume case label eventId hcase hselect =>
    obtain ⟨hcursor, hnext⟩ := (selectFirst_of_serves hcase hids.retained).mp hselect
    exact .read eventId hcursor hnext.symm

/-- REFINES: so is every run. -/
theorem sseRun_refines (hrun : Relation.ReflTransGen (SseStep authorized) start s)
    (hids : OrderedIds start.history) :
    OrderedIds s.history ∧ Relation.ReflTransGen (Step decimalValue authorized) start s := by
  induction hrun with
  | refl => exact ⟨hids, .refl⟩
  | tail _ hstep ih => exact ⟨hstep.orderedIds ih.1, ih.2.tail (hstep.refines ih.1)⟩

/-- COMPLETE: in every run, what the client has received and the authorized events past its cursor
    make up the authorized events past its start. It is told that there is no further event only
    when it has received all of them, and it is refused exactly when its cursor is gone, however the
    emissions, the purges and its requests come in between. -/
theorem sseStream_complete (authorized : String → Bool) (start s : State String)
    (hids : OrderedIds start.history)
    (hcursor : start.cursor ∈ start.history) (hfresh : start.received = [])
    (hrun : Relation.ReflTransGen (SseStep authorized) start s) :
    s.received ++ authorizedAfter (s.history.filter authorized) s.cursor
      = authorizedAfter (s.history.filter authorized) start.cursor ∧
    s.received.Pairwise (fun x y => decimalValue x < decimalValue y) ∧
    ∀ case label, Serves authorized case s.retained →
      (selectFirstAuthorizedReplayEvent case label s.cursor = .ok none →
        s.received = authorizedAfter (s.history.filter authorized) start.cursor) ∧
      (s.cursor ∈ s.retained ↔ ∃ first, selectFirstAuthorizedReplayEvent case label s.cursor = .ok first) ∧
      (s.cursor ∈ s.purged ↔ selectFirstAuthorizedReplayEvent case label s.cursor
        = .error (.vectorValidation (cursorNotRetained label))) := by
  obtain ⟨hordered, hrefined⟩ := sseRun_refines hrun hids
  have hcomplete : Complete decimalValue authorized start.cursor s :=
    (Complete.refl hids.increasing hcursor hfresh).run hrefined
  have hall := hcomplete.complete
  refine ⟨hall, ?_, fun case label hcase => ⟨fun hselect => ?_, ⟨fun hretained => ?_, ?_⟩,
    fun hpurged => ?_, ?_⟩⟩
  · have hsorted : (visibleAfter decimalValue authorized s (decimalValue start.cursor)).Pairwise
        fun x y => decimalValue x < decimalValue y := (hordered.increasing.filter _).filter _
    rw [← hall, List.pairwise_append] at hsorted
    exact hsorted.1
  · obtain ⟨hretained, hnext⟩ := (selectFirst_of_serves hcase hordered.retained).mp hselect
    exact hcomplete.received_of_next_none hretained hnext.symm
  · exact ⟨_, (selectFirst_of_serves hcase hordered.retained).mpr ⟨hretained, rfl⟩⟩
  · rintro ⟨first, hselect⟩
    exact ((selectFirst_of_serves hcase hordered.retained).mp hselect).1
  · refine selectFirst_of_not_retained hcase hordered.retained fun hretained => ?_
    exact lt_irrefl _ ((List.pairwise_append.mp hordered.increasing).2.2 _ hpurged _ hretained)
  · intro herror
    refine (List.mem_append.mp hcomplete.reached).resolve_right fun hretained => ?_
    rw [(selectFirst_of_serves hcase hordered.retained).mpr ⟨hretained, rfl⟩] at herror
    cases herror

/-- A client that may not get event 9 goes on past it, and past the purge of where it started. -/
theorem sseStream_complete_purged :
    ["08", "12"] ++ authorizedAfter ["7", "08", "12"] "12" = authorizedAfter ["7", "08", "12"] "7" :=
  (sseStream_complete (fun eventId => eventId != "9") ⟨[], ["7", "08"], "7", []⟩
    ⟨["7"], ["08", "9", "12"], "12", ["08", "12"]⟩ ⟨by decide, by decide⟩ (by decide) rfl
    (((((Relation.ReflTransGen.refl.tail (.emit "9" (by decide) (by decide))).tail
      (.resume [("retained_event_ids", .arr [.str "7", .str "08", .str "9"]),
        ("authorized_event_ids", .arr [.str "7", .str "08"])] ["case"] "08" ⟨rfl, rfl⟩ rfl)).tail
      (.emit "12" (by decide) (by decide))).tail (.purge "7" ["08", "9", "12"] rfl)).tail
      (.resume [("retained_event_ids", .arr [.str "08", .str "9", .str "12"]),
        ("authorized_event_ids", .arr [.str "08", .str "12"])] ["case"] "12" ⟨rfl, rfl⟩ rfl))).1

end Stream

end IncomUdon.Lifecycle
