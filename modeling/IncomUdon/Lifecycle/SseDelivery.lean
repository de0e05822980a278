import IncomUdon.Lifecycle.SseResume

/-! What the management event stream answers to a connection, by its delivery mode and the two
    cursors a request may carry:

        disabled                                   404
        live      with since                       400
                  else                             200, from now on; Last-Event-ID is ignored
        replay    Last-Event-ID, else since:
                    malformed                      400
                    decimal                        200, from the first authorized event past it
                  neither                          200, from now on

    EXACT: a delivery case is accepted exactly when it shows this answer. SIBLINGS: a replay case
    shows the same answer as a delivery case in replay mode, but for the status of a replay, which
    it does not look at. -/

namespace IncomUdon.Lifecycle
open IncomUdon.Python IncomUdon.Loader IncomUdon.Lib.ErrorLog IncomUdon.Lib

/-- `event_delivery`. -/
inductive EventDelivery where
  | disabled | live | replay

/-- The modes by name. -/
def EventDelivery.name : EventDelivery → String
  | disabled => "disabled"
  | live => "live"
  | replay => "replay"

/-- The cursors of a request. -/
structure SseRequest where
  lastEventId : Option String
  since : Option String

/-- The header wins over the query parameter. -/
def SseRequest.cursor (request : SseRequest) : Option String := request.lastEventId.or request.since

/-- An answer, and what of the request it ignores. -/
inductive SseResponse where
  | notFound
  | sinceUnsupported
  | invalidCursor
  | liveStart (ignoresHeader : Bool)
  | replayFrom (cursor source : String) (ignoresSince : Bool)

/-- The answer. -/
def sseResponse (mode : EventDelivery) (request : SseRequest) : SseResponse :=
  match mode with
  | .disabled => .notFound
  | .live => if request.since.isSome then .sinceUnsupported else .liveStart request.lastEventId.isSome
  | .replay =>
    match request.cursor with
    | none => .liveStart false
    | some cursor =>
      if isDecimalEventCursor (.str cursor) then
        .replayFrom cursor (if request.lastEventId.isSome then "Last-Event-ID" else "since")
          (request.lastEventId.isSome && request.since.isSome)
      else .invalidCursor

/-! ### The fixtures of an answer -/

/-- The case expects this value. -/
def Expects (case : Dict) (field : String) (value : Json) : Prop :=
  (Dict.get case field).eq value = true

/-- The object of a request carries these cursors, and only strings. -/
structure CarriesCursors (members : Dict) (request : SseRequest) : Prop where
  strings : ∀ member ∈ members, member.2.isString = true
  lastEventId : members.lookup "last_event_id" = request.lastEventId.map Json.str
  since : members.lookup "since" = request.since.map Json.str

/-- The first event that the case expects is the first authorized one past a retained cursor. -/
def ShowsFirst (case : Dict) (cursor : String) : Prop :=
  ∃ retained authorized, HasIds case retained authorized ∧
    OrderedIds retained ∧ OrderedIds authorized ∧
    authorized ⊆ retained ∧ cursor ∈ retained ∧ Expects case "expected_first_event_id"
      (.ofString? (ExclusiveCursor.next decimalValue authorized (decimalValue cursor)))

/-- The case shows a replay from this cursor. -/
structure ShowsReplay (case : Dict) (cursor source : String) (ignoresSince : Bool) : Prop where
  selected : Expects case "selected_cursor" (.str cursor)
  selectedSource : Expects case "selected_cursor_source" (.str source)
  ignored : ignoresSince = true → Expects case "ignored_query_parameters" (.arr [.str "since"])
  first : ShowsFirst case cursor

/-- The case shows a stream from now on. -/
structure ShowsLiveStart (case : Dict) (ignoresHeader : Bool) : Prop where
  replay : Expects case "replay" (.str "none")
  delivery : Expects case "expected_delivery" (.str "subsequently_emitted_authorized_events_only")
  ignored : ignoresHeader = true → Expects case "ignored_headers" (.arr [.str "Last-Event-ID"])

/-- The case shows this answer of a service in some delivery mode. -/
def ShowsResponse (case : Dict) : SseResponse → Prop
  | .notFound => Expects case "expected_status" (.int 404)
  | .sinceUnsupported => Expects case "expected_status" (.int 400) ∧
      Expects case "expected_rejection_reason" (.str "since_unsupported_in_live_mode")
  | .invalidCursor => Expects case "expected_status" (.int 400) ∧
      Expects case "expected_rejection_reason" (.str "invalid_selected_replay_cursor")
  | .liveStart ignoresHeader => Expects case "expected_status" (.int 200) ∧
      ShowsLiveStart case ignoresHeader
  | .replayFrom cursor source ignoresSince => Expects case "expected_status" (.int 200) ∧
      ShowsReplay case cursor source ignoresSince

/-- The replay case shows this answer, or that the cursor is gone. -/
def ShowsReplayCase (case : Dict) : SseResponse → Prop
  | .replayFrom cursor source ignoresSince =>
      if Dict.has case "cursor_state" = true then Expects case "expected_status" (.int 410)
      else ShowsReplay case cursor source ignoresSince
  | .liveStart _ => Dict.has case "cursor_state" = true ∧ Expects case "expected_status" (.int 410)
  | response => ShowsResponse case response

section Cases
variable {members case : Dict} {request : SseRequest} {name label : Msg} {cursor : String}
  {value : Json} {index : ℕ}

/-- A member of a request is a string or is not there. -/
theorem lookup_of_strings {key : String} (h : ∀ member ∈ members, member.2.isString = true) :
    ∃ text : Option String, members.lookup key = text.map Json.str := by
  cases hlookup : members.lookup key with
  | none => exact ⟨none, rfl⟩
  | some value =>
    have hstring := h _ (mem_of_lookup hlookup)
    cases value with
    | str text => exact ⟨some text, rfl⟩
    | _ => cases hstring

theorem carriesCursors_of_strings (h : ∀ member ∈ members, member.2.isString = true) :
    ∃ request, CarriesCursors members request := by
  obtain ⟨lastEventId, hlast⟩ := lookup_of_strings h
  obtain ⟨since, hsince⟩ := lookup_of_strings h
  exact ⟨⟨lastEventId, since⟩, h, hlast, hsince⟩

namespace CarriesCursors

theorem has_lastEventId (h : CarriesCursors members request) :
    Dict.has members "last_event_id" = request.lastEventId.isSome := by
  rw [Dict.has, h.lastEventId, Option.isSome_map]

theorem has_since (h : CarriesCursors members request) :
    Dict.has members "since" = request.since.isSome := by
  rw [Dict.has, h.since, Option.isSome_map]

/-- What is selected is the cursor of the request, or `None`. -/
theorem selectedCursor_eq (h : CarriesCursors members request) :
    selectedCursor members = .ofString? request.cursor := by
  rw [selectedCursor, h.has_lastEventId, Dict.get, Dict.getD, Dict.get, Dict.getD, h.lastEventId,
    h.since]
  cases hlast : request.lastEventId with
  | none => cases hsince : request.since <;> simp [SseRequest.cursor, hlast, hsince, Json.ofString?]
  | some text => simp [SseRequest.cursor, hlast, Json.ofString?]

end CarriesCursors

theorem showsFirst_iff : (∃ first, selectFirstAuthorizedReplayEvent case name cursor = .ok first ∧
    (Dict.get case "expected_first_event_id").eq (.ofString? first) = true) ↔ ShowsFirst case cursor := by
  simp only [selectFirst_eq_ok]
  constructor
  · rintro ⟨_, ⟨retained, authorized, hids, hret, haut, hsub, hmem, rfl⟩, hfirst⟩
    exact ⟨retained, authorized, hids, hret, haut, hsub, hmem, hfirst⟩
  · rintro ⟨retained, authorized, hids, hret, haut, hsub, hmem, hfirst⟩
    exact ⟨_, ⟨retained, authorized, hids, hret, haut, hsub, hmem, rfl⟩, hfirst⟩

theorem clean_checkReplayFrom (h : CarriesCursors members request) :
    Clean (checkReplayFrom case members name cursor) () ↔ ShowsReplay case cursor
      (if request.lastEventId.isSome then "Last-Event-ID" else "since")
      (request.lastEventId.isSome && request.since.isSome) := by
  simp only [checkReplayFrom, h.has_lastEventId, h.has_since, Run.liftM_eq, clean_bind,
    clean_compare, clean_ite, clean_lift, showsFirst_iff, exists_const]
  constructor
  · rintro ⟨hselected, hsource, ⟨hboth, hignored, hshows⟩ | ⟨hnot, hshows⟩⟩
    · exact ⟨hselected, hsource, fun _ => hignored, hshows⟩
    · exact ⟨hselected, hsource, fun hboth => absurd ((Bool.and_eq_true _ _).mp hboth) hnot, hshows⟩
  · rintro ⟨hselected, hsource, hignored, hshows⟩
    refine ⟨hselected, hsource, ?_⟩
    by_cases hboth : request.lastEventId.isSome = true ∧ request.since.isSome = true
    · exact .inl ⟨hboth, hignored ((Bool.and_eq_true _ _).mpr hboth), hshows⟩
    · exact .inr ⟨hboth, hshows⟩

theorem clean_checkLiveStart {u : Unit} : Clean (checkLiveStart case name) u ↔
    (Dict.get case "replay").eq (.str "none") = true ∧
      (Dict.get case "expected_delivery").eq (.str "subsequently_emitted_authorized_events_only") = true := by
  simp only [checkLiveStart, clean_bind, clean_compare, exists_const]

/-- Only a cursor that is there can be malformed. -/
theorem malformedCursor_iff : malformedCursor (.ofString? request.cursor) ↔
    ∃ cursor ∈ request.cursor, isDecimalEventCursor (.str cursor) = false := by
  cases hcursor : request.cursor with
  | none => simp [malformedCursor, Json.ofString?, isDecimalEventCursor]
  | some cursor =>
    have hsome : (Json.str cursor).eq .null = false := rfl
    simp [malformedCursor, Json.ofString?, hsome]

/-- A malformed cursor is refused in replay mode. -/
theorem sseResponse_of_malformed (h : malformedCursor (.ofString? request.cursor)) :
    sseResponse .replay request = .invalidCursor := by
  obtain ⟨cursor, hcursor, hinvalid⟩ := malformedCursor_iff.mp h
  simp only [sseResponse, Option.mem_def.mp hcursor, hinvalid, Bool.false_eq_true, if_false]

/-- A decimal cursor is replayed from. -/
theorem sseResponse_of_decimal (hcursor : request.cursor = some cursor)
    (h : ¬malformedCursor (.ofString? request.cursor)) :
    sseResponse .replay request = .replayFrom cursor
      (if request.lastEventId.isSome then "Last-Event-ID" else "since")
      (request.lastEventId.isSome && request.since.isSome) := by
  have hdecimal : isDecimalEventCursor (.str cursor) = true := by
    rw [malformedCursor_iff, not_exists] at h
    simpa [hcursor] using h cursor
  simp only [sseResponse, hcursor, hdecimal, if_true]

theorem sseResponse_of_none (hcursor : request.cursor = none) :
    sseResponse .replay request = .liveStart false := by
  simp only [sseResponse, hcursor]

/-- The metadata that every delivery case has. -/
structure DescribesConnection (case : Dict) (mode : EventDelivery) (request : SseRequest) : Prop where
  mode : Dict.get case "event_delivery" = .str mode.name
  request : ∃ members, Dict.get case "request" = .obj members ∧ CarriesCursors members request

theorem clean_deliveryModeCase_of_describes {mode : EventDelivery}
    (h : DescribesConnection case mode request) :
    Clean (deliveryModeCase (.obj case) index) () ↔
      ShowsResponse case (sseResponse mode request) := by
  obtain ⟨hmode, members, hmembers, hcarries⟩ := h
  have hknown : inNames (.str mode.name) ["disabled", "live", "replay"] = .ok true := by cases mode <;> rfl
  simp only [deliveryModeCase, asObject, hmode, hmembers, hknown, Run.liftM_eq, clean_bind,
    clean_lift, Except.ok.injEq, exists_eq_left', require_eq_ok, exists_const, true_and]
  rw [and_iff_right hcarries.strings]
  cases mode with
  | disabled =>
    have hdisabled : (Json.str EventDelivery.disabled.name).eq (.str "disabled") = true := rfl
    rw [if_pos hdisabled, clean_compare]
    exact Iff.rfl
  | live =>
    have hdisabled : ¬(Json.str EventDelivery.live.name).eq (.str "disabled") = true := by decide
    have hlive : (Json.str EventDelivery.live.name).eq (.str "live") = true := rfl
    rw [if_neg hdisabled, if_pos hlive, hcarries.has_since, hcarries.has_lastEventId]
    cases hsince : request.since with
    | none =>
      simp only [sseResponse, hsince, Option.isSome_none, Bool.false_eq_true, if_false, clean_bind,
        clean_ite, clean_compare, clean_checkLiveStart, clean_pure, exists_const]
      constructor
      · rintro ⟨hstatus, ⟨hreplay, hdelivery⟩, ⟨-, hignored⟩ | ⟨hnone, -⟩⟩
        · exact ⟨hstatus, hreplay, hdelivery, fun _ => hignored⟩
        · exact ⟨hstatus, hreplay, hdelivery, fun hsome => absurd hsome hnone⟩
      · rintro ⟨hstatus, hreplay, hdelivery, hignored⟩
        refine ⟨hstatus, ⟨hreplay, hdelivery⟩, ?_⟩
        by_cases hsome : request.lastEventId.isSome = true
        · exact .inl ⟨hsome, hignored hsome⟩
        · exact .inr ⟨hsome, trivial⟩
    | some since =>
      simp only [sseResponse, hsince, Option.isSome_some, if_true, clean_bind, clean_compare,
        exists_const]
      exact Iff.rfl
  | replay =>
    have hdisabled : ¬(Json.str EventDelivery.replay.name).eq (.str "disabled") = true := by decide
    have hlive : ¬(Json.str EventDelivery.replay.name).eq (.str "live") = true := by decide
    rw [if_neg hdisabled, if_neg hlive, hcarries.selectedCursor_eq]
    by_cases hmalformed : malformedCursor (.ofString? request.cursor)
    · simp only [hmalformed, if_true, clean_bind, clean_compare, exists_const]
      rw [sseResponse_of_malformed hmalformed]
      exact Iff.rfl
    · simp only [hmalformed, if_false, clean_bind, clean_compare, exists_const]
      cases hcursor : request.cursor with
      | none =>
        rw [sseResponse_of_none hcursor]
        change _ ∧ Clean (checkLiveStart case _) () ↔ _
        rw [clean_checkLiveStart]
        constructor
        · rintro ⟨hstatus, hreplay, hdelivery⟩
          exact ⟨hstatus, hreplay, hdelivery, fun hfalse => absurd hfalse Bool.false_ne_true⟩
        · rintro ⟨hstatus, hreplay, hdelivery, -⟩
          exact ⟨hstatus, hreplay, hdelivery⟩
      | some cursor =>
        rw [sseResponse_of_decimal hcursor hmalformed]
        change _ ∧ Clean (checkReplayFrom case members _ cursor) () ↔ _
        rw [clean_checkReplayFrom hcarries]
        exact Iff.rfl

/-- EXACT: a delivery case is accepted exactly when it shows the answer to its connection. -/
theorem clean_deliveryModeCase : Clean (deliveryModeCase value index) () ↔ ∃ case mode request,
    value = .obj case ∧ DescribesConnection case mode request ∧
    ShowsResponse case (sseResponse mode request) := by
  constructor
  · intro hclean
    have hread := hclean
    simp only [deliveryModeCase, Run.liftM_eq, clean_bind, clean_lift, asObject_eq_ok,
      require_eq_ok] at hread
    obtain ⟨case, rfl, known, hknown, -, rfl, members, hmembers, -, hstrings, -⟩ := hread
    obtain ⟨request, hcarries⟩ := carriesCursors_of_strings hstrings
    have hmode : ∃ mode : EventDelivery, Dict.get case "event_delivery" = .str mode.name := by
      obtain ⟨name, hname, hmode⟩ := inNames_eq_true.mp hknown
      simp only [List.mem_cons, List.not_mem_nil, or_false] at hname
      rcases hname with rfl | rfl | rfl
      · exact ⟨.disabled, hmode⟩
      · exact ⟨.live, hmode⟩
      · exact ⟨.replay, hmode⟩
    obtain ⟨mode, hmode⟩ := hmode
    have hdescribes : DescribesConnection case mode request := ⟨hmode, members, hmembers, hcarries⟩
    exact ⟨case, mode, request, rfl, hdescribes,
      (clean_deliveryModeCase_of_describes hdescribes).mp hclean⟩
  · rintro ⟨case, mode, request, rfl, hdescribes, hshows⟩
    exact (clean_deliveryModeCase_of_describes hdescribes).mpr hshows

theorem clean_replayCase_of_carries (hmembers : Dict.get case "request" = .obj members)
    (hcarries : CarriesCursors members request) :
    Clean (replayCase (.obj case) index) () ↔ ShowsReplayCase case (sseResponse .replay request) := by
  simp only [replayCase, asObject, hmembers, Run.liftM_eq, clean_bind, clean_lift, Except.ok.injEq,
    exists_eq_left', require_eq_ok, exists_const]
  rw [and_iff_right hcarries.strings, hcarries.selectedCursor_eq]
  by_cases hmalformed : malformedCursor (.ofString? request.cursor)
  · simp only [hmalformed, if_true, clean_bind, clean_compare, exists_const]
    rw [sseResponse_of_malformed hmalformed]
    exact Iff.rfl
  · simp only [hmalformed, if_false, clean_ite, clean_compare]
    cases hcursor : request.cursor with
    | none =>
      rw [sseResponse_of_none hcursor]
      refine or_iff_left ?_
      rintro ⟨-, hinvalid⟩
      cases hinvalid
    | some cursor =>
      rw [sseResponse_of_decimal hcursor hmalformed, ShowsReplayCase]
      change _ ∨ _ ∧ Clean (checkReplayFrom case members _ cursor) () ↔ _
      rw [clean_checkReplayFrom hcarries]
      by_cases hstate : Dict.has case "cursor_state" = true
      · rw [if_pos hstate]
        exact ⟨fun h => (h.resolve_right fun hnot => hnot.1 hstate).2, fun h => .inl ⟨hstate, h⟩⟩
      · rw [if_neg hstate]
        exact ⟨fun h => (h.resolve_left fun hhas => hstate hhas.1).2, fun h => .inr ⟨hstate, h⟩⟩

/-- EXACT: a replay case is accepted exactly when it shows the answer in replay mode, or that the
    cursor is gone. -/
theorem clean_replayCase : Clean (replayCase value index) () ↔
    ∃ case members request, value = .obj case ∧
    Dict.get case "request" = .obj members ∧ CarriesCursors members request ∧
      ShowsReplayCase case (sseResponse .replay request) := by
  constructor
  · intro hclean
    have hread := hclean
    simp only [replayCase, Run.liftM_eq, clean_bind, clean_lift, asObject_eq_ok,
      require_eq_ok] at hread
    obtain ⟨case, rfl, members, hmembers, -, hstrings, -⟩ := hread
    obtain ⟨request, hcarries⟩ := carriesCursors_of_strings hstrings
    exact ⟨case, members, request, rfl, hmembers, hcarries,
      (clean_replayCase_of_carries hmembers hcarries).mp hclean⟩
  · rintro ⟨case, members, request, rfl, hmembers, hcarries, hshows⟩
    exact (clean_replayCase_of_carries hmembers hcarries).mpr hshows

end Cases

/-- The file: every case shows the answer to its connection. -/
structure ShowsSse (document : Dict) : Prop where
  semantics : Expects document "cursor_semantics" (.str "exclusive")
  deliveries : ∃ cases, Dict.get document "delivery_mode_cases" = .arr cases ∧ ∀ value ∈ cases,
    ∃ case mode request, value = .obj case ∧ DescribesConnection case mode request ∧
      ShowsResponse case (sseResponse mode request)
  replays : ∃ cases, Dict.get document "cases" = .arr cases ∧ ∀ value ∈ cases,
    ∃ case members request, value = .obj case ∧ Dict.get case "request" = .obj members ∧
      CarriesCursors members request ∧ ShowsReplayCase case (sseResponse .replay request)

/-- EXACT: the validator reports nothing exactly when every case shows the answer to its connection.
    SIBLINGS: for a connection in replay mode with a cursor that is not gone, a case is accepted as
    a delivery case exactly when it is accepted as a replay case and expects 200 for a decimal
    cursor. -/
theorem validateManagementSseResume_exact :
    (∀ root, Clean (validateManagementSseResume root) () ↔ ∃ document,
      load root "test-vectors/management/event-stream-resume-v1.json" = .ok document ∧
      ShowsSse document) ∧
    ∀ case request cursor index index', DescribesConnection case .replay request →
      request.cursor = some cursor →
      ¬Dict.has case "cursor_state" = true →
      (Clean (deliveryModeCase (.obj case) index) () ↔ Clean (replayCase (.obj case) index') () ∧
        (isDecimalEventCursor (.str cursor) = true → Expects case "expected_status" (.int 200))) := by
  refine ⟨fun root => ?_, fun case request cursor index index' hdescribes hcursor hstate => ?_⟩
  · simp only [validateManagementSseResume, Run.liftM_eq, clean_bind, clean_lift, clean_compare,
      asArray_eq_ok, exists_unit]
    constructor
    · rintro ⟨document, hdocument, hsemantics, deliveries, hdeliveries, hloop, replays,
        hreplays, hshows⟩
      exact ⟨document, hdocument, hsemantics,
        ⟨deliveries, hdeliveries, (clean_forM_zipIdx fun _ _ => clean_deliveryModeCase).mp hloop⟩,
        ⟨replays, hreplays, (clean_forM_zipIdx fun _ _ => clean_replayCase).mp hshows⟩⟩
    · rintro ⟨document, hdocument, hsemantics, ⟨deliveries, hdeliveries, hloop⟩, ⟨replays, hreplays,
        hshows⟩⟩
      exact ⟨document, hdocument, hsemantics, deliveries, hdeliveries,
        (clean_forM_zipIdx fun _ _ => clean_deliveryModeCase).mpr hloop, replays, hreplays,
        (clean_forM_zipIdx fun _ _ => clean_replayCase).mpr hshows⟩
  · obtain ⟨members, hmembers, hcarries⟩ := hdescribes.request
    rw [clean_deliveryModeCase_of_describes hdescribes, clean_replayCase_of_carries hmembers hcarries]
    by_cases hmalformed : malformedCursor (.ofString? request.cursor)
    · obtain ⟨malformed, hselected, hinvalid⟩ := malformedCursor_iff.mp hmalformed
      obtain rfl : malformed = cursor := Option.some.inj (hselected.symm.trans hcursor)
      rw [sseResponse_of_malformed hmalformed]
      refine (and_iff_left fun hdecimal => ?_).symm
      exact absurd hdecimal (hinvalid ▸ Bool.false_ne_true)
    · have hdecimal : isDecimalEventCursor (.str cursor) = true := by
        rw [malformedCursor_iff, not_exists] at hmalformed
        simpa [hcursor] using hmalformed cursor
      rw [sseResponse_of_decimal hcursor hmalformed, ShowsReplayCase, if_neg hstate, ShowsResponse]
      rw [forall_prop_of_true hdecimal, and_comm]

/-- A resume after event 12, of which event 13 is not authorized. -/
def resumedCase : Dict :=
  [("event_delivery", .str "replay"), ("request", .obj [("last_event_id", .str "12")]),
    ("retained_event_ids", .arr [.str "12", .str "13", .str "14"]),
    ("authorized_event_ids", .arr [.str "12", .str "14"]), ("expected_status", .int 200),
    ("selected_cursor", .str "12"), ("selected_cursor_source", .str "Last-Event-ID"),
    ("expected_first_event_id", .str "14")]

/-- It is accepted as a replay case, so also as a delivery case. -/
theorem validateManagementSseResume_exact_resumed :
    Clean (deliveryModeCase (.obj resumedCase) 0) () := by
  have hdescribes : DescribesConnection resumedCase .replay ⟨some "12", none⟩ :=
    ⟨rfl, _, rfl, by decide, rfl, rfl⟩
  have hsiblings := validateManagementSseResume_exact.2 resumedCase _ "12" 0 0 hdescribes rfl
    (by decide)
  exact hsiblings.mpr ⟨clean_of_isClean (by decide), fun _ => rfl⟩

end IncomUdon.Lifecycle
