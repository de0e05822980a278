import IncomUdon.Lib.ExclusiveCursor
import IncomUdon.Lifecycle.Common

/-! Management SSE resume. A client that reconnects names the last event it got; the cursor is
    exclusive, so replay starts at the first authorized event with a greater ID. IDs are decimal text
    of at most 64 digits, leading zeros allowed: membership is tested on the text, order on the
    number.

    RESUME: asking again with each ID just returned yields exactly the authorized IDs past the first
    cursor, in order, and then `None`; retained IDs that are not authorized make no difference. -/

namespace IncomUdon.Lifecycle
open IncomUdon.Python IncomUdon.Loader IncomUdon.Lib.ErrorLog IncomUdon.Lib

/-- `_is_decimal_event_cursor`. -/
def isDecimalEventCursor : Json → Bool
  | .str s => s != "" && decide (s.length ≤ 64) && s.toList.all fun c => '0' ≤ c && c ≤ '9'
  | _ => false

/-- `int(event_id)` on decimal digits. -/
def decimalValue (eventId : String) : ℕ :=
  eventId.toList.foldl (fun value digit => 10 * value + (digit.toNat - '0'.toNat)) 0

/-- A decimal cursor, or `VectorValidationError(msg)` for any other value. -/
def asDecimalEventCursor (value : Json) (msg : Msg) : Py String :=
  match value with
  | .str s => if isDecimalEventCursor (.str s) then .ok s else invalid msg
  | _ => invalid msg

/-- The loop of `validate_ordered_ids`, from position `index` with the number before it. -/
def validateOrderedIdsFrom (label : Msg) (field : String) :
    (previous : Option ℕ) → (index : ℕ) → List Json → Py (List String)
  | _, _, [] => return []
  | previous, index, value :: values => do
    let eventId ← asDecimalEventCursor value
      (label.add [" ", field, "[", .val (.int index), "] is not a decimal cursor"])
    let numericId := decimalValue eventId
    require (∀ p ∈ previous, ¬numericId ≤ p)
      (label.add [" ", field, " must be strictly monotonic"])
    let eventIds ← validateOrderedIdsFrom label field (some numericId) (index + 1) values
    return eventId :: eventIds

/-- `validate_ordered_ids`. -/
def validateOrderedIds (label : Msg) (values : List Json) (field : String) : Py (List String) :=
  validateOrderedIdsFrom label field none 0 values

/-- `_select_first_authorized_replay_event`. -/
def selectFirstAuthorizedReplayEvent (case : Dict) (label : Msg) (selectedCursor : String) :
    Py (Option String) := do
  let missing := label.add [" must contain retained and authorized event IDs"]
  let retained ← asArray (Dict.get case "retained_event_ids") missing
  let authorized ← asArray (Dict.get case "authorized_event_ids") missing
  let retainedIds ← validateOrderedIds label retained "retained_event_ids"
  let authorizedIds ← validateOrderedIds label authorized "authorized_event_ids"
  require (∀ eventId ∈ authorizedIds, eventId ∈ retainedIds)
    (label.add [" authorized_event_ids must be retained"])
  require (selectedCursor ∈ retainedIds) (label.add [" selected cursor is not retained"])
  let selectedNumeric := decimalValue selectedCursor
  return authorizedIds.find? fun eventId => decimalValue eventId > selectedNumeric

/-! ### The fixtures -/

/-- The cursor a request selects: the header wins over the query parameter. -/
def selectedCursor (request : Dict) : Json :=
  if Dict.has request "last_event_id" then Dict.get request "last_event_id"
  else Dict.get request "since"

/-- The cursor is present and malformed. -/
def malformedCursor (cursor : Json) : Prop :=
  cursor.eq .null = false ∧ isDecimalEventCursor cursor = false

instance (cursor : Json) : Decidable (malformedCursor cursor) := inferInstanceAs (Decidable (_ ∧ _))

/-- No cursor: the stream starts live. -/
def checkLiveStart (case : Dict) (name : Msg) : Check Unit := do
  compare (name.add [" replay"]) (Dict.get case "replay") (.str "none")
  compare (name.add [" delivery"]) (Dict.get case "expected_delivery")
    (.str "subsequently_emitted_authorized_events_only")

/-- The cursor a case selects, where it comes from, and the first event replayed. -/
def checkReplayFrom (case request : Dict) (name : Msg) (cursor : String) : Check Unit := do
  let source := if Dict.has request "last_event_id" then "Last-Event-ID" else "since"
  compare (name.add [" selected cursor"]) (Dict.get case "selected_cursor") (.str cursor)
  compare (name.add [" cursor source"]) (Dict.get case "selected_cursor_source") (.str source)
  if Dict.has request "last_event_id" ∧ Dict.has request "since" then
    compare (name.add [" ignored query parameters"]) (Dict.get case "ignored_query_parameters")
      (.arr [.str "since"])
  let firstEvent ← selectFirstAuthorizedReplayEvent case name cursor
  compare (name.add [" first event"]) (Dict.get case "expected_first_event_id")
    (.ofString? firstEvent)

/-- One delivery-mode case. -/
def deliveryModeCase (case : Json) (index : ℕ) : Check Unit := do
  let case ← asObject case
    ["Management SSE delivery-mode case ", .val (.int index), " must be an object"]
  let name := nameLabel case ["Management SSE delivery-mode case ", .val (.int index)]
  let mode := Dict.get case "event_delivery"
  let known ← inNames mode ["disabled", "live", "replay"]
  require known (name.add [" has an invalid delivery mode or request"])
  let request ← asObject (Dict.get case "request")
    (name.add [" has an invalid delivery mode or request"])
  require (∀ member ∈ request, member.2.isString) (name.add [" request values must be strings"])
  let status := Dict.get case "expected_status"
  let hasSince := Dict.has request "since"
  if mode.eq (.str "disabled") then
    compare (name.add [" status"]) status (.int 404)
  else if mode.eq (.str "live") then
    compare (name.add [" status"]) status (.int (if hasSince then 400 else 200))
    if hasSince then
      compare (name.add [" rejection reason"]) (Dict.get case "expected_rejection_reason")
        (.str "since_unsupported_in_live_mode")
    else
      checkLiveStart case name
      if Dict.has request "last_event_id" then
        compare (name.add [" ignored header"]) (Dict.get case "ignored_headers")
          (.arr [.str "Last-Event-ID"])
  else
    let cursor := selectedCursor request
    compare (name.add [" status"]) status (.int (if malformedCursor cursor then 400 else 200))
    if malformedCursor cursor then
      compare (name.add [" rejection reason"]) (Dict.get case "expected_rejection_reason")
        (.str "invalid_selected_replay_cursor")
    else
      match cursor with
      | .str cursor => checkReplayFrom case request name cursor
      | _ => checkLiveStart case name

/-- One replay case. -/
def replayCase (case : Json) (index : ℕ) : Check Unit := do
  let case ← asObject case
    ["Management SSE replay case ", .val (.int index), " must be an object"]
  let name := nameLabel case ["Management SSE replay case ", .val (.int index)]
  let request ← asObject (Dict.get case "request") (name.add [" has an invalid request"])
  require (∀ member ∈ request, member.2.isString) (name.add [" has an invalid request"])
  let cursor := selectedCursor request
  let status := Dict.get case "expected_status"
  if malformedCursor cursor then
    compare (name.add [" status"]) status (.int 400)
    compare (name.add [" rejection reason"]) (Dict.get case "expected_rejection_reason")
      (.str "invalid_selected_replay_cursor")
  else if Dict.has case "cursor_state" then
    compare (name.add [" status"]) status (.int 410)
  else
    match cursor with
    | .str cursor => checkReplayFrom case request name cursor
    | _ => invalid (name.add [" must select a replay cursor"])

/-- `_validate_management_sse_resume`. -/
def validateManagementSseResume (root : Root) : Check Unit := do
  let document ← load root "test-vectors/management/event-stream-resume-v1.json"
  compare ["Management SSE cursor semantics"] (Dict.get document "cursor_semantics")
    (.str "exclusive")
  let deliveryCases ← asArray (Dict.get document "delivery_mode_cases")
    ["Management SSE delivery_mode_cases must be an array"]
  forM deliveryCases.zipIdx fun (case, index) => deliveryModeCase case index
  let replayCases ← asArray (Dict.get document "cases") ["Management SSE cases must be an array"]
  forM replayCases.zipIdx fun (case, index) => replayCase case index

/-! ### Every exception is caught -/

section Caught
variable {case request : Dict} {name label msg : Msg} {cursor field : String} {value : Json}
  {index : ℕ}

@[simp] theorem asDecimalEventCursor_caught : ThrowsOnly Caught (asDecimalEventCursor value msg) := by
  cases value <;> simp [asDecimalEventCursor]

theorem validateOrderedIdsFrom_caught {values : List Json} {previous : Option ℕ} :
    ThrowsOnly Caught (validateOrderedIdsFrom label field previous index values) := by
  induction values generalizing previous index with
  | nil => exact throwsOnly_pure _
  | cons value values ih => simp [validateOrderedIdsFrom, ih]

theorem checkReplayFrom_caught : RaisesOnly Caught (checkReplayFrom case request name cursor) := by
  simp [checkReplayFrom, selectFirstAuthorizedReplayEvent, validateOrderedIds,
    validateOrderedIdsFrom_caught]

theorem checkLiveStart_caught : RaisesOnly Caught (checkLiveStart case name) := by
  simp [checkLiveStart]

theorem deliveryModeCase_caught : RaisesOnly Caught (deliveryModeCase value index) := by
  simp only [deliveryModeCase, Run.liftM_eq, raisesOnly_bind, raisesOnly_lift, throwsOnly_asObject,
    throwsOnly_inNames, throwsOnly_require, caught_vectorValidation, caught_fault, handled, or_true,
    true_and, raisesOnly_ite, raisesOnly_compare, checkLiveStart_caught, raisesOnly_pure,
    implies_true]
  -- the last branch: a cursor that is not malformed is a string, or there is none
  intro case _ known _ _ _ request _ _ _ _ _ _ _ _
  cases selectedCursor request with
  | str cursor => exact checkReplayFrom_caught
  | _ => exact checkLiveStart_caught

theorem replayCase_caught : RaisesOnly Caught (replayCase value index) := by
  simp only [replayCase, Run.liftM_eq, raisesOnly_bind, raisesOnly_lift, throwsOnly_asObject,
    throwsOnly_require, caught_vectorValidation, or_true, true_and, raisesOnly_ite,
    raisesOnly_compare, implies_true]
  intro case _ request _ _ _ _ _
  cases selectedCursor request with
  | str cursor => exact checkReplayFrom_caught
  | _ => exact raisesOnly_lift.mpr (throwsOnly_invalid.mpr caught_vectorValidation)

/-- CAUGHT: the handler reports every exception of `_validate_management_sse_resume`. -/
theorem validateManagementSseResume_caught {root : Root} :
    RaisesOnly Caught (validateManagementSseResume root) := by
  have hdelivery : ∀ cases : List Json, RaisesOnly Caught
      (forM cases.zipIdx fun (case, index) => deliveryModeCase case index) := fun _ =>
    caught_forM_zipIdx fun _ _ => deliveryModeCase_caught
  have hreplay : ∀ cases : List Json, RaisesOnly Caught
      (forM cases.zipIdx fun (case, index) => replayCase case index) := fun _ =>
    caught_forM_zipIdx fun _ _ => replayCase_caught
  simp [validateManagementSseResume, hdelivery, hreplay]

end Caught

/-! ### Accepted lists -/

/-- Decimal IDs whose numbers strictly increase. -/
structure OrderedIds (ids : List String) : Prop where
  decimal : ∀ eventId ∈ ids, isDecimalEventCursor (.str eventId) = true
  increasing : ids.Pairwise fun x y => decimalValue x < decimalValue y

/-- The lists of a case hold these texts. -/
structure HasIds (case : Dict) (retained authorized : List String) : Prop where
  retained : Dict.get case "retained_event_ids" = .arr (retained.map .str)
  authorized : Dict.get case "authorized_event_ids" = .arr (authorized.map .str)

section Select
variable {label : Msg} {field : String} {case : Dict} {retained authorized : List String}

@[simp] theorem asDecimalEventCursor_eq_ok {value : Json} {msg : Msg} {eventId : String} :
    asDecimalEventCursor value msg = .ok eventId ↔
      value = .str eventId ∧ isDecimalEventCursor (.str eventId) = true := by
  cases value with
  | str s =>
    simp only [asDecimalEventCursor, Json.str.injEq]
    split
    · simp only [Except.ok.injEq]
      exact ⟨fun h => ⟨h, h ▸ ‹_›⟩, And.left⟩
    · simp only [invalid_ne_ok, false_iff, not_and]
      rintro rfl
      assumption
  | _ => simp [asDecimalEventCursor]

/-- The loop accepts exactly the ordered lists that continue the number before them. -/
theorem validateOrderedIdsFrom_eq_ok {ids : List String} {values : List Json}
    {previous : Option ℕ} {index : ℕ} :
    validateOrderedIdsFrom label field previous index values = .ok ids ↔
      values = ids.map .str ∧ OrderedIds ids ∧
        ∀ p ∈ previous, ∀ eventId ∈ ids, p < decimalValue eventId := by
  induction values generalizing previous index ids with
  | nil =>
    simp only [validateOrderedIdsFrom, pure, Except.pure, Except.ok.injEq]
    constructor
    · rintro rfl
      exact ⟨rfl, ⟨nofun, .nil⟩, nofun⟩
    · rintro ⟨h, -, -⟩
      exact (List.map_eq_nil_iff.mp h.symm).symm
  | cons value values ih =>
    simp only [validateOrderedIdsFrom, bind_eq_ok, asDecimalEventCursor_eq_ok, require_eq_ok, ih,
      pure, Except.pure, Except.ok.injEq, not_le]
    constructor
    · rintro ⟨eventId, ⟨rfl, hdec⟩, -, hprev, rest, ⟨rfl, hrest, hlt⟩, rfl⟩
      refine ⟨rfl, ⟨List.forall_mem_cons.mpr ⟨hdec, hrest.decimal⟩,
        List.pairwise_cons.mpr ⟨hlt _ rfl, hrest.increasing⟩⟩, fun p hp => ?_⟩
      exact List.forall_mem_cons.mpr ⟨hprev p hp, fun x hx => (hprev p hp).trans (hlt _ rfl x hx)⟩
    · rintro ⟨hmap, hids, hprev⟩
      obtain ⟨eventId, rest, rfl, rfl, rfl⟩ := List.map_eq_cons_iff.mp hmap.symm
      obtain ⟨hdec, hrest⟩ := List.forall_mem_cons.mp hids.decimal
      obtain ⟨hlt, hinc⟩ := List.pairwise_cons.mp hids.increasing
      refine ⟨eventId, ⟨rfl, hdec⟩, (), fun p hp => hprev p hp eventId List.mem_cons_self, rest,
        ⟨rfl, ⟨hrest, hinc⟩, ?_⟩, rfl⟩
      rintro _ ⟨⟩ x hx
      exact hlt x hx

theorem validateOrderedIds_eq_ok {ids : List String} {values : List Json} :
    validateOrderedIds label values field = .ok ids ↔ values = ids.map .str ∧ OrderedIds ids := by
  simp [validateOrderedIds, validateOrderedIdsFrom_eq_ok]

/-- What the function accepts, and what it answers then. -/
theorem selectFirst_eq_ok {cursor : String} {first : Option String} :
    selectFirstAuthorizedReplayEvent case label cursor = .ok first ↔
      ∃ retained authorized, HasIds case retained authorized ∧ OrderedIds retained ∧
        OrderedIds authorized ∧ authorized ⊆ retained ∧ cursor ∈ retained ∧
        first = ExclusiveCursor.next decimalValue authorized (decimalValue cursor) := by
  simp only [selectFirstAuthorizedReplayEvent, bind_eq_ok, asArray_eq_ok, require_eq_ok,
    validateOrderedIds_eq_ok, pure, Except.pure, Except.ok.injEq, ExclusiveCursor.next]
  constructor
  · rintro ⟨_, hr, _, ha, retained, ⟨rfl, hret⟩, authorized, ⟨rfl, haut⟩, -, hsub, -, hc, rfl⟩
    exact ⟨retained, authorized, ⟨hr, ha⟩, hret, haut, hsub, hc, rfl⟩
  · rintro ⟨retained, authorized, hids, hret, haut, hsub, hc, rfl⟩
    exact ⟨_, hids.retained, _, hids.authorized, retained, ⟨rfl, hret⟩, authorized, ⟨rfl, haut⟩, (),
      hsub, (), hc, rfl⟩

theorem HasIds.unique {retained' authorized' : List String} (h : HasIds case retained authorized)
    (h' : HasIds case retained' authorized') : retained = retained' ∧ authorized = authorized' := by
  have hinj : Function.Injective (List.map Json.str) :=
    List.map_injective_iff.mpr fun _ _ => Json.str.inj
  exact ⟨hinj (Json.arr.inj (h.retained.symm.trans h'.retained)),
    hinj (Json.arr.inj (h.authorized.symm.trans h'.authorized))⟩

end Select

/-! ### The whole replay -/

/-- Query with `cursor`, then with each ID returned, for at most the given number of calls: the IDs
    in the order returned once a call answers `None`, nothing when the calls did not get that far. -/
def replayFrom (case : Dict) (label : Msg) : (calls : ℕ) → (cursor : String) →
    Py (Option (List String))
  | 0, _ => return none
  | calls + 1, cursor => do
    match ← selectFirstAuthorizedReplayEvent case label cursor with
    | none => return some []
    | some eventId => return (← replayFrom case label calls eventId).map (eventId :: ·)

/-- The authorized IDs numerically greater than the cursor. -/
def authorizedAfter (authorized : List String) (cursor : String) : List String :=
  authorized.filter fun eventId => decimalValue cursor < decimalValue eventId

section Replay
variable {label : Msg} {case : Dict} {retained authorized : List String}

/-- Over accepted lists the replay is complete after one call more than it has IDs. -/
theorem replayFrom_eq (hids : HasIds case retained authorized) (hret : OrderedIds retained)
    (haut : OrderedIds authorized) (hsub : authorized ⊆ retained) (calls : ℕ) {cursor : String}
    (hc : cursor ∈ retained) :
    replayFrom case label calls cursor
      = .ok (if (authorizedAfter authorized cursor).length < calls
          then some (authorizedAfter authorized cursor) else none) := by
  induction calls generalizing cursor with
  | zero => rfl
  | succ calls ih =>
    have hselect : selectFirstAuthorizedReplayEvent case label cursor = .ok _ := selectFirst_eq_ok.mpr
      ⟨retained, authorized, hids, hret, haut, hsub, hc, rfl⟩
    rw [replayFrom, hselect]
    cases hnext : ExclusiveCursor.next decimalValue authorized (decimalValue cursor) with
    | none =>
      have hafter : authorizedAfter authorized cursor = [] :=
        ExclusiveCursor.after_of_next_none hnext
      rw [hafter]
      rfl
    | some eventId =>
      have hafter : authorizedAfter authorized cursor
          = eventId :: authorizedAfter authorized eventId :=
        ExclusiveCursor.after_of_next_some haut.increasing hnext
      have hmem : eventId ∈ authorized := List.mem_of_find?_eq_some hnext
      simp only [bind, Except.bind, ih (hsub hmem), hafter, List.length_cons,
        Nat.add_lt_add_iff_right, pure, Except.pure]
      split <;> rfl

/-- RESUME: for lists that the function accepts and a retained cursor, the replay yields exactly the
    authorized IDs past the cursor, in increasing order, and then `None`. It stays the same when
    retained IDs other than the cursor come or go, as long as they are not authorized. -/
theorem replayFrom_complete (case : Dict) (label : Msg) (accepted : String)
    (retained authorized : List String) (first : Option String)
    (hids : HasIds case retained authorized)
    (hok : selectFirstAuthorizedReplayEvent case label accepted = .ok first)
    (cursor : String) (hc : cursor ∈ retained) :
    (∀ calls, replayFrom case label calls cursor
      = .ok (if (authorizedAfter authorized cursor).length < calls
          then some (authorizedAfter authorized cursor) else none)) ∧
    (authorizedAfter authorized cursor).Pairwise (fun x y => decimalValue x < decimalValue y) ∧
    ∀ (case' : Dict) (label' : Msg) (retained' : List String), HasIds case' retained' authorized →
      OrderedIds retained' →
      (∀ eventId, eventId = cursor ∨ eventId ∈ authorized →
        (eventId ∈ retained' ↔ eventId ∈ retained)) →
      ∀ calls, replayFrom case' label' calls cursor = replayFrom case label calls cursor := by
  obtain ⟨retained₁, authorized₁, hids₁, hret, haut, hsub, -, -⟩ := selectFirst_eq_ok.mp hok
  obtain ⟨rfl, rfl⟩ := hids₁.unique hids
  have hreplay : ∀ calls, replayFrom case label calls cursor = .ok _ := fun calls =>
    replayFrom_eq hids hret haut hsub calls hc
  refine ⟨hreplay, haut.increasing.filter _, fun case' label' retained' hids' hret' hsame calls => ?_⟩
  have hsub' : authorized₁ ⊆ retained' := fun eventId h => (hsame eventId (.inr h)).mpr (hsub h)
  have hc' : cursor ∈ retained' := (hsame cursor (.inl rfl)).mpr hc
  rw [hreplay, replayFrom_eq hids' hret' haut hsub' calls hc']

/-- A replay from an ID that is retained but not authorized; one ID has a leading zero. -/
theorem replayFrom_complete_leading_zero :
    replayFrom [("retained_event_ids", .arr [.str "7", .str "08", .str "12"]),
        ("authorized_event_ids", .arr [.str "08", .str "12"])] ["case"] 3 "7"
      = .ok (some ["08", "12"]) :=
  (replayFrom_complete [("retained_event_ids", .arr [.str "7", .str "08", .str "12"]),
    ("authorized_event_ids", .arr [.str "08", .str "12"])] ["case"] "08" ["7", "08", "12"]
    ["08", "12"] (some "12") ⟨rfl, rfl⟩ (by rfl) "7" (by decide)).1 3

end Replay

end IncomUdon.Lifecycle
