import IncomUdon.Lifecycle.Common

/-! Private Control Link: Relay diagnostics. A snapshot of five counters is sent on request, at most
    one per poll interval. Within one counter epoch the counters never fall; a restart or a rollover
    begins a new epoch:

        epoch a:  0 ≤ c₀ ≤ c₁ ≤ … ≤ maximum ──rollover──▶ epoch b:  0 ≤ …

    A snapshot names no sensitive field at any depth.

    CAUGHT: the handler reports every exception of these checks. -/

namespace IncomUdon.Lifecycle
open IncomUdon.Python IncomUdon.Loader IncomUdon.Lib.ErrorLog

/-- An array of strings, or `VectorValidationError(msg)`. -/
def asStrings (value : Json) (msg : Msg) : Py (List String) := do
  let items ← asArray value msg
  items.mapM fun item => asString item msg

/-! ### Counters -/

/-- `expected_counter_names`. -/
def expectedCounterNames : List String :=
  ["ptt_requests_total", "grants_total", "denials_total", "preemptions_total",
    "unauthorized_rejections_total"]

/-- One value per counter. -/
structure Counters where
  pttRequests : ℕ
  grants : ℕ
  denials : ℕ
  preemptions : ℕ
  unauthorizedRejections : ℕ
  deriving DecidableEq

namespace Counters

/-- The values, in the order of `expected_counter_names`. -/
def values (counters : Counters) : List ℕ :=
  [counters.pttRequests, counters.grants, counters.denials, counters.preemptions,
    counters.unauthorizedRejections]

/-- `any(values.values())`. -/
def anyNonzero (counters : Counters) : Bool := counters.values.any (· ≠ 0)

/-- Some counter is lower than before. -/
def regressed (previous next : Counters) : Bool :=
  (next.values.zip previous.values).any fun (value, before) => value < before

end Counters

/-- One counter. -/
def readCounter (counters : Dict) (label : Msg) (maximum : ℕ) (counter : String) : Py ℕ :=
  integer (Dict.get counters counter) (label.add [" ", counter]) maximum

/-- The five counters, read in order. -/
def readCounters (counters : Dict) (label : Msg) (maximum : ℕ) : Py Counters := do
  let pttRequests ← readCounter counters label maximum "ptt_requests_total"
  let grants ← readCounter counters label maximum "grants_total"
  let denials ← readCounter counters label maximum "denials_total"
  let preemptions ← readCounter counters label maximum "preemptions_total"
  let unauthorizedRejections ← readCounter counters label maximum "unauthorized_rejections_total"
  return ⟨pttRequests, grants, denials, preemptions, unauthorizedRejections⟩

/-- The counters of one epoch. -/
structure CounterSnapshot where
  epoch : String
  counters : Counters

/-- `counter_epoch` and `floor_interrupt` of a snapshot. -/
def readSnapshot (snapshot : Dict) (malformed label : Msg) (maximum : ℕ) : Py CounterSnapshot := do
  let epoch ← asString (Dict.get snapshot "counter_epoch") malformed
  let counters ← asObject (Dict.get snapshot "floor_interrupt") malformed
  let counters ← readCounters counters label maximum
  return ⟨epoch, counters⟩

/-! ### Negotiation and polling -/

/-- One of `negotiation_cases`. -/
def negotiationCase (case : Json) (index : ℕ) : Check Unit := do
  let label : Msg := ["Private Control Link diagnostics negotiation case ", .val (.int index)]
  let case ← asObject case (label.add [" must be an object"])
  let name := nameLabel case label
  let booleans :=
    name.add [": relay_supports_diagnostics and want_diagnostics must be booleans"]
  let supports ← asBool (Dict.get case "relay_supports_diagnostics") booleans
  let requested ← asBool (Dict.get case "want_diagnostics") booleans
  let accepted := supports && requested
  compare (name.add [" diagnostics accepted"]) (Dict.get case "expected_diagnostics_accepted")
    (.bool accepted)
  compare (name.add [" request result"]) (Dict.get case "expected_request_result")
    (.str (if accepted then "relay_diagnostics_snapshot" else "unsupported_message"))
  compare (name.add [" state changed"]) (Dict.get case "expected_state_changed") (.bool false)

/-- A request is answered when the interval since the last answered one has passed. -/
def pollAccepted (pollInterval : ℕ) (lastAccepted : Option ℕ) (time : ℕ) : Bool :=
  lastAccepted.all fun last => last + pollInterval ≤ time

/-- `last_accepted_at` and `previous_at`. -/
structure Polling where
  lastAccepted : Option ℕ
  previous : Option ℕ

/-- The state after a request. -/
def Polling.next (polling : Polling) (pollInterval time : ℕ) : Polling :=
  ⟨if pollAccepted pollInterval polling.lastAccepted time then some time else polling.lastAccepted,
    some time⟩

/-- One of `requests`. -/
def pollRequest (name : Msg) (pollInterval : ℕ) (polling : Polling) (request : Json × ℕ) :
    Check Polling := do
  let label := name.add [" request ", .val (.int request.2)]
  let request ← asObject request.1 (label.add [" must be an object"])
  let time ← integer (Dict.get request "at_monotonic_ms") (label.add [" time"]) maxSafeJsonInteger
  require (polling.previous.all (· ≤ time))
    (name.add [" request times must be non-decreasing"])
  let accepted := pollAccepted pollInterval polling.lastAccepted time
  compare (label.add [" result"]) (Dict.get request "expected_result")
    (.str (if accepted then "relay_diagnostics_snapshot" else "overloaded"))
  return polling.next pollInterval time

/-- `polling_case`. -/
def pollingCase (diagnostics : Dict) (pollInterval : ℕ) : Check Unit := do
  let case ← asObject (Dict.get diagnostics "polling_case")
    ["Private Control Link diagnostics polling_case must be an object"]
  let name := nameLabel case ["Private Control Link diagnostics polling"]
  let nonEmpty := name.add [": requests must be a non-empty array"]
  let requests ← asArray (Dict.get case "requests") nonEmpty
  require (requests ≠ []) nonEmpty
  let _ ← requests.zipIdx.foldlM (pollRequest name pollInterval) ⟨none, none⟩

/-! ### Counter domains -/

/-- `actual`: the verdict on a list of snapshots. -/
inductive CounterVerdict where
  | acceptMonotonic | acceptNewCounterEpoch | rejectDisabledFeatureCounter
  | rejectPreemptionsExceedGrants | rejectCounterRegression
  deriving DecidableEq

/-- The text of a verdict. -/
def CounterVerdict.text : CounterVerdict → String
  | .acceptMonotonic => "accept_monotonic"
  | .acceptNewCounterEpoch => "accept_new_counter_epoch"
  | .rejectDisabledFeatureCounter => "reject_disabled_feature_counter"
  | .rejectPreemptionsExceedGrants => "reject_preemptions_exceed_grants"
  | .rejectCounterRegression => "reject_counter_regression"

/-- `actual`, and `previous_epoch` with `previous_counters`. -/
structure CounterDomain where
  verdict : CounterVerdict
  previous : Option CounterSnapshot

/-- A later snapshot of the same epoch with a lower counter. -/
def regresses (previous : Option CounterSnapshot) (snapshot : CounterSnapshot) : Bool :=
  previous.any fun before =>
    before.epoch = snapshot.epoch ∧ before.counters.regressed snapshot.counters

/-- The loop over the snapshots; a later rejection replaces an earlier one. -/
def CounterDomain.next (enabled : Bool) (domain : CounterDomain) (snapshot : CounterSnapshot) :
    CounterDomain where
  verdict :=
    if ¬enabled ∧ snapshot.counters.anyNonzero then .rejectDisabledFeatureCounter
    else if snapshot.counters.preemptions > snapshot.counters.grants then
      .rejectPreemptionsExceedGrants
    else if regresses domain.previous snapshot then .rejectCounterRegression
    else domain.verdict
  previous := some snapshot

/-- The verdict on all snapshots. -/
def domainVerdict (enabled : Bool) (snapshots : List CounterSnapshot) : CounterVerdict :=
  let domain := snapshots.foldl (CounterDomain.next enabled) ⟨.acceptMonotonic, none⟩
  if domain.verdict = .acceptMonotonic ∧ (snapshots.map CounterSnapshot.epoch).dedup.length > 1 then
    .acceptNewCounterEpoch
  else domain.verdict

/-- One of `snapshots`. -/
def domainSnapshot (name : Msg) (maximumCounter : ℕ) (snapshot : Json × ℕ) :
    Py CounterSnapshot := do
  let label := name.add [" snapshot ", .val (.int snapshot.2)]
  let snapshot ← asObject snapshot.1 (label.add [" must be an object"])
  readSnapshot snapshot (label.add [" is malformed"]) label maximumCounter

/-- One of `counter_domain_cases`. -/
def counterDomainCase (maximumCounter : ℕ) (case : Json) (index : ℕ) : Check Unit := do
  let label : Msg := ["Private Control Link diagnostics counter domain case ", .val (.int index)]
  let case ← asObject case (label.add [" must be an object"])
  let name := nameLabel case label
  let required := name.add [": floor_interrupt_enabled and snapshots are required"]
  let enabled ← asBool (Dict.get case "floor_interrupt_enabled") required
  let snapshots ← asArray (Dict.get case "snapshots") required
  require (snapshots ≠ []) required
  -- nothing is reported in the loop, so all snapshots are read before the first verdict
  let snapshots ← (snapshots.zipIdx.mapM (domainSnapshot name maximumCounter) : Py _)
  compare (name.add [" result"]) (Dict.get case "expected_result")
    (.str (domainVerdict enabled snapshots).text)

/-! ### Rollover -/

/-- `rollover_result`: all counters restart in a new epoch when one has reached the maximum. -/
def rolloverResult (maximumCounter : ℕ) (before after : CounterSnapshot) : String :=
  if before.epoch ≠ after.epoch ∧ before.counters.values.any (· = maximumCounter) ∧
      ¬after.counters.anyNonzero then
    "accept_reset_before_overflow"
  else "reject_invalid_counter_rollover"

/-- `rollover_case`. -/
def rolloverCase (diagnostics : Dict) (maximumCounter : ℕ) : Check Unit := do
  let rollover ← asObject (Dict.get diagnostics "rollover_case")
    ["Private Control Link diagnostics rollover_case must be an object"]
  let name := nameLabel rollover ["Private Control Link diagnostics rollover"]
  let objects := name.add [": before and after must be objects"]
  let before ← asObject (Dict.get rollover "before") objects
  let after ← asObject (Dict.get rollover "after") objects
  let malformed := name.add [": snapshots are malformed"]
  let beforeEpoch ← asString (Dict.get before "counter_epoch") malformed
  let afterEpoch ← asString (Dict.get after "counter_epoch") malformed
  let beforeCounters ← asObject (Dict.get before "floor_interrupt") malformed
  let afterCounters ← asObject (Dict.get after "floor_interrupt") malformed
  let beforeCounters ← readCounters beforeCounters (name.add [" before"]) maximumCounter
  let afterCounters ← readCounters afterCounters (name.add [" after"]) maximumCounter
  compare (name.add [" result"]) (Dict.get rollover "expected_result")
    (.str (rolloverResult maximumCounter ⟨beforeEpoch, beforeCounters⟩ ⟨afterEpoch, afterCounters⟩))

/-! ### Redaction -/

mutual

/-- `contains_forbidden`: some object in the value has a member with a forbidden name. -/
def containsForbidden (forbidden : List String) : Json → Bool
  | .obj members => anyMemberForbidden forbidden members
  | .arr items => anyItemForbidden forbidden items
  | _ => false

/-- `any` over the items of a list. -/
def anyItemForbidden (forbidden : List String) : List Json → Bool
  | [] => false
  | item :: items => containsForbidden forbidden item || anyItemForbidden forbidden items

/-- `any` over the members of an object. -/
def anyMemberForbidden (forbidden : List String) : Dict → Bool
  | [] => false
  | (key, item) :: members =>
    forbidden.contains key || containsForbidden forbidden item ||
      anyMemberForbidden forbidden members

end

/-- One of `redaction_cases`. -/
def redactionCase (case : Json) (index : ℕ) : Check Unit := do
  let label : Msg := ["Private Control Link diagnostics redaction case ", .val (.int index)]
  let case ← asObject case (label.add [" must be an object"])
  let name := nameLabel case label
  let required := name.add [": candidate and forbidden_field_names are required"]
  let candidate ← asObject (Dict.get case "candidate") required
  let forbidden ← asStrings (Dict.get case "forbidden_field_names") required
  compare (name.add [" result"]) (Dict.get case "expected_result")
    (.str (if containsForbidden forbidden (.obj candidate) then "reject_sensitive_field"
      else "accept_redacted_snapshot"))

/-- `diagnostics_lifecycle`. -/
def checkDiagnostics (document : Dict) : Check Unit := do
  let diagnostics ← asObject (Dict.get document "diagnostics_lifecycle")
    ["Private Control Link diagnostics_lifecycle must be an object"]
  let pollInterval ← integer (Dict.get diagnostics "minimum_poll_interval_ms")
    ["Private Control Link diagnostics minimum poll interval"] maxSafeJsonInteger
  compare ["Private Control Link diagnostics minimum poll interval"] (.int pollInterval)
    (.int 10000)
  let maximumCounter ← integer (Dict.get diagnostics "maximum_counter")
    ["Private Control Link diagnostics maximum counter"] maxSafeJsonInteger
  compare ["Private Control Link diagnostics maximum counter"] (.int maximumCounter)
    (.int maxSafeJsonInteger)
  let counterNames ← asStrings (Dict.get diagnostics "counter_names")
    ["Private Control Link diagnostics counter_names must be an array of strings"]
  compare ["Private Control Link diagnostics counter names"] (.arr (counterNames.map .str))
    (.arr (expectedCounterNames.map .str))
  let negotiations ← asArray (Dict.get diagnostics "negotiation_cases")
    ["Private Control Link diagnostics negotiation_cases must be an array"]
  forM negotiations.zipIdx fun (case, index) => negotiationCase case index
  pollingCase diagnostics pollInterval
  let domains ← asArray (Dict.get diagnostics "counter_domain_cases")
    ["Private Control Link diagnostics counter_domain_cases must be an array"]
  forM domains.zipIdx fun (case, index) => counterDomainCase maximumCounter case index
  rolloverCase diagnostics maximumCounter
  let redactions ← asArray (Dict.get diagnostics "redaction_cases")
    ["Private Control Link diagnostics redaction_cases must be an array"]
  forM redactions.zipIdx fun (case, index) => redactionCase case index

/-! ### Every exception is caught -/

section Caught
variable {value : Json} {counters snapshot diagnostics document : Dict} {name malformed label : Msg}
  {index maximum pollInterval : ℕ} {polling : Polling} {item : Json × ℕ}

theorem asStrings_caught : ThrowsOnly Caught (asStrings value label) := by
  simp [asStrings, throwsOnly_mapM]

theorem readCounters_caught : ThrowsOnly Caught (readCounters counters label maximum) := by
  simp [readCounters, readCounter]

theorem readSnapshot_caught : ThrowsOnly Caught (readSnapshot snapshot malformed label maximum) := by
  simp [readSnapshot, readCounters_caught]

theorem negotiationCase_caught : RaisesOnly Caught (negotiationCase value index) := by
  simp [negotiationCase]

theorem pollRequest_caught : RaisesOnly Caught (pollRequest name pollInterval polling item) := by
  simp [pollRequest]

theorem pollingCase_caught : RaisesOnly Caught (pollingCase diagnostics pollInterval) := by
  have hrequests : ∀ name (requests : List (Json × ℕ)) polling,
      RaisesOnly Caught (requests.foldlM (pollRequest name pollInterval) polling) := fun _ _ _ =>
    raisesOnly_foldlM fun _ _ _ => pollRequest_caught
  simp [pollingCase, hrequests]

theorem counterDomainCase_caught : RaisesOnly Caught (counterDomainCase maximum value index) := by
  have hsnapshots : ∀ name (snapshots : List (Json × ℕ)),
      ThrowsOnly Caught (snapshots.mapM (domainSnapshot name maximum)) := fun _ _ =>
    throwsOnly_mapM fun _ _ => by simp [domainSnapshot, readSnapshot_caught]
  simp [counterDomainCase, hsnapshots]

theorem rolloverCase_caught : RaisesOnly Caught (rolloverCase diagnostics maximum) := by
  simp [rolloverCase, readCounters_caught]

theorem redactionCase_caught : RaisesOnly Caught (redactionCase value index) := by
  simp [redactionCase, asStrings_caught]

/-- CAUGHT: every exception of the diagnostics checks. -/
theorem checkDiagnostics_caught : RaisesOnly Caught (checkDiagnostics document) := by
  have hnegotiations : ∀ cases : List Json, RaisesOnly Caught
      (forM cases.zipIdx fun (case, index) => negotiationCase case index) := fun _ =>
    caught_forM_zipIdx fun _ _ => negotiationCase_caught
  have hdomains : ∀ maximum (cases : List Json), RaisesOnly Caught
      (forM cases.zipIdx fun (case, index) => counterDomainCase maximum case index) := fun _ _ =>
    caught_forM_zipIdx fun _ _ => counterDomainCase_caught
  have hredactions : ∀ cases : List Json, RaisesOnly Caught
      (forM cases.zipIdx fun (case, index) => redactionCase case index) := fun _ =>
    caught_forM_zipIdx fun _ _ => redactionCase_caught
  simp [checkDiagnostics, asStrings_caught, hnegotiations, pollingCase_caught, hdomains,
    rolloverCase_caught, hredactions]

end Caught

end IncomUdon.Lifecycle
