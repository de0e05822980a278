import IncomUdon.Lifecycle.PrivateControlLink.Revocation

/-! Private Control Link: how a retried command is acknowledged. A Relay keeps the acknowledgement in
    a cache and the rule until its deadline, and either may be gone first:

                          before deny_until        from deny_until on
        cache retained    cached_original_ack      cached_original_ack
        cache gone        durable_original_ack     already_expired

    The loop looks at the deadline first, so it misses one of the four. EXACT: every retry of a list
    gets the answer above exactly when no cache entry is still there at the deadline. -/

namespace IncomUdon.Lifecycle
open IncomUdon.Python IncomUdon.Lib.ErrorLog

/-- A retry of the identical command. -/
structure Retry where
  time : ℕ
  retained : Bool
  restarted : Bool

/-- What a retry is answered with. -/
structure RetryAnswer where
  ack : String
  denyUntil : ℕ
  additionalReleases : ℕ
  deriving DecidableEq

/-- The answer that the loop compares with the fixture. -/
def Retry.answer (denyUntil : ℕ) (retry : Retry) : RetryAnswer :=
  ⟨retryAck denyUntil retry.time retry.retained, denyUntil, 0⟩

/-- The answer that idempotency prescribes: from the cache if the entry is there, else from the rule
    while it is in force. -/
def Retry.prescribed (denyUntil : ℕ) (retry : Retry) : RetryAnswer where
  ack :=
    if retry.retained then "cached_original_ack"
    else if retry.time < denyUntil then "durable_original_ack"
    else "already_expired"
  denyUntil := denyUntil
  additionalReleases := 0

/-- The cache entry is gone by the deadline. -/
def Retry.Evicted (denyUntil : ℕ) (retry : Retry) : Prop :=
  retry.retained = true → retry.time < denyUntil

/-- The answers differ in one case of the four. -/
theorem answer_eq_prescribed {denyUntil : ℕ} {retry : Retry} :
    retry.answer denyUntil = retry.prescribed denyUntil ↔ retry.Evicted denyUntil := by
  obtain ⟨time, retained, restarted⟩ := retry
  simp only [Retry.answer, Retry.prescribed, Retry.Evicted, retryAck, RetryAnswer.mk.injEq, and_true]
  cases retained <;> by_cases htime : time < denyUntil <;> simp [htime]

/-! ### Fixtures -/

/-- The fixture is this retry. -/
structure ReadsRetry (fixture : Dict) (retry : Retry) : Prop where
  time : Dict.get fixture "at_relay_unix_seconds" = .int retry.time
  time_le : retry.time ≤ maxSafeJsonInteger
  retained : Dict.get fixture "idempotency_cache_retained" = .bool retry.retained
  restarted : Dict.get fixture "relay_restarted" = .bool retry.restarted
  identical : Dict.get fixture "identical_message_id_and_body" = .bool true

/-- The fixture expects this answer. -/
structure ExpectsAnswer (fixture : Dict) (answer : RetryAnswer) : Prop where
  ack : Dict.get fixture "expected_ack" = .str answer.ack
  denyUntil : (Dict.get fixture "expected_deny_until").eq (.int answer.denyUntil) = true
  releases : (Dict.get fixture "expected_additional_talk_release_count").eq
    (.int answer.additionalReleases) = true

/-- A restart does not keep the cache. -/
def Retry.Consistent (retry : Retry) : Prop := retry.restarted = true → retry.retained = false

/-- No retry is earlier than the one before. -/
def NonDecreasing (initialAt : ℕ) (retries : List Retry) : Prop :=
  List.IsChain (· ≤ ·) (initialAt :: retries.map Retry.time)

/-- The case is about this command, first accepted at `initialAt`, and lists these retries. -/
structure ReadsCase (case : Dict) (name : Msg) (command : IdempotencyCommand) (initialAt : ℕ)
    (fixtures : List Dict) : Prop where
  command : Clean (validateIdempotencyCommand (Dict.get case "command") (.int initialAt) name) command
  accepted : Dict.get case "initial_acceptance_at_relay_unix_seconds" = .int initialAt
  accepted_le : initialAt ≤ maxSafeJsonInteger
  releases : ∃ n : ℕ, Dict.get case "initial_talk_release_count" = .int n ∧ 1 ≤ n ∧ n ≤ 0xFFFFFFFF
  retries : Dict.get case "retries" = .arr (fixtures.map .obj)
  retries_ne : fixtures ≠ []

section Fixture
variable {name : Msg} {case : Dict} {command : IdempotencyCommand} {fixture : Dict} {retry : Retry}
  {denyUntil initialAt previousAt index next : ℕ} {fixtures : List Dict} {retries : List Retry}

/-- STEP: a retry reports nothing exactly when it is not earlier than the one before, is consistent
    and expects its answer. -/
theorem clean_idempotencyRetry (h : ReadsRetry fixture retry) :
    Clean (idempotencyRetry name denyUntil previousAt (.obj fixture, index)) next ↔
      previousAt ≤ retry.time ∧ retry.Consistent ∧ ExpectsAnswer fixture (retry.answer denyUntil) ∧
        retry.time = next := by
  simp only [idempotencyRetry, relaySeconds, Run.liftM_eq, bind_pure_comp, clean_bind, clean_lift,
    asObject_eq_ok, Json.obj.injEq, integer_eq_ok, clean_reportIf, not_lt, asBool_eq_ok, not_and,
    Bool.not_eq_true, clean_compare, Json.eq_str, clean_map, Decidable.not_not, exists_const,
    ↓existsAndEq, and_true, exists_and_left, exists_eq_left', exists_eq_left, h.time, h.retained,
    h.restarted, h.identical, Json.int.injEq, Nat.cast_inj, Json.bool.injEq, Bool.true_eq, ne_eq]
  constructor
  · rintro ⟨⟨rfl, -⟩, hprevious, hconsistent, -, hack, hdeadline, hreleases, -⟩
    exact ⟨hprevious, hconsistent, ⟨hack, hdeadline, hreleases⟩, rfl⟩
  · rintro ⟨hprevious, hconsistent, ⟨hack, hdeadline, hreleases⟩, rfl⟩
    refine ⟨⟨rfl, h.time_le⟩, hprevious, hconsistent, rfl, hack, hdeadline, hreleases, ?_⟩
    -- The last report asks nothing new: a consistent retry after a restart has no cache entry.
    intro hrestarted hactive
    simp [retryAck, hactive, hconsistent hrestarted]

/-- RUN: a list of retries reports nothing exactly when the times do not fall, every retry is
    consistent, and every retry expects its answer. -/
theorem clean_idempotencyRetries (h : List.Forall₂ ReadsRetry fixtures retries) :
    (∃ last, Clean (((fixtures.map Json.obj).zipIdx index).foldlM
        (idempotencyRetry name denyUntil) previousAt) last) ↔
      NonDecreasing previousAt retries ∧ (∀ retry ∈ retries, retry.Consistent) ∧
        List.Forall₂ ExpectsAnswer fixtures (retries.map (Retry.answer denyUntil)) := by
  induction h generalizing previousAt index with
  | nil => simp [NonDecreasing]
  | @cons fixture retry fixtures retries hread _ ih =>
    have hchain : NonDecreasing previousAt (retry :: retries) ↔
        previousAt ≤ retry.time ∧ NonDecreasing retry.time retries := List.isChain_cons_cons
    simp only [List.map_cons, List.zipIdx_cons, List.foldlM_cons, clean_bind,
      clean_idempotencyRetry hread, List.forall_mem_cons, List.forall₂_cons, hchain]
    constructor
    · rintro ⟨last, next, ⟨hle, hconsistent, hexpects, rfl⟩, hrest⟩
      obtain ⟨hchain, hconsistents, hexpectss⟩ := ih.mp ⟨last, hrest⟩
      exact ⟨⟨hle, hchain⟩, ⟨hconsistent, hconsistents⟩, hexpects, hexpectss⟩
    · rintro ⟨⟨hle, hchain⟩, ⟨hconsistent, hconsistents⟩, hexpects, hexpectss⟩
      obtain ⟨last, hrest⟩ := ih.mpr ⟨hchain, hconsistents, hexpectss⟩
      exact ⟨last, _, ⟨hle, hconsistent, hexpects, rfl⟩, hrest⟩

/-- A case reports nothing exactly when its list does. -/
theorem clean_retriesCase (hcase : ReadsCase case name command initialAt fixtures)
    (hread : List.Forall₂ ReadsRetry fixtures retries) :
    Clean (retriesCase case name) () ↔
      NonDecreasing initialAt retries ∧ (∀ retry ∈ retries, retry.Consistent) ∧
        List.Forall₂ ExpectsAnswer fixtures (retries.map (Retry.answer command.denyUntil)) := by
  obtain ⟨releases, hreleases, hleast, hmost⟩ := hcase.releases
  have hsome : fixtures.map Json.obj ≠ [] := by simpa using hcase.retries_ne
  have hrun : (∃ last, Clean (((fixtures.map Json.obj).zipIdx).foldlM
      (idempotencyRetry name command.denyUntil) initialAt) last) ↔ _ := clean_idempotencyRetries hread
  have hpositive : ¬releases < 1 := not_lt.mpr hleast
  rw [← hrun]
  simp only [retriesCase, relaySeconds, Run.liftM_eq, bind_pure_comp, clean_bind, clean_lift,
    integer_eq_ok, asArray_eq_ok, require_eq_ok, clean_reportIf, clean_map, hcase.accepted,
    hcase.command.iff_eq, hcase.retries, hreleases, exists_eq_left, exists_eq_left', Json.int.injEq,
    Nat.cast_inj, Json.arr.injEq, exists_unit, and_true, exists_and_left, ↓existsAndEq, hcase.accepted_le,
    hmost, hpositive, hsome, ne_eq, not_false_eq_true, true_and]

/-- EXACT: the answers that a case without errors expects are those of the loop, and they are the
    prescribed ones exactly when no cache entry is still there at the deadline. -/
theorem retries_answered_iff (hcase : ReadsCase case name command initialAt fixtures)
    (hread : List.Forall₂ ReadsRetry fixtures retries) :
    (Clean (retriesCase case name) () ↔
      NonDecreasing initialAt retries ∧ (∀ retry ∈ retries, retry.Consistent) ∧
        List.Forall₂ ExpectsAnswer fixtures (retries.map (Retry.answer command.denyUntil))) ∧
    ((∀ retry ∈ retries, retry.answer command.denyUntil = retry.prescribed command.denyUntil) ↔
      ∀ retry ∈ retries, retry.Evicted command.denyUntil) :=
  ⟨clean_retriesCase hcase hread, forall₂_congr fun _ _ => answer_eq_prescribed⟩

end Fixture

/-- A retry at a time, as a fixture that expects this acknowledgement. -/
def retryFixture (time : ℤ) (retained restarted : Bool) (ack : String) : Dict :=
  [("at_relay_unix_seconds", .int time), ("idempotency_cache_retained", .bool retained),
    ("relay_restarted", .bool restarted), ("identical_message_id_and_body", .bool true),
    ("expected_ack", .str ack), ("expected_deny_until", .int 1767225660),
    ("expected_additional_talk_release_count", .int 0)]

/-- A command whose rule is in force for a minute, and its retries. -/
def minuteCase (fixtures : List Dict) : Dict :=
  [("command", .obj [("message_id", .str "AAECAwQFBgcICQoLDA0ODw"), ("channel_id", .int 111),
      ("service_id", .str "recorder-01"), ("deny_until", .int 1767225660)]),
    ("initial_acceptance_at_relay_unix_seconds", .int 1767225600),
    ("initial_talk_release_count", .int 1), ("retries", .arr (fixtures.map .obj))]

/-- The command of the case. -/
def minuteCommand : IdempotencyCommand :=
  ⟨"AAECAwQFBgcICQoLDA0ODw", ⟨111, some "recorder-01", none⟩, 1767225660⟩

theorem reads_minuteCase {fixtures : List Dict} (h : fixtures ≠ []) :
    ReadsCase (minuteCase fixtures) [] minuteCommand 1767225600 fixtures :=
  ⟨rfl, rfl, by decide, ⟨1, rfl, by decide, by decide⟩, rfl, h⟩

/-- A duplicate, a retry after a restart, and one at the deadline without a cache entry. -/
def minuteRetries : List Retry :=
  [⟨1767225601, true, false⟩, ⟨1767225630, false, true⟩, ⟨1767225660, false, false⟩]

/-- The three with their answers. -/
def minuteFixtures : List Dict :=
  [retryFixture 1767225601 true false "cached_original_ack",
    retryFixture 1767225630 false true "durable_original_ack",
    retryFixture 1767225660 false false "already_expired"]

theorem retries_answered_three :
    Clean (retriesCase (minuteCase minuteFixtures) []) () ∧
      ∀ retry ∈ minuteRetries, retry.answer 1767225660 = retry.prescribed 1767225660 := by
  have hread : List.Forall₂ ReadsRetry minuteFixtures minuteRetries :=
    .cons ⟨rfl, by decide, rfl, rfl, rfl⟩ (.cons ⟨rfl, by decide, rfl, rfl, rfl⟩
      (.cons ⟨rfl, by decide, rfl, rfl, rfl⟩ .nil))
  obtain ⟨hclean, hprescribed⟩ :=
    retries_answered_iff (reads_minuteCase (by simp [minuteFixtures])) hread
  constructor
  · refine hclean.mpr ⟨?_, ?_, ?_⟩
    · simp [NonDecreasing, minuteRetries]
    · simp [Retry.Consistent, minuteRetries]
    · exact .cons ⟨rfl, rfl, rfl⟩ (.cons ⟨rfl, rfl, rfl⟩ (.cons ⟨rfl, rfl, rfl⟩ .nil))
  · refine hprescribed.mpr ?_
    simp [Retry.Evicted, minuteRetries, minuteCommand]

/-- A retry at the deadline whose cache entry is still there is expected to be answered as if the
    entry were gone. -/
theorem cachedRetry_expired :
    Clean (retriesCase (minuteCase [retryFixture 1767225660 true false "already_expired"]) []) () ∧
      (Retry.prescribed 1767225660 ⟨1767225660, true, false⟩).ack = "cached_original_ack" :=
  ⟨rfl, rfl⟩

end IncomUdon.Lifecycle
