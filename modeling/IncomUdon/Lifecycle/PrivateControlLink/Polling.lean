import IncomUdon.Lib.Spacing
import IncomUdon.Lifecycle.PrivateControlLink.Diagnostics

/-! Private Control Link: diagnostics polling as a rate limiter. A request is answered when the
    interval since the last answered one has passed, and a refused request changes nothing:

        0      4      10     13     20          interval 10
        answer refuse answer refuse answer

    LIMITER: answers are an interval apart, every refusal has an answer within the interval before it,
    refused requests leave no trace, and no choice of requests that are an interval apart is larger
    than what was answered. -/

namespace IncomUdon.Lifecycle
open IncomUdon.Python IncomUdon.Lib.ErrorLog IncomUdon.Lib.Spacing

/-- The requests at these times with the decisions on them, `true` for an answer. -/
def pollAnswers (pollInterval : ℕ) : Polling → List ℕ → List (ℕ × Bool)
  | _, [] => []
  | polling, time :: times =>
    (time, pollAccepted pollInterval polling.lastAccepted time) ::
      pollAnswers pollInterval (polling.next pollInterval time) times

/-- The second time is at least the interval after the first. -/
def Spaced (pollInterval first second : ℕ) : Prop := first + pollInterval ≤ second

instance (pollInterval : ℕ) : DecidableRel (Spaced pollInterval) := fun _ _ => Nat.decLe _ _

/-- A request with this time, for which the decision is expected. -/
def ExpectsDecision (request : Json) (answer : ℕ × Bool) : Prop :=
  ∃ d, request = .obj d ∧ Dict.get d "at_monotonic_ms" = .int answer.1 ∧
    answer.1 ≤ maxSafeJsonInteger ∧ Dict.get d "expected_result" =
      .str (if answer.2 then "relay_diagnostics_snapshot" else "overloaded")

section Polling
variable {pollInterval time index : ℕ} {polling final : Polling} {times : List ℕ} {name : Msg}
  {request : Json} {requests : List Json}

theorem pollAccepted_iff {last : Option ℕ} :
    pollAccepted pollInterval last time = true ↔ Clear (Spaced pollInterval) last time := by
  cases last <;> simp [pollAccepted, Clear, Spaced]

/-- The loop makes the greedy choice. -/
theorem pollAnswers_eq :
    pollAnswers pollInterval polling times = choices (Spaced pollInterval) polling.lastAccepted times := by
  induction times generalizing polling with
  | nil => rfl
  | cons time times ih =>
    rw [pollAnswers, choices, ih, Polling.next]
    by_cases hclear : Clear (Spaced pollInterval) polling.lastAccepted time
    · rw [if_pos hclear, if_pos (pollAccepted_iff.mpr hclear), pollAccepted_iff.mpr hclear]
    · have hrefused := mt pollAccepted_iff.mp hclear
      rw [if_neg hclear, if_neg hrefused, Bool.eq_false_iff.mpr hrefused]

/-- STEP: a request reports nothing exactly when it is not before the last one and expects the
    decision on it. -/
theorem clean_pollRequest :
    Clean (pollRequest name pollInterval polling (request, index)) final ↔
      ∃ time : ℕ, (∀ previous ∈ polling.previous, previous ≤ time) ∧
        ExpectsDecision request (time, pollAccepted pollInterval polling.lastAccepted time) ∧
        final = polling.next pollInterval time := by
  simp only [pollRequest, ExpectsDecision, Run.liftM_eq, clean_bind, clean_lift, asObject_eq_ok,
    integer_eq_ok, require_eq_ok, clean_compare, Json.eq_str, clean_pure, exists_const,
    Option.all_eq_true, decide_eq_true_eq]
  constructor
  · rintro ⟨d, rfl, time, ⟨htime, hle⟩, hprevious, hresult, rfl⟩
    exact ⟨time, hprevious, ⟨d, rfl, htime, hle, hresult⟩, rfl⟩
  · rintro ⟨time, hprevious, ⟨d, rfl, htime, hle, hresult⟩, rfl⟩
    exact ⟨d, rfl, time, ⟨htime, hle⟩, hprevious, hresult, rfl⟩

/-- FIXTURE: the loop reports nothing exactly when the times do not decrease and every request expects
    the decision on it. -/
theorem clean_pollRequests :
    Clean ((requests.zipIdx index).foldlM (pollRequest name pollInterval) polling) final ↔
      ∃ times, (polling.previous.toList ++ times).IsChain (· ≤ ·) ∧
        List.Forall₂ ExpectsDecision requests (pollAnswers pollInterval polling times) ∧
        final = times.foldl (Polling.next · pollInterval ·) polling := by
  induction requests generalizing polling index with
  | nil =>
    simp only [List.zipIdx_nil, List.foldlM_nil, clean_pure, List.forall₂_nil_left_iff]
    constructor
    · rintro rfl
      refine ⟨[], ?_, rfl, rfl⟩
      cases polling.previous <;> simp
    · rintro ⟨_ | ⟨time, times⟩, -, hnil, rfl⟩
      · rfl
      · cases hnil
  | cons request requests ih =>
    simp only [List.zipIdx_cons, List.foldlM_cons, clean_bind, clean_pollRequest, ih,
      List.forall₂_cons_left_iff]
    have hchain : ∀ (previous : Option ℕ) time times, (previous.toList ++ time :: times).IsChain (· ≤ ·) ↔
        (∀ before ∈ previous, before ≤ time) ∧ (time :: times).IsChain (· ≤ ·) := by
      intro previous _ _
      cases previous <;> simp
    constructor
    · rintro ⟨_, ⟨time, hprevious, hexpects, rfl⟩, times, hsorted, hrest, rfl⟩
      exact ⟨time :: times, (hchain _ _ _).mpr ⟨hprevious, hsorted⟩, ⟨_, _, hexpects, hrest,
        rfl⟩, rfl⟩
    · rintro ⟨_ | ⟨time, times⟩, hsorted, ⟨answer, answers, hexpects, hrest, hanswers⟩, rfl⟩
      · cases hanswers
      · rw [pollAnswers, List.cons.injEq] at hanswers
        obtain ⟨rfl, rfl⟩ := hanswers
        obtain ⟨hprevious, hsorted⟩ := (hchain _ _ _).mp hsorted
        exact ⟨_, ⟨time, hprevious, hexpects, rfl⟩, times, hsorted, hrest, rfl⟩

end Polling

/-- What an exact and maximal rate limiter decides on the requests at these times. -/
structure RateLimits (pollInterval : ℕ) (times : List ℕ) (answers : List (ℕ × Bool)) : Prop where
  decided : answers.map Prod.fst = times
  first : ∀ request ∈ answers.head?, request.2 = true
  apart : (taken answers).Pairwise fun a b => a + pollInterval ≤ b
  refused : ∀ before time after, answers = before ++ (time, false) :: after →
    ∃ answered, (answered, true) ∈ before ∧ answered ≤ time ∧ time < answered + pollInterval
  deleted : ∀ kept : List (ℕ × Bool), kept.Sublist answers →
    kept.filter Prod.snd = answers.filter Prod.snd →
    pollAnswers pollInterval ⟨none, none⟩ (kept.map Prod.fst) = kept
  maximal : ∀ chosen : List ℕ, chosen.Sublist times →
    chosen.Pairwise (fun a b => a + pollInterval ≤ b) → chosen.length ≤ (taken answers).length

/-- LIMITER: of the requests at non-decreasing times the first is answered; two answers are an
    interval apart; a refusal has an answer less than an interval before it; deleting any of the
    refused requests leaves the other decisions as they are; and no requests that are pairwise an
    interval apart are more than the answers. -/
theorem polling_rateLimiter (pollInterval : ℕ) {times : List ℕ} (hsorted : times.Pairwise (· ≤ ·)) :
    RateLimits pollInterval times (pollAnswers pollInterval ⟨none, none⟩ times) := by
  have hup : ∀ a b c, Spaced pollInterval a b → b ≤ c → Spaced pollInterval a c :=
    fun _ _ _ hab hbc => le_trans hab hbc
  have hdown : ∀ a b c, a ≤ b → Spaced pollInterval b c → Spaced pollInterval a c :=
    fun _ _ _ hab hbc => (Nat.add_le_add_right hab pollInterval).trans hbc
  have hdeleted : ∀ kept : List (ℕ × Bool), kept.Sublist (choices (Spaced pollInterval) none times) →
      kept.filter Prod.snd = (choices (Spaced pollInterval) none times).filter Prod.snd →
      pollAnswers pollInterval ⟨none, none⟩ (kept.map Prod.fst) = kept := fun kept hkept htaken => by
    rw [pollAnswers_eq]
    exact choices_of_sublist hkept htaken
  rw [pollAnswers_eq]
  refine ⟨map_fst_choices, ?_, pairwise_taken hup hsorted, ?_, hdeleted, ?_⟩
  · cases times with
    | nil => nofun
    | cons time times =>
      rw [choices_none_cons]
      rintro _ ⟨⟩
      rfl
  · intro before time after hsplit
    obtain ⟨answered, hclose, hnone | hmem⟩ := not_far_of_left_out hsplit
    · cases hnone
    · have hmap : times = before.map Prod.fst ++ time :: after.map Prod.fst := by
        have hfst : (choices (Spaced pollInterval) none times).map Prod.fst = times := map_fst_choices
        rw [← hfst, hsplit]
        simp
      rw [hmap, List.pairwise_append] at hsorted
      exact ⟨answered, hmem, hsorted.2.2 answered (List.mem_map_of_mem hmem) time List.mem_cons_self,
        not_le.mp hclose⟩
  · exact fun chosen hchosen hapart =>
      length_le_taken hdown hsorted hchosen hapart fun _ _ _ hnone => nomatch hnone

/-- Five requests, of which three are answered. -/
theorem polling_rateLimiter_five :
    taken (pollAnswers 10 ⟨none, none⟩ [0, 4, 10, 13, 20]) = [0, 10, 20] ∧
      ([0, 10, 20] : List ℕ).Pairwise fun a b => a + 10 ≤ b :=
  ⟨rfl, (polling_rateLimiter 10 (by decide : [0, 4, 10, 13, 20].Pairwise (· ≤ ·))).apart⟩

end IncomUdon.Lifecycle
