import IncomUdon.Lifecycle.ReplayRules

/-! The Directory replay window and its watermark. A fixture gives the accepted sequences and the high
    watermark apart, and only a watermark that it gives makes a sequence stale:

        accepted {100}                     1 is accepted
        accepted {100}, watermark 10       20 is accepted
        accepted {100}, watermark 100      1 and 20 are stale

    WATERMARK: the decision is the one for the newest accepted sequence as long as the watermark
    does not lag behind it where that matters. -/

namespace IncomUdon.Lifecycle
open IncomUdon.Python IncomUdon.Lib.ErrorLog

/-- A replay fixture with these values; the sequences and the watermark may be left out. -/
structure ReplayFixture (case : Dict) (highest : Option ℕ) (accepted : List ℕ) (candidate : ℕ) :
    Prop where
  hasCandidate : Dict.get case "candidateSequence" = .int candidate
  hasAccepted : Dict.getD case "acceptedSequences" (.arr []) = Json.ints accepted
  hasHighest : Dict.get case "acceptedHighWatermark" = Json.ofNat? highest
  candidate_le : candidate ≤ maxDirectoryReplaySequence
  accepted_le : ∀ sequence ∈ accepted, sequence ≤ maxDirectoryReplaySequence
  highest_le : ∀ high ∈ highest, high ≤ maxDirectoryReplaySequence

/-- The fixture expects its candidate to be rejected. -/
def ExpectsRejection (case : Dict) : Prop :=
  Dict.get case "expected" = .str "reject_duplicate_sequence" ∨
    Dict.get case "expected" = .str "reject_stale_sequence"

/-- The newest sequence among the accepted ones and the watermark. -/
def Newest (highest : Option ℕ) (accepted : List ℕ) (newest : ℕ) : Prop :=
  IsGreatest {sequence | sequence ∈ accepted ∨ sequence ∈ highest} newest

section Watermark
variable {case : Dict} {index candidate newest : ℕ} {highest : Option ℕ} {accepted : List ℕ}

/-- FIXTURE: a replay case reports nothing exactly when it expects the decision of the rule. -/
theorem clean_directoryReplayCase (h : ReplayFixture case highest accepted candidate) :
    Clean (directoryReplayCase 64 (.obj case) index) () ↔
      Dict.get case "expected" = .str (if candidate ∈ accepted then "reject_duplicate_sequence"
        else if Stale 64 highest candidate then "reject_stale_sequence"
        else "accept_unseen_sequence") := by
  have hitems : ∀ seen : List ℕ, (Json.ints accepted).items? = some (seen.map fun n : ℕ => .int n) ↔
      accepted = seen := fun seen => by
    rw [Json.ints, Json.items?, Option.some.injEq]
    exact ((List.map_injective_iff.mpr fun m n hmn => by simpa using hmn).eq_iff (a := accepted))
  simp [directoryReplayCase, h.hasCandidate, h.candidate_le, h.hasAccepted, h.hasHighest, hitems,
    mapM_integer_eq_ok, directoryReplayDecision_eq h.highest_le]
  exact fun _ => h.accepted_le

/-- A watermark in the set is stale for no less than the newest sequence is. -/
theorem Newest.below_of_stale (hnewest : Newest highest accepted newest)
    (h : Stale 64 highest candidate) : BelowWindow 64 newest candidate := by
  obtain ⟨high, hhigh, hbelow⟩ := h
  have hle : high ≤ newest := hnewest.2 (.inr hhigh)
  unfold BelowWindow at hbelow ⊢
  omega

/-- WATERMARK: an accepted fixture expects rejection exactly when the candidate is among the accepted
    sequences or below the window of a watermark that is given, and acceptance otherwise. This is the
    decision for the newest sequence exactly when the candidate is accepted already, is not below the
    window of the newest sequence, or is below the window of the watermark. -/
theorem directoryReplay_watermark (h : ReplayFixture case highest accepted candidate)
    (hclean : Clean (directoryReplayCase 64 (.obj case) index) ()) :
    (ExpectsRejection case ↔
      candidate ∈ accepted ∨ ∃ high ∈ highest, (candidate : ℤ) < high - 63) ∧
    (Dict.get case "expected" = .str "accept_unseen_sequence" ↔ ¬ExpectsRejection case) ∧
    ∀ newest, Newest highest accepted newest →
      ((ExpectsRejection case ↔ candidate ∈ accepted ∨ (candidate : ℤ) < newest - 63) ↔
        candidate ∈ accepted ∨ ¬(candidate : ℤ) < newest - 63 ∨
          ∃ high ∈ highest, (candidate : ℤ) < high - 63) := by
  have hbelow : ∀ high, BelowWindow 64 high candidate ↔ (candidate : ℤ) < high - 63 := fun high => by
    unfold BelowWindow
    omega
  have hstale : Stale 64 highest candidate ↔ ∃ high ∈ highest, (candidate : ℤ) < high - 63 :=
    exists_congr fun high => and_congr_right fun _ => hbelow high
  have hdecision := (clean_directoryReplayCase h).mp hclean
  rw [← hstale]
  unfold ExpectsRejection
  rw [hdecision]
  by_cases hseen : candidate ∈ accepted
  · simp [hseen]
  · by_cases hold : Stale 64 highest candidate
    · have hnew : ∀ newest, Newest highest accepted newest → (candidate : ℤ) < newest - 63 :=
        fun newest hnewest => (hbelow newest).mp (hnewest.below_of_stale hold)
      simp only [hseen, hold, if_true, if_false, false_or]
      refine ⟨by simp, by simp, fun newest hnewest => by simp [hnew newest hnewest]⟩
    · simp only [hseen, hold, if_false, false_or]
      refine ⟨by simp, by simp, fun newest _ => by simp⟩

end Watermark

/-- A replay fixture with these members. -/
def replayFixture (highest : Option ℕ) (accepted : List ℕ) (candidate : ℕ)
    (expected : String) : Dict :=
  [("acceptedHighWatermark", Json.ofNat? highest), ("acceptedSequences", Json.ints accepted),
    ("candidateSequence", .int candidate), ("expected", .str expected)]

/-- The last sequence that is not stale below a watermark of 100. -/
theorem directoryReplay_watermark_at_edge :
    ExpectsRejection (replayFixture (some 100) [100, 99] 36 "reject_stale_sequence") ↔
      36 ∈ [100, 99] ∨ ∃ high ∈ some 100, ((36 : ℕ) : ℤ) < (high : ℕ) - 63 := by
  have hclean : Clean (directoryReplayCase 64
      (.obj (replayFixture (some 100) [100, 99] 36 "reject_stale_sequence")) 0) () :=
    clean_of_isClean (by decide)
  exact (directoryReplay_watermark ⟨rfl, rfl, rfl, by decide, by decide, by decide⟩ hclean).1

/-- Without a watermark, and with one that lags behind, a sequence far below the newest one is
    accepted. -/
theorem directoryReplay_lagging :
    (Clean (directoryReplayCase 64 (.obj (replayFixture none [100] 1 "accept_unseen_sequence")) 0) () ∧
      Newest none [100] 100 ∧ ((1 : ℕ) : ℤ) < (100 : ℕ) - 63) ∧
    Clean (directoryReplayCase 64 (.obj (replayFixture (some 10) [100] 20 "accept_unseen_sequence")) 0) () ∧
      Newest (some 10) [100] 100 ∧ ((20 : ℕ) : ℤ) < (100 : ℕ) - 63 := by
  refine ⟨⟨clean_of_isClean (by decide), ⟨.inl List.mem_cons_self, ?_⟩, by decide⟩,
    clean_of_isClean (by decide), ⟨.inl List.mem_cons_self, ?_⟩, by decide⟩
  · rintro sequence (hmem | hmem)
    · exact (List.mem_singleton.mp hmem).le
    · cases hmem
  · rintro sequence (hmem | hmem)
    · exact (List.mem_singleton.mp hmem).le
    · cases hmem
      decide

end IncomUdon.Lifecycle
