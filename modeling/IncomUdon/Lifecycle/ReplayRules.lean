import IncomUdon.Lifecycle.Directory.Replay
import IncomUdon.Lifecycle.MediaReplay

/-! Two replay rules. The Directory looks for a duplicate first and for a stale sequence second, the
    media receiver the other way round, and only the media receiver prunes what it has seen:

        Directory   candidate ∈ accepted   →  candidate below the window  →  accept
        media       counter below the window  →  counter ∈ seen           →  accept

    What is seen is never below the window, so on a reachable state the order makes no difference.
    On the whole history it does, but only between the two ways of rejecting. -/

namespace IncomUdon.Lifecycle
open IncomUdon.Python IncomUdon.Lib.ReplayWindow

section Rules
variable {window : ℕ} {label : Msg} {highest : Option ℕ} {listed : List ℕ} {candidate : ℕ}
  {state : Window ℕ} {packet : MediaPacket} {packets : List MediaPacket}

/-- Some recorded mark has left the counter behind. -/
def Stale (window : ℕ) (highest : Option ℕ) (counter : ℕ) : Prop :=
  ∃ high ∈ highest, BelowWindow window high counter

instance (window : ℕ) (highest : Option ℕ) (counter : ℕ) : Decidable (Stale window highest counter) :=
  inferInstanceAs (Decidable (∃ high ∈ highest, _))

/-- The Directory rule on a mark that it can read. -/
theorem directoryReplayDecision_eq (hmax : ∀ high ∈ highest, high ≤ maxDirectoryReplaySequence) :
    directoryReplayDecision window label (Json.ofNat? highest) listed candidate =
      .ok (if candidate ∈ listed then "reject_duplicate_sequence"
        else if Stale window highest candidate then "reject_stale_sequence"
        else "accept_unseen_sequence") := by
  unfold directoryReplayDecision Stale
  by_cases hseen : candidate ∈ listed
  · simp [hseen, pure, Except.pure]
  · cases highest with
    | none => simp [hseen, Json.ofNat?, pure, Except.pure]
    | some high =>
      have hread : integer (.int high) (label.add [" high"]) maxDirectoryReplaySequence = .ok high :=
        integer_eq_ok.mpr ⟨rfl, hmax high rfl⟩
      by_cases hbelow : (candidate : ℤ) < high - (window - 1) <;>
        simp [hseen, Json.ofNat?, hread, BelowWindow, hbelow, pure, Except.pure]

/-- The media rule on an authentic packet. -/
theorem mediaReplayTransition_eq (hvalid : packet.Valid) :
    (mediaReplayTransition window state packet).1 =
      if Stale window state.highest packet.counter then .rejectStale
      else if packet.counter ∈ state.seen then .rejectReplay
      else .accept := by
  unfold mediaReplayTransition Stale
  by_cases hstale : ∃ high ∈ state.highest, BelowWindow window high packet.counter
  · simp only [hstale, if_true]
  · simp only [hstale, hvalid, not_true_eq_false, if_false]
    split <;> rfl

/-- What a reachable window remembers is not stale. -/
theorem not_stale_of_mem_seen (h : candidate ∈ (windowAfter window packets).seen) :
    ¬Stale window (windowAfter window packets).highest candidate := by
  rintro ⟨high, hhigh, hbelow⟩
  exact (((windowAfter_represents window packets).mem_seen candidate).mp h).2 high hhigh hbelow

/-- What a reachable window does not remember is stale or was never accepted. -/
theorem mem_seen_iff_of_not_stale
    (h : ¬Stale window (windowAfter window packets).highest candidate) :
    candidate ∈ (windowAfter window packets).seen ↔ candidate ∈ acceptedCounters window packets := by
  rw [(windowAfter_represents window packets).mem_seen]
  exact and_iff_left fun high hhigh hbelow => h ⟨high, hhigh, hbelow⟩

/-- The mark of a reachable window came with one of the packets. -/
theorem highest_le_of_packets {bound : ℕ} (hbound : ∀ packet ∈ packets, packet.counter ≤ bound) :
    ∀ high ∈ (windowAfter window packets).highest, high ≤ bound := by
  intro high hhigh
  have hmem := ((windowAfter_represents window packets).highest_some high hhigh).1
  obtain ⟨j, -, -, packet, hpacket, rfl⟩ := mem_acceptedCounters.mp hmem
  exact hbound packet (List.mem_of_getElem? hpacket)

end Rules

/-- AGREEMENT: on every reachable window, with what it has seen listed in any way, the Directory
    accepts, finds a duplicate or finds a stale sequence exactly when the media receiver accepts,
    finds a replay or finds a stale counter. With every counter ever accepted listed instead, it
    still accepts exactly then, and rejects otherwise. -/
theorem directoryReplay_agrees (packets : List MediaPacket)
    (hmax : ∀ packet ∈ packets, packet.counter ≤ maxDirectoryReplaySequence) (label : Msg)
    (packet : MediaPacket) (hvalid : packet.Valid) (listed history : List ℕ)
    (hlisted : ∀ c, c ∈ listed ↔ c ∈ (windowAfter 64 packets).seen)
    (hhistory : ∀ c, c ∈ history ↔ AcceptedBefore 64 packets packets.length c) :
    let media := (mediaReplayTransition 64 (windowAfter 64 packets) packet).1
    let directory := fun accepted => directoryReplayDecision 64 label
      (Json.ofNat? (windowAfter 64 packets).highest) accepted packet.counter
    (directory listed = .ok "accept_unseen_sequence" ↔ media = .accept) ∧
    (directory listed = .ok "reject_duplicate_sequence" ↔ media = .rejectReplay) ∧
    (directory listed = .ok "reject_stale_sequence" ↔ media = .rejectStale) ∧
    (directory history = .ok "accept_unseen_sequence" ↔ media = .accept) ∧
    (directory history = .ok "reject_duplicate_sequence" ∨
      directory history = .ok "reject_stale_sequence" ↔ media ≠ .accept) := by
  have hread : ∀ high ∈ (windowAfter 64 packets).highest, high ≤ maxDirectoryReplaySequence :=
    highest_le_of_packets hmax
  simp only [directoryReplayDecision_eq hread, mediaReplayTransition_eq hvalid, hlisted, hhistory,
    ← mem_acceptedCounters]
  by_cases hstale : Stale 64 (windowAfter 64 packets).highest packet.counter
  · have hunseen : packet.counter ∉ (windowAfter 64 packets).seen := fun h =>
      not_stale_of_mem_seen h hstale
    by_cases hold : packet.counter ∈ acceptedCounters 64 packets <;> simp [hstale, hunseen, hold]
  · have hseen := mem_seen_iff_of_not_stale hstale
    by_cases hold : packet.counter ∈ acceptedCounters 64 packets <;> simp [hstale, hseen, hold]

/-- The last counter that is not stale below a mark of 100 is accepted by both. -/
theorem directoryReplay_agrees_at_edge :
    directoryReplayDecision 64 [] (Json.ofNat? (windowAfter 64 [⟨100, .str "valid"⟩]).highest) [100]
      37 = .ok "accept_unseen_sequence" := by
  have hseen : (windowAfter 64 [⟨100, .str "valid"⟩]).seen = {100} := by decide
  have haccepted : acceptedCounters 64 [⟨100, .str "valid"⟩] = [100] := by decide
  refine (directoryReplay_agrees [⟨100, .str "valid"⟩] (by decide) [] ⟨37, .str "valid"⟩ (by decide)
    [100] [100] (fun c => ?_) fun c => ?_).1.mpr (by decide)
  · rw [hseen, List.mem_singleton, Finset.mem_singleton]
  · rw [← haccepted, mem_acceptedCounters]

end IncomUdon.Lifecycle
