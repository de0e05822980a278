import Mathlib.Data.Finset.Sort
import Mathlib.Order.Interval.Finset.Nat
import IncomUdon.Lib.ReplayWindow
import IncomUdon.Lifecycle.Common

/-! Media replay. A receiver keeps the highest authenticated counter and the counters it has seen in
    the window below it:

        stale             counter < highest - (window - 1)     reject, nothing changes
        not authentic     the tag does not verify              reject, nothing changes
        replay            counter ∈ seen                       reject, nothing changes
        otherwise         accept, raise highest, remember the counter, prune seen

    The validator runs one transition for each fixture; a receiver runs it on every packet. The
    window forgets, yet REFINEMENT: over every run it answers like a receiver that remembers every
    counter it ever accepted. -/

namespace IncomUdon.Lifecycle
open IncomUdon.Python IncomUdon.Loader IncomUdon.Lib.ReplayWindow IncomUdon.Lib.ErrorLog

/-- What the receiver does with a packet. -/
inductive ReplayDecision where
  | rejectStale | rejectAuthenticationFailure | rejectReplay | accept
  deriving DecidableEq

/-- The decision as the fixtures name it. -/
def ReplayDecision.text : ReplayDecision → String
  | rejectStale => "reject_stale"
  | rejectAuthenticationFailure => "reject_authentication_failure_without_state_change"
  | rejectReplay => "reject_replay"
  | accept => "accept_and_mark_seen"

/-- The counter is below the window that ends at `highest`. -/
def BelowWindow (window highest counter : ℕ) : Prop := (counter : ℤ) < highest - (window - 1)

instance (window : ℕ) : DecidableRel (BelowWindow window) :=
  fun _ _ => inferInstanceAs (Decidable (_ < _))

/-- A media packet, reduced to its counter and the outcome of its authentication. -/
structure MediaPacket where
  counter : ℕ
  authentication : Json

/-- The authentication succeeded. -/
def MediaPacket.Valid (packet : MediaPacket) : Prop := packet.authentication.eq (.str "valid") = true

instance (packet : MediaPacket) : Decidable packet.Valid := inferInstanceAs (Decidable (_ = true))

/-- The transition of `_validate_media_replay`: the answer and the next `highest` and `seen`. -/
def mediaReplayTransition (window : ℕ) (state : Window ℕ) (packet : MediaPacket) :
    ReplayDecision × Window ℕ :=
  if ∃ highest ∈ state.highest, BelowWindow window highest packet.counter then
    (.rejectStale, state)
  else if ¬packet.Valid then
    (.rejectAuthenticationFailure, state)
  else if packet.counter ∈ state.seen then
    (.rejectReplay, state)
  else
    let highest := match state.highest with
      | none => packet.counter
      | some highest => max highest packet.counter
    let seen := insert packet.counter state.seen
    (.accept, ⟨some highest, {value ∈ seen | (value : ℤ) ≥ highest - (window - 1)}⟩)

/-- One fixture: either the session check, or one transition. -/
def mediaReplayCase (window : ℕ) (case : Json) (index : ℕ) : Check Unit := do
  let case ← asObject case ["media replay case ", .val (.int index), " must be an object"]
  let name := nameLabel case ["media replay case ", .val (.int index)]
  if Dict.has case "announcedMediaNonceBase96Hex" then
    let announced := Dict.get case "announcedMediaNonceBase96Hex"
    let expected :=
      if announced.eq (Dict.get case "packetMediaNonceBase96Hex")
      then "accept_and_mark_seen" else "reject_unannounced_session"
    compare (name.add [" action"]) (.str expected) (Dict.get case "expected")
  else
    let high := Dict.get case "initialHighestAuthenticatedCounter"
    let highest ← match high with
      | .null => pure none
      | high => some <$> integer high (name.add [" high counter"]) 0xFFFFFFFF
    let seen ← iterate (Dict.getD case "initialSeenCounters" (.arr []))
    let seen ← seen.mapM fun value => integer value (name.add [" seen counter"]) 0xFFFFFFFF
    let counter ← integer (Dict.get case "counter") (name.add [" counter"]) 0xFFFFFFFF
    let (decision, state) := mediaReplayTransition window ⟨highest, seen.toFinset⟩
      ⟨counter, Dict.get case "authentication"⟩
    compare (name.add [" action"]) (.str decision.text) (Dict.get case "expected")
    compare (name.add [" high counter"]) (.ofNat? state.highest)
      (Dict.get case "resultHighestAuthenticatedCounter")
    compare (name.add [" seen counters"])
      (.ints (state.seen.sort (· ≥ ·))) (Dict.get case "resultSeenCounters")

/-- `_validate_media_replay`. -/
def validateMediaReplay (root : Root) : Check Unit := do
  let document ← load root "test-vectors/media-replay-v1.json"
  let window ← integer (Dict.get document "windowSize") ["media replay windowSize"] 0xFFFF
  compare ["media replay window size"] (.int window) (.int 64)
  let cases ← asArray (Dict.get document "cases") ["media replay cases must be an array"]
  forM cases.zipIdx fun (case, index) => mediaReplayCase window case index

theorem mediaReplayCase_caught {window index : ℕ} {case : Json} :
    RaisesOnly Caught (mediaReplayCase window case index) := by
  have hseen : ∀ (label : Msg) (items : List Json), RaisesOnly Caught (items.mapM fun value =>
      (Run.lift (integer value label 0xFFFFFFFF) : Check ℕ)) := fun _ _ =>
    raisesOnly_mapM fun _ _ => raisesOnly_lift.mpr throwsOnly_integer_caught
  simp only [mediaReplayCase, Run.liftM_eq, raisesOnly_bind, raisesOnly_lift, throwsOnly_asObject,
    caught_vectorValidation, or_true, true_and, raisesOnly_ite, raisesOnly_compare, implies_true]
  intro d _ _
  cases Dict.get d "initialHighestAuthenticatedCounter" <;> simp [hseen]

/-- CAUGHT: the handler reports every exception of `_validate_media_replay`. -/
theorem validateMediaReplay_caught {root : Root} : RaisesOnly Caught (validateMediaReplay root) := by
  have hcases : ∀ window (cases : List Json), RaisesOnly Caught
      (forM cases.zipIdx fun (case, index) => mediaReplayCase window case index) := fun _ _ =>
    caught_forM_zipIdx fun _ _ => mediaReplayCase_caught
  simp [validateMediaReplay, hcases]

/-! ### One packet -/

section Transition
variable {window : ℕ} {state : Window ℕ} {packet : MediaPacket}

theorem not_belowWindow_iff {highest value : ℕ} :
    ¬BelowWindow window highest value ↔ (value : ℤ) ≥ highest - (window - 1) := by
  simp [BelowWindow]

theorem not_belowWindow_self (hw : 1 ≤ window) (counter : ℕ) :
    ¬BelowWindow window counter counter := by
  rw [not_belowWindow_iff]; omega

/-- A raised mark leaves a stale counter stale. -/
theorem BelowWindow.mono {highest highest' counter : ℕ} (h : highest ≤ highest')
    (hb : BelowWindow window highest counter) : BelowWindow window highest' counter := by
  rw [BelowWindow] at *; omega

/-- What a transition can do: accept a fresh authentic packet and mark its counter, or reject the
    packet and change nothing. -/
theorem mediaReplayTransition_cases (window : ℕ) (state : Window ℕ) (packet : MediaPacket) :
    (packet.Valid ∧ state.Fresh (BelowWindow window) packet.counter ∧
        mediaReplayTransition window state packet
          = (.accept, state.mark (BelowWindow window) packet.counter)) ∨
      (¬(packet.Valid ∧ state.Fresh (BelowWindow window) packet.counter) ∧
        (mediaReplayTransition window state packet).1 ≠ .accept ∧
        (mediaReplayTransition window state packet).2 = state) := by
  unfold mediaReplayTransition Window.Fresh
  split_ifs with hstale hvalid hseen
  · obtain ⟨highest, hmem, hbelow⟩ := hstale
    exact .inr ⟨fun h => h.2.1 highest hmem hbelow, by simp, rfl⟩
  · exact .inr ⟨fun h => h.2.2 hseen, by simp, rfl⟩
  · refine .inl ⟨hvalid, ⟨?_, hseen⟩, ?_⟩
    · exact fun highest hmem hbelow => hstale ⟨highest, hmem, hbelow⟩
    · have hraise : (match state.highest with
          | none => packet.counter
          | some highest => max highest packet.counter)
            = Window.raise state.highest packet.counter := by
        cases state.highest <;> rfl
      simp only [Window.mark, hraise, not_belowWindow_iff]
  · exact .inr ⟨fun h => hvalid h.1, by simp, rfl⟩

theorem mediaReplayTransition_eq_accept :
    (mediaReplayTransition window state packet).1 = .accept ↔
      packet.Valid ∧ state.Fresh (BelowWindow window) packet.counter := by
  rcases mediaReplayTransition_cases window state packet with ⟨hv, hf, h⟩ | ⟨hn, h, -⟩
  · simp only [h, hv, hf, and_self]
  · simp only [h, hn]

/-- STEP: the window stays in line with the counters accepted so far. -/
theorem mediaReplayTransition_represents (packet : MediaPacket) {history : Set ℕ}
    (hr : Represents (BelowWindow window) state history) :
    Represents (BelowWindow window) (mediaReplayTransition window state packet).2
      (if (mediaReplayTransition window state packet).1 = .accept
        then insert packet.counter history else history) := by
  rcases mediaReplayTransition_cases window state packet with ⟨-, -, h⟩ | ⟨-, h, hstate⟩
  · rw [h, if_pos rfl]
    exact hr.mark (fun _ _ _ => BelowWindow.mono) packet.counter
  · rw [hstate, if_neg h]
    exact hr

/-- The highest counter never decreases. -/
theorem mediaReplayTransition_le (packet : MediaPacket) {highest : ℕ} (h : highest ∈ state.highest) :
    ∃ highest' ∈ (mediaReplayTransition window state packet).2.highest, highest ≤ highest' := by
  rcases mediaReplayTransition_cases window state packet with ⟨-, -, heq⟩ | ⟨-, -, hstate⟩
  · rw [heq]
    exact ⟨_, rfl, le_raise h packet.counter⟩
  · rw [hstate]
    exact ⟨highest, h, le_refl highest⟩

end Transition

/-! ### Runs -/

/-- A receiver's answers to the packets it gets, and the window it is left with. -/
def mediaReplayRun (window : ℕ) (state : Window ℕ) : List MediaPacket → List ReplayDecision × Window ℕ
  | [] => ([], state)
  | packet :: packets =>
    let (decision, next) := mediaReplayTransition window state packet
    let (decisions, last) := mediaReplayRun window next packets
    (decision :: decisions, last)

/-- The answers of a receiver that starts with nothing seen. -/
def decisions (window : ℕ) (packets : List MediaPacket) : List ReplayDecision :=
  (mediaReplayRun window Window.empty packets).1

/-- The window of a receiver that started with nothing seen. -/
def windowAfter (window : ℕ) (packets : List MediaPacket) : Window ℕ :=
  (mediaReplayRun window Window.empty packets).2

/-- The counters of the packets that were accepted, in order of arrival. -/
def acceptedCounters (window : ℕ) (packets : List MediaPacket) : List ℕ :=
  ((packets.zip (decisions window packets)).filter fun (_, decision) => decision = .accept).map
    fun (packet, _) => packet.counter

section Run
variable {window : ℕ}

theorem mediaReplayRun_append (window : ℕ) (state : Window ℕ) (packets more : List MediaPacket) :
    mediaReplayRun window state (packets ++ more)
      = ((mediaReplayRun window state packets).1
          ++ (mediaReplayRun window (mediaReplayRun window state packets).2 more).1,
        (mediaReplayRun window (mediaReplayRun window state packets).2 more).2) := by
  induction packets generalizing state with
  | nil => rfl
  | cons packet packets ih => simp [mediaReplayRun, ih]

@[simp] theorem length_decisions (packets : List MediaPacket) :
    (decisions window packets).length = packets.length := by
  unfold decisions
  generalize Window.empty = state
  induction packets generalizing state with
  | nil => rfl
  | cons packet packets ih => simp [mediaReplayRun, ih]

theorem windowAfter_snoc (packets : List MediaPacket) (packet : MediaPacket) :
    windowAfter window (packets ++ [packet])
      = (mediaReplayTransition window (windowAfter window packets) packet).2 := by
  simp [windowAfter, mediaReplayRun_append, mediaReplayRun]

theorem decisions_snoc (packets : List MediaPacket) (packet : MediaPacket) :
    decisions window (packets ++ [packet])
      = decisions window packets
        ++ [(mediaReplayTransition window (windowAfter window packets) packet).1] := by
  simp [decisions, windowAfter, mediaReplayRun_append, mediaReplayRun]

theorem acceptedCounters_snoc (packets : List MediaPacket) (packet : MediaPacket) :
    acceptedCounters window (packets ++ [packet])
      = acceptedCounters window packets
        ++ if (mediaReplayTransition window (windowAfter window packets) packet).1 = .accept
            then [packet.counter] else [] := by
  rw [acceptedCounters, decisions_snoc, List.zip_append (by simp), List.filter_append,
    List.map_append, acceptedCounters]
  split_ifs with h <;> simp [h]

/-- RUN: after any packets the window stands for all counters accepted so far. -/
theorem windowAfter_represents (window : ℕ) (packets : List MediaPacket) :
    Represents (BelowWindow window) (windowAfter window packets)
      {counter | counter ∈ acceptedCounters window packets} := by
  induction packets using List.reverseRecOn with
  | nil => simpa [windowAfter, mediaReplayRun, acceptedCounters] using represents_empty
  | append_singleton packets packet ih =>
    have hstep := mediaReplayTransition_represents packet ih
    rw [windowAfter_snoc, acceptedCounters_snoc]
    split_ifs at hstep ⊢ with h
    · convert hstep using 1
      ext counter
      simp [or_comm]
    · simpa using hstep

/-- The answer to the packet that follows `packets`. -/
theorem decisions_accept_iff (packets : List MediaPacket) (packet : MediaPacket) :
    (mediaReplayTransition window (windowAfter window packets) packet).1 = .accept ↔
      packet.Valid ∧
        FreshIn (BelowWindow window) {counter | counter ∈ acceptedCounters window packets}
          packet.counter := by
  rw [mediaReplayTransition_eq_accept, (windowAfter_represents window packets).fresh_iff]

/-- No counter is accepted twice. -/
theorem nodup_acceptedCounters (packets : List MediaPacket) :
    (acceptedCounters window packets).Nodup := by
  induction packets using List.reverseRecOn with
  | nil => simp [acceptedCounters]
  | append_singleton packets packet ih =>
    rw [acceptedCounters_snoc]
    split_ifs with h
    · refine ih.append (List.nodup_singleton _) ?_
      rw [List.disjoint_singleton]
      exact ((decisions_accept_iff packets packet).mp h).2.2
    · rwa [List.append_nil]

theorem highest_mono (packets more : List MediaPacket) {highest : ℕ}
    (h : highest ∈ (windowAfter window packets).highest) :
    ∃ highest' ∈ (windowAfter window (packets ++ more)).highest, highest ≤ highest' := by
  induction more using List.reverseRecOn with
  | nil => exact ⟨highest, by rwa [List.append_nil], le_refl highest⟩
  | append_singleton more packet ih =>
    obtain ⟨h₁, hmem₁, hle₁⟩ := ih
    rw [← List.append_assoc, windowAfter_snoc]
    obtain ⟨h₂, hmem₂, hle₂⟩ := mediaReplayTransition_le packet hmem₁
    exact ⟨h₂, hmem₂, hle₁.trans hle₂⟩

/-- The packets before position `k` are answered as if no others came. -/
theorem decisions_take (window : ℕ) (packets : List MediaPacket) (k : ℕ) :
    decisions window (packets.take k) = (decisions window packets).take k := by
  have hrun := mediaReplayRun_append window .empty (packets.take k) (packets.drop k)
  rw [List.take_append_drop] at hrun
  by_cases hk : k ≤ packets.length
  · have hlen : (decisions window (packets.take k)).length = k := by simpa using hk
    have hsplit : decisions window packets = decisions window (packets.take k) ++ _ :=
      congrArg Prod.fst hrun
    rw [hsplit, List.take_left' hlen]
  · have hle : packets.length ≤ k := Nat.le_of_not_le hk
    rw [List.take_of_length_le hle, List.take_of_length_le (by simpa using hle)]

end Run

/-! ### The window against unlimited memory -/

/-- A packet before position `k` was accepted with this counter. -/
def AcceptedBefore (window : ℕ) (packets : List MediaPacket) (k counter : ℕ) : Prop :=
  ∃ j < k, (decisions window packets)[j]? = some .accept ∧
    ∃ packet, packets[j]? = some packet ∧ packet.counter = counter

theorem mem_acceptedCounters {window : ℕ} {packets : List MediaPacket} {counter : ℕ} :
    counter ∈ acceptedCounters window packets ↔
      AcceptedBefore window packets packets.length counter := by
  simp only [acceptedCounters, List.mem_map, List.mem_filter, decide_eq_true_eq, Prod.exists,
    AcceptedBefore]
  constructor
  · rintro ⟨packet, decision, ⟨hzip, rfl⟩, rfl⟩
    obtain ⟨j, hj⟩ := List.mem_iff_getElem?.mp hzip
    obtain ⟨hp, hd⟩ := List.getElem?_zip_eq_some.mp hj
    exact ⟨j, (List.getElem?_eq_some_iff.mp hp).1, hd, packet, hp, rfl⟩
  · rintro ⟨j, -, hd, packet, hp, rfl⟩
    refine ⟨packet, .accept, ⟨List.mem_iff_getElem?.mpr ⟨j, ?_⟩, rfl⟩, rfl⟩
    exact List.getElem?_zip_eq_some.mpr ⟨hp, hd⟩

/-- The counters accepted before position `k` are those of a run that stops there. -/
theorem acceptedBefore_iff {window : ℕ} {packets : List MediaPacket} {k counter : ℕ}
    (hk : k ≤ packets.length) :
    AcceptedBefore window packets k counter ↔
      counter ∈ acceptedCounters window (packets.take k) := by
  rw [mem_acceptedCounters, AcceptedBefore, AcceptedBefore, decisions_take,
    List.length_take_of_le hk]
  refine exists_congr fun j => and_congr_right fun hj => ?_
  rw [List.getElem?_take_of_lt hj, List.getElem?_take_of_lt hj]

theorem getElem_decisions {window : ℕ} (packets : List MediaPacket) (k : Fin packets.length) :
    (decisions window packets)[(k : ℕ)]? =
      some (mediaReplayTransition window (windowAfter window (packets.take k)) packets[k]).1 := by
  have htake := decisions_take window packets (k + 1)
  rw [List.take_succ_eq_append_getElem k.isLt, decisions_snoc] at htake
  have hlen : (decisions window (packets.take k)).length = k := by simp
  rw [← List.getElem?_take_of_lt (Nat.lt_succ_self (k : ℕ)), ← htake,
    List.getElem?_append_right (Nat.le_of_eq hlen), hlen, Nat.sub_self]
  rfl

/-- REFINEMENT: with a window of 64, the `k`-th packet is accepted exactly when it is authentic, its
    counter is at most 63 below every counter accepted before, and its counter was never accepted
    before. So no counter is accepted twice. -/
theorem mediaReplay_like_unlimited_memory (packets : List MediaPacket) :
    (∀ k : Fin packets.length, (decisions 64 packets)[(k : ℕ)]? = some .accept ↔
      packets[k].Valid ∧
        (∀ highest, IsGreatest {counter | AcceptedBefore 64 packets k counter} highest →
          highest ≤ packets[k].counter + 63) ∧
        ¬AcceptedBefore 64 packets k packets[k].counter) ∧
    ∀ j k : Fin packets.length, j < k → (decisions 64 packets)[(j : ℕ)]? = some .accept →
      (decisions 64 packets)[(k : ℕ)]? = some .accept → packets[j].counter ≠ packets[k].counter := by
  have hanswer : ∀ k : Fin packets.length, (decisions 64 packets)[(k : ℕ)]? = some .accept ↔
      packets[k].Valid ∧
        (∀ highest, IsGreatest {counter | AcceptedBefore 64 packets k counter} highest →
          highest ≤ packets[k].counter + 63) ∧
        ¬AcceptedBefore 64 packets k packets[k].counter := by
    intro k
    have hset : ∀ counter, AcceptedBefore 64 packets k counter ↔ _ :=
      fun counter => acceptedBefore_iff (Nat.le_of_lt k.isLt)
    rw [getElem_decisions, Option.some.injEq, decisions_accept_iff, FreshIn]
    simp only [hset, Set.mem_ofPred_eq, not_belowWindow_iff]
    refine and_congr_right fun _ => and_congr_left fun _ => ?_
    exact forall₂_congr fun highest _ => by omega
  refine ⟨hanswer, fun j k hjk hj hk heq => ?_⟩
  have hfresh := ((hanswer k).mp hk).2.2
  exact hfresh ⟨j, hjk, hj, packets[j], List.getElem?_eq_getElem j.isLt, heq⟩

/-- INVARIANT: the window is empty, or it holds its mark, the greatest counter accepted so far, and
    exactly the accepted counters of the 64 values up to it. Its mark never decreases, and a packet
    that is not accepted leaves it as it was. -/
theorem mediaReplay_window_invariant (packets : List MediaPacket) :
    (((windowAfter 64 packets).highest = none ∧ (windowAfter 64 packets).seen = ∅) ∨
      ∃ highest, (windowAfter 64 packets).highest = some highest ∧
        highest ∈ (windowAfter 64 packets).seen ∧
        IsGreatest {counter | AcceptedBefore 64 packets packets.length counter} highest ∧
        (∀ counter ∈ (windowAfter 64 packets).seen,
          (highest : ℤ) - 63 ≤ counter ∧ counter ≤ highest) ∧
        (∀ counter, AcceptedBefore 64 packets packets.length counter →
          (highest : ℤ) - 63 ≤ counter → counter ≤ highest →
            counter ∈ (windowAfter 64 packets).seen) ∧
        (windowAfter 64 packets).seen.card ≤ 64) ∧
    (∀ more, ∀ highest ∈ (windowAfter 64 packets).highest,
      ∃ highest' ∈ (windowAfter 64 (packets ++ more)).highest, highest ≤ highest') ∧
    ∀ packet, (mediaReplayTransition 64 (windowAfter 64 packets) packet).1 ≠ .accept →
      (mediaReplayTransition 64 (windowAfter 64 packets) packet).2 = windowAfter 64 packets := by
  have hr := windowAfter_represents 64 packets
  simp only [mem_acceptedCounters] at hr
  refine ⟨?_, fun more highest h => highest_mono packets more h, fun packet hreject => ?_⟩
  · cases hw : (windowAfter 64 packets).highest with
    | none => exact .inl ⟨rfl, hr.seen_of_none hw⟩
    | some highest =>
      have hgreatest := hr.highest_some highest hw
      have hseen : ∀ counter, counter ∈ (windowAfter 64 packets).seen ↔
          AcceptedBefore 64 packets packets.length counter ∧ (highest : ℤ) - 63 ≤ counter := by
        intro counter
        simp [hr.mem_seen, hw, not_belowWindow_iff]
      have hbounds : ∀ counter ∈ (windowAfter 64 packets).seen,
          (highest : ℤ) - 63 ≤ counter ∧ counter ≤ highest := fun counter hc =>
        ⟨((hseen counter).mp hc).2, hgreatest.2 ((hseen counter).mp hc).1⟩
      refine .inr ⟨highest, rfl, hr.highest_mem_seen (not_belowWindow_self (by decide)) hw,
        hgreatest, hbounds, fun counter ha hge _ => (hseen counter).mpr ⟨ha, hge⟩, ?_⟩
      -- The window lies in an interval of 64 integers.
      have hsub : (windowAfter 64 packets).seen ⊆ Finset.Icc (highest - 63) highest := fun c hc =>
        Finset.mem_Icc.mpr ⟨by have := (hbounds c hc).1; omega, (hbounds c hc).2⟩
      calc (windowAfter 64 packets).seen.card ≤ (Finset.Icc (highest - 63) highest).card :=
            Finset.card_le_card hsub
        _ ≤ 64 := by rw [Nat.card_Icc]; omega
  · rcases mediaReplayTransition_cases 64 (windowAfter 64 packets) packet with
      ⟨-, -, h⟩ | ⟨-, -, h⟩
    · exact absurd (congrArg Prod.fst h) hreject
    · exact h

end IncomUdon.Lifecycle
