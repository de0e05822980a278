import IncomUdon.Lib.Lease
import IncomUdon.Lifecycle.Membership

/-! Membership leases over a whole timeline. The refresh loop keeps one number, the deadline, and
    every packet is checked against the deadline that the packet before it has set:

        join ──▶ t₁ ──▶ t₂ ──▶ …        t₁ < join + lease,  t₂ < t₁ + lease,  …

    SURVIVES: with a valid lease and keepalive pair no isolated loss lets the deadline come near.
    CLOCK: the check has no lower end, so an accepted timeline may step back, and then a refresh
    shortens the membership; it follows the clock exactly when no time is before the one that
    precedes it. -/

namespace IncomUdon.Lifecycle
open IncomUdon.Python IncomUdon.Lib.ErrorLog IncomUdon.Lib.Lease

/-! ### The refresh loop -/

/-- A packet of a refreshing type that is received at this time. -/
def RefreshAt (packet : Json) (time : ℕ) : Prop :=
  ∃ d, packet = .obj d ∧ (∃ type ∈ membershipRefreshTypes ++ ["AUDIO", "FEC"],
    Dict.get d "type" = .str type) ∧ Dict.get d "receivedAtSeconds" = .int time ∧ time ≤ maxTime

/-- The packet is received at this time and expects the deadline that it sets. -/
def RefreshExpected (lease : ℕ) (packet : Json) (time : ℕ) : Prop :=
  RefreshAt packet time ∧
    (Json.int (time + lease : ℕ)).eq (getIfObject packet "expectedDeadlineSeconds") = true

/-- The error about a packet after the deadline. -/
def lateRefresh (name : Msg) : Msg :=
  name.add [": refresh packet arrives after the existing membership deadline"]

section Loop
variable {name : Msg} {lease deadline last time : ℕ} {packet : Json} {packets : List Json}
  {times : List ℕ}

/-- A packet has one receive time. -/
theorem refreshAt_unique {time' : ℕ} (h : RefreshAt packet time) (h' : RefreshAt packet time') :
    time = time' := by
  obtain ⟨d, rfl, -, htime, -⟩ := h
  obtain ⟨_, ⟨⟩, -, htime', -⟩ := h'
  simpa using htime.symm.trans htime'

/-- STEP: a packet moves the deadline to its own time and the lease. -/
theorem returns_refreshPacket {deadline' : ℕ} :
    Returns (refreshPacket name lease deadline packet) deadline' ↔
      ∃ time, RefreshAt packet time ∧ deadline' = time + lease := by
  simp only [refreshPacket, RefreshAt, Run.liftM_eq, returns_bind, returns_lift, asObject_eq_ok,
    require_eq_ok, integer_eq_ok, returns_reportIf, returns_compare, returns_pure, true_and,
    exists_const]
  constructor
  · rintro ⟨d, rfl, eligible, htype, heligible, time, ⟨htime, hle⟩, rfl⟩
    obtain ⟨type, hmem, hname⟩ := inNames_eq_true.mp (heligible ▸ htype)
    exact ⟨time, ⟨d, rfl, ⟨type, hmem, hname⟩, htime, hle⟩, rfl⟩
  · rintro ⟨time, ⟨d, rfl, ⟨type, hmem, hname⟩, htime, hle⟩, rfl⟩
    exact ⟨d, rfl, true, inNames_eq_true.mpr ⟨type, hmem, hname⟩, rfl, time, ⟨htime, hle⟩, rfl⟩

theorem clean_refreshPacket {deadline' : ℕ} :
    Clean (refreshPacket name lease deadline packet) deadline' ↔
      ∃ time, RefreshExpected lease packet time ∧ time < deadline ∧ deadline' = time + lease := by
  simp only [refreshPacket, RefreshExpected, RefreshAt, Run.liftM_eq, clean_bind, clean_lift,
    asObject_eq_ok, require_eq_ok, integer_eq_ok, clean_reportIf, clean_compare, clean_pure,
    ge_iff_le, not_le, exists_const]
  constructor
  · rintro ⟨d, rfl, eligible, htype, heligible, time, ⟨htime, hle⟩, hlate, hexpected, rfl⟩
    obtain ⟨type, hmem, hname⟩ := inNames_eq_true.mp (heligible ▸ htype)
    exact ⟨time, ⟨⟨d, rfl, ⟨type, hmem, hname⟩, htime, hle⟩, hexpected⟩, hlate, rfl⟩
  · rintro ⟨time, ⟨⟨d, rfl, ⟨type, hmem, hname⟩, htime, hle⟩, hexpected⟩, hlate, rfl⟩
    exact ⟨d, rfl, true, inNames_eq_true.mpr ⟨type, hmem, hname⟩, rfl, time, ⟨htime, hle⟩, hlate,
      hexpected, rfl⟩

/-- STEP: a packet is reported as late exactly when it comes at the deadline or after it. -/
theorem late_refreshPacket (h : RefreshAt packet time) :
    Reports (refreshPacket name lease deadline packet) (lateRefresh name) ↔ deadline ≤ time := by
  obtain ⟨d, rfl, ⟨type, hmem, hname⟩, htime, hle⟩ := h
  have heligible : inNames (Dict.get d "type") (membershipRefreshTypes ++ ["AUDIO", "FEC"]) = .ok true :=
    inNames_eq_true.mpr ⟨type, hmem, hname⟩
  have hread : integer (Dict.get d "receivedAtSeconds") (name.add [" refresh receive time"]) maxTime
      = .ok time := integer_eq_ok.mpr ⟨htime, hle⟩
  have hcompare : ∀ actual expected,
      ¬Reports (compare (name.add [" refresh deadline"]) actual expected) (lateRefresh name) :=
    fun actual expected hreports => by simpa [lateRefresh] using eq_of_reports_compare hreports
  unfold lateRefresh at hcompare ⊢
  simp only [refreshPacket, Run.liftM_eq, asObject_eq_ok, heligible, hread, require_eq_ok,
    reports_bind, not_reports_lift, not_reports_pure, reports_reportIf, returns_lift,
    returns_reportIf, returns_compare, hcompare, Except.ok.injEq, Json.obj.injEq, exists_eq_left',
    false_or, or_false, true_and, and_true, exists_const, ge_iff_le, and_false]

/-- RUN: the last packet sets the deadline. -/
theorem returns_refreshPackets (h : List.Forall₂ RefreshAt packets times) {deadline' : ℕ} :
    Returns (packets.foldlM (refreshPacket name lease) (last + lease)) deadline' ↔
      deadline' = times.getLastD last + lease := by
  induction h generalizing last with
  | nil => simp [eq_comm]
  | @cons packet time packets times htime _ ih =>
    simp only [List.foldlM_cons, returns_bind, returns_refreshPacket, List.getLastD_cons]
    constructor
    · rintro ⟨_, ⟨time', htime', rfl⟩, hrest⟩
      exact refreshAt_unique htime htime' ▸ ih.mp hrest
    · exact fun hdeadline => ⟨_, ⟨time, htime, rfl⟩, ih.mpr hdeadline⟩

/-- RUN: no packet is reported as late when each comes before the deadline set before it. -/
theorem not_late_refreshPackets (h : List.Forall₂ RefreshAt packets times)
    (hchain : (last :: times).IsChain fun a b => b < a + lease) :
    ¬Reports (packets.foldlM (refreshPacket name lease) (last + lease)) (lateRefresh name) := by
  induction h generalizing last with
  | nil => simp
  | @cons packet time packets times htime _ ih =>
    rw [List.isChain_cons_cons] at hchain
    rw [List.foldlM_cons, reports_bind, late_refreshPacket htime, not_or]
    refine ⟨not_le.mpr hchain.1, ?_⟩
    rintro ⟨deadline', hreturns, hlate⟩
    obtain ⟨time', htime', rfl⟩ := returns_refreshPacket.mp hreturns
    rw [← refreshAt_unique htime htime'] at hlate
    exact ih hchain.2 hlate

/-- RUN: the loop reports nothing exactly when each packet comes before the deadline set before it and
    expects the one it sets. -/
theorem clean_refreshPackets {deadline' : ℕ} :
    Clean (packets.foldlM (refreshPacket name lease) (last + lease)) deadline' ↔
      ∃ times, List.Forall₂ (RefreshExpected lease) packets times ∧
        ((last :: times).IsChain fun a b => b < a + lease) ∧
        deadline' = times.getLastD last + lease := by
  induction packets generalizing last with
  | nil => simp [eq_comm]
  | cons packet packets ih =>
    simp only [List.foldlM_cons, clean_bind, clean_refreshPacket, List.forall₂_cons_left_iff]
    constructor
    · rintro ⟨_, ⟨time, htime, hlate, rfl⟩, hrest⟩
      obtain ⟨times, htimes, hchain, rfl⟩ := ih.mp hrest
      exact ⟨time :: times, ⟨time, times, htime, htimes, rfl⟩, List.isChain_cons_cons.mpr ⟨hlate,
        hchain⟩, by rw [List.getLastD_cons]⟩
    · rintro ⟨_, ⟨time, times, htime, htimes, rfl⟩, hchain, rfl⟩
      rw [List.isChain_cons_cons] at hchain
      refine ⟨_, ⟨time, htime, hchain.1, rfl⟩, ih.mpr ⟨times, htimes, hchain.2, ?_⟩⟩
      rw [List.getLastD_cons]

end Loop

/-! ### Isolated losses -/

/-- A refresh packet that a client sends. -/
structure Transmission extends Signal ℕ where
  packet : Json

/-- The packets that the Relay receives. -/
def deliveredPackets (sent : List Transmission) : List Json :=
  (sent.filter fun transmission => !transmission.lost).map Transmission.packet

section Isolated
variable {lease keepalive interval join : ℕ} {sent : List Transmission}

/-- Two intervals are shorter than a valid lease, after SERVER_CONFIG and before it. -/
theorem two_intervals_lt_lease (hpair : validMembershipPair lease keepalive)
    (hinterval : interval = keepalive ∨ interval = 5) : interval + interval < lease := by
  obtain ⟨hmin, -, -, hkeepalive⟩ := hpair
  rcases hinterval with rfl | rfl <;> omega

theorem forall₂_deliveredPackets
    (hpackets : ∀ transmission ∈ sent, RefreshAt transmission.packet transmission.time) :
    List.Forall₂ RefreshAt (deliveredPackets sent) (arrived (sent.map Transmission.toSignal)) := by
  induction sent with
  | nil => exact .nil
  | cons first sent ih =>
    rw [List.forall_mem_cons] at hpackets
    by_cases hlost : first.lost = true
    · rw [List.map_cons, arrived_cons_of_lost hlost]
      rw [deliveredPackets, List.filter_cons_of_neg (by simp [hlost])]
      exact ih hpackets.2
    · rw [List.map_cons, arrived_cons_of_not_lost hlost]
      rw [deliveredPackets, List.filter_cons_of_pos (by simp [hlost]), List.map_cons]
      exact .cons hpackets.1 (ih hpackets.2)

/-- SURVIVES: a client with a valid pair sends refresh packets from the JOIN on, each at most an
    interval after the one before it, and no two in a row are lost. The loop over the packets that
    are delivered reports none as late, and the deadline is ahead whenever a packet is sent. -/
theorem membership_survives_isolatedLoss {name : Msg} (hpair : validMembershipPair lease keepalive)
    (hinterval : interval = keepalive ∨ interval = 5)
    (hpackets : ∀ transmission ∈ sent, RefreshAt transmission.packet transmission.time)
    (hspaced : (join :: sent.map (·.time)).IsChain fun a b => a ≤ b ∧ b ≤ a + interval)
    (hisolated : sent.IsChain fun a b => ¬(a.lost = true ∧ b.lost = true)) :
    ¬Reports ((deliveredPackets sent).foldlM (refreshPacket name lease) (join + lease))
      (lateRefresh name) ∧
    ∀ before transmission after, sent = before ++ transmission :: after →
      (∃ deadline, Returns ((deliveredPackets before).foldlM (refreshPacket name lease) (join + lease))
        deadline ∧ transmission.time < deadline) ∧
      ∃ deadline, Returns ((deliveredPackets (before ++ [transmission])).foldlM (refreshPacket name lease)
        (join + lease)) deadline ∧ transmission.time < deadline := by
  have halive : Alive lease join (sent.map Transmission.toSignal) := by
    refine alive_of_isolated (Nat.zero_le interval) (two_intervals_lt_lease hpair hinterval) ?_ ?_
      (Nat.le_add_right join interval) (.inl rfl)
    · rw [List.map_map]
      exact hspaced.imp fun _ _ hgap => hgap.2
    · exact List.isChain_map_of_isChain Transmission.toSignal (fun _ _ h => h) hisolated
  refine ⟨not_late_refreshPackets (forall₂_deliveredPackets hpackets) halive.isChain_arrived, ?_⟩
  rintro before transmission after rfl
  rw [List.forall_mem_append, List.forall_mem_cons] at hpackets
  rw [List.map_append, List.map_cons] at halive
  have hahead := halive.lt_deadline
  refine ⟨⟨_, (returns_refreshPackets (forall₂_deliveredPackets hpackets.1)).mpr rfl, hahead⟩, ?_⟩
  have hupTo : ∀ tx ∈ before ++ [transmission], RefreshAt tx.packet tx.time :=
    List.forall_mem_append.mpr ⟨hpackets.1, List.forall_mem_singleton.mpr hpackets.2.1⟩
  refine ⟨_, (returns_refreshPackets (forall₂_deliveredPackets hupTo)).mpr rfl, ?_⟩
  rw [List.map_append]
  exact halive.lt_deadline_after (lt_of_lt_of_le (by decide) hpair.1)

end Isolated

/-- Three KEEPALIVE packets, ten seconds apart, of which the second is lost. -/
def keepaliveSchedule : List Transmission :=
  [(110, false), (120, true), (130, false)].map fun (time, lost) =>
    ⟨⟨time, lost⟩, .obj [("type", .str "KEEPALIVE"), ("receivedAtSeconds", .int time)]⟩

/-- The default pair survives the loss of the second packet. -/
theorem membership_survives_isolatedLoss_three :
    ¬Reports ((deliveredPackets keepaliveSchedule).foldlM (refreshPacket [] 30) (100 + 30))
      (lateRefresh []) := by
  have hpackets : ∀ transmission ∈ keepaliveSchedule, RefreshAt transmission.packet transmission.time := by
    simp only [keepaliveSchedule, List.map_cons, List.map_nil, List.forall_mem_cons]
    refine ⟨?_, ?_, ?_, nofun⟩ <;> exact ⟨_, rfl, ⟨"KEEPALIVE", by decide, rfl⟩, rfl, by decide⟩
  have hpair : validMembershipPair 30 10 := by decide
  exact (membership_survives_isolatedLoss hpair (.inl rfl) hpackets (by decide) (by decide)).1

/-! ### The clock -/

/-- The numbers of a case with `refreshPackets`. -/
structure RefreshTimeline where
  lease : ℕ
  join : ℕ
  packets : List Json
  times : List ℕ
  memberAt : ℕ

/-- The case has these numbers. -/
structure HasTimeline (case : Dict) (timeline : RefreshTimeline) : Prop where
  lease : Dict.get case "leaseSeconds" = .int timeline.lease
  join : Dict.get case "joinAcceptedAtSeconds" = .int timeline.join
  packets : Dict.get case "refreshPackets" = .arr timeline.packets
  times : List.Forall₂ RefreshAt timeline.packets timeline.times
  memberAt : Dict.get case "expectedMembershipAtSeconds" = .int timeline.memberAt

namespace RefreshTimeline

/-- The receive times run with the clock from the JOIN on, no refresh takes the deadline back, and the
    membership is looked at after the last refresh. -/
structure FollowsClock (timeline : RefreshTimeline) (name : Msg) : Prop where
  ordered : timeline.times.IsChain (· ≤ ·)
  fromJoin : ∀ time ∈ timeline.times, timeline.join ≤ time
  extends_deadline : ∀ before packet after deadline deadline',
    timeline.packets = before ++ packet :: after →
    Returns (before.foldlM (refreshPacket name timeline.lease) (timeline.join + timeline.lease)) deadline →
    Returns (refreshPacket name timeline.lease deadline packet) deadline' → deadline ≤ deadline'
  member : ∀ last ∈ timeline.times.getLast?, last ≤ timeline.memberAt

/-- No time is before the one that directly precedes it. -/
def NeverStepsBack (timeline : RefreshTimeline) : Prop :=
  (timeline.join :: timeline.times).IsChain (· ≤ ·) ∧
    ∀ last ∈ timeline.times.getLast?, last ≤ timeline.memberAt

instance (timeline : RefreshTimeline) : Decidable timeline.NeverStepsBack :=
  inferInstanceAs (Decidable (_ ∧ _))

end RefreshTimeline

section Clock
variable {case : Dict} {name : Msg} {timeline : RefreshTimeline}

/-- In a chain of times each is at least the last one before it. -/
theorem getLastD_le_of_isChain {before after : List ℕ} {start time : ℕ}
    (h : (start :: (before ++ time :: after)).IsChain (· ≤ ·)) : before.getLastD start ≤ time := by
  induction before generalizing start with
  | nil => exact (List.isChain_cons_cons.mp h).1
  | cons first before ih =>
    rw [List.getLastD_cons]
    exact ih (List.isChain_cons_cons.mp h).2

/-- FIXTURE: a case reports nothing exactly when each packet comes before the deadline set before it
    and expects the one it sets, and the membership is looked at before the last deadline. -/
theorem clean_refreshCase :
    Clean (refreshCase case name) () ↔ ∃ timeline : RefreshTimeline, HasTimeline case timeline ∧
      (timeline.lease ≤ 0xFFFF ∧ timeline.join ≤ maxTime ∧ timeline.memberAt ≤ maxTime) ∧
      List.Forall₂ (RefreshExpected timeline.lease) timeline.packets timeline.times ∧
      ((timeline.join :: timeline.times).IsChain fun a b => b < a + timeline.lease) ∧
      timeline.memberAt < timeline.times.getLastD timeline.join + timeline.lease := by
  simp only [refreshCase, leaseAndDeadline, Run.liftM_eq, clean_bind, clean_lift, bind_eq_ok,
    integer_eq_ok, asArray_eq_ok, clean_reportIf, ge_iff_le, not_le]
  constructor
  · rintro ⟨_, ⟨lease, ⟨hlease, hmax⟩, join, ⟨hjoin, hjoinMax⟩, ⟨⟩⟩, packets, hpackets,
      deadline, hclean, memberAt, ⟨hmember, hmemberMax⟩, hlate⟩
    obtain ⟨times, htimes, hchain, rfl⟩ := clean_refreshPackets.mp hclean
    exact ⟨⟨lease, join, packets, times, memberAt⟩,
      ⟨hlease, hjoin, hpackets, htimes.imp fun _ _ h => h.1, hmember⟩, ⟨hmax, hjoinMax, hmemberMax⟩,
      htimes, hchain, hlate⟩
  · rintro ⟨timeline, h, ⟨hmax, hjoinMax, hmemberMax⟩, htimes, hchain, hlate⟩
    exact ⟨_, ⟨_, ⟨h.lease, hmax⟩, _, ⟨h.join, hjoinMax⟩, rfl⟩, _, h.packets, _,
      clean_refreshPackets.mpr ⟨_, htimes, hchain, rfl⟩, _, ⟨h.memberAt, hmemberMax⟩, hlate⟩

/-- A timeline follows the clock exactly when it never steps back. -/
theorem HasTimeline.followsClock_iff (h : HasTimeline case timeline) :
    timeline.FollowsClock name ↔ timeline.NeverStepsBack := by
  constructor
  · rintro ⟨hordered, hjoin, -, hmember⟩
    refine ⟨?_, hmember⟩
    cases htimes : timeline.times with
    | nil => exact List.isChain_singleton _
    | cons time times =>
      rw [htimes] at hordered hjoin
      exact List.isChain_cons_cons.mpr ⟨hjoin time List.mem_cons_self, hordered⟩
  · rintro ⟨hchain, hmember⟩
    refine ⟨hchain.tail, fun time htime => hchain.rel_cons htime, ?_, hmember⟩
    intro before packet after deadline deadline' hsplit hbefore hpacket
    have htimes := h.times.flip
    rw [hsplit] at htimes
    obtain ⟨time, times, htime, -, hdrop⟩ :=
      List.forall₂_cons_right_iff.mp (List.forall₂_drop_append _ _ _ htimes)
    rw [← List.take_append_drop before.length timeline.times, hdrop] at hchain
    have hdeadline := (returns_refreshPackets (List.forall₂_take_append _ _ _ htimes).flip).mp hbefore
    obtain ⟨time', htime', rfl⟩ := returns_refreshPacket.mp hpacket
    rw [hdeadline, refreshAt_unique htime' htime]
    exact Nat.add_le_add_right (getLastD_le_of_isChain hchain) _

/-- CLOCK: an accepted case follows the Relay's clock exactly when its times never step back. -/
theorem refreshCase_followsClock_iff (hclean : Clean (refreshCase case name) ()) :
    ∃ timeline, HasTimeline case timeline ∧
      (timeline.FollowsClock name ↔ timeline.NeverStepsBack) := by
  obtain ⟨timeline, h, -⟩ := clean_refreshCase.mp hclean
  exact ⟨timeline, h, h.followsClock_iff⟩

end Clock

/-- A case with refresh packets at these times, which expect the deadlines that they set. -/
def refreshFixture (lease join : ℕ) (times : List ℕ) (memberAt : ℕ) : Dict :=
  [("leaseSeconds", .int lease), ("joinAcceptedAtSeconds", .int join),
    ("refreshPackets", .arr (times.map fun time : ℕ => .obj [("type", .str "KEEPALIVE"),
      ("receivedAtSeconds", .int time), ("expectedDeadlineSeconds", .int (time + lease : ℕ))])),
    ("expectedMembershipAtSeconds", .int memberAt)]

theorem hasTimeline_refreshFixture {lease join memberAt : ℕ} {times : List ℕ}
    (htimes : ∀ time ∈ times, time ≤ maxTime) :
    ∃ timeline, HasTimeline (refreshFixture lease join times memberAt) timeline ∧
      timeline.lease = lease ∧ timeline.join = join ∧ timeline.times = times ∧
      timeline.memberAt = memberAt := by
  refine ⟨⟨lease, join, _, times, memberAt⟩, ⟨rfl, rfl, rfl, ?_, rfl⟩, rfl, rfl, rfl, rfl⟩
  induction times with
  | nil => exact .nil
  | cons time times ih =>
    rw [List.forall_mem_cons] at htimes
    exact .cons ⟨_, rfl, ⟨"KEEPALIVE", by decide, rfl⟩, rfl, htimes.1⟩ (ih htimes.2)

/-- Refreshes at 110 and 120 after a JOIN at 100. -/
theorem refreshCase_followsClock_iff_forward :
    ∃ timeline, HasTimeline (refreshFixture 30 100 [110, 120] 130) timeline ∧
      (timeline.FollowsClock [] ↔ timeline.NeverStepsBack) :=
  refreshCase_followsClock_iff (clean_of_isClean (by decide))

/-- Refreshes at 120, 105 and 90 after a JOIN at 100 are accepted, and so is a membership that is
    looked at before them. -/
theorem refreshTimeline_stepsBack :
    Clean (refreshCase (refreshFixture 30 100 [120, 105, 90] 80) []) () ∧
    ∃ timeline, HasTimeline (refreshFixture 30 100 [120, 105, 90] 80) timeline ∧
      ¬timeline.FollowsClock [] := by
  obtain ⟨timeline, h, -, -, htimes, -⟩ := @hasTimeline_refreshFixture 30 100 80 [120, 105, 90]
    (by decide)
  refine ⟨clean_of_isClean (by decide), timeline, h, fun hfollows => ?_⟩
  have hordered := hfollows.ordered
  rw [htimes] at hordered
  exact absurd hordered (by decide)

end IncomUdon.Lifecycle
