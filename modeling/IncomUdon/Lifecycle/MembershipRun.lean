import IncomUdon.Lifecycle.Membership

/-! The membership that control packets keep alive. A packet of a refreshing type that the policy
    accepts moves the deadline, if it comes in time; any other leaves it:

        deadline ── accepted, refreshing, in time, at t ──▶ t + lease
           ▲ anything else, or too late
           └──┘

    REFINES: a control refresh case is accepted exactly when it shows one step of this machine. So
    what holds of every run holds of what the fixtures describe: a membership lasts one lease from
    the JOIN or from an accepted refresh, forged packets change nothing, and an ended one does not
    come back. -/

namespace IncomUdon.Lifecycle
open IncomUdon.Python IncomUdon.Loader IncomUdon.Lib.ErrorLog

/-- The Control Authentication of a channel. -/
structure ControlPolicy where
  mode : String
  configured : Bool

/-- A control packet that the Relay receives. -/
structure ReceivedControl where
  type : Json
  valid : Bool
  authenticated : Bool
  receivedAt : ℕ

namespace ControlPolicy

/-- Unauthenticated packets are refused. -/
def requires (policy : ControlPolicy) : Bool :=
  authenticationRequired (.str policy.mode) policy.configured

/-- The packet is accepted. -/
def accepts (policy : ControlPolicy) (packet : ReceivedControl) : Bool :=
  packet.valid && (packet.authenticated || !policy.requires)

/-- The packet is accepted, and of a type that refreshes. -/
def refreshes (policy : ControlPolicy) (packet : ReceivedControl) : Bool :=
  policy.accepts packet && membershipRefreshTypes.any fun name => packet.type.eq (.str name)

end ControlPolicy

/-- The deadline after a packet. -/
def membershipStep (policy : ControlPolicy) (lease deadline : ℕ) (packet : ReceivedControl) : ℕ :=
  if policy.refreshes packet = true ∧ packet.receivedAt < deadline then packet.receivedAt + lease else deadline

/-- The deadline after some packets. -/
def membershipRun (policy : ControlPolicy) (lease deadline : ℕ)
    (packets : List ReceivedControl) : ℕ :=
  packets.foldl (membershipStep policy lease) deadline

/-! ### The fixture of a step -/

/-- The two objects of a case describe this policy and this packet. -/
structure DescribesControl (control packet : Dict) (policy : ControlPolicy)
    (received : ReceivedControl) : Prop where
  mode : Dict.get control "mode" = .str policy.mode
  known : policy.mode ∈ controlAuthenticationModes
  configured : Dict.get control "channelHasConfiguredControlKey" = .bool policy.configured
  valid : Dict.getD packet "valid" (.bool true) = .bool received.valid
  authenticated : Dict.getD packet "authenticated" (.bool false) = .bool received.authenticated
  type : Dict.get packet "type" = received.type
  receivedAt : Dict.get packet "receivedAtSeconds" = .int received.receivedAt ∧
    received.receivedAt ≤ maxTime

/-- The case describes this policy and packet, and a membership with this lease since this JOIN. -/
structure DescribesStep (case : Dict) (policy : ControlPolicy) (received : ReceivedControl)
    (lease join : ℕ) : Prop where
  control : ∃ control packet, Dict.get case "controlAuthentication" = .obj control ∧
    Dict.get case "packet" = .obj packet ∧ DescribesControl control packet policy received
  lease : Dict.get case "leaseSeconds" = .int lease ∧ lease ≤ 0xFFFF
  join : Dict.get case "joinAcceptedAtSeconds" = .int join ∧ join ≤ maxTime

/-- The case expects what the machine does with a packet that comes in time. -/
structure ShowsStep (case : Dict) (policy : ControlPolicy) (received : ReceivedControl)
    (lease join : ℕ) : Prop where
  inTime : received.receivedAt < join + lease
  hashable : policy.accepts received = true → received.type.hashable = true
  acceptance : (Json.bool (policy.accepts received)).eq (Dict.get case "expectedPacketAcceptance") = true
  refresh : (Json.bool (policy.refreshes received)).eq (Dict.get case "expectedMembershipRefresh") = true
  deadline : (Json.int (membershipStep policy lease (join + lease) received : ℕ)).eq
    (Dict.get case "expectedDeadlineSeconds") = true

section Step
variable {control packet case : Dict} {policy : ControlPolicy} {received : ReceivedControl}
  {accepted refresh : Bool} {value : Json} {index lease join : ℕ}

/-- ACCEPT: the function decides as the policy does. -/
theorem controlPacketAccepted_eq_ok : controlPacketAccepted control packet = .ok accepted ↔
    ∃ mode valid authenticated configured, Dict.get control "mode" = .str mode ∧
      mode ∈ controlAuthenticationModes ∧
      Dict.getD packet "valid" (.bool true) = .bool valid ∧
      Dict.getD packet "authenticated" (.bool false) = .bool authenticated ∧
      Dict.get control "channelHasConfiguredControlKey" = .bool configured ∧
      accepted = (valid && (authenticated || !authenticationRequired (.str mode) configured)) := by
  simp only [controlPacketAccepted, bind_eq_ok, asBool_eq_ok, require_eq_ok, pure, Except.pure,
    Except.ok.injEq]
  constructor
  · rintro ⟨valid, hvalid, authenticated, hauthenticated, configured, hconfigured, known, hknown, -,
      rfl, rfl⟩
    obtain ⟨mode, hmem, hmode⟩ := inNames_eq_true.mp hknown
    rw [hmode]
    exact ⟨mode, valid, authenticated, configured, rfl, hmem, hvalid, hauthenticated,
      hconfigured, rfl⟩
  · rintro ⟨mode, valid, authenticated, configured, hmode, hmem, hvalid, hauthenticated,
      hconfigured, rfl⟩
    rw [hmode]
    exact ⟨valid, hvalid, authenticated, hauthenticated, configured, hconfigured, true,
      inNames_eq_true.mpr ⟨mode, hmem, rfl⟩, (), rfl, rfl⟩

/-- The type is looked at only when the packet is accepted. -/
theorem controlRefreshes_eq_ok : controlRefreshes accepted packet = .ok refresh ↔
    (accepted = true → (Dict.get packet "type").hashable = true) ∧
      refresh = (accepted && membershipRefreshTypes.any fun name => (Dict.get packet "type").eq (.str name)) := by
  cases accepted with
  | false =>
    rw [Bool.false_and]
    exact ⟨fun h => ⟨nofun, (Except.ok.inj h).symm⟩, fun h => congrArg Except.ok h.2.symm⟩
  | true =>
    rw [controlRefreshes, if_pos rfl, inNames_eq_ok, Bool.true_and]
    exact ⟨fun h => ⟨fun _ => h.1, h.2.symm⟩, fun h => ⟨h.1 rfl, h.2.symm⟩⟩

/-- STEP: what the machine does with a packet that comes in time. -/
theorem membershipStep_of_inTime (h : received.receivedAt < join + lease) :
    membershipStep policy lease (join + lease) received =
      if policy.refreshes received = true then received.receivedAt + lease else join + lease := by
  simp only [membershipStep, h, and_true]

/-- REFINES: a case is accepted exactly when it shows the step of the machine for what it
    describes. -/
theorem clean_controlRefreshCase : Clean (controlRefreshCase value index) () ↔
    ∃ case policy received lease join, value = .obj case ∧
      DescribesStep case policy received lease join ∧
      ShowsStep case policy received lease join := by
  simp only [controlRefreshCase, leaseAndDeadline, Run.liftM_eq, clean_bind, clean_lift, bind_eq_ok,
    asObject_eq_ok, integer_eq_ok, clean_reportIf, clean_compare, controlPacketAccepted_eq_ok,
    controlRefreshes_eq_ok, ge_iff_le, not_le]
  constructor
  · rintro ⟨case, rfl, control, hcontrol, packet, hpacket, accepted,
      ⟨mode, valid, authenticated, configured, hmode, hknown, hvalid, hauthenticated, hconfigured,
      rfl⟩, refresh, ⟨hhashable, rfl⟩, _, ⟨lease, hlease, join, hjoin, ⟨⟩⟩, time, htime, _, hlate,
      _, hacceptance, _, hrefresh, hdeadline⟩
    refine ⟨case, ⟨mode, configured⟩, ⟨Dict.get packet "type", valid, authenticated, time⟩,
      lease, join, rfl,
      ⟨⟨control, packet, hcontrol, hpacket,
        ⟨hmode, hknown, hconfigured, hvalid, hauthenticated, rfl, htime⟩⟩, hlease, hjoin⟩,
      ⟨hlate, hhashable, hacceptance, hrefresh, ?_⟩⟩
    rw [membershipStep_of_inTime hlate]
    exact hdeadline
  · rintro ⟨case, policy, received, lease, join, rfl, ⟨⟨control, packet, hcontrol, hpacket, h⟩,
      hlease, hjoin⟩, hshows⟩
    have hdeadline := hshows.deadline
    rw [membershipStep_of_inTime hshows.inTime] at hdeadline
    have hhashable := hshows.hashable
    rw [← h.type] at hhashable
    refine ⟨case, rfl, control, hcontrol, packet, hpacket, policy.accepts received,
      ⟨policy.mode, received.valid, received.authenticated, policy.configured, h.mode, h.known,
        h.valid, h.authenticated, h.configured, rfl⟩, policy.refreshes received, ⟨hhashable, ?_⟩, _,
      ⟨lease, hlease, join, hjoin, rfl⟩, received.receivedAt, h.receivedAt, (), hshows.inTime, (),
      hshows.acceptance, (), hshows.refresh, hdeadline⟩
    rw [h.type]
    rfl

end Step

/-! ### Whole runs -/

section Run
variable {policy : ControlPolicy} {packet : ReceivedControl} {packets : List ReceivedControl}
  {lease deadline last now : ℕ}

/-- Where unauthenticated packets are refused, they do not refresh. -/
theorem ControlPolicy.not_refreshes (hrequires : policy.requires = true)
    (hforged : ¬packet.authenticated = true) :
    ¬policy.refreshes packet = true := by
  simp [refreshes, accepts, hrequires, hforged]

theorem membershipStep_of_not_refreshes (h : ¬policy.refreshes packet = true) :
    membershipStep policy lease deadline packet = deadline := if_neg fun hstep => h hstep.1

/-- SKIP: a kind of packets that do not refresh may be left out of a run. -/
theorem membershipRun_filter {keep : ReceivedControl → Bool}
    (hkeep : ∀ packet, ¬keep packet = true → ¬policy.refreshes packet = true) :
    membershipRun policy lease deadline (packets.filter keep) = membershipRun policy lease deadline packets := by
  rw [membershipRun, List.foldl_filter]
  refine List.foldl_ext _ _ deadline fun deadline packet _ => ?_
  by_cases hpacket : keep packet = true
  · exact if_pos hpacket
  · rw [if_neg hpacket, membershipStep_of_not_refreshes (hkeep packet hpacket)]

/-- ENDED: no packet moves a deadline that has passed. -/
theorem membershipRun_of_late (h : ∀ packet ∈ packets, deadline ≤ packet.receivedAt) :
    membershipRun policy lease deadline packets = deadline := by
  induction packets with
  | nil => rfl
  | cons packet packets ih =>
    rw [List.forall_mem_cons] at h
    have hstep : membershipStep policy lease deadline packet = deadline :=
      if_neg fun hstep => not_lt_of_ge h.1 hstep.2
    rw [membershipRun, List.foldl_cons, hstep]
    exact ih h.2

/-- RUN: under a clock that does not step back, the membership is there as long as less than a lease
    passes between the refreshes, and since the last of them. -/
theorem lt_membershipRun (hclock : (packets.map ReceivedControl.receivedAt).Pairwise (· ≤ ·))
    (hnow : ∀ packet ∈ packets, packet.receivedAt ≤ now) :
    now < membershipRun policy lease (last + lease) packets ↔
      (last :: (packets.filter policy.refreshes).map ReceivedControl.receivedAt ++ [now]).IsChain
        fun a b => b < a + lease := by
  induction packets generalizing last with
  | nil => simp [membershipRun]
  | cons packet packets ih =>
    rw [List.map_cons, List.pairwise_cons] at hclock
    rw [List.forall_mem_cons] at hnow
    rw [membershipRun, List.foldl_cons]
    by_cases hrefreshes : policy.refreshes packet = true
    · rw [List.filter_cons_of_pos hrefreshes, List.map_cons, List.cons_append, List.cons_append,
        List.isChain_cons_cons]
      by_cases hlate : packet.receivedAt < last + lease
      · rw [membershipStep, if_pos ⟨hrefreshes, hlate⟩, and_iff_right hlate]
        exact ih hclock.2 hnow.2
      · -- the run is over: what comes later is late too
        have hover : membershipRun policy lease (last + lease) packets = last + lease := by
          refine membershipRun_of_late fun later hlater => ?_
          exact (not_lt.mp hlate).trans (hclock.1 _ (List.mem_map_of_mem hlater))
        rw [membershipStep, if_neg fun hstep => hlate hstep.2]
        refine iff_of_false (fun h => ?_) fun h => hlate h.1
        exact hlate (hnow.1.trans_lt (hover ▸ h))
    · rw [List.filter_cons_of_neg hrefreshes, membershipStep_of_not_refreshes hrefreshes]
      exact ih hclock.2 hnow.2

end Run

/-- REFINES: the control refresh cases are steps of the machine, and in every run of it the
    membership is there exactly while less than a lease passes between the accepted refreshes. Where
    authentication is required, packets without it may come in between, at any time and in any
    number. -/
theorem membershipControl_refines :
    (∀ value index, Clean (controlRefreshCase value index) () ↔ ∃ case policy received lease join,
      value = .obj case ∧ DescribesStep case policy received lease join ∧
        ShowsStep case policy received lease join) ∧
    (∀ (policy : ControlPolicy) (lease join now : ℕ) (packets : List ReceivedControl),
      (packets.map ReceivedControl.receivedAt).Pairwise (· ≤ ·) →
      (∀ packet ∈ packets, packet.receivedAt ≤ now) →
      (now < membershipRun policy lease (join + lease) packets ↔
        (join :: (packets.filter policy.refreshes).map ReceivedControl.receivedAt ++ [now]).IsChain
          fun a b => b < a + lease)) ∧
    ∀ (policy : ControlPolicy) (lease deadline : ℕ) (packets : List ReceivedControl), policy.requires = true →
      membershipRun policy lease deadline (packets.filter ReceivedControl.authenticated) =
        membershipRun policy lease deadline packets := by
  refine ⟨fun value index => clean_controlRefreshCase,
    fun policy lease join now packets => lt_membershipRun, ?_⟩
  intro policy lease deadline packets hrequires
  exact membershipRun_filter fun packet => ControlPolicy.not_refreshes hrequires

end IncomUdon.Lifecycle
