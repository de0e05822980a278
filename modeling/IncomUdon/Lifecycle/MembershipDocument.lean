import IncomUdon.Lifecycle.ControlPayloads
import IncomUdon.Lifecycle.MembershipLease
import IncomUdon.Lifecycle.MembershipRun
import IncomUdon.Packet.Reader

/-! The document of the membership lease, as a whole. The settings go to the client in a
    SERVER_CONFIG, the client sends at the interval in it, and the Relay counts the lease:

        settings ──payload──▶ client ──▶ at most an interval apart, some lost ──▶ deadline ahead
                                          forged packets in between

    EXACT: what a document states when it is accepted. SURVIVES: with its settings the membership is
    there whenever the client sends. -/

namespace IncomUdon.Lifecycle
open IncomUdon.Python IncomUdon.Loader IncomUdon.Lib.ErrorLog IncomUdon.Lib.Lease

def membershipPath : String := "test-vectors/membership-lease-v1.json"

/-- The settings of a SERVER_CONFIG. -/
structure ServerSettings where
  talk : ℕ
  active : ℕ
  lease : ℕ
  keepalive : ℕ
  multi : Bool

namespace ServerSettings

/-- The members of the object have these settings. -/
def Of (settings : ServerSettings) (config : Dict) : Prop :=
  ServerFields config settings.talk settings.active settings.lease settings.keepalive settings.multi

/-- The eight bytes. -/
def payload (settings : ServerSettings) : Bytes :=
  serverConfig settings.talk settings.active settings.lease settings.keepalive settings.multi

end ServerSettings

/-- `serverConfig` has these settings, the payload of them, and a valid pair of intervals. -/
structure StatesServerConfig (document : Dict) (settings : ServerSettings) : Prop where
  fields : ∃ config, Dict.get document "serverConfig" = .obj config ∧ settings.Of config ∧
    IsHex (Dict.get config "payloadHex") settings.payload
  pair : validMembershipPair settings.lease settings.keepalive

/-- A receiver reads these settings from the payload. -/
def ReadsSettings (payload : Bytes) (settings : ServerSettings) : Prop :=
  ∃ talk multi active lease keepalive, Packet.readPayload "SERVER_CONFIG" payload
      = some (.serverConfig talk multi active lease keepalive) ∧
    settings = ⟨talk, active, lease, keepalive, multi⟩

section Settings
variable {document config : Dict} {settings : ServerSettings}

theorem clean_membershipServerPayload {data : Bytes} : Clean (membershipServerPayload config) data ↔
    ∃ settings : ServerSettings, settings.Of config ∧
      validMembershipPair settings.lease settings.keepalive ∧ data = settings.payload := by
  simp only [membershipServerPayload, Run.liftM_eq, clean_bind, clean_lift, integer_eq_ok,
    asBool_eq_ok, clean_reportIf, not_not, exists_unit]
  constructor
  · rintro ⟨lease, hlease, keepalive, hkeepalive, hpair, multi, hmulti, talk, htalk, active,
      hactive, hpack⟩
    have hfields : ServerFields config talk active lease keepalive multi :=
      ⟨htalk, hactive, hlease, hkeepalive, hmulti⟩
    rw [structPack_serverFields hfields, Except.ok.injEq] at hpack
    exact ⟨⟨talk, active, lease, keepalive, multi⟩, hfields, hpair, hpack.symm⟩
  · rintro ⟨settings, h, hpair, rfl⟩
    exact ⟨_, h.leaseSeconds, _, h.keepaliveSeconds, hpair, _, h.multiTalk, _, h.talkSeconds, _,
      h.activeTalkers, structPack_serverFields h⟩

theorem clean_membershipServerConfig :
    Clean (membershipServerConfig document) () ↔
      ∃ settings, StatesServerConfig document settings := by
  simp only [membershipServerConfig_eq, Run.liftM_eq, clean_bind, clean_lift, asObject_eq_ok,
    clean_membershipServerPayload, hexBytes_eq_ok, clean_compareBytes]
  constructor
  · rintro ⟨config, hconfig, _, ⟨settings, hfields, hpair, rfl⟩, _, hhex, rfl⟩
    exact ⟨settings, ⟨config, hconfig, hfields, hhex⟩, hpair⟩
  · rintro ⟨settings, ⟨config, hconfig, hfields, hhex⟩, hpair⟩
    exact ⟨config, hconfig, _, ⟨settings, hfields, hpair, rfl⟩, _, hhex, rfl⟩

/-- READ BACK: a receiver of the payload has the settings. -/
theorem readsSettings_payload (h : settings.Of config) : ReadsSettings settings.payload settings := by
  obtain ⟨talk, active, lease, keepalive, multi⟩ := settings
  have htalk : talk < 256 ^ 2 := Nat.lt_succ_of_le h.talkSeconds.2
  have hactive : active < 256 ^ 1 := Nat.lt_succ_of_le h.activeTalkers.2
  have hlease : lease < 256 ^ 2 := Nat.lt_succ_of_le h.leaseSeconds.2
  have hkeepalive : keepalive < 256 ^ 2 := Nat.lt_succ_of_le h.keepaliveSeconds.2
  refine ⟨⟨talk, htalk⟩, multi, ⟨active, hactive⟩, ⟨lease, hlease⟩, ⟨keepalive, hkeepalive⟩, ?_, rfl⟩
  exact Packet.readPayload_eq_some.mpr ⟨List.mem_singleton_self _, rfl⟩

end Settings

/-! ### The cases -/

/-- The lease of a case and the time of its JOIN. -/
def StatesStart (case : Dict) (lease join : ℕ) : Prop :=
  (Dict.get case "leaseSeconds" = .int lease ∧ lease ≤ 0xFFFF) ∧
    Dict.get case "joinAcceptedAtSeconds" = .int join ∧ join ≤ maxTime

/-- Refresh packets, each before the deadline that the one before it sets, keep the membership. -/
structure StatesRefreshes (case : Dict) (timeline : RefreshTimeline) : Prop where
  reads : HasTimeline case timeline
  fits : timeline.lease ≤ 0xFFFF ∧ timeline.join ≤ maxTime ∧ timeline.memberAt ≤ maxTime
  expected : List.Forall₂ (RefreshExpected timeline.lease) timeline.packets timeline.times
  inTime : (timeline.join :: timeline.times).IsChain fun a b => b < a + timeline.lease
  member : timeline.memberAt < timeline.times.getLastD timeline.join + timeline.lease

/-- An object is a PING or a PONG. -/
def IsPing (packet : Json) : Prop :=
  ∀ d, packet = .obj d → ∃ type ∈ ["PING", "PONG"], Dict.get d "type" = .str type

/-- The membership ends one lease after the JOIN, whatever pings come, and the talk with it. -/
structure StatesExpiry (case : Dict) (lease join : ℕ) : Prop where
  start : StatesStart case lease join
  pings : ∃ packets, Dict.get case "nonRefreshPackets" = .arr packets ∧
    ∀ packet ∈ packets, IsPing packet
  expiry : (Json.int (join + lease : ℕ)).eq (Dict.get case "expectedExpiryAtSeconds") = true
  release : Dict.get case "expectedActiveTalkReleaseReason" = .str "MEMBERSHIP_TIMEOUT"

/-- The pair is expected to be accepted exactly when it is valid. -/
def StatesPair (case : Dict) : Prop :=
  ∃ lease keepalive : ℕ, (Dict.get case "membershipLeaseSeconds" = .int lease ∧ lease ≤ 0xFFFF) ∧
    (Dict.get case "keepaliveIntervalSeconds" = .int keepalive ∧ keepalive ≤ 0xFFFF) ∧
    (Json.bool (validMembershipPair lease keepalive)).eq
      (Dict.get case "expectedServerConfigAcceptance") = true

/-- A membership keeps the policy of its JOIN, and the next one has the policy that was loaded
    since. -/
def StatesSnapshot (case : Dict) : Prop :=
  ∃ snapshot reloaded, Dict.get case "joinSnapshot" = .obj snapshot ∧
    Dict.get case "reloadedPolicy" = .obj reloaded ∧
    (Json.obj snapshot).eq (Dict.get case "expectedExistingMembership") = true ∧
    (Json.obj reloaded).eq (Dict.get case "expectedNewMembership") = true

/-- A case is of the first kind whose member it has. -/
inductive StatesMembershipCase (case : Dict) : Prop
  | refreshes (kind : Dict.has case "refreshPackets" = true) (timeline : RefreshTimeline)
    (states : StatesRefreshes case timeline)
  | expiry (other : Dict.has case "refreshPackets" = false)
    (kind : Dict.has case "nonRefreshPackets" = true)
    (lease join : ℕ) (states : StatesExpiry case lease join)
  | pair (other : ∀ key ∈ ["refreshPackets", "nonRefreshPackets"], Dict.has case key = false)
    (kind : Dict.has case "membershipLeaseSeconds" = true) (states : StatesPair case)
  | snapshot (other : ∀ key ∈ ["refreshPackets", "nonRefreshPackets", "membershipLeaseSeconds"],
      Dict.has case key = false) (kind : Dict.has case "joinSnapshot" = true)
    (states : StatesSnapshot case)

section Cases
variable {case : Dict} {name : Msg} {value : Json} {index lease join : ℕ} {packets : List Json}

theorem leaseAndDeadline_eq_ok {pair : ℕ × ℕ} : leaseAndDeadline case name = .ok pair ↔
    ∃ join, StatesStart case pair.1 join ∧ pair.2 = join + pair.1 := by
  simp only [leaseAndDeadline, bind_eq_ok, integer_eq_ok, pure, Except.pure, Except.ok.injEq,
    StatesStart]
  constructor
  · rintro ⟨lease, hlease, join, hjoin, rfl⟩
    exact ⟨join, ⟨hlease, hjoin⟩, rfl⟩
  · rintro ⟨join, ⟨hlease, hjoin⟩, hdeadline⟩
    exact ⟨_, hlease, join, hjoin, Prod.ext rfl hdeadline.symm⟩

theorem refreshes_eq_false : refreshes value = .ok false ↔ IsPing value := by
  cases value with
  | obj d => simp [refreshes, IsPing, map_eq_ok]
  | _ => simp [refreshes, IsPing]

theorem anyM_refreshes_eq_false :
    packets.anyM refreshes = .ok false ↔ ∀ packet ∈ packets, IsPing packet := by
  induction packets with
  | nil => simp [List.anyM, pure, Except.pure]
  | cons packet packets ih =>
    rw [List.anyM, bind_eq_ok, List.forall_mem_cons, ← ih, ← refreshes_eq_false]
    constructor
    · rintro ⟨_ | _, hpacket, hrest⟩
      · exact ⟨hpacket, hrest⟩
      · cases hrest
    · rintro ⟨hpacket, hrest⟩
      exact ⟨false, hpacket, hrest⟩

theorem clean_nonRefreshCase :
    Clean (nonRefreshCase case name) () ↔ ∃ lease join, StatesExpiry case lease join := by
  simp only [nonRefreshCase, Run.liftM_eq, clean_bind, clean_lift, leaseAndDeadline_eq_ok,
    asArray_eq_ok, require_eq_ok, clean_compare, Json.eq_str, exists_unit, Prod.exists]
  constructor
  · rintro ⟨lease, _, ⟨join, hlease, rfl⟩, packets, hpackets, refreshed, hany, hrefreshed, hexpiry,
      hrelease⟩
    rw [Bool.not_eq_true] at hrefreshed
    subst hrefreshed
    exact ⟨lease, join, hlease, ⟨packets, hpackets, anyM_refreshes_eq_false.mp hany⟩, hexpiry,
      hrelease⟩
  · rintro ⟨lease, join, hlease, ⟨packets, hpackets, hpings⟩, hexpiry, hrelease⟩
    exact ⟨lease, _, ⟨join, hlease, rfl⟩, packets, hpackets, false,
      anyM_refreshes_eq_false.mpr hpings, Bool.false_ne_true, hexpiry, hrelease⟩

theorem clean_leasePairCase : Clean (leasePairCase case name) () ↔ StatesPair case := by
  simp only [leasePairCase, Run.liftM_eq, clean_bind, clean_lift, integer_eq_ok, clean_compare,
    StatesPair]
  constructor
  · rintro ⟨lease, hlease, keepalive, hkeepalive, hexpected⟩
    exact ⟨lease, keepalive, hlease, hkeepalive, hexpected⟩
  · rintro ⟨lease, keepalive, hlease, hkeepalive, hexpected⟩
    exact ⟨lease, hlease, keepalive, hkeepalive, hexpected⟩

theorem clean_joinSnapshotCase : Clean (joinSnapshotCase case name) () ↔ StatesSnapshot case := by
  simp only [joinSnapshotCase, Run.liftM_eq, clean_bind, clean_lift, asObject_eq_ok, clean_compare,
    exists_unit, StatesSnapshot]
  constructor
  · rintro ⟨snapshot, hsnapshot, reloaded, hreloaded, hexisting, hnew⟩
    exact ⟨snapshot, reloaded, hsnapshot, hreloaded, hexisting, hnew⟩
  · rintro ⟨snapshot, reloaded, hsnapshot, hreloaded, hexisting, hnew⟩
    exact ⟨snapshot, hsnapshot, reloaded, hreloaded, hexisting, hnew⟩

theorem clean_membershipCase :
    Clean (membershipCase value index) () ↔
      ∃ case, value = .obj case ∧ StatesMembershipCase case := by
  simp only [membershipCase, Run.liftM_eq, clean_bind, clean_lift, asObject_eq_ok, clean_ite,
    clean_refreshCase, clean_nonRefreshCase, clean_leasePairCase, clean_joinSnapshotCase,
    Bool.not_eq_true]
  refine exists_congr fun case => and_congr_right fun _ => ?_
  constructor
  · rintro (⟨hkind, timeline, hreads, hfits, hexpected, hchain, hmember⟩ | ⟨hrefresh, hrest⟩)
    · exact .refreshes hkind timeline ⟨hreads, hfits, hexpected, hchain, hmember⟩
    rcases hrest with ⟨hkind, lease, join, hstates⟩ | ⟨hping, hrest⟩
    · exact .expiry hrefresh hkind lease join hstates
    rcases hrest with ⟨hkind, hstates⟩ | ⟨hpair, hrest⟩
    · exact .pair (by simp [hrefresh, hping]) hkind hstates
    rcases hrest with ⟨hkind, hstates⟩ | ⟨-, hinvalid⟩
    · exact .snapshot (by simp [hrefresh, hping, hpair]) hkind hstates
    · cases hinvalid
  · intro h
    cases h with
    | refreshes hkind timeline h =>
      exact .inl ⟨hkind, timeline, h.reads, h.fits, h.expected, h.inTime, h.member⟩
    | expiry hother hkind lease join hstates =>
      exact .inr ⟨hother, .inl ⟨hkind, lease, join, hstates⟩⟩
    | pair hother hkind hstates =>
      exact .inr ⟨hother _ (by simp), .inr ⟨hother _ (by simp), .inl ⟨hkind, hstates⟩⟩⟩
    | snapshot hother hkind hstates =>
      exact .inr ⟨hother _ (by simp), .inr ⟨hother _ (by simp),
        .inr ⟨hother _ (by simp), .inl ⟨hkind, hstates⟩⟩⟩⟩

end Cases

/-! ### The document -/

/-- The client sends at this interval until it has the settings. -/
def bootstrapInterval : ℕ := 5

/-- `bootstrap` has that interval. -/
def StatesBootstrap (document : Dict) : Prop :=
  ∃ bootstrap, Dict.get document "bootstrap" = .obj bootstrap ∧
    (Dict.get bootstrap "keepaliveIntervalSeconds").eq (.int bootstrapInterval) = true ∧
    Dict.get bootstrap "appliesUntil" = .str "valid_SERVER_CONFIG_received"

/-- A control refresh case shows a step of the machine. -/
def StatesControlCase (value : Json) : Prop :=
  ∃ case policy received lease join, value = .obj case ∧
    DescribesStep case policy received lease join ∧ ShowsStep case policy received lease join

/-- What an accepted document states. -/
structure StatesMembership (document : Dict) (settings : ServerSettings) : Prop where
  settings : StatesServerConfig document settings
  bootstrap : StatesBootstrap document
  cases : ∃ values, Dict.get document "cases" = .arr values ∧
    ∀ value ∈ values, ∃ case, value = .obj case ∧ StatesMembershipCase case
  controlCases : ∃ values, Dict.get document "controlAuthenticationRefreshCases" = .arr values ∧
    ∀ value ∈ values, StatesControlCase value

theorem clean_membershipBootstrap {document : Dict} {u : Unit} :
    Clean (membershipBootstrap document) u ↔ StatesBootstrap document := by
  simp only [membershipBootstrap, Run.liftM_eq, clean_bind, clean_lift, asObject_eq_ok,
    clean_compare, Json.eq_str, exists_unit, StatesBootstrap, bootstrapInterval, Nat.cast_ofNat]

/-- EXACT: the validator accepts exactly a stored document that states all of this. -/
theorem clean_validateMembership {root : Root} : Clean (validateMembership root) () ↔
    ∃ document settings, root membershipPath = .json (.obj document) ∧
      StatesMembership document settings := by
  simp only [validateMembership, Run.liftM_eq, clean_bind, clean_lift, load_eq_ok, asArray_eq_ok,
    exists_unit, clean_membershipServerConfig, clean_membershipBootstrap]
  constructor
  · rintro ⟨document, hdocument, ⟨settings, hsettings⟩, hbootstrap, values, hvalues, hcases,
      controls, hcontrols, hsteps⟩
    exact ⟨document, settings, hdocument, hsettings, hbootstrap,
      ⟨values, hvalues, (clean_forM_zipIdx fun _ _ => clean_membershipCase).mp hcases⟩,
      controls, hcontrols, (clean_forM_zipIdx fun _ _ => clean_controlRefreshCase).mp hsteps⟩
  · rintro ⟨document, settings, hdocument, hsettings, hbootstrap, ⟨values, hvalues, hstates⟩,
      controls, hcontrols, hsteps⟩
    exact ⟨document, hdocument, ⟨settings, hsettings⟩, hbootstrap,
      values, hvalues, (clean_forM_zipIdx fun _ _ => clean_membershipCase).mpr hstates,
      controls, hcontrols, (clean_forM_zipIdx fun _ _ => clean_controlRefreshCase).mpr hsteps⟩

/-! ### A client with the settings -/

/-- A client sends packets that refresh, from the JOIN on, at most an interval apart, and no two in
    a row are lost. -/
structure SendsAt (interval join : ℕ) (sent : List (Signal ℕ)) : Prop where
  spaced : (join :: sent.map Signal.time).IsChain fun a b => b ≤ a + interval
  isolated : sent.IsChain fun a b => ¬(a.lost = true ∧ b.lost = true)

/-- The Relay gets, besides packets that are not authenticated, what arrives of the client's. -/
structure Arrives (policy : ControlPolicy) (sent : List (Signal ℕ))
    (packets : List ReceivedControl) : Prop where
  times : (packets.filter ReceivedControl.authenticated).map ReceivedControl.receivedAt = arrived sent
  refresh : ∀ packet ∈ packets, packet.authenticated = true → policy.refreshes packet = true

section Client
variable {policy : ControlPolicy} {packets : List ReceivedControl}
  {lease keepalive interval last join : ℕ} {before after : List (Signal ℕ)} {signal : Signal ℕ}

/-- RUN: packets that refresh in time leave the deadline that the last of them sets. -/
theorem membershipRun_of_inTime (hrefresh : ∀ packet ∈ packets, policy.refreshes packet = true)
    (hchain : (last :: packets.map ReceivedControl.receivedAt).IsChain fun a b => b < a + lease) :
    membershipRun policy lease (last + lease) packets
      = (packets.map ReceivedControl.receivedAt).getLastD last + lease := by
  induction packets generalizing last with
  | nil => rfl
  | cons packet packets ih =>
    rw [List.forall_mem_cons] at hrefresh
    rw [List.map_cons, List.isChain_cons_cons] at hchain
    have hstep : membershipStep policy lease (last + lease) packet = packet.receivedAt + lease :=
      if_pos ⟨hrefresh.1, hchain.1⟩
    rw [membershipRun, List.foldl_cons, hstep, List.map_cons, List.getLastD_cons]
    exact ih hrefresh.2 hchain.2

/-- SURVIVES: whenever the client sends, the membership is there. -/
theorem lt_membershipRun_of_sendsAt (hpair : validMembershipPair lease keepalive)
    (hinterval : interval = keepalive ∨ interval = bootstrapInterval)
    (hrequires : policy.requires = true)
    (hsends : SendsAt interval join (before ++ signal :: after))
    (harrives : Arrives policy before packets) :
    signal.time < membershipRun policy lease (join + lease) packets := by
  have halive : Alive lease join (before ++ signal :: after) :=
    alive_of_isolated (Nat.zero_le interval) (two_intervals_lt_lease hpair hinterval)
      hsends.spaced hsends.isolated (Nat.le_add_right join interval) (.inl rfl)
  have hchain := halive.isChain_arrived
  rw [arrived_append, ← harrives.times, ← List.cons_append] at hchain
  have hrefresh : ∀ packet ∈ packets.filter ReceivedControl.authenticated,
      policy.refreshes packet = true := by
    intro packet hpacket
    obtain ⟨hmem, hauthenticated⟩ := List.mem_filter.mp hpacket
    exact harrives.refresh packet hmem hauthenticated
  have hforged : membershipRun policy lease (join + lease)
      (packets.filter ReceivedControl.authenticated)
      = membershipRun policy lease (join + lease) packets :=
    membershipRun_filter fun packet => ControlPolicy.not_refreshes hrequires
  rw [← hforged, membershipRun_of_inTime hrefresh hchain.left_of_append, harrives.times]
  exact halive.lt_deadline

end Client

/-- MEMBERSHIP: the validator accepts exactly the documents that state all of this. A receiver of
    the stated payload has the stated settings, and a client that sends at the interval in them, or
    at that of the bootstrap, is a member whenever it sends, if no two of its packets in a row are
    lost, whatever forged packets arrive. -/
theorem validateMembership_exact (root : Root) :
    (Clean (validateMembership root) () ↔ ∃ document settings,
      root membershipPath = .json (.obj document) ∧ StatesMembership document settings) ∧
    ∀ document settings, StatesMembership document settings →
      ReadsSettings settings.payload settings ∧
      ∀ policy interval join before signal after packets, policy.requires = true →
        (interval = settings.keepalive ∨ interval = bootstrapInterval) →
        SendsAt interval join (before ++ signal :: after) → Arrives policy before packets →
        signal.time < membershipRun policy settings.lease (join + settings.lease) packets := by
  refine ⟨clean_validateMembership, fun document settings h => ?_⟩
  obtain ⟨⟨config, -, hfields, -⟩, hpair⟩ := h.settings
  refine ⟨readsSettings_payload hfields, ?_⟩
  intro policy interval join before signal after packets hrequires hinterval hsends harrives
  exact lt_membershipRun_of_sendsAt hpair hinterval hrequires hsends harrives

/-- The settings of the suite. -/
def suiteSettings : ServerSettings := ⟨60, 1, 30, 10, false⟩

/-- A document with the settings of the suite, and without cases. -/
def settingsDocument : Dict :=
  [("serverConfig", .obj [("maximumTalkSeconds", .int 60), ("multiTalkEnabled", .bool false),
      ("maximumActiveTalkers", .int 1), ("membershipLeaseSeconds", .int 30),
      ("keepaliveIntervalSeconds", .int 10), ("payloadHex", .str "003c0001001e000a")]),
    ("bootstrap", .obj [("keepaliveIntervalSeconds", .int 5),
      ("appliesUntil", .str "valid_SERVER_CONFIG_received")]),
    ("cases", .arr []), ("controlAuthenticationRefreshCases", .arr [])]

/-- A KEEPALIVE that arrives at this time. -/
def keepaliveAt (receivedAt : ℕ) (authenticated : Bool) : ReceivedControl :=
  ⟨.str "KEEPALIVE", true, authenticated, receivedAt⟩

/-- Of two packets the second is lost, and a forged one comes between them. -/
theorem validateMembership_exact_isolated :
    ReadsSettings suiteSettings.payload suiteSettings ∧
      130 < membershipRun ⟨"required", true⟩ 30 (100 + 30)
        [keepaliveAt 110 true, keepaliveAt 115 false] := by
  have hsettings : StatesServerConfig settingsDocument suiteSettings :=
    ⟨⟨_, rfl, ⟨⟨rfl, by decide⟩, ⟨rfl, by decide⟩, ⟨rfl, by decide⟩, ⟨rfl, by decide⟩, rfl⟩,
      ⟨_, rfl, by decide +kernel⟩⟩, by decide⟩
  have hstates : StatesMembership settingsDocument suiteSettings :=
    ⟨hsettings, ⟨_, rfl, rfl, rfl⟩, ⟨[], rfl, nofun⟩, [], rfl, nofun⟩
  obtain ⟨hreads, hsurvives⟩ :=
    (validateMembership_exact fun _ => .json (.obj settingsDocument)).2 _ _ hstates
  exact ⟨hreads, hsurvives _ 10 100 [⟨110, false⟩, ⟨120, true⟩] ⟨130, false⟩ [] _ (by decide)
    (.inl rfl) ⟨by decide, by decide⟩ ⟨by decide, by decide⟩⟩

end IncomUdon.Lifecycle
