import IncomUdon.Lib.Handover
import IncomUdon.Lifecycle.PrivateControlLink.DenyRule

/-! Private Control Link: a revocation that is renewed. A command reaches at most 5400 seconds
    ahead, so a longer revocation is a chain of commands, of which each extends the deadline of the
    one before:

        command   accepted ──────── deny_until
        renewal         accepted ──────── deny_until      fresh message_id, same selector
                  ◀─────────── denied ───────────▶

    The cases compare two commands, and say nothing about when the second is accepted. SEAMLESS:
    along a chain of accepted cases a target is kept out to the last deadline exactly when every
    renewal is accepted by the deadline that it extends. -/

namespace IncomUdon.Lifecycle
open IncomUdon.Python IncomUdon.Lib.ErrorLog IncomUdon.Lib.Handover

/-- A command and the time of its acceptance. -/
structure AcceptedCommand where
  acceptedAt : ℕ
  command : IdempotencyCommand

/-- The deadline of a command. -/
def AcceptedCommand.denyUntil (c : AcceptedCommand) : ℕ := c.command.denyUntil

/-- The value is this command, in the command window of this time. -/
def StatesCommand (command acceptedAt : Json) (label : Msg) (c : AcceptedCommand) : Prop :=
  acceptedAt = .int c.acceptedAt ∧
    Clean (validateIdempotencyCommand command acceptedAt label) c.command

/-- The second command extends the first. -/
structure Renews (initial renewal : AcceptedCommand) : Prop where
  fresh : initial.command.messageId ≠ renewal.command.messageId
  selector : initial.command.rule = renewal.command.rule
  later : initial.denyUntil < renewal.denyUntil

/-- The case is about these two commands. -/
def StatesRenewal (case : Dict) (name : Msg) (initial renewal : AcceptedCommand) : Prop :=
  StatesCommand (Dict.get case "initial_command") (Dict.get case "initial_acceptance_at_relay_unix_seconds")
      (name.add [" initial command"]) initial ∧
    StatesCommand (Dict.get case "renewal_command") (Dict.get case "renewal_acceptance_at_relay_unix_seconds")
      (name.add [" renewal command"]) renewal

section Cases
variable {command acceptedAt : Json} {label name : Msg} {c initial renewal : AcceptedCommand}
  {case : Dict}

/-- A command that is stated was accepted in its window. -/
theorem StatesCommand.window (h : StatesCommand command acceptedAt label c) :
    inCommandWindow c.acceptedAt c.denyUntil := by
  obtain ⟨rfl, h⟩ := h
  simp only [validateIdempotencyCommand, Run.liftM_eq, clean_bind, clean_lift, relaySeconds,
    integer_eq_ok, clean_reportIf, not_not, clean_pure, Json.int.injEq, Int.natCast_inj] at h
  obtain ⟨_, -, _, -, _, -, -, -, _, -, _, -, accepted, ⟨haccepted, -⟩, denyUntil, -, -, hwindow,
    hret⟩ := h
  rw [AcceptedCommand.denyUntil, ← hret, haccepted]
  exact hwindow

theorem rule_eq_iff {rule rule' : RevocationRule} :
    rule.channel = rule'.channel ∧ rule.service = rule'.service ∧ rule.grantHash = rule'.grantHash ↔
      rule = rule' := by
  cases rule
  cases rule'
  simp

/-- EXACT: a case is accepted exactly when it states two commands, of which the second extends the
    first and gives the effective deadline. -/
theorem clean_renewalCommandCase (h : StatesRenewal case name initial renewal) :
    Clean (renewalCommandCase case name) () ↔ Renews initial renewal ∧
      (Dict.get case "expected_effective_deny_until").eq (.int renewal.denyUntil) = true := by
  obtain ⟨⟨-, hinitial⟩, -, hrenewal⟩ := h
  simp only [renewalCommandCase, clean_bind, hinitial.iff_eq, hrenewal.iff_eq, exists_eq_left,
    clean_reportIf, clean_compare, exists_unit, not_not, rule_eq_iff, not_le]
  constructor
  · rintro ⟨hfresh, hselector, hlater, heffective⟩
    exact ⟨⟨hfresh, hselector, hlater⟩, heffective⟩
  · rintro ⟨h, heffective⟩
    exact ⟨h.fresh, h.selector, h.later, heffective⟩

/-- The window that three kinds of cases check is that of the answer `applied` of the fourth. -/
theorem deadlineResult_applied_iff {accepted denyUntil : ℕ} :
    deadlineResult accepted denyUntil = "applied" ↔ inCommandWindow accepted denyUntil := by
  unfold deadlineResult inCommandWindow
  split_ifs with hlate hexpired
  · exact iff_of_false (by decide) fun h => absurd h.2 (not_le.mpr hlate)
  · exact iff_of_false (by decide) fun h => absurd h.1 (not_lt.mpr hexpired)
  · exact iff_of_true rfl ⟨not_le.mp hexpired, not_lt.mp hlate⟩

end Cases

/-! ### Chains -/

/-- A renewal case that is accepted. -/
def RenewalCase (initial renewal : AcceptedCommand) : Prop :=
  ∃ case name, Clean (renewalCommandCase case name) () ∧ StatesRenewal case name initial renewal

/-- The command in force at an attempt denies it. -/
def DeniedAt (commands : List AcceptedCommand) (attempt : Attempt) : Prop :=
  ∃ c ∈ inForce AcceptedCommand.acceptedAt commands attempt.time,
    c.command.rule.attemptResult c.denyUntil attempt.time attempt.candidate ≠ "not_denied_by_rule"

/-- A candidate with the channel and the selectors of a rule. -/
def RevocationRule.ownCandidate (rule : RevocationRule) : Dict :=
  [("channel_id", .int rule.channel), ("service_id", Json.ofString? rule.service),
    ("grant_id_hash", Json.ofString? rule.grantHash)]

section Chains
variable {initial renewal first : AcceptedCommand} {commands : List AcceptedCommand}
  {attempt : Attempt} {rule : RevocationRule}

theorem targets_ownCandidate : rule.Targets rule.ownCandidate := by
  refine ⟨Json.eq_int_int.mpr rfl, fun service hservice => ?_, fun grantHash hgrantHash => ?_⟩
  · rw [Option.mem_def] at hservice
    show Json.ofString? rule.service = .str service
    rw [hservice]
    rfl
  · rw [Option.mem_def] at hgrantHash
    show Json.ofString? rule.grantHash = .str grantHash
    rw [hgrantHash]
    rfl

theorem RenewalCase.renews (h : RenewalCase initial renewal) :
    Renews initial renewal ∧ inCommandWindow renewal.acceptedAt renewal.denyUntil := by
  obtain ⟨case, name, hclean, hstates⟩ := h
  exact ⟨((clean_renewalCommandCase hstates).mp hclean).1, hstates.2.window⟩

/-- RUN: the commands of a chain have one selector, and windows. -/
theorem rule_and_window_of_chain (hfirst : inCommandWindow first.acceptedAt first.denyUntil)
    (hcases : (first :: commands).IsChain RenewalCase) :
    ∀ c ∈ first :: commands, c.command.rule = first.command.rule ∧
      inCommandWindow c.acceptedAt c.denyUntil := by
  induction commands generalizing first with
  | nil =>
    intro c hc
    rw [List.mem_singleton.mp hc]
    exact ⟨rfl, hfirst⟩
  | cons second commands ih =>
    obtain ⟨hcase, hrest⟩ := List.isChain_cons_cons.mp hcases
    obtain ⟨hrenews, hwindow⟩ := hcase.renews
    intro c hc
    rcases List.mem_cons.mp hc with rfl | hc
    · exact ⟨rfl, hfirst⟩
    · obtain ⟨hrule, hc⟩ := ih hwindow hrest c hc
      exact ⟨hrule.trans hrenews.selector.symm, hc⟩

/-- In order of acceptance, the commands of a chain succeed one another. -/
theorem ordered_of_chain (hfirst : inCommandWindow first.acceptedAt first.denyUntil)
    (hcases : (first :: commands).IsChain RenewalCase)
    (horder : (first :: commands).IsChain fun a b => a.acceptedAt ≤ b.acceptedAt) :
    Ordered AcceptedCommand.acceptedAt AcceptedCommand.denyUntil (first :: commands) where
  starts := by
    have htrans : Trans (fun a b : AcceptedCommand => a.acceptedAt ≤ b.acceptedAt)
      (fun a b : AcceptedCommand => a.acceptedAt ≤ b.acceptedAt)
      (fun a b : AcceptedCommand => a.acceptedAt ≤ b.acceptedAt) := ⟨fun h h' => le_trans h h'⟩
    exact List.isChain_iff_pairwise.mp horder
  stops := by
    have htrans : Trans (fun a b : AcceptedCommand => a.denyUntil < b.denyUntil)
      (fun a b : AcceptedCommand => a.denyUntil < b.denyUntil)
      (fun a b : AcceptedCommand => a.denyUntil < b.denyUntil) := ⟨fun h h' => lt_trans h h'⟩
    exact List.isChain_iff_pairwise.mp (hcases.imp fun a b h => h.renews.1.later)
  nonempty c hc := (rule_and_window_of_chain hfirst hcases c hc).2.1

/-- An attempt is denied exactly when it is targeted and a command is in force. -/
theorem deniedAt_iff (hrule : ∀ c ∈ commands, c.command.rule = rule) :
    DeniedAt commands attempt ↔ rule.Targets attempt.candidate ∧
      Covered AcceptedCommand.acceptedAt AcceptedCommand.denyUntil commands attempt.time := by
  constructor
  · rintro ⟨c, hc, hdenied⟩
    rw [ne_eq, RevocationRule.attemptResult_eq_iff, not_not, hrule c (mem_of_inForce hc).1] at hdenied
    exact ⟨hdenied.2, c, hc, hdenied.1⟩
  · rintro ⟨htargets, c, hc, hstop⟩
    refine ⟨c, hc, ?_⟩
    rw [ne_eq, RevocationRule.attemptResult_eq_iff, not_not, hrule c (mem_of_inForce hc).1]
    exact ⟨hstop, htargets⟩

end Chains

/-- SEAMLESS: along a chain of accepted renewals every command has the selector of the first and is
    answered `applied`; only its targets are denied, between the first acceptance and the last
    deadline; and all of them are, all that time, exactly when each renewal is accepted by the
    deadline before it. -/
theorem renewals_seamless (first : AcceptedCommand) (renewals : List AcceptedCommand)
    (hfirst : ∃ command label, StatesCommand command (.int first.acceptedAt) label first)
    (hcases : (first :: renewals).IsChain RenewalCase)
    (horder : (first :: renewals).IsChain fun a b => a.acceptedAt ≤ b.acceptedAt) :
    (∀ c ∈ first :: renewals, c.command.rule = first.command.rule ∧
      deadlineResult c.acceptedAt c.denyUntil = "applied") ∧
    (∀ attempt, DeniedAt (first :: renewals) attempt → first.command.rule.Targets attempt.candidate ∧
      first.acceptedAt ≤ attempt.time ∧
        attempt.time < ((first :: renewals).getLast (List.cons_ne_nil _ _)).denyUntil) ∧
    ((∀ attempt, first.command.rule.Targets attempt.candidate → first.acceptedAt ≤ attempt.time →
        attempt.time < ((first :: renewals).getLast (List.cons_ne_nil _ _)).denyUntil →
        DeniedAt (first :: renewals) attempt) ↔
      (first :: renewals).IsChain fun a b => b.acceptedAt ≤ a.denyUntil) := by
  obtain ⟨command, label, hstates⟩ := hfirst
  have hall := rule_and_window_of_chain hstates.window hcases
  have hordered := ordered_of_chain hstates.window hcases horder
  have hdenied : ∀ attempt, DeniedAt (first :: renewals) attempt ↔
      first.command.rule.Targets attempt.candidate ∧
        Covered AcceptedCommand.acceptedAt AcceptedCommand.denyUntil (first :: renewals) attempt.time :=
    fun attempt => deniedAt_iff fun c hc => (hall c hc).1
  refine ⟨fun c hc => ⟨(hall c hc).1, deadlineResult_applied_iff.mpr (hall c hc).2⟩, ?_, ?_⟩
  · intro attempt h
    obtain ⟨htargets, hcovered⟩ := (hdenied attempt).mp h
    exact ⟨htargets, hcovered.bounds hordered⟩
  · rw [← covered_iff_seamless hordered]
    constructor
    · intro h t hstart hstop
      exact ((hdenied ⟨t, _⟩).mp (h ⟨t, _⟩ targets_ownCandidate hstart hstop)).2
    · intro h attempt htargets hstart hstop
      exact (hdenied attempt).mpr ⟨htargets, h attempt.time hstart hstop⟩

/-! ### A chain of two -/

/-- A command for a service, with this message ID and deadline. -/
def extensionCommand (messageId : String) (denyUntil : ℤ) : Json :=
  .obj [("message_id", .str messageId), ("channel_id", .int 111), ("service_id", .str "recorder-01"),
    ("deny_until", .int denyUntil)]

/-- A rule for a minute that is extended to an hour, before the minute is over. -/
def extensionCase : Dict :=
  [("initial_command", extensionCommand "EBESExQVFhcYGRobHB0eHw" 1767225660),
    ("initial_acceptance_at_relay_unix_seconds", .int 1767225600),
    ("renewal_command", extensionCommand "ICEiIyQlJicoKSorLC0uLw" 1767229220),
    ("renewal_acceptance_at_relay_unix_seconds", .int 1767225620),
    ("expected_effective_deny_until", .int 1767229220)]

/-- The first command of the case. -/
def extended : AcceptedCommand :=
  ⟨1767225600, ⟨"EBESExQVFhcYGRobHB0eHw", ⟨111, some "recorder-01", none⟩, 1767225660⟩⟩

/-- The second command of the case. -/
def extension : AcceptedCommand :=
  ⟨1767225620, ⟨"ICEiIyQlJicoKSorLC0uLw", ⟨111, some "recorder-01", none⟩, 1767229220⟩⟩

theorem renewalCase_extension : RenewalCase extended extension :=
  ⟨extensionCase, [], rfl, ⟨rfl, rfl⟩, rfl, rfl⟩

theorem renewals_seamless_extension :
    (∀ attempt, extended.command.rule.Targets attempt.candidate → 1767225600 ≤ attempt.time →
        attempt.time < 1767229220 → DeniedAt [extended, extension] attempt) ↔
      [extended, extension].IsChain fun a b => b.acceptedAt ≤ a.denyUntil :=
  (renewals_seamless extended [extension] ⟨extensionCommand "EBESExQVFhcYGRobHB0eHw" 1767225660, [], rfl, rfl⟩
    (.cons_cons renewalCase_extension (.singleton extension)) (by decide)).2.2

end IncomUdon.Lifecycle
