import IncomUdon.Lifecycle.MediaReplayErrors

/-! The document of the media replay window, as a whole. A case checks a session or shows one
    transition of the receiver, and cases that start where the one before them ended show a run:

        empty ──packet──▶ window ──packet──▶ window ──▶ …
               case 0            case 1

    EXACT: what the cases state when the document is accepted. RUN: the answers in such a chain are
    those of the receiver, so no counter is expected to be accepted twice. -/

namespace IncomUdon.Lifecycle
open IncomUdon.Python IncomUdon.Loader IncomUdon.Lib.ReplayWindow IncomUdon.Lib.ErrorLog

/-- The largest counter of a packet. -/
def maxMediaCounter : ℕ := 0xFFFFFFFF

/-- A value is this counter. -/
def IsCounter (value : Json) (counter : ℕ) : Prop := value = .int counter ∧ counter ≤ maxMediaCounter

/-- The case describes the window before a packet, and the packet. -/
structure DescribesArrival (case : Dict) (state : Window ℕ) (packet : MediaPacket) : Prop where
  highest : Dict.get case "initialHighestAuthenticatedCounter" = Json.ofNat? state.highest ∧
    ∀ high ∈ state.highest, high ≤ maxMediaCounter
  seen : ∃ items counters, (Dict.getD case "initialSeenCounters" (.arr [])).items? = some items ∧
    List.Forall₂ IsCounter items counters ∧ state.seen = counters.toFinset
  counter : IsCounter (Dict.get case "counter") packet.counter
  authentication : Dict.get case "authentication" = packet.authentication

/-- The case expects this answer and this window after it. -/
structure ExpectsOutcome (case : Dict) (decision : ReplayDecision) (state : Window ℕ) : Prop where
  action : Dict.get case "expected" = .str decision.text
  highest : (Json.ofNat? state.highest).eq (Dict.get case "resultHighestAuthenticatedCounter") = true
  seen : (Json.ints (state.seen.sort (· ≥ ·))).eq (Dict.get case "resultSeenCounters") = true

/-- The case expects what the receiver does. -/
def ExpectsTransition (window : ℕ) (case : Dict) (state : Window ℕ) (packet : MediaPacket) : Prop :=
  ExpectsOutcome case (mediaReplayTransition window state packet).1
    (mediaReplayTransition window state packet).2

/-- What an announced session and the session of a packet are expected to come to. -/
def sessionAction (announced session : Json) : String :=
  if announced.eq session then "accept_and_mark_seen" else "reject_unannounced_session"

/-- The case is a session check. -/
def IsSessionCheck (case : Dict) : Prop := Dict.has case "announcedMediaNonceBase96Hex" = true

instance (case : Dict) : Decidable (IsSessionCheck case) := inferInstanceAs (Decidable (_ = true))

/-- A case checks a session, or shows a transition. -/
inductive StatesReplayCase (window : ℕ) (case : Dict) : Prop
  | session (kind : IsSessionCheck case) (action : Dict.get case "expected"
      = .str (sessionAction (Dict.get case "announcedMediaNonceBase96Hex")
        (Dict.get case "packetMediaNonceBase96Hex")))
  | transition (kind : ¬IsSessionCheck case) (state : Window ℕ) (packet : MediaPacket)
      (describes : DescribesArrival case state packet)
      (expects : ExpectsTransition window case state packet)

section Case
variable {window index : ℕ} {case : Dict} {value : Json} {name label : Msg} {highest : Option ℕ}
  {state state' : Window ℕ} {packet packet' : MediaPacket} {items : List Json} {counters : List ℕ}

theorem clean_readHighest : Clean (readHighest value label) highest ↔
    value = Json.ofNat? highest ∧ ∀ high ∈ highest, high ≤ maxMediaCounter := by
  cases value with
  | null => cases highest <;> simp [readHighest, Json.ofNat?]
  | _ => cases highest <;> simp [readHighest, Json.ofNat?, maxMediaCounter]

theorem clean_seen : Clean (items.mapM fun value =>
    (Run.lift (integer value label 0xFFFFFFFF) : Check ℕ)) counters ↔
    List.Forall₂ IsCounter items counters := by
  have hitem : ∀ value counter, Clean (Run.lift (integer value label 0xFFFFFFFF) : Check ℕ) counter ↔
      IsCounter value counter := by
    intro value counter
    rw [clean_lift, integer_eq_ok, IsCounter, maxMediaCounter]
  rw [clean_mapM]
  simp only [hitem]

theorem clean_counterCheck : Clean (counterCheck window case name highest) () ↔
    ∃ items counters counter, (Dict.getD case "initialSeenCounters" (.arr [])).items? = some items ∧
      List.Forall₂ IsCounter items counters ∧ IsCounter (Dict.get case "counter") counter ∧
      ExpectsTransition window case ⟨highest, counters.toFinset⟩
        ⟨counter, Dict.get case "authentication"⟩ := by
  simp only [counterCheck, Run.liftM_eq, clean_bind, clean_lift, iterate_eq_ok, clean_seen,
    integer_eq_ok, clean_compare, Json.eq_str_left, exists_unit]
  constructor
  · rintro ⟨items, hitems, counters, hcounters, counter, hcounter, haction, hhighest, hseen⟩
    exact ⟨items, counters, counter, hitems, hcounters, hcounter, haction, hhighest, hseen⟩
  · rintro ⟨items, counters, counter, hitems, hcounters, hcounter, h⟩
    exact ⟨items, hitems, counters, hcounters, counter, hcounter, h.action, h.highest, h.seen⟩

/-- EXACT: a case is accepted exactly when it states what the receiver does. -/
theorem clean_mediaReplayCase :
    Clean (mediaReplayCase window value index) () ↔
      ∃ case, value = .obj case ∧ StatesReplayCase window case := by
  simp only [mediaReplayCase_eq, Run.liftM_eq, clean_bind, clean_lift, asObject_eq_ok, clean_ite,
    sessionCheck, clean_compare, Json.eq_str_left, clean_readHighest, clean_counterCheck]
  refine exists_congr fun case => and_congr_right fun _ => ?_
  constructor
  · rintro (⟨hkind, haction⟩ | ⟨hkind, highest, hhighest, items, counters, counter, hitems,
      hcounters, hcounter, h⟩)
    · exact .session hkind haction
    · exact .transition hkind ⟨highest, counters.toFinset⟩ ⟨counter, _⟩
        ⟨hhighest, ⟨items, counters, hitems, hcounters, rfl⟩, hcounter, rfl⟩ h
  · intro h
    cases h with
    | session hkind haction => exact .inl ⟨hkind, haction⟩
    | transition hkind state packet hdescribes hexpects =>
      obtain ⟨highest, seen⟩ := state
      obtain ⟨counter, authentication⟩ := packet
      obtain ⟨hhighest, ⟨items, counters, hitems, hcounters, rfl⟩, hcounter, rfl⟩ := hdescribes
      exact .inr ⟨hkind, highest, hhighest, items, counters, counter, hitems, hcounters, hcounter,
        hexpects⟩

/-- A value is one counter. -/
theorem rightUnique_isCounter : Relator.RightUnique IsCounter := by
  intro value counter counter' h h'
  have hsame := h.1.symm.trans h'.1
  simpa using hsame

theorem ofNat?_injective {highest' : Option ℕ} (h : Json.ofNat? highest = Json.ofNat? highest') :
    highest = highest' := by
  cases highest <;> cases highest' <;> simp_all [Json.ofNat?]

/-- A case describes one window and one packet. -/
theorem DescribesArrival.unique (h : DescribesArrival case state packet)
    (h' : DescribesArrival case state' packet') : state = state' ∧ packet = packet' := by
  obtain ⟨highest, seen⟩ := state
  obtain ⟨highest', seen'⟩ := state'
  obtain ⟨counter, authentication⟩ := packet
  obtain ⟨counter', authentication'⟩ := packet'
  obtain ⟨⟨hhighest, -⟩, ⟨items, counters, hitems, hcounters, rfl⟩, ⟨hcounter, -⟩, rfl⟩ := h
  obtain ⟨⟨hhighest', -⟩, ⟨items', counters', hitems', hcounters', rfl⟩, ⟨hcounter', -⟩, rfl⟩ := h'
  obtain rfl := Option.some.inj (hitems.symm.trans hitems')
  obtain rfl : highest = highest' := ofNat?_injective (hhighest.symm.trans hhighest')
  obtain rfl : counters = counters' :=
    List.right_unique_forall₂' rightUnique_isCounter hcounters hcounters'
  have hsame : (Json.int counter) = .int counter' := hcounter.symm.trans hcounter'
  refine ⟨rfl, ?_⟩
  simpa using hsame

end Case

/-! ### The document -/

/-- The document has the window size 64 and these cases, and each states what the receiver does. -/
structure StatesMediaReplay (document : Dict) (values : List Json) : Prop where
  window : Dict.get document "windowSize" = .int 64
  cases : Dict.get document "cases" = .arr values
  states : ∀ value ∈ values, ∃ case, value = .obj case ∧ StatesReplayCase 64 case

/-- EXACT: the validator accepts exactly a stored document whose cases state what the receiver
    does. -/
theorem clean_validateMediaReplay {root : Root} : Clean (validateMediaReplay root) () ↔
    ∃ document values, root mediaReplayPath = .json (.obj document) ∧
      StatesMediaReplay document values := by
  simp only [validateMediaReplay, Run.liftM_eq, clean_bind, clean_lift, load_eq_ok, integer_eq_ok,
    asArray_eq_ok, clean_compare, Json.eq_int_int, exists_unit]
  constructor
  · rintro ⟨document, hdocument, window, ⟨hsize, -⟩, hwindow, values, hvalues, hcases⟩
    obtain rfl : window = 64 := by exact_mod_cast hwindow
    exact ⟨document, values, hdocument, hsize, hvalues,
      (clean_forM_zipIdx fun _ _ => clean_mediaReplayCase).mp hcases⟩
  · rintro ⟨document, values, hdocument, h⟩
    exact ⟨document, hdocument, 64, ⟨h.window, by decide⟩, rfl, values, h.cases,
      (clean_forM_zipIdx fun _ _ => clean_mediaReplayCase).mpr h.states⟩

/-! ### Cases that show a run -/

/-- The cases start where the ones before them end, and have these packets. -/
inductive ShowsRun (window : ℕ) : Window ℕ → List MediaPacket → List Json → Prop
  | nil {state : Window ℕ} : ShowsRun window state [] []
  | cons {state : Window ℕ} {packet : MediaPacket} {packets : List MediaPacket} {case : Dict}
      {values : List Json} (kind : ¬IsSessionCheck case) (describes : DescribesArrival case state packet)
      (rest : ShowsRun window (mediaReplayTransition window state packet).2 packets values) :
      ShowsRun window state (packet :: packets) (.obj case :: values)

/-- The answers that the cases expect. -/
def expectedAnswers (values : List Json) : List Json :=
  values.map fun value => getIfObject value "expected"

section Chain
variable {window : ℕ} {state : Window ℕ} {packets : List MediaPacket} {values : List Json}

/-- STEP: a case that describes a window and a packet is accepted exactly when it expects the
    transition. -/
theorem statesReplayCase_iff {case : Dict} {packet : MediaPacket} (hkind : ¬IsSessionCheck case)
    (hdescribes : DescribesArrival case state packet) :
    StatesReplayCase window case ↔ ExpectsTransition window case state packet := by
  constructor
  · intro h
    cases h with
    | session hsession => exact absurd hsession hkind
    | transition _ state' packet' hdescribes' hexpects =>
      obtain ⟨rfl, rfl⟩ := hdescribes.unique hdescribes'
      exact hexpects
  · exact fun hexpects => .transition hkind state packet hdescribes hexpects

/-- RUN: accepted cases that show a run expect the answers of the receiver. -/
theorem expectedAnswers_of_showsRun (h : ShowsRun window state packets values)
    (hstates : ∀ value ∈ values, ∃ case, value = .obj case ∧ StatesReplayCase window case) :
    expectedAnswers values =
      (mediaReplayRun window state packets).1.map fun decision => .str decision.text := by
  induction h with
  | nil => rfl
  | @cons state packet packets case values hkind hdescribes _ ih =>
    rw [List.forall_mem_cons] at hstates
    obtain ⟨⟨_, ⟨⟩, hcase⟩, hrest⟩ := hstates
    have hexpects := (statesReplayCase_iff hkind hdescribes).mp hcase
    have hanswers := ih hrest
    rw [expectedAnswers] at hanswers ⊢
    rw [List.map_cons, hanswers, mediaReplayRun, List.map_cons]
    exact congrArg (· :: _) hexpects.action

/-- The decision is read back from its text. -/
theorem text_eq_accept {decision : ReplayDecision} :
    decision.text = "accept_and_mark_seen" ↔ decision = .accept := by
  cases decision <;> decide

/-- Where the answers are those of a run, no counter is accepted twice. -/
theorem counter_ne_of_accepted {answers : List Json}
    (hanswers : answers = (decisions 64 packets).map fun decision => .str decision.text)
    (j k : Fin packets.length) (hjk : j < k)
    (hj : answers[(j : ℕ)]? = some (.str "accept_and_mark_seen"))
    (hk : answers[(k : ℕ)]? = some (.str "accept_and_mark_seen")) :
    (packets.get j).counter ≠ (packets.get k).counter := by
  have haccept : ∀ i : Fin packets.length, answers[(i : ℕ)]? = some (.str "accept_and_mark_seen") →
      (decisions 64 packets)[(i : ℕ)]? = some .accept := by
    intro i hi
    rw [hanswers, List.getElem?_map, Option.map_eq_some_iff] at hi
    obtain ⟨decision, hdecision, htext⟩ := hi
    rw [hdecision, text_eq_accept.mp (Json.str.inj htext)]
  intro hsame
  have hlast := haccept k hk
  rw [getElem_decisions, Option.some.injEq, decisions_accept_iff] at hlast
  refine hlast.2.2 ((acceptedBefore_iff k.isLt.le).mp ?_)
  exact ⟨j, hjk, haccept j hj, packets.get j, List.getElem?_eq_getElem j.isLt, hsame⟩

end Chain

/-- MEDIA REPLAY: the validator accepts exactly the documents whose cases state what the receiver
    does. Where the cases of an accepted document show a run from the empty window, they expect the
    answers of the receiver, and of two packets that are expected to be accepted the counters
    differ. -/
theorem validateMediaReplay_exact (root : Root) :
    (Clean (validateMediaReplay root) () ↔ ∃ document values,
      root mediaReplayPath = .json (.obj document) ∧ StatesMediaReplay document values) ∧
    ∀ document values packets, StatesMediaReplay document values →
      ShowsRun 64 Window.empty packets values →
      expectedAnswers values = (decisions 64 packets).map (fun decision => .str decision.text) ∧
      ∀ j k : Fin packets.length, j < k →
        (expectedAnswers values)[(j : ℕ)]? = some (.str "accept_and_mark_seen") →
        (expectedAnswers values)[(k : ℕ)]? = some (.str "accept_and_mark_seen") →
        (packets.get j).counter ≠ (packets.get k).counter := by
  refine ⟨clean_validateMediaReplay, fun document values packets h hrun => ?_⟩
  have hanswers := expectedAnswers_of_showsRun hrun h.states
  exact ⟨hanswers, counter_ne_of_accepted hanswers⟩

/-! ### A run that repeats a counter -/

/-- A case with these windows, which list the counters that were seen from the highest on. -/
def arrivalCase (before : List ℕ) (counter : ℕ) (decision : ReplayDecision) (after : List ℕ) : Dict :=
  [("initialHighestAuthenticatedCounter", .ofNat? before.head?), ("initialSeenCounters", .ints before),
    ("counter", .int counter), ("authentication", .str "valid"), ("expected", .str decision.text),
    ("resultHighestAuthenticatedCounter", .ofNat? after.head?), ("resultSeenCounters", .ints after)]

section Arrival
variable {before after : List ℕ} {counter : ℕ} {decision : ReplayDecision}

/-- It describes the first window and the packet. -/
theorem describes_arrivalCase (h : ∀ seen ∈ counter :: before, seen ≤ maxMediaCounter) :
    DescribesArrival (arrivalCase before counter decision after) ⟨before.head?, before.toFinset⟩
      ⟨counter, .str "valid"⟩ := by
  rw [List.forall_mem_cons] at h
  obtain ⟨hcounter, hbefore⟩ := h
  refine ⟨⟨rfl, fun high hhigh => hbefore high (List.mem_of_mem_head? hhigh)⟩,
    ⟨_, before, rfl, ?_, rfl⟩, ⟨rfl, hcounter⟩, rfl⟩
  rw [List.forall₂_map_left_iff]
  exact List.forall₂_same.mpr fun seen hseen => ⟨rfl, hbefore seen hseen⟩

/-- It is accepted, if the receiver does this. -/
theorem states_arrivalCase (h : ∀ seen ∈ counter :: before, seen ≤ maxMediaCounter)
    (hsorted : after.SortedGT)
    (htransition : mediaReplayTransition 64 ⟨before.head?, before.toFinset⟩ ⟨counter, .str "valid"⟩ =
      (decision, ⟨after.head?, after.toFinset⟩)) :
    StatesReplayCase 64 (arrivalCase before counter decision after) := by
  refine .transition Bool.false_ne_true _ _ (describes_arrivalCase h) ?_
  rw [ExpectsTransition, htransition]
  refine ⟨rfl, ?_, ?_⟩
  · cases after with
    | nil => rfl
    | cons => exact Json.eq_int_int.mpr rfl
  · rw [(List.toFinset_sort (· ≥ ·) hsorted.nodup).mpr]
    · exact Json.eq_ints.mpr rfl
    · exact hsorted.sortedGE.pairwise
end Arrival

/-- Two packets, and the first once more. -/
def firstPacket : MediaPacket := ⟨42, .str "valid"⟩
def secondPacket : MediaPacket := ⟨43, .str "valid"⟩
def repeatedPackets : List MediaPacket := [firstPacket, secondPacket, firstPacket]

def repeatedArrivals : List Json :=
  [.obj (arrivalCase [] 42 .accept [42]), .obj (arrivalCase [42] 43 .accept [43, 42]),
    .obj (arrivalCase [43, 42] 42 .rejectReplay [43, 42])]

/-- They are accepted and show a run. -/
theorem validateMediaReplay_exact_repeated :
    expectedAnswers repeatedArrivals =
        (decisions 64 repeatedPackets).map (fun decision => .str decision.text) ∧
      firstPacket.counter ≠ secondPacket.counter := by
  have hstates : StatesMediaReplay (replayDocument repeatedArrivals) repeatedArrivals := by
    refine ⟨rfl, rfl, ?_⟩
    simp only [repeatedArrivals, List.forall_mem_cons, List.not_mem_nil, false_imp_iff, implies_true,
      and_true]
    exact ⟨⟨_, rfl, states_arrivalCase (by decide) (by decide) rfl⟩,
      ⟨_, rfl, states_arrivalCase (by decide) (by decide) rfl⟩,
      ⟨_, rfl, states_arrivalCase (by decide) (by decide) rfl⟩⟩
  have hrun : ShowsRun 64 Window.empty repeatedPackets repeatedArrivals :=
    .cons (by decide) (describes_arrivalCase (by decide))
      (.cons (by decide) (describes_arrivalCase (by decide))
        (.cons (by decide) (describes_arrivalCase (by decide)) .nil))
  obtain ⟨hanswers, hcounters⟩ :=
    (validateMediaReplay_exact (onlyMediaReplay (replayDocument repeatedArrivals))).2 _ _
      repeatedPackets hstates hrun
  exact ⟨hanswers, hcounters ⟨0, by decide⟩ ⟨1, by decide⟩ (by decide) rfl rfl⟩

end IncomUdon.Lifecycle
