import IncomUdon.Lifecycle.Common

/-! The Directory lifecycle: the reassembly of a fragmented response. The fragments are fixtures of
    their own, found by their sequence; a case says what was received:

        fixtures ──▶ sequence ↦ (fragment index, sender ID)
        received indexes = {0, …, count - 1}      apply
        otherwise                                 keep the previous state

    HANDLED: what the validator's handler does not catch, and when it comes to that. -/

namespace IncomUdon.Lifecycle
open IncomUdon.Python IncomUdon.Loader IncomUdon.Lib.ErrorLog

/-! ### The fragments of the document -/

/-- `sequence_to_fragment`, latest entry first: for a sequence, the fragment index and the sender ID
    of the first participant. -/
abbrev FragmentTable := List (Json × Json × Json)

/-- The entry of a sequence. -/
def FragmentTable.entry (table : FragmentTable) (sequence : Json) : Option (Json × Json) :=
  (table.find? fun entry => entry.1.same sequence).map Prod.snd

/-- The entry that a fixture adds; the value is built before the key is looked up. -/
def fragmentEntry (lib : Library) (fixture : Dict) : Py (Json × Json × Json) := do
  let text ← subscript fixture "plaintextUtf8"
  let payload ← lib.loadsValue text
  let fragment ← member payload "fragment"
  let fragmentIndex ← member fragment "index"
  let participants ← member payload "participants"
  let participant ← itemAt participants 0
  let senderId ← member participant "senderId"
  let sequence ← subscript fixture "sequence"
  hash sequence
  return (sequence, fragmentIndex, senderId)

/-- One `mediaPortParticipantsFragments` fixture. -/
def mediaFragment (lib : Library) (table : FragmentTable) (fixture : Json) : Py FragmentTable :=
  match fixture with
  | .obj fixture => (· :: table) <$> fragmentEntry lib fixture
  | _ => .ok table

/-- `document.get("crypto", {})`. -/
def directoryCrypto (document : Dict) : Json := Dict.getD document "crypto" (.obj [])

/-- The fragments a document lists; anything but an array lists none. -/
def mediaFragmentFixtures (crypto : Dict) : List Json :=
  match Dict.getD crypto "mediaPortParticipantsFragments" (.arr []) with
  | .arr fixtures => fixtures
  | _ => []

/-- `sequence_to_fragment`. -/
def mediaFragments (lib : Library) (document : Dict) : Py FragmentTable :=
  match directoryCrypto document with
  | .obj crypto => (mediaFragmentFixtures crypto).foldlM (mediaFragment lib) []
  | _ => fails .attributeError

/-! ### Reassembly -/

/-- `sequence_to_fragment.get(sequence, (-1, -1))[0]`. -/
def fragmentIndexOf (table : FragmentTable) (sequence : Json) : Py Json := do
  hash sequence
  return ((table.entry sequence).map Prod.fst).getD (.int (-1))

/-- `sequence_to_fragment[sequence][1]`. -/
def senderIdOf (table : FragmentTable) (sequence : Json) : Py Json := do
  hash sequence
  match table.entry sequence with
  | some entry => return entry.2
  | none => fails .keyError

/-- The received indexes are all that there are. -/
def allReceived (received count : Json) : Py Bool := do
  let received ← asSet received
  let expected ← rangeOf count
  return Json.setEq received expected

/-- `isinstance(fragment, dict) and set(...) == set(range(...))`. -/
def fragmentComplete (case : Dict) : Py Bool :=
  match Dict.get case "fragment" with
  | .obj fragment => allReceived (Dict.getD case "receivedIndexes" (.arr []))
      (Dict.getD fragment "count" (.int 0))
  | _ => .ok false

/-- A case with `fragment`. -/
def oneFragmentCase (case : Dict) (name : Msg) : Check Unit := do
  let complete ← fragmentComplete case
  compare (name.add [" completion"])
    (.str (if complete then "apply_atomically" else "discard_incomplete_keep_previous_state"))
    (Dict.get case "expected")

/-- The indexes of the received sequences, and the sender IDs in the order of the sequences. -/
def reassemble (table : FragmentTable) (order : List Json) : Py (List Json × List Json) := do
  let indexes ← order.mapM (fragmentIndexOf table)
  let sequences ← sortedOn id order
  let senderIds ← sequences.mapM (senderIdOf table)
  let indexes ← setOf indexes
  return (indexes, senderIds)

/-- A case with `receivedSequenceOrder`. -/
def sequenceOrderCase (table : FragmentTable) (case : Dict) (name : Msg) : Check Unit := do
  let order ← iterate (Dict.get case "receivedSequenceOrder")
  let (indexes, senderIds) ← reassemble table order
  let expected ← rangeOf (Dict.getD case "fragmentCount" (.int 0))
  compare (name.add [" completion"]) (.bool (Json.setEq indexes expected)) (.bool true)
  compare (name.add [" sender IDs"]) (.arr senderIds) (Dict.get case "expectedParticipantSenderIds")
  compare (name.add [" expected action"]) (Dict.get case "expected")
    (.str "reassemble_and_apply_atomically")

/-- `set(item.get("receivedIndexes", [])) == {0, 1, 2}`. -/
def fragmentSetComplete (item : Json) : Py Bool := do
  let received ← getAttrD item "receivedIndexes" (.arr [])
  let received ← asSet received
  return Json.setEq received [.int 0, .int 1, .int 2]

/-- A case with `fragmentSets`. -/
def fragmentSetsCase (case : Dict) (name : Msg) : Check Unit := do
  let items ← iterate (Dict.get case "fragmentSets")
  let complete ← (items.anyM fragmentSetComplete : Py Bool)
  compare (name.add [" completion"]) (.bool complete) (.bool false)
  compare (name.add [" expected action"]) (Dict.get case "expected")
    (.str "no_complete_response_applied")

/-- A case with none of the distinguishing members. -/
def receivedIndexesCase (case : Dict) (name : Msg) : Check Unit := do
  let complete ← allReceived (Dict.getD case "receivedIndexes" (.arr []))
    (Dict.getD case "fragmentCount" (.int 0))
  compare (name.add [" expected action"]) (Dict.get case "expected")
    (.str (if complete then "ignore_duplicate_reassemble_and_apply_atomically"
      else "discard_incomplete_keep_previous_state"))

/-- One `fragmentReassemblyCases` fixture. -/
def fragmentCase (table : FragmentTable) (case : Json) : Check Unit := do
  let case ← asObject case ["Directory fragment reassembly case must be an object"]
  let name := nameLabel case ["fragment case"]
  if Dict.has case "fragment" then oneFragmentCase case name
  else if Dict.has case "receivedSequenceOrder" then sequenceOrderCase table case name
  else if Dict.has case "conflictingIndex" then
    compare (name.add [" expected action"]) (Dict.get case "expected")
      (.str "discard_set_increment_reassembly_conflicts")
  else if Dict.has case "fragmentSets" then fragmentSetsCase case name
  else receivedIndexesCase case name

/-! ### What is read without an exception -/

/-- The text of a fixture parses to a payload with a fragment index and a first participant, and its
    sequence has a hash; these three make its entry. -/
def HasEntry (lib : Library) (fixture : Dict) (entry : Json × Json × Json) : Prop :=
  ∃ text payload fragment participant others,
    fixture.lookup "plaintextUtf8" = some (.str text) ∧ lib.loads text = .ok (.obj payload) ∧
    payload.lookup "fragment" = some (.obj fragment) ∧ fragment.lookup "index" = some entry.2.1 ∧
    payload.lookup "participants" = some (.arr (.obj participant :: others)) ∧
    participant.lookup "senderId" = some entry.2.2 ∧
    fixture.lookup "sequence" = some entry.1 ∧ entry.1.hashable = true

/-- A fixture that is skipped or has its entry. -/
def FixtureReadable (lib : Library) (fixture : Json) : Prop :=
  ∀ d, fixture = .obj d → ∃ entry, HasEntry lib d entry

/-- The values that are objects. -/
def objects (values : List Json) : List Dict :=
  values.filterMap fun value =>
    match value with
    | .obj d => some d
    | _ => none

/-- The entries of the fixtures that are objects, latest first. -/
def HasEntries (lib : Library) (fixtures : List Json) (table : FragmentTable) : Prop :=
  List.Forall₂ (HasEntry lib) (objects fixtures) table.reverse

/-- The indexes can be put in a set, and the count in a range. -/
def IndexesReadable (received count : Json) : Prop := Hashables received ∧ (int? count).isSome

/-- An object with indexes that can be put in a set. -/
def FragmentSetReadable (item : Json) : Prop :=
  ∃ d, item = .obj d ∧ Hashables (Dict.getD d "receivedIndexes" (.arr []))

/-- A set that is read and lacks a fragment, so that the next one is looked at. -/
def FragmentSetOpen (item : Json) : Prop :=
  ∃ d received, item = .obj d ∧ (Dict.getD d "receivedIndexes" (.arr [])).items? = some received ∧
    (∀ value ∈ received, value.hashable = true) ∧
    Json.setEq received [.int 0, .int 1, .int 2] = false

/-- The sequences can be ordered, and each has an entry whose fragment index has a hash. -/
def OrderReadable (table : FragmentTable) (order : List Json) : Prop :=
  Sortable id order ∧ ∀ sequence ∈ order, sequence.hashable = true ∧
    ∃ entry, table.entry sequence = some entry ∧ entry.1.hashable = true

/-- What each kind of reassembly case must have. -/
def FragmentCaseReadable (table : FragmentTable) (case : Json) : Prop :=
  ∃ d, case = .obj d ∧
    if Dict.has d "fragment" then
      ∀ fragment, Dict.get d "fragment" = .obj fragment →
        IndexesReadable (Dict.getD d "receivedIndexes" (.arr [])) (Dict.getD fragment "count" (.int 0))
    else if Dict.has d "receivedSequenceOrder" then
      (∃ order, (Dict.get d "receivedSequenceOrder").items? = some order ∧ OrderReadable table order) ∧
        (int? (Dict.getD d "fragmentCount" (.int 0))).isSome
    else if Dict.has d "conflictingIndex" then True
    else if Dict.has d "fragmentSets" then
      ∃ items, (Dict.get d "fragmentSets").items? = some items ∧
        EachReached FragmentSetOpen FragmentSetReadable items
    else
      IndexesReadable (Dict.getD d "receivedIndexes" (.arr [])) (Dict.getD d "fragmentCount" (.int 0))

section Readable
variable {document case : Dict} {value received count : Json} {table : FragmentTable} {lib : Library}
  {items : List Json}

theorem allReceived_isOk :
    (∃ complete, allReceived received count = .ok complete) ↔ IndexesReadable received count := by
  simp [-Bool.exists_bool, allReceived, IndexesReadable, ← asSet_isOk, bind_eq_ok, pure, Except.pure,
    Option.isSome_iff_exists]

/-- Only a list has an object as its first item. -/
theorem itemAt_zero_eq_obj {d : Dict} :
    itemAt value 0 = .ok (.obj d) ↔ ∃ others, value = .arr (.obj d :: others) := by
  cases value with
  | arr items => cases items <;> simp [itemAt]
  | str text => simp [itemAt, Functor.map, Except.map]; split <;> simp
  | _ => simp [itemAt]

theorem fragmentEntry_eq_ok {entry : Json × Json × Json} :
    fragmentEntry lib case = .ok entry ↔ HasEntry lib case entry := by
  simp only [fragmentEntry, HasEntry, bind_eq_ok, subscript_eq_ok, loadsValue_eq_ok, member_eq_ok,
    hash_eq_ok, pure, Except.pure, Except.ok.injEq]
  constructor
  · rintro ⟨_, htext, _, ⟨text, rfl, hloads⟩, _, ⟨payload, rfl, hfragment⟩, index,
      ⟨fragment, rfl, hindex⟩, participants, ⟨_, ⟨⟩, hparticipants⟩, _, hfirst, senderId,
      ⟨participant, rfl, hsender⟩, sequence, hsequence, _, hhash, rfl⟩
    obtain ⟨others, rfl⟩ := itemAt_zero_eq_obj.mp hfirst
    exact ⟨text, payload, fragment, participant, others, htext, hloads, hfragment, hindex,
      hparticipants, hsender, hsequence, hhash⟩
  · rintro ⟨text, payload, fragment, participant, others, htext, hloads, hfragment, hindex,
      hparticipants, hsender, hsequence, hhash⟩
    exact ⟨_, htext, _, ⟨text, rfl, hloads⟩, _, ⟨payload, rfl, hfragment⟩, _, ⟨fragment, rfl, hindex⟩,
      _, ⟨payload, rfl, hparticipants⟩, _, itemAt_zero_eq_obj.mpr ⟨others, rfl⟩, _,
      ⟨participant, rfl, hsender⟩, _, hsequence, (), hhash, rfl⟩

/-- The loop puts the entries in front of the table, one by one. -/
theorem foldlM_mediaFragment_eq_ok {fixtures : List Json} {result : FragmentTable} :
    fixtures.foldlM (mediaFragment lib) table = .ok result ↔
      ∃ entries, List.Forall₂ (HasEntry lib) (objects fixtures) entries ∧
        result = entries.reverse ++ table := by
  induction fixtures generalizing table with
  | nil => simp [objects, pure, Except.pure, eq_comm]
  | cons fixture fixtures ih =>
    rw [List.foldlM_cons, bind_eq_ok]
    cases fixture with
    | obj d =>
      have hobjects : objects (.obj d :: fixtures) = d :: objects fixtures := rfl
      simp only [mediaFragment, ih, hobjects, List.forall₂_cons_left_iff]
      constructor
      · rintro ⟨_, hput, entries, hentries, rfl⟩
        obtain ⟨entry, hentry, rfl⟩ := map_eq_ok.mp hput
        exact ⟨entry :: entries, ⟨entry, entries, fragmentEntry_eq_ok.mp hentry, hentries, rfl⟩,
          by simp⟩
      · rintro ⟨_, ⟨entry, entries, hentry, hentries, rfl⟩, rfl⟩
        exact ⟨entry :: table, map_eq_ok.mpr ⟨entry, fragmentEntry_eq_ok.mpr hentry, rfl⟩, entries,
          hentries, by simp⟩
    | null | bool _ | int _ | float _ | str _ | arr _ => simp [mediaFragment, ih, objects]

theorem mediaFragments_eq_ok :
    mediaFragments lib document = .ok table ↔
      ∃ crypto, directoryCrypto document = .obj crypto ∧
        HasEntries lib (mediaFragmentFixtures crypto) table := by
  unfold mediaFragments
  cases directoryCrypto document with
  | obj crypto =>
    simp only [foldlM_mediaFragment_eq_ok, List.append_nil, Json.obj.injEq, exists_eq_left',
      HasEntries]
    constructor
    · rintro ⟨entries, hentries, rfl⟩
      rwa [List.reverse_reverse]
    · exact fun h => ⟨table.reverse, h, table.reverse_reverse.symm⟩
  | _ => simp

theorem mapM_fragmentIndexOf_eq_ok {order indexes : List Json} :
    order.mapM (fragmentIndexOf table) = .ok indexes ↔
      (∀ sequence ∈ order, sequence.hashable = true) ∧
      (order.map fun sequence => ((table.entry sequence).map Prod.fst).getD (.int (-1))) = indexes := by
  simp only [mapM_eq_ok, fragmentIndexOf, bind_eq_ok, hash_eq_ok, pure, Except.pure, Except.ok.injEq,
    exists_const, List.forall₂_and_left, ← List.forall₂_eq_eq_eq, List.forall₂_map_left_iff]

theorem senderIdOf_isOk {sequence : Json} :
    (∃ result, senderIdOf table sequence = .ok result) ↔
      sequence.hashable = true ∧ ∃ entry, table.entry sequence = some entry := by
  unfold senderIdOf
  cases table.entry sequence <;> simp [bind_eq_ok, pure, Except.pure]

theorem reassemble_isOk {order : List Json} :
    (∃ result, reassemble table order = .ok result) ↔ OrderReadable table order := by
  simp only [reassemble, OrderReadable, bind_eq_ok, mapM_fragmentIndexOf_eq_ok, sortedOn_eq_ok,
    setOf_eq_ok, pure, Except.pure, Except.ok.injEq]
  constructor
  · rintro ⟨_, _, ⟨hhash, rfl⟩, sequences, ⟨hsortable, rfl⟩, senderIds, hsenders, _, ⟨hindexes, -⟩, -⟩
    refine ⟨hsortable, fun sequence hmem => ⟨hhash sequence hmem, ?_⟩⟩
    obtain ⟨-, entry, hentry⟩ := senderIdOf_isOk.mp
      (mapM_isOk.mp ⟨senderIds, hsenders⟩ sequence (List.mem_mergeSort.mpr hmem))
    have hindex := hindexes _ (List.mem_map_of_mem hmem)
    rw [hentry] at hindex
    exact ⟨entry, hentry, hindex⟩
  · rintro ⟨hsortable, horder⟩
    have hsenders : ∀ sequence ∈ order.mergeSort fun x y => y.ge? x = some true,
        ∃ result, senderIdOf table sequence = .ok result := fun sequence hmem => by
      obtain ⟨hhash, entry, hentry, -⟩ := horder sequence (List.mem_mergeSort.mp hmem)
      exact senderIdOf_isOk.mpr ⟨hhash, entry, hentry⟩
    obtain ⟨senderIds, hsenders⟩ := mapM_isOk.mpr hsenders
    refine ⟨_, _, ⟨fun sequence hmem => (horder sequence hmem).1, rfl⟩, _, ⟨hsortable, rfl⟩,
      senderIds, hsenders, _, ⟨fun index hindex => ?_, rfl⟩, rfl⟩
    obtain ⟨sequence, hmem, rfl⟩ := List.mem_map.mp hindex
    obtain ⟨-, entry, hentry, hhash⟩ := horder sequence hmem
    rw [hentry]
    exact hhash

theorem fragmentSetComplete_eq_false :
    fragmentSetComplete value = .ok false ↔ FragmentSetOpen value := by
  simp only [fragmentSetComplete, FragmentSetOpen, asSet, bind_eq_ok, getAttrD_eq_ok, iterate_eq_ok,
    setOf_eq_ok, pure, Except.pure, Except.ok.injEq]
  constructor
  · rintro ⟨_, ⟨d, rfl, rfl⟩, received, ⟨_, hitems, hhash, rfl⟩, hopen⟩
    exact ⟨d, _, rfl, hitems, hhash, hopen⟩
  · rintro ⟨d, received, rfl, hitems, hhash, hopen⟩
    exact ⟨_, ⟨d, rfl, rfl⟩, received, ⟨_, hitems, hhash, rfl⟩, hopen⟩

theorem fragmentSetComplete_isOk :
    (∃ complete, fragmentSetComplete value = .ok complete) ↔ FragmentSetReadable value := by
  simp [-Bool.exists_bool, fragmentSetComplete, FragmentSetReadable, ← asSet_isOk, bind_eq_ok, pure,
    Except.pure]

theorem fragmentSets_isOk :
    (∃ complete, items.anyM fragmentSetComplete = .ok complete) ↔
      EachReached FragmentSetOpen FragmentSetReadable items := by
  rw [← throwsOnly_never, throwsOnly_anyM]
  exact eachReached_congr (fun _ => fragmentSetComplete_eq_false) fun _ =>
    throwsOnly_never.trans fragmentSetComplete_isOk

theorem fragmentComplete_isOk :
    (∃ complete, fragmentComplete case = .ok complete) ↔
      ∀ fragment, Dict.get case "fragment" = .obj fragment →
        IndexesReadable (Dict.getD case "receivedIndexes" (.arr []))
          (Dict.getD fragment "count" (.int 0)) := by
  unfold fragmentComplete
  cases Dict.get case "fragment" <;> simp [-Bool.exists_bool, allReceived_isOk]

theorem returns_fragmentCase :
    Returns (fragmentCase table value) () ↔ FragmentCaseReadable table value := by
  simp only [fragmentCase, Run.liftM_eq, returns_bind, returns_lift, asObject_eq_ok,
    FragmentCaseReadable]
  refine exists_congr fun d => and_congr_right fun _ => ?_
  split_ifs with hfragment horder hconflict hsets
  · simp [-Bool.exists_bool, oneFragmentCase, fragmentComplete_isOk]
  · simp only [sequenceOrderCase, Run.liftM_eq, returns_bind, returns_lift, iterate_eq_ok,
      rangeOf_eq_ok, returns_compare, and_true, Option.isSome_iff_exists]
    constructor
    · rintro ⟨order, horder, result, hresult, _, ⟨count, hcount, _⟩, _⟩
      exact ⟨⟨order, horder, reassemble_isOk.mp ⟨result, hresult⟩⟩, count, hcount⟩
    · rintro ⟨⟨order, horder, hreadable⟩, count, hcount⟩
      obtain ⟨result, hresult⟩ := reassemble_isOk.mpr hreadable
      exact ⟨order, horder, result, hresult, _, ⟨count, hcount, rfl⟩, (), trivial, (), trivial⟩
  · simp
  · simp [-Bool.exists_bool, fragmentSetsCase, fragmentSets_isOk]
  · simp [-Bool.exists_bool, receivedIndexesCase, allReceived_isOk]

end Readable

/-! ### What is not caught -/

/-- The text of a fixture is parsed without an exception that the handler lets through, and a
    payload with a fragment index has a participant. -/
def EntryHandled (lib : Library) (fixture : Dict) : Prop :=
  ∀ text, fixture.lookup "plaintextUtf8" = some (.str text) → ThrowsOnly Caught (lib.loads text) ∧
    ∀ payload fragment index participants, lib.loads text = .ok (.obj payload) →
      payload.lookup "fragment" = some (.obj fragment) → fragment.lookup "index" = some index →
      payload.lookup "participants" = some participants → ¬NoItems participants

/-- A fixture that is no object is skipped. -/
def FixtureHandled (lib : Library) (fixture : Json) : Prop :=
  ∀ d, fixture = .obj d → EntryHandled lib d

/-- In a case that gets to its fragment sets, the sets that are looked at are objects. -/
def FragmentCaseHandled (case : Json) : Prop :=
  ∀ d items, case = .obj d → Dict.has d "fragment" = false →
    Dict.has d "receivedSequenceOrder" = false → Dict.has d "conflictingIndex" = false →
    (Dict.get d "fragmentSets").items? = some items → EachReached FragmentSetOpen IsObject items

section Handled
variable {document case : Dict} {value : Json} {table : FragmentTable} {lib : Library}
  {cases : List Json}

theorem throwsOnly_fragmentEntry :
    ThrowsOnly Caught (fragmentEntry lib case) ↔ EntryHandled lib case := by
  simp only [fragmentEntry, throwsOnly_bind, throwsOnly_subscript, caught_fault, handled, or_true,
    subscript_eq_ok, throwsOnly_loadsValue, throwsOnly_member_caught, member_eq_ok, true_and,
    throwsOnly_itemAt_zero_caught, throwsOnly_hash, throwsOnly_pure, implies_true, and_true,
    EntryHandled]
  constructor
  · intro h text htext
    obtain ⟨hloads, hrest⟩ := h (.str text) htext
    refine ⟨hloads text rfl, fun payload fragment index participants hpayload hfragment hindex => ?_⟩
    intro hparticipants
    exact hrest (.obj payload) hpayload _ ⟨payload, rfl, hfragment⟩ index ⟨fragment, rfl, hindex⟩
      participants ⟨payload, rfl, hparticipants⟩
  · intro h value htext
    refine ⟨?_, fun loaded hloaded => ?_⟩
    · rintro text rfl
      exact (h text htext).1
    · obtain ⟨text, rfl, hpayload⟩ := loadsValue_eq_ok.mp hloaded
      rintro _ ⟨payload, rfl, hfragment⟩ index ⟨fragment, rfl, hindex⟩ participants ⟨_, ⟨⟩, hlookup⟩
      exact (h text htext).2 payload fragment index participants hpayload hfragment hindex hlookup

/-- HANDLED: reading the fragments raises only what is caught exactly when the fixtures that are
    looked at are handled. -/
theorem throwsOnly_mediaFragments :
    ThrowsOnly Caught (mediaFragments lib document) ↔
      ∃ crypto, directoryCrypto document = .obj crypto ∧
      EachReached (FixtureReadable lib) (FixtureHandled lib) (mediaFragmentFixtures crypto) := by
  unfold mediaFragments
  cases directoryCrypto document with
  | obj crypto =>
    simp only [Json.obj.injEq, exists_eq_left']
    refine throwsOnly_foldlM (fun table fixture => ?_) fun table fixture => ?_
    · cases fixture <;> simp [mediaFragment, FixtureHandled, throwsOnly_fragmentEntry]
    · rw [← throwsOnly_never]
      cases fixture <;> simp [mediaFragment, FixtureReadable, throwsOnly_never, fragmentEntry_eq_ok]
  | _ => simp

theorem fragmentSets_caught {items : List Json} :
    ThrowsOnly Caught (items.anyM fragmentSetComplete) ↔ EachReached FragmentSetOpen IsObject items :=
  throwsOnly_anyM.trans (eachReached_congr (fun _ => fragmentSetComplete_eq_false) fun item => by
    simp [fragmentSetComplete, throwsOnly_asSet, IsObject])

theorem allReceived_caught {received count : Json} :
    ThrowsOnly Caught (allReceived received count) := by
  simp [allReceived, throwsOnly_asSet]

theorem reassemble_caught {order : List Json} : ThrowsOnly Caught (reassemble table order) := by
  have hindex : ∀ sequence, ThrowsOnly Caught (fragmentIndexOf table sequence) := fun _ => by
    simp [fragmentIndexOf]
  have hsender : ∀ sequence, ThrowsOnly Caught (senderIdOf table sequence) := fun sequence => by
    unfold senderIdOf
    cases table.entry sequence <;> simp
  simp [reassemble, throwsOnly_mapM, hindex, hsender]

theorem raisesOnly_fragmentCase :
    RaisesOnly Caught (fragmentCase table value) ↔ FragmentCaseHandled value := by
  have hone : ∀ d, ThrowsOnly Caught (fragmentComplete d) := fun d => by
    unfold fragmentComplete
    cases Dict.get d "fragment" <;> simp [allReceived_caught]
  simp only [fragmentCase, FragmentCaseHandled, oneFragmentCase, sequenceOrderCase,
    receivedIndexesCase, fragmentSetsCase, Run.liftM_eq, raisesOnly_bind, raisesOnly_lift,
    raisesOnly_ite, raisesOnly_compare, returns_lift, returns_compare, throwsOnly_asObject,
    asObject_eq_ok, throwsOnly_iterate, iterate_eq_ok, throwsOnly_rangeOf, rangeOf_eq_ok, hone,
    allReceived_caught, reassemble_caught, fragmentSets_caught, caught_vectorValidation, caught_fault,
    handled, Bool.not_eq_true, or_true, implies_true, and_true, true_and]
  constructor
  · intro h d items hd hfragment horder hconflict hitems
    refine h d hd hfragment horder hconflict (Dict.has_of_get_ne_null ?_) items hitems
    intro hnull
    rw [hnull] at hitems
    cases hitems
  · intro h d hd hfragment horder hconflict _ items hitems
    exact h d items hd hfragment horder hconflict hitems

/-- HANDLED: so does the loop over the cases, exactly when the cases that are looked at are. -/
theorem raisesOnly_fragmentCases :
    RaisesOnly Caught (forM cases (fragmentCase table)) ↔
      EachReached (FragmentCaseReadable table) FragmentCaseHandled cases :=
  raisesOnly_forM_iff.trans
    (eachReached_congr (fun _ => returns_fragmentCase) fun _ => raisesOnly_fragmentCase)

theorem returns_fragmentCases :
    Returns (forM cases (fragmentCase table)) () ↔ ∀ case ∈ cases, FragmentCaseReadable table case :=
  returns_forM.trans (forall₂_congr fun _ _ => returns_fragmentCase)

end Handled

end IncomUdon.Lifecycle
