import Mathlib.Data.List.Sort
import IncomUdon.Lifecycle.PrivateControlLink.Snapshot

/-! Private Control Link: the channel IDs that a Relay state snapshot is compared with. The loop
    collects channels while it takes chunks, and compares what it has at every exit:

        set complete    sorted IDs of the set, once per chunk that lists them
        otherwise       sorted IDs of the chunks taken until then

    where a snapshot is to be exposed as a whole, each channel once, or not at all. EXACT: the
    compared list is what a snapshot exposes exactly when a complete set lists no channel twice and
    an incomplete one lists no channel. -/

namespace IncomUdon.Lifecycle
open IncomUdon.Python IncomUdon.Lib.ErrorLog

/-! ### Chunks -/

/-- The ID of a channel entry. -/
def channelId? (channel : Json) : Option ℕ :=
  match channel with
  | .obj entry =>
    match Dict.get entry "channel_id" with
    | .int id => id.toNat?
    | _ => none
  | _ => none

/-- The channels of the response with an index. -/
def chunkChannels (responses : Table Dict) (index : ℕ) : List Json :=
  match (responses.lookup index).map (Dict.get · "channels") with
  | some (.arr channels) => channels
  | _ => []

/-- Their IDs. -/
def chunkIds (responses : Table Dict) (index : ℕ) : List ℕ :=
  (chunkChannels responses index).filterMap channelId?

/-- Chunk indexes as the received list has them. -/
def rawIndexes (indexes : List ℕ) : List Json := indexes.map fun index : ℕ => Json.int index

/-- The received list begins with these chunks, and each of them is valid and new. -/
structure Takes (chunkCount : ℕ) (responses : Table Dict) (received : List Json) (taken : List ℕ) :
    Prop where
  starts : rawIndexes taken <+: received
  nodup : taken.Nodup
  below : ∀ index ∈ taken, index < chunkCount
  answered : ∀ index ∈ taken, index ∈ responses.keys

/-- They are the whole set. -/
def AllTaken (chunkCount : ℕ) (taken : List ℕ) : Prop := 0 < chunkCount ∧ taken.length = chunkCount

/-- The received list begins with the whole set. -/
def ReceivesAll (chunkCount : ℕ) (responses : Table Dict) (received : List Json) : Prop :=
  ∃ taken, Takes chunkCount responses received taken ∧ AllTaken chunkCount taken

section Takes
variable {chunkCount index : ℕ} {responses : Table Dict} {received : List Json} {taken other : List ℕ}

theorem rawIndexes_append (indexes indexes' : List ℕ) :
    rawIndexes (indexes ++ indexes') = rawIndexes indexes ++ rawIndexes indexes' := by
  simp [rawIndexes]

@[simp] theorem length_rawIndexes (indexes : List ℕ) :
    (rawIndexes indexes).length = indexes.length := by
  simp [rawIndexes]

theorem rawIndexes_prefix_iff : rawIndexes other <+: rawIndexes taken ↔ other <+: taken := by
  unfold rawIndexes
  exact List.prefix_map_iff_of_injective fun a b hab => by simpa using hab

/-- Of two beginnings, the one that is not longer begins the other. -/
theorem prefix_of_rawIndexes_prefix (hother : rawIndexes other <+: received)
    (htaken : rawIndexes taken <+: received) (hle : other.length ≤ taken.length) : other <+: taken :=
  rawIndexes_prefix_iff.mp (List.prefix_of_prefix_length_le hother htaken (by simpa using hle))

theorem takes_nil : Takes chunkCount responses received [] :=
  ⟨List.nil_prefix, List.nodup_nil, nofun, nofun⟩

theorem Takes.subset_range (h : Takes chunkCount responses received taken) :
    taken.Subperm (List.range chunkCount) :=
  h.nodup.subperm fun index hindex => List.mem_range.mpr (h.below index hindex)

theorem Takes.length_le (h : Takes chunkCount responses received taken) :
    taken.length ≤ chunkCount := by
  have hlength := h.subset_range.length_le
  rwa [List.length_range] at hlength

/-- As many chunks as there are, each once, are all of them. -/
theorem Takes.mem_iff (h : Takes chunkCount responses received taken)
    (hall : AllTaken chunkCount taken) : index ∈ taken ↔ index < chunkCount := by
  have hperm : taken.Perm (List.range chunkCount) :=
    h.subset_range.perm_of_length_le (by rw [List.length_range, hall.2])
  rw [hperm.mem_iff, List.mem_range]

/-- One more chunk can be taken exactly when it comes next and is valid and new. -/
theorem takes_snoc : Takes chunkCount responses received (taken ++ [index]) ↔
    Takes chunkCount responses received taken ∧ rawIndexes (taken ++ [index]) <+: received ∧
      index < chunkCount ∧ index ∉ taken ∧ index ∈ responses.keys := by
  constructor
  · rintro ⟨hstarts, hnodup, hbelow, hanswered⟩
    rw [List.forall_mem_append, List.forall_mem_singleton] at hbelow hanswered
    rw [← List.concat_eq_append, List.nodup_concat] at hnodup
    have hfirst : rawIndexes taken <+: received :=
      (List.prefix_append _ _).trans (rawIndexes_append taken [index] ▸ hstarts)
    exact ⟨⟨hfirst, hnodup.2, hbelow.1, hanswered.1⟩, hstarts, hbelow.2, hnodup.1, hanswered.2⟩
  · rintro ⟨h, hstarts, hbelow, hnew, hanswered⟩
    refine ⟨hstarts, ?_, ?_, ?_⟩
    · rw [← List.concat_eq_append, List.nodup_concat]
      exact ⟨hnew, h.nodup⟩
    · exact List.forall_mem_append.mpr ⟨h.below, List.forall_mem_singleton.mpr hbelow⟩
    · exact List.forall_mem_append.mpr ⟨h.answered, List.forall_mem_singleton.mpr hanswered⟩

/-- Every shorter beginning is valid too. -/
theorem Takes.of_prefix (h : Takes chunkCount responses received taken) (hother : other <+: taken) :
    Takes chunkCount responses received other where
  starts := (rawIndexes_prefix_iff.mpr hother).trans h.starts
  nodup := h.nodup.sublist hother.sublist
  below index hindex := h.below index (hother.subset hindex)
  answered index hindex := h.answered index (hother.subset hindex)

end Takes

/-! ### The loop -/

/-- The loop took these chunks, as many as it could, and has their channels. -/
structure Assembles (chunkCount : ℕ) (responses : Table Dict) (received : List Json) (taken : List ℕ)
    (assembly : Assembly) : Prop where
  takes : Takes chunkCount responses received taken
  longest : ∀ other, Takes chunkCount responses received other → other.length ≤ taken.length
  channels : assembly.channels = taken.flatMap (chunkChannels responses)
  complete : assembly.result = .applyComplete ↔ AllTaken chunkCount taken

section Loop
variable {name : Msg} {chunkCount index : ℕ} {responses : Table Dict} {received rest : List Json}
  {taken : List ℕ} {assembly : Assembly} {raw : Json}

/-- The loop after these chunks were taken. -/
def receiveRest (name : Msg) (chunkCount : ℕ) (responses : Table Dict) (taken : List ℕ)
    (rest : List Json) : Py Assembly :=
  receiveChunks name chunkCount responses taken.reverse (taken.flatMap (chunkChannels responses))
    taken.length rest

/-- STEP: the loop stops at an index that is not valid and new, stops after the last chunk, or goes on
    with one chunk more. -/
theorem receiveRest_cons (h : receiveRest name chunkCount responses taken (raw :: rest) = .ok assembly) :
    ∃ index : ℕ, raw = .int index ∧
      ((index ≥ chunkCount ∨ index ∈ taken ∨ index ∉ responses.keys) ∧
          assembly = ⟨none, .rejectInvalid, taken.flatMap (chunkChannels responses)⟩ ∨
        (index < chunkCount ∧ index ∉ taken ∧ index ∈ responses.keys) ∧
          (taken.length + 1 = chunkCount ∧ assembly = ⟨some (taken.length + 1), .applyComplete,
              (taken ++ [index]).flatMap (chunkChannels responses)⟩ ∨
            taken.length + 1 ≠ chunkCount ∧
              receiveRest name chunkCount responses (taken ++ [index]) rest = .ok assembly)) := by
  rw [receiveRest, receiveChunks, bind_eq_ok] at h
  obtain ⟨index, hraw, h⟩ := h
  rw [integer_eq_ok] at hraw
  refine ⟨index, hraw.1, ?_⟩
  by_cases hbad : index ≥ chunkCount ∨ index ∈ taken.reverse ∨ index ∉ responses.keys
  · rw [if_pos hbad] at h
    cases h
    rw [List.mem_reverse] at hbad
    exact .inl ⟨hbad, rfl⟩
  · simp only [if_neg hbad, bind_eq_ok, Table.get_eq_ok, asArray_eq_ok] at h
    obtain ⟨response, hresponse, chunk, hchunk, h⟩ := h
    have hchannels : taken.flatMap (chunkChannels responses) ++ chunk
        = (taken ++ [index]).flatMap (chunkChannels responses) := by
      simp [chunkChannels, hresponse, hchunk]
    rw [hchannels, List.length_cons, List.length_reverse] at h
    simp only [not_or, not_le, not_not, List.mem_reverse, ge_iff_le] at hbad
    refine .inr ⟨hbad, ?_⟩
    by_cases hlast : taken.length + 1 = chunkCount
    · rw [if_pos hlast] at h
      cases h
      exact .inl ⟨hlast, rfl⟩
    · rw [if_neg hlast] at h
      exact .inr ⟨hlast, by simpa [receiveRest] using h⟩

/-- Nothing more is taken when the next index is not valid and new. -/
theorem longest_of_not_snoc (hnext : rawIndexes (taken ++ [index]) <+: received)
    (hbad : index ≥ chunkCount ∨ index ∈ taken ∨ index ∉ responses.keys)
    (other : List ℕ) (hother : Takes chunkCount responses received other) :
    other.length ≤ taken.length := by
  by_contra hlonger
  have hprefix : taken ++ [index] <+: other :=
    prefix_of_rawIndexes_prefix hnext hother.starts (by simp; omega)
  obtain ⟨-, -, hbelow, hnew, hanswered⟩ := takes_snoc.mp (hother.of_prefix hprefix)
  rcases hbad with h | h | h
  · omega
  · exact hnew h
  · exact h hanswered

/-- RUN: what the loop has when it stops, from the chunks taken before. -/
theorem assembles_of_receiveRest (h : Takes chunkCount responses received taken)
    (hopen : ¬AllTaken chunkCount taken) (hreceived : received = rawIndexes taken ++ rest)
    (hrun : receiveRest name chunkCount responses taken rest = .ok assembly) :
    ∃ all, Assembles chunkCount responses received all assembly := by
  induction rest generalizing taken with
  | nil =>
    cases hrun
    refine ⟨taken, h, fun other hother => ?_, rfl, by simp [hopen]⟩
    have hle := hother.starts.length_le
    rwa [hreceived, List.append_nil, length_rawIndexes, length_rawIndexes] at hle
  | cons raw rest ih =>
    obtain ⟨index, rfl, hstep⟩ := receiveRest_cons hrun
    have hnext : received = rawIndexes (taken ++ [index]) ++ rest := by
      rw [hreceived, rawIndexes_append, List.append_assoc]; rfl
    have hstarts : rawIndexes (taken ++ [index]) <+: received := hnext ▸ List.prefix_append _ _
    rcases hstep with ⟨hbad, rfl⟩ | ⟨hgood, hstep⟩
    · exact ⟨taken, h, longest_of_not_snoc hstarts hbad, rfl, by simp [hopen]⟩
    have hsnoc := takes_snoc.mpr ⟨h, hstarts, hgood⟩
    rcases hstep with ⟨hlast, rfl⟩ | ⟨hmore, hrest⟩
    · have hall : AllTaken chunkCount (taken ++ [index]) := ⟨by omega, by simpa using hlast⟩
      exact ⟨taken ++ [index], hsnoc, fun other hother => hall.2 ▸ hother.length_le, rfl,
        by simp [hall]⟩
    · refine ih hsnoc (fun hall => hmore ?_) hnext hrest
      simpa using hall.2

/-- The loop takes as many chunks as it can and has their channels. -/
theorem assembles_of_receiveChunks
    (hrun : receiveChunks name chunkCount responses [] [] 0 received = .ok assembly) :
    ∃ taken, Assembles chunkCount responses received taken assembly := by
  have hopen : ¬AllTaken chunkCount [] := fun ⟨hpos, hzero⟩ => hpos.ne hzero
  exact assembles_of_receiveRest takes_nil hopen rfl hrun

end Loop

/-! ### The compared list -/

section Projection
variable {name : Msg} {chunkCount : ℕ} {responses : Table Dict} {received channels : List Json}
  {taken ids : List ℕ} {assembly : Assembly}

/-- The IDs that are sorted are those of the channels. -/
theorem eq_of_channelIds (h : channelIds name channels = .ok ids) :
    ids = channels.filterMap channelId? := by
  rw [channelIds, mapM_eq_ok] at h
  induction h with
  | nil => rfl
  | @cons channel id channels ids hid _ ih =>
    simp only [bind_eq_ok, asObject_eq_ok, integer_eq_ok] at hid
    obtain ⟨entry, rfl, hentry, -⟩ := hid
    have hsome : channelId? (.obj entry) = some id := by
      simp only [channelId?, hentry]
      rfl
    rw [List.filterMap_cons_some hsome, ← ih]

/-- What a snapshot exposes: the channels of the whole set in order, each once, and nothing unless
    it is complete. -/
def Exposes (chunkCount : ℕ) (responses : Table Dict) : SnapshotResult → List ℕ → Prop
  | .applyComplete, ids =>
    ids.SortedLT ∧ ∀ id, id ∈ ids ↔ ∃ index < chunkCount, id ∈ chunkIds responses index
  | .discardIncomplete, ids => ids = []
  | .rejectInvalid, ids => ids = []

/-- The chunks that can be taken list no channel twice when the set is complete, and none when it is
    not. -/
def ListsOnce (chunkCount : ℕ) (responses : Table Dict) (received : List Json) : Prop :=
  ∀ taken, Takes chunkCount responses received taken →
    (ReceivesAll chunkCount responses received → (taken.flatMap (chunkIds responses)).Nodup) ∧
      (¬ReceivesAll chunkCount responses received → taken.flatMap (chunkIds responses) = [])

/-- A sorted list is strictly sorted exactly when nothing is repeated. -/
theorem sortedLT_mergeSort : ids.mergeSort.SortedLT ↔ ids.Nodup := by
  have hperm : ids.mergeSort.Perm ids := List.mergeSort_perm ids _
  rw [List.sortedLT_iff_nodup_and_sortedLE, and_iff_left List.sortedLE_mergeSort, hperm.nodup_iff]

theorem Assembles.allTaken_iff (h : Assembles chunkCount responses received taken assembly) :
    AllTaken chunkCount taken ↔ ReceivesAll chunkCount responses received := by
  constructor
  · exact fun hall => ⟨taken, h.takes, hall⟩
  · rintro ⟨all, hall, hpos, hlength⟩
    exact ⟨hpos, le_antisymm h.takes.length_le (hlength ▸ h.longest all hall)⟩

/-- The condition need be looked at for the longest beginning only. -/
theorem Assembles.listsOnce_iff (h : Assembles chunkCount responses received taken assembly) :
    ListsOnce chunkCount responses received ↔
      (ReceivesAll chunkCount responses received → (taken.flatMap (chunkIds responses)).Nodup) ∧
        (¬ReceivesAll chunkCount responses received → taken.flatMap (chunkIds responses) = []) := by
  refine ⟨fun honce => honce taken h.takes, fun ⟨hnodup, hnone⟩ other hother => ?_⟩
  have hprefix : other <+: taken :=
    prefix_of_rawIndexes_prefix hother.starts h.takes.starts (h.longest other hother)
  obtain ⟨more, rfl⟩ := hprefix
  rw [List.flatMap_append] at hnodup hnone
  refine ⟨fun hall => (hnodup hall).of_append_left, fun hpartial => ?_⟩
  exact (List.append_eq_nil_iff.mp (hnone hpartial)).1

/-- EXACT: the list that is compared is what a snapshot exposes exactly when no channel is listed
    twice in a complete set and none at all in an incomplete one. -/
theorem snapshotProjection_exact
    (hrun : receiveChunks name chunkCount responses [] [] 0 received = .ok assembly)
    (hids : channelIds name assembly.channels = .ok ids) :
    Exposes chunkCount responses assembly.result ids.mergeSort ↔
      ListsOnce chunkCount responses received := by
  obtain ⟨taken, h⟩ := assembles_of_receiveChunks hrun
  have htaken : ids = taken.flatMap (chunkIds responses) := by
    rw [eq_of_channelIds hids, h.channels, List.filterMap_flatMap]
    rfl
  have hempty : ids.mergeSort = [] ↔ ids = [] := by
    rw [← List.length_eq_zero_iff, List.length_mergeSort, List.length_eq_zero_iff]
  rw [h.listsOnce_iff, ← htaken, ← h.allTaken_iff]
  by_cases hall : AllTaken chunkCount taken
  · have hmem : ∀ id, id ∈ ids.mergeSort ↔ ∃ index < chunkCount, id ∈ chunkIds responses index := by
      intro id
      simp only [List.mem_mergeSort, htaken, List.mem_flatMap, h.takes.mem_iff hall]
    simp only [h.complete.mpr hall, Exposes, sortedLT_mergeSort, hmem, hall, implies_true, and_true,
      true_imp_iff, not_true_eq_false, false_imp_iff]
  · have hresult : Exposes chunkCount responses assembly.result ids.mergeSort ↔
        ids.mergeSort = [] := by
      have hne : assembly.result ≠ .applyComplete := fun happly => hall (h.complete.mp happly)
      cases hcase : assembly.result with
      | applyComplete => exact absurd hcase hne
      | discardIncomplete | rejectInvalid => rfl
    rw [hresult, hempty]
    simp [hall]

/-- FIXTURE: a case reports nothing exactly when it expects the count, the verdict and the IDs that
    the loop ends with. -/
theorem clean_stateSnapshotCase {messages : List Json} {case : Dict} {index : ℕ}
    {requestId snapshotId : String}
    (hname : nameLabel case ["Private Control Link state snapshot case ", .val (.int index)] = name)
    (hcount : Dict.get case "chunk_count" = .int chunkCount) (hle : chunkCount ≤ 64)
    (hrequest : Dict.get case "request_message_id" = .str requestId)
    (hsnapshot : Dict.get case "snapshot_id" = .str snapshotId)
    (hreceived : Dict.get case "received_chunk_indexes" = .arr received)
    (hresponses : Clean ((snapshotResponses messages requestId snapshotId).foldlM
      (collectResponse name chunkCount) []) responses)
    (hrun : receiveChunks name chunkCount responses [] [] 0 received = .ok assembly)
    (hids : channelIds name assembly.channels = .ok ids) :
    Clean (stateSnapshotCase messages (.obj case) index) () ↔
      (Json.ofNat? assembly.completeAfter).eq
        (Dict.get case "expected_apply_after_received_count") = true ∧
      (Json.str assembly.result.text).eq (Dict.get case "expected_result") = true ∧
      (Json.ints ids.mergeSort).eq (Dict.get case "expected_channel_ids") = true := by
  simp [stateSnapshotCase, hname, hcount, hle, hrequest, hsnapshot, hreceived,
    hresponses.iff_eq, hrun, hids]

end Projection

/-- Channel entries with these IDs. -/
def channelEntries (ids : List ℤ) : List Json := ids.map fun id => .obj [("channel_id", .int id)]

/-- A chunk of a snapshot of two. -/
def chunkResponse (index : ℤ) (channels : List ℤ) : Dict :=
  [("type", .str "relay_state_snapshot"), ("in_reply_to", .str "request"), ("snapshot_id", .str "view"),
    ("chunk_count", .int 2), ("chunk_index", .int index),
    ("channels", .arr (channelEntries channels))]

/-- The two chunks by index. -/
def chunkPair (first second : List ℤ) : Table Dict :=
  [(0, chunkResponse 0 first), (1, chunkResponse 1 second)]

/-- Two chunks with a channel each, received in the other order. -/
theorem snapshotProjection_exact_two : ListsOnce 2 (chunkPair [100] [101]) (rawIndexes [1, 0]) := by
  have hrun : receiveChunks [] 2 (chunkPair [100] [101]) [] [] 0 (rawIndexes [1, 0])
      = .ok ⟨some 2, .applyComplete, channelEntries [101, 100]⟩ := rfl
  have hids : channelIds [] (channelEntries [101, 100]) = .ok [101, 100] := rfl
  refine (snapshotProjection_exact hrun hids).mp ⟨sortedLT_mergeSort.mpr (by decide), fun id => ?_⟩
  have hfirst : chunkIds (chunkPair [100] [101]) 0 = [100] := rfl
  have hsecond : chunkIds (chunkPair [100] [101]) 1 = [101] := rfl
  rw [List.mem_mergeSort, Nat.exists_lt_succ_right, Nat.exists_lt_succ_right, hfirst, hsecond]
  simp [or_comm]

/-- A case about a channel that is split over the two chunks. -/
def splitCase (received : List ℕ) (count : Json) (result : SnapshotResult) (ids : List ℕ) : Dict :=
  [("request_message_id", .str "request"), ("snapshot_id", .str "view"), ("chunk_count", .int 2),
    ("received_chunk_indexes", .arr (rawIndexes received)),
    ("expected_apply_after_received_count", count), ("expected_result", .str result.text),
    ("expected_channel_ids", Json.ints ids)]

/-- Its responses. -/
def splitMessages : List Json := [.obj (chunkResponse 0 [100]), .obj (chunkResponse 1 [100, 101])]

/-- Of the incomplete snapshot a channel is expected, and of the complete one a channel twice. -/
theorem splitSnapshot_leaks :
    (Clean (stateSnapshotCase splitMessages
        (.obj (splitCase [0] .null .discardIncomplete [100])) 0) () ∧
      ¬Exposes 2 (chunkPair [100] [100, 101]) .discardIncomplete [100]) ∧
    Clean (stateSnapshotCase splitMessages
        (.obj (splitCase [1, 0] (.int 2) .applyComplete [100, 100, 101])) 0) () ∧
      ¬Exposes 2 (chunkPair [100] [100, 101]) .applyComplete [100, 100, 101] := by
  let name : Msg := ["Private Control Link state snapshot case ", .val (.int (0 : ℕ))]
  have hname : ∀ received count result ids,
      nameLabel (splitCase received count result ids) name = name := fun _ _ _ _ => rfl
  have hresponses : Clean ((snapshotResponses splitMessages "request" "view").foldlM
      (collectResponse name 2) []) (chunkPair [100] [100, 101]) := rfl
  have hpartial : receiveChunks name 2 (chunkPair [100] [100, 101]) [] [] 0 (rawIndexes [0])
      = .ok ⟨none, .discardIncomplete, channelEntries [100]⟩ := rfl
  have hpartialIds : channelIds name (channelEntries [100]) = .ok [100] := rfl
  have hall : receiveChunks name 2 (chunkPair [100] [100, 101]) [] [] 0 (rawIndexes [1, 0])
      = .ok ⟨some 2, .applyComplete, channelEntries [100, 101, 100]⟩ := rfl
  have hallIds : channelIds name (channelEntries [100, 101, 100]) = .ok [100, 101, 100] := rfl
  have hsorted : [100, 101, 100].mergeSort = [100, 100, 101] := by
    simp [List.mergeSort, List.MergeSort.Internal.splitInTwo]
  refine ⟨⟨?_, nofun⟩, ?_, fun h => absurd h.1.nodup (by decide)⟩
  · rw [clean_stateSnapshotCase (hname _ _ _ _) rfl (by decide) rfl rfl rfl hresponses hpartial
      hpartialIds, List.mergeSort_singleton]
    exact ⟨rfl, rfl, rfl⟩
  · rw [clean_stateSnapshotCase (hname _ _ _ _) rfl (by decide) rfl rfl rfl hresponses hall hallIds,
      hsorted]
    exact ⟨rfl, rfl, rfl⟩

end IncomUdon.Lifecycle
