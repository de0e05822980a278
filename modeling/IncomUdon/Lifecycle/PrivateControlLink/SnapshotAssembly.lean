import IncomUdon.Lifecycle.PrivateControlLink.SnapshotProjection

/-! Private Control Link: how the assembly of a chunked snapshot ends. The loop counts what it
    received, and the set is complete with as many valid and new indexes as there are chunks:

        chunkCount valid and new indexes            apply, after chunkCount received
        an index invalid or repeated before that    reject
        the end of the list before that             discard

    EXACT: these are the three verdicts, and the order of a complete set does not show in the sorted
    channel IDs. -/

namespace IncomUdon.Lifecycle
open IncomUdon.Python IncomUdon.Lib.ErrorLog

/-- The first `k` indexes are the whole set: distinct, valid and answered, and as many as chunks. -/
structure CompleteAfter (chunkCount : ℕ) (responses : Table Dict) (received : List ℕ) (k : ℕ) :
    Prop where
  arrived : k ≤ received.length
  distinct : (received.take k).Nodup
  below : ∀ index ∈ received.take k, index < chunkCount
  answered : ∀ index ∈ received.take k, index ∈ responses.keys
  count : k = chunkCount

/-- The index received after `j` others is repeated, past the last chunk or without a response. -/
def InvalidAt (chunkCount : ℕ) (responses : Table Dict) (received : List ℕ) (j : ℕ) : Prop :=
  ∃ index, received[j]? = some index ∧
    (index ≥ chunkCount ∨ index ∈ received.take j ∨ index ∉ responses.keys)

/-- Such an index comes before the set is complete. -/
def InvalidFirst (chunkCount : ℕ) (responses : Table Dict) (received : List ℕ) : Prop :=
  ∃ j, InvalidAt chunkCount responses received j ∧
    ∀ k ≤ j, ¬CompleteAfter chunkCount responses received k

/-- Every response lists channels. -/
def ChannelsListed (responses : Table Dict) : Prop :=
  ∀ index response, responses.lookup index = some response →
    ∃ channels, Dict.get response "channels" = .arr channels

/-- The ways the loop ends, with what was taken until then. -/
inductive Ends (chunkCount : ℕ) (responses : Table Dict) (received : List ℕ) : Assembly → Prop where
  | applied (taken : List ℕ) :
      Takes chunkCount responses (rawIndexes received) taken → AllTaken chunkCount taken →
      Ends chunkCount responses received
        ⟨some chunkCount, .applyComplete, taken.flatMap (chunkChannels responses)⟩
  | rejected (taken : List ℕ) (index : ℕ) :
      Takes chunkCount responses (rawIndexes received) taken → taken.length < chunkCount →
      taken ++ [index] <+: received →
      index ≥ chunkCount ∨ index ∈ taken ∨ index ∉ responses.keys →
      Ends chunkCount responses received
        ⟨none, .rejectInvalid, taken.flatMap (chunkChannels responses)⟩
  | discarded :
      Takes chunkCount responses (rawIndexes received) received → received.length < chunkCount →
      Ends chunkCount responses received
        ⟨none, .discardIncomplete, received.flatMap (chunkChannels responses)⟩

section Loop
variable {name : Msg} {chunkCount index j k : ℕ} {responses : Table Dict}
  {taken rest received : List ℕ} {assembly : Assembly}

/-- STEP: what the loop does with an index that it can read. -/
theorem receiveRest_int (hindex : index ≤ 63) (hchannels : ChannelsListed responses)
    {raws : List Json} :
    receiveRest name chunkCount responses taken (.int index :: raws) =
      if index ≥ chunkCount ∨ index ∈ taken ∨ index ∉ responses.keys then
        .ok ⟨none, .rejectInvalid, taken.flatMap (chunkChannels responses)⟩
      else if taken.length + 1 = chunkCount then
        .ok ⟨some chunkCount, .applyComplete, (taken ++ [index]).flatMap (chunkChannels responses)⟩
      else receiveRest name chunkCount responses (taken ++ [index]) raws := by
  have hread : integer (.int index) (name.add [" received chunk index"]) 63 = .ok index :=
    integer_eq_ok.mpr ⟨rfl, hindex⟩
  rw [receiveRest, receiveChunks, hread, ok_bind]
  simp only [List.mem_reverse, List.length_cons, List.length_reverse]
  by_cases hbad : index ≥ chunkCount ∨ index ∈ taken ∨ index ∉ responses.keys
  · rw [if_pos hbad, if_pos hbad]
    rfl
  · rw [if_neg hbad, if_neg hbad]
    simp only [not_or, not_not] at hbad
    obtain ⟨response, hresponse⟩ := Option.isSome_iff_exists.mp (Table.lookup_isSome.mpr hbad.2.2)
    obtain ⟨channels, hlisted⟩ := hchannels index response hresponse
    have hflat : taken.flatMap (chunkChannels responses) ++ channels
        = (taken ++ [index]).flatMap (chunkChannels responses) := by
      simp [chunkChannels, hresponse, hlisted]
    rw [Table.get_eq_ok.mpr hresponse, ok_bind, asArray_eq_ok.mpr hlisted, ok_bind, hflat]
    by_cases hlast : taken.length + 1 = chunkCount
    · rw [if_pos hlast, if_pos hlast, hlast]
      rfl
    · rw [if_neg hlast, if_neg hlast, receiveRest, List.reverse_append, List.length_append]
      rfl

/-- RUN: from the chunks taken before, the loop ends in one of the three ways. -/
theorem ends_of_receiveRest (hchannels : ChannelsListed responses)
    (hindexes : ∀ index ∈ rest, index ≤ 63)
    (htaken : Takes chunkCount responses (rawIndexes received) taken) (hopen : taken.length < chunkCount)
    (hreceived : received = taken ++ rest) :
    ∃ assembly, receiveRest name chunkCount responses taken (rawIndexes rest) = .ok assembly ∧
      Ends chunkCount responses received assembly := by
  induction rest generalizing taken with
  | nil =>
    rw [List.append_nil] at hreceived
    subst hreceived
    exact ⟨_, rfl, .discarded htaken hopen⟩
  | cons index rest ih =>
    rw [List.forall_mem_cons] at hindexes
    have hnext : received = (taken ++ [index]) ++ rest := by rw [hreceived, List.append_assoc]; rfl
    have hstarts : taken ++ [index] <+: received := ⟨rest, hnext.symm⟩
    have hraws : rawIndexes (index :: rest) = .int index :: rawIndexes rest := rfl
    rw [hraws, receiveRest_int hindexes.1 hchannels]
    split_ifs with hbad hlast
    · exact ⟨_, rfl, .rejected taken index htaken hopen hstarts hbad⟩
    all_goals
      simp only [not_or, not_le, not_not, ge_iff_le] at hbad
      have hsnoc : Takes chunkCount responses (rawIndexes received) (taken ++ [index]) :=
        takes_snoc.mpr ⟨htaken, rawIndexes_prefix_iff.mpr hstarts, hbad⟩
    · exact ⟨_, rfl, .applied _ hsnoc ⟨by omega, by simpa using hlast⟩⟩
    · exact ih hindexes.2 hsnoc (by rw [List.length_append, List.length_singleton]; omega) hnext

theorem ends_of_receiveChunks (hpos : 0 < chunkCount) (hchannels : ChannelsListed responses)
    (hindexes : ∀ index ∈ received, index ≤ 63) :
    ∃ assembly, receiveChunks name chunkCount responses [] [] 0 (rawIndexes received) = .ok assembly ∧
      Ends chunkCount responses received assembly :=
  ends_of_receiveRest hchannels hindexes takes_nil hpos rfl

end Loop

section Verdict
variable {chunkCount j k : ℕ} {responses : Table Dict} {taken received : List ℕ} {assembly : Assembly}

theorem takes_take_iff : Takes chunkCount responses (rawIndexes received) (received.take k) ↔
    (received.take k).Nodup ∧ (∀ index ∈ received.take k, index < chunkCount) ∧
      ∀ index ∈ received.take k, index ∈ responses.keys :=
  ⟨fun h => ⟨h.nodup, h.below, h.answered⟩,
    fun h => ⟨rawIndexes_prefix_iff.mpr (List.take_prefix k received), h.1, h.2.1, h.2.2⟩⟩

theorem CompleteAfter.takes (h : CompleteAfter chunkCount responses received k) :
    Takes chunkCount responses (rawIndexes received) (received.take k) :=
  takes_take_iff.mpr ⟨h.distinct, h.below, h.answered⟩

theorem CompleteAfter.length_take (h : CompleteAfter chunkCount responses received k) :
    (received.take k).length = chunkCount := by
  rw [List.length_take, Nat.min_eq_left h.arrived, h.count]

/-- The taken chunks are the first indexes. -/
theorem Takes.eq_take (h : Takes chunkCount responses (rawIndexes received) taken) :
    taken = received.take taken.length :=
  List.prefix_iff_eq_take.mp (rawIndexes_prefix_iff.mp h.starts)

theorem Takes.completeAfter (h : Takes chunkCount responses (rawIndexes received) taken)
    (hall : AllTaken chunkCount taken) : CompleteAfter chunkCount responses received chunkCount := by
  have htake : taken = received.take chunkCount := hall.2 ▸ h.eq_take
  have hle := (rawIndexes_prefix_iff.mp h.starts).length_le
  rw [htake] at h
  exact ⟨hall.2 ▸ hle, h.nodup, h.below, h.answered, rfl⟩

/-- No index among the taken ones is invalid. -/
theorem Takes.not_invalidAt (h : Takes chunkCount responses (rawIndexes received) taken)
    (hj : j < taken.length) : ¬InvalidAt chunkCount responses received j := by
  rintro ⟨index, hindex, hbad⟩
  obtain ⟨rest, rfl⟩ := rawIndexes_prefix_iff.mp h.starts
  rw [List.getElem?_append_left hj] at hindex
  rw [List.take_append_of_le_length hj.le] at hbad
  have hprefix : taken.take j ++ [index] <+: taken := by
    rw [← Option.toList_some, ← hindex, ← List.take_add_one]
    exact List.take_prefix _ _
  obtain ⟨-, -, hbelow, hnew, hanswered⟩ := takes_snoc.mp (h.of_prefix hprefix)
  rcases hbad with hpast | hrepeated | hunanswered
  · omega
  · exact hnew hrepeated
  · exact hunanswered hanswered

/-- An index that cannot be taken keeps the set from ever being complete, and is invalid. -/
theorem invalidFirst_of_rejected {index : ℕ}
    (hopen : taken.length < chunkCount) (hnext : taken ++ [index] <+: received)
    (hbad : index ≥ chunkCount ∨ index ∈ taken ∨ index ∉ responses.keys) :
    (∀ k, ¬CompleteAfter chunkCount responses received k) ∧
      InvalidFirst chunkCount responses received := by
  have hnever : ∀ k, ¬CompleteAfter chunkCount responses received k := fun k hcomplete => by
    have hle := longest_of_not_snoc (rawIndexes_prefix_iff.mpr hnext) hbad _ hcomplete.takes
    rw [hcomplete.length_take] at hle
    omega
  obtain ⟨rest, rfl⟩ := hnext
  refine ⟨hnever, taken.length, ⟨index, ?_, ?_⟩, fun k _ => hnever k⟩
  · simp
  · simpa using hbad

/-- EXACT: each of the three endings is what it should be. -/
theorem Ends.verdict (h : Ends chunkCount responses received assembly) :
    (∀ k, assembly.result = .applyComplete ∧ assembly.completeAfter = some k ↔
      CompleteAfter chunkCount responses received k) ∧
    (assembly.result = .rejectInvalid ↔ InvalidFirst chunkCount responses received) ∧
    (assembly.result = .discardIncomplete ↔
      (∀ k, ¬CompleteAfter chunkCount responses received k) ∧
        ¬InvalidFirst chunkCount responses received) := by
  cases h with
  | applied taken htakes hall =>
    have hcomplete := htakes.completeAfter hall
    have hfirst : ¬InvalidFirst chunkCount responses received := fun ⟨j, hinvalid, hbefore⟩ => by
      have hj : j < taken.length := hall.2 ▸ not_le.mp fun hle => hbefore _ hle hcomplete
      exact htakes.not_invalidAt hj hinvalid
    refine ⟨fun k => ⟨?_, fun hk => ?_⟩, by simp [hfirst], ?_⟩
    · rintro ⟨-, ⟨⟩⟩
      exact hcomplete
    · simp [hk.count]
    · simp only [reduceCtorEq, false_iff, not_and]
      exact fun hnever => absurd hcomplete (hnever _)
  | rejected taken index _ hopen hnext hbad =>
    obtain ⟨hnever, hfirst⟩ := invalidFirst_of_rejected hopen hnext hbad
    simp [hnever, hfirst]
  | discarded htakes hopen =>
    have hnever : ∀ k, ¬CompleteAfter chunkCount responses received k := fun k hk => by
      have hle := hk.arrived
      rw [hk.count] at hle
      omega
    have hfirst : ¬InvalidFirst chunkCount responses received := fun ⟨j, hinvalid, _⟩ => by
      have ⟨index, hindex, _⟩ := hinvalid
      exact htakes.not_invalidAt (List.getElem?_eq_some_iff.mp hindex).1 hinvalid
    simp [hnever, hfirst]

/-- A complete set has been taken. -/
theorem Ends.channels_of_complete (h : Ends chunkCount responses received assembly)
    (hk : CompleteAfter chunkCount responses received k) :
    assembly.channels.Perm ((List.range chunkCount).flatMap (chunkChannels responses)) := by
  have happlied := ((h.verdict.1 k).mpr hk).1
  cases h with
  | applied taken htakes hall =>
    have hperm : taken.Perm (List.range chunkCount) :=
      htakes.subset_range.perm_of_length_le (by rw [List.length_range, hall.2])
    exact hperm.flatMap_right _
  | rejected => cases happlied
  | discarded => cases happlied

end Verdict

/-- Channels in another order have the same sorted IDs. -/
theorem channelIds_perm {name : Msg} {channels channels' : List Json} {ids : List ℕ}
    (hperm : channels.Perm channels') (hids : channelIds name channels = .ok ids) :
    ∃ ids', channelIds name channels' = .ok ids' ∧ ids'.mergeSort = ids.mergeSort := by
  obtain ⟨ids', hids'⟩ : ∃ ids', channelIds name channels' = .ok ids' :=
    mapM_isOk.mpr fun channel hchannel =>
      mapM_isOk.mp ⟨ids, hids⟩ channel (hperm.mem_iff.mpr hchannel)
  refine ⟨ids', hids', ?_⟩
  have hsame : ids'.mergeSort.Perm ids.mergeSort := by
    refine (List.mergeSort_perm ids' _).trans (.trans ?_ (List.mergeSort_perm ids _).symm)
    rw [eq_of_channelIds hids, eq_of_channelIds hids']
    exact hperm.symm.filterMap channelId?
  exact hsame.eq_of_sortedLE List.sortedLE_mergeSort List.sortedLE_mergeSort

/-- EXACT: the loop applies after `k` indexes exactly when these are the complete set, rejects exactly
    when an invalid index comes before that, and discards otherwise; and two lists that begin with the
    complete set, in whatever order, have the same sorted channel IDs. -/
theorem snapshotAssembly_exact {name : Msg} {chunkCount : ℕ} {responses : Table Dict}
    {received : List ℕ} (hpos : 0 < chunkCount) (hchannels : ChannelsListed responses)
    (hindexes : ∀ index ∈ received, index ≤ 63) :
    ∃ assembly, receiveChunks name chunkCount responses [] [] 0 (rawIndexes received) = .ok assembly ∧
      (∀ k, assembly.result = .applyComplete ∧ assembly.completeAfter = some k ↔
        CompleteAfter chunkCount responses received k) ∧
      (assembly.result = .rejectInvalid ↔ InvalidFirst chunkCount responses received) ∧
      (assembly.result = .discardIncomplete ↔
        (∀ k, ¬CompleteAfter chunkCount responses received k) ∧
          ¬InvalidFirst chunkCount responses received) ∧
      ∀ received' assembly' k k' ids, (∀ index ∈ received', index ≤ 63) →
        CompleteAfter chunkCount responses received k →
        CompleteAfter chunkCount responses received' k' →
        receiveChunks name chunkCount responses [] [] 0 (rawIndexes received') = .ok assembly' →
        channelIds name assembly.channels = .ok ids →
        ∃ ids', channelIds name assembly'.channels = .ok ids' ∧ ids'.mergeSort = ids.mergeSort := by
  have hreceive : ∀ received : List ℕ, (∀ index ∈ received, index ≤ 63) → ∃ assembly,
      receiveChunks name chunkCount responses [] [] 0 (rawIndexes received) = .ok assembly ∧
        Ends chunkCount responses received assembly := fun _ => ends_of_receiveChunks hpos hchannels
  obtain ⟨assembly, hrun, hends⟩ := hreceive received hindexes
  obtain ⟨happly, hreject, hdiscard⟩ := hends.verdict
  refine ⟨assembly, hrun, happly, hreject, hdiscard, ?_⟩
  intro received' assembly' k k' ids hindexes' hk hk' hrun' hids
  obtain ⟨_, hrun'', hends'⟩ := hreceive received' hindexes'
  cases hrun'.symm.trans hrun''
  exact channelIds_perm ((hends.channels_of_complete hk).trans
    (hends'.channels_of_complete hk').symm) hids

/-- Two chunks, the second one first: the snapshot is applied after both. -/
theorem snapshotAssembly_exact_two :
    ∃ assembly, receiveChunks [] 2 (chunkPair [100] [101]) [] [] 0 (rawIndexes [1, 0]) = .ok assembly ∧
      (assembly.result = .applyComplete ∧ assembly.completeAfter = some 2 ↔
        CompleteAfter 2 (chunkPair [100] [101]) [1, 0] 2) := by
  have hchannels : ChannelsListed (chunkPair [100] [101]) := by
    intro index response hresponse
    have hmem := mem_of_lookup hresponse
    simp only [chunkPair, List.mem_cons, Prod.mk.injEq, List.not_mem_nil, or_false] at hmem
    rcases hmem with ⟨-, rfl⟩ | ⟨-, rfl⟩ <;> exact ⟨_, rfl⟩
  obtain ⟨assembly, hrun, happly, -⟩ :=
    @snapshotAssembly_exact [] 2 (chunkPair [100] [101]) [1, 0] (by decide) hchannels (by decide)
  exact ⟨assembly, hrun, happly 2⟩

end IncomUdon.Lifecycle
