import IncomUdon.Fec.Accepted

/-! The verdict of the FEC suite, for both versions. A block passes exactly when its object lists what
    its frames determine:

        frames     one entry for each sequence, in order
        parity     P and Q of the padded frames, in either order; with payloads in version 2
        recovery   received and missing sequences that split the block, at most two missing; the output
                   in order; of the entries listed for a sequence, the LAST has its frame

    Nothing of recovery is stated here: by the code, whatever splits the block is recovered. EXACT:
    the suite returns no error exactly for such documents. -/

namespace IncomUdon.Fec
open IncomUdon.Python IncomUdon.Loader IncomUdon.Lib.ErrorLog IncomUdon.Lib.BigEndian

/-- The payload that carries a parity. -/
def wirePayload (blockStart : ℕ) (frames : List Bytes) (parityIndex : ℕ) (parity : Bytes) : Bytes :=
  toBE 1 2 ++ toBE 2 blockStart ++ toBE 1 frames.length ++ toBE 1 parityIndex
    ++ (frames.map List.length).flatMap (toBE 2) ++ parity

/-- A parity entry that passes. -/
def ParityPasses (fecV2 : Bool) (blockStart : ℕ) (frames : List Bytes) (parityIndex : ℕ)
    (parity : Bytes) (entry : Json) : Prop :=
  ∃ d, entry = .obj d ∧ Dict.get d "parityIndex" = .int parityIndex ∧
    IsHex (Dict.get d "dataHex") parity ∧
    (fecV2 = true → IsHex (Dict.get d "fecPayloadHex") (wirePayload blockStart frames parityIndex parity))

/-- One entry for P and one for Q, in either order. -/
def ParitiesPass (fecV2 : Bool) (blockStart : ℕ) (frames : List Bytes) (p q : Bytes)
    (first second : Json) : Prop :=
  ParityPasses fecV2 blockStart frames 0 p first ∧ ParityPasses fecV2 blockStart frames 1 q second ∨
    ParityPasses fecV2 blockStart frames 1 q first ∧ ParityPasses fecV2 blockStart frames 0 p second

/-- The entries of `expectedRecovered`, for the missing sequences. -/
structure ExpectedPasses (fecV2 : Bool) (blockStart : ℕ) (frames : List Bytes) (recovery : Dict)
    (missing : List ℕ) (listed : List (ℕ × Bytes)) : Prop where
  listed_eq : ∃ items, Dict.getD recovery "expectedRecovered" (.arr []) = .arr items ∧
    List.Forall₂ (fun entry item => FrameEntry entry.1 entry.2 item) listed items
  named : fecV2 = true → ∀ sequence, sequence ∈ listed.map Prod.fst ↔ sequence ∈ missing
  compared : ∀ sequence frame, listed.reverse.lookup sequence = some frame →
    (sequence, frame) ∈ (wireSequences blockStart frames.length).zip frames

/-- A recovery case that passes. -/
structure RecoveryPasses (fecV2 : Bool) (blockStart : ℕ) (frames : List Bytes) (recovery : Dict)
    (received missing : List ℕ) : Prop where
  received_eq : Dict.get recovery "receivedSequences" = .ints received
  missing_eq : Dict.get recovery "missingSequences" = .ints missing
  output_eq : Dict.get recovery "expectedOutputSequences"
    = .ints (wireSequences blockStart frames.length)
  splits : ∀ s, s ∈ received ∨ s ∈ missing ↔ s ∈ wireSequences blockStart frames.length
  disjoint : ∀ s ∈ received, s ∉ missing
  missing_le : missing.length ≤ 2
  expected : ∃ listed, ExpectedPasses fecV2 blockStart frames recovery missing listed

/-- The cases of a block: an array in version 2, one case in version 1. -/
def casesOf (fecV2 : Bool) (value : Dict) (cases : List Json) : Prop :=
  if fecV2 = true then Dict.get value "recoveryCases" = .arr cases
  else cases = [Dict.get value "recoveryCase"]

/-- A block that passes, with its frames. -/
structure BlockPasses (fecV2 : Bool) (maxFrameBytes blockStart : ℕ) (frames : List Bytes)
    (value : Dict) : Prop where
  start_le : blockStart ≤ 65535
  one_le_size : 1 ≤ frames.length
  size_le : frames.length ≤ 6
  frame_length : ∀ frame ∈ frames, 1 ≤ frame.length ∧ frame.length ≤ maxFrameBytes
  blockStart_eq : Dict.get value "blockStart" = .int blockStart
  blockSize_eq : Dict.get value "blockSize" = .int frames.length
  frames_eq : ∃ entries, Dict.get value "frames" = .arr entries ∧
    List.Forall₂ (fun labelled entry => FrameEntry labelled.1 labelled.2 entry)
      ((wireSequences blockStart frames.length).zip frames) entries
  parity_eq : ∃ p q first second, encodeParity (padded frames) = .ok (p, q) ∧
    Dict.get value "parity" = .arr [first, second] ∧
    ParitiesPass fecV2 blockStart frames p q first second
  cases_eq : ∃ cases, casesOf fecV2 value cases ∧
    ∀ case ∈ cases, ∃ recovery received missing, case = .obj recovery ∧
      RecoveryPasses fecV2 blockStart frames recovery received missing

/-- The block that the check builds, in either version. -/
def blockIn (fecV2 : Bool) (label : Msg) (blockStart : ℕ) (frames : List Bytes) : Block :=
  ⟨label, blockStart, frames.length, memberSequences blockStart frames.length, frames, longest frames,
    fecV2⟩

section Parity
variable {fecV2 : Bool} {label : Msg} {blockStart parityIndex position : ℕ} {frames : List Bytes}
  {p q : Bytes} {table table' : Table Bytes} {entry : Json}

theorem fecPayload_blockIn (hb : (blockIn fecV2 label blockStart frames).Packable)
    (hv2 : fecV2 = true) (hindex : parityIndex ≤ 1) (parity : Bytes) :
    fecPayload (blockIn fecV2 label blockStart frames) parityIndex parity
      = .ok (wirePayload blockStart frames parityIndex parity) :=
  fecPayload_eq hb hv2 hindex parity

/-- A parity entry that passes adds its index, which is new. -/
theorem clean_readParity_iff (hb : (blockIn fecV2 label blockStart frames).Packable) :
    Clean (readParity (blockIn fecV2 label blockStart frames) p q table (entry, position)) table' ↔
      ∃ parityIndex ≤ 1, parityIndex ∉ table.keys ∧
        ParityPasses fecV2 blockStart frames parityIndex (if parityIndex = 0 then p else q) entry ∧
        table.put parityIndex (if parityIndex = 0 then p else q) = table' := by
  simp only [readParity, Run.liftM_eq, clean_bind, clean_lift, asObject_eq_ok, integer_eq_ok,
    require_eq_ok, hexBytes_eq_ok, clean_compareBytes, clean_ite, clean_pure, exists_unit]
  constructor
  · rintro ⟨d, rfl, parityIndex, ⟨hindex, hle⟩, hnew, _, hdata, rfl, hrest⟩
    refine ⟨parityIndex, hle, hnew, ⟨d, rfl, hindex, hdata, fun hv2 => ?_⟩, ?_⟩
    · rcases hrest with ⟨-, payload, hpayload, _, hgiven, rfl, -⟩ | ⟨hv1, -⟩
      · rw [fecPayload_blockIn hb hv2 hle] at hpayload
        exact Except.ok.inj hpayload ▸ hgiven
      · exact absurd hv2 hv1
    · rcases hrest with ⟨-, -, -, -, -, -, hput⟩ | ⟨-, hput⟩ <;> exact hput
  · rintro ⟨parityIndex, hle, hnew, ⟨d, rfl, hindex, hdata, hpayload⟩, rfl⟩
    refine ⟨d, rfl, parityIndex, ⟨hindex, hle⟩, hnew, _, hdata, rfl, ?_⟩
    by_cases hv2 : fecV2 = true
    · exact .inl ⟨hv2, _, fecPayload_blockIn hb hv2 hle _, _, hpayload hv2, rfl, rfl⟩
    · exact .inr ⟨hv2, rfl⟩

theorem clean_readParities {first second : Json} :
    Clean ([first, second].zipIdx.foldlM (readParity (blockIn fecV2 label blockStart frames) p q) [])
        table' ↔
      ∃ table, Clean (readParity (blockIn fecV2 label blockStart frames) p q [] (first, 0)) table ∧
        Clean (readParity (blockIn fecV2 label blockStart frames) p q table (second, 1)) table' := by
  simp only [List.zipIdx_cons, List.zipIdx_nil, List.foldlM_cons, List.foldlM_nil, clean_bind,
    clean_pure]
  constructor
  · rintro ⟨table, hfirst, _, hsecond, rfl⟩
    exact ⟨table, hfirst, hsecond⟩
  · rintro ⟨table, hfirst, hsecond⟩
    exact ⟨table, hfirst, _, hsecond, rfl⟩

/-- The two entries that pass are P and Q, and the table has both. -/
theorem parities_of_clean {first second : Json}
    (hb : (blockIn fecV2 label blockStart frames).Packable)
    (h : Clean ([first, second].zipIdx.foldlM
      (readParity (blockIn fecV2 label blockStart frames) p q) []) table') :
    ParitiesPass fecV2 blockStart frames p q first second ∧
      table'.lookup 0 = some p ∧ table'.lookup 1 = some q := by
  obtain ⟨table, hfirst, hsecond⟩ := clean_readParities.mp h
  obtain ⟨i, hi, -, hpass, rfl⟩ := (clean_readParity_iff hb).mp hfirst
  obtain ⟨j, hj, hnew, hpass', rfl⟩ := (clean_readParity_iff hb).mp hsecond
  rw [Table.mem_keys_put] at hnew
  obtain ⟨rfl, rfl⟩ | ⟨rfl, rfl⟩ : i = 0 ∧ j = 1 ∨ i = 1 ∧ j = 0 := by omega
  · exact ⟨.inl ⟨hpass, hpass'⟩, by simp [Table.lookup_put], by simp [Table.lookup_put]⟩
  · exact ⟨.inr ⟨hpass, hpass'⟩, by simp [Table.lookup_put], by simp [Table.lookup_put]⟩

theorem clean_of_parities {first second : Json}
    (hb : (blockIn fecV2 label blockStart frames).Packable)
    (h : ParitiesPass fecV2 blockStart frames p q first second) :
    ∃ table, Clean ([first, second].zipIdx.foldlM
      (readParity (blockIn fecV2 label blockStart frames) p q) []) table := by
  rcases h with ⟨hfirst, hsecond⟩ | ⟨hfirst, hsecond⟩
  · exact ⟨_, clean_readParities.mpr ⟨_, (clean_readParity_iff hb).mpr
        ⟨0, by decide, by simp [Table.keys], hfirst, rfl⟩,
      (clean_readParity_iff hb).mpr ⟨1, by decide, by simp [Table.keys, Table.put], hsecond, rfl⟩⟩⟩
  · exact ⟨_, clean_readParities.mpr ⟨_, (clean_readParity_iff hb).mpr
        ⟨1, by decide, by simp [Table.keys], hfirst, rfl⟩,
      (clean_readParity_iff hb).mpr ⟨0, by decide, by simp [Table.keys, Table.put], hsecond, rfl⟩⟩⟩

end Parity

section Recovery
variable {fecV2 : Bool} {label msg : Msg} {blockStart : ℕ} {frames : List Bytes} {recovery : Dict}
  {received missing : List ℕ} {table table' : Table Bytes}

theorem blockIn_sequences :
    (blockIn fecV2 label blockStart frames).sequences = wireSequences blockStart frames.length :=
  memberSequences_eq

/-- The entries that are read are stored in a table, and the last one for a sequence counts. -/
theorem foldlM_readExpected_eq_ok {items : List Json} :
    items.foldlM (readExpected label) table = .ok table' ↔
      ∃ listed : List (ℕ × Bytes),
        List.Forall₂ (fun entry item => FrameEntry entry.1 entry.2 item) listed items ∧
        (∀ entry ∈ listed, entry.1 ≤ 0xFFFF) ∧
        listed.foldl (fun t entry => t.put entry.1 entry.2) table = table' := by
  induction items generalizing table with
  | nil =>
    constructor
    · intro h
      exact ⟨[], .nil, by simp, Except.ok.inj h⟩
    · rintro ⟨_, ⟨⟩, -, rfl⟩
      rfl
  | cons item items ih =>
    rw [List.foldlM_cons, bind_eq_ok]
    constructor
    · rintro ⟨next, hread, hrest⟩
      obtain ⟨entry, hentry, hle, rfl⟩ := readExpected_eq_ok.mp hread
      obtain ⟨listed, hlisted, hles, hfold⟩ := ih.mp hrest
      exact ⟨entry :: listed, .cons hentry hlisted, List.forall_mem_cons.mpr ⟨hle, hles⟩, hfold⟩
    · rintro ⟨_, hlisted, hles, hfold⟩
      cases hlisted with
      | @cons entry item listed items hentry hlisted =>
        rw [List.forall_mem_cons] at hles
        exact ⟨_, readExpected_eq_ok.mpr ⟨entry, hentry, hles.1, rfl⟩, ih.mpr ⟨listed, hlisted,
          hles.2, hfold⟩⟩

/-- The search for a sequence ends at the position of its frame. -/
theorem exists_indexOf_of_mem_zip {sequence : ℕ} {frame : Bytes} (hn6 : frames.length ≤ 6)
    (h : (sequence, frame) ∈ (wireSequences blockStart frames.length).zip frames) :
    ∃ position, (sequence ∈ wireSequences blockStart frames.length ∧
        (wireSequences blockStart frames.length).idxOf sequence = position) ∧
      frames[position]? = some frame := by
  obtain ⟨i, hi, heq⟩ := List.getElem_of_mem h
  have hif : i < frames.length := by simpa using hi
  have his : i < (wireSequences blockStart frames.length).length := by simpa using hif
  rw [List.getElem_zip] at heq
  obtain ⟨rfl, rfl⟩ := Prod.ext_iff.mp heq
  exact ⟨i, ⟨List.getElem_mem his, (nodup_wireSequences hn6).idxOf_getElem i his⟩,
    List.getElem?_eq_getElem hif⟩

/-- EXPECTED: the entries pass exactly when the last one for each sequence has its frame. -/
theorem clean_checkExpected_iff (hn6 : frames.length ≤ 6) :
    Clean (checkExpected (blockIn fecV2 label blockStart frames) msg recovery missing frames) () ↔
      ∃ listed, ExpectedPasses fecV2 blockStart frames recovery missing listed := by
  simp only [checkExpected, Run.liftM_eq, clean_bind, clean_lift, asArray_eq_ok, require_eq_ok,
    foldlM_readExpected_eq_ok, exists_unit]
  constructor
  · rintro ⟨items, hitems, _, ⟨listed, hlisted, -, rfl⟩, hkeys, hloop⟩
    refine ⟨listed, ⟨items, hitems, hlisted⟩, fun hv2 sequence => ?_, fun sequence frame hlast => ?_⟩
    · have hset := (not_and_not_right.mp hkeys) hv2
      rw [← List.mem_toFinset (l := missing), ← hset, List.mem_toFinset,
        Table.mem_keys_foldl_put fun entry => entry]
      simp [Table.keys]
    · have hstored := mem_of_lookup
        ((Table.lookup_foldl_put_last listed [] sequence).trans (congrArg (Option.or · none) hlast))
      have hcompare := clean_forM.mp hloop _ hstored
      simp only [clean_bind, clean_lift, indexOf_eq_ok, index_eq_ok, clean_compareBytes,
        blockIn_sequences] at hcompare
      obtain ⟨position, hposition, actual, hactual, rfl⟩ := hcompare
      exact mem_zip_of_indexOf hposition hactual
  · rintro ⟨listed, ⟨items, hitems, hlisted⟩, hnamed, hcompared⟩
    -- A sequence that is listed is one of the block, since its last entry is.
    have hle : ∀ entry ∈ listed, entry.1 ≤ 0xFFFF := by
      intro entry hentry
      have hkey : entry.1 ∈ Table.keys listed.reverse := by
        simpa [Table.keys] using ⟨entry.2, hentry⟩
      obtain ⟨last, hlast⟩ := Option.isSome_iff_exists.mp (Table.lookup_isSome.mpr hkey)
      exact wireSequences_le (List.of_mem_zip (hcompared _ _ hlast)).1
    refine ⟨items, hitems, _, ⟨listed, hlisted, hle, rfl⟩, ?_, clean_forM.mpr fun item hmem => ?_⟩
    · rintro ⟨hv2, hne⟩
      refine hne (Finset.ext fun sequence => ?_)
      rw [List.mem_toFinset, List.mem_toFinset, Table.mem_keys_foldl_put fun entry => entry,
        ← hnamed hv2]
      simp [Table.keys]
    · have hkeys : (Table.keys ([] : Table Bytes)).Nodup := List.nodup_nil
      have hlookup := Table.lookup_of_mem (Table.nodup_keys_foldl_put listed hkeys) hmem
      rw [Table.lookup_foldl_put_last, List.lookup_nil, Option.or_none] at hlookup
      obtain ⟨position, hposition, hframe⟩ := exists_indexOf_of_mem_zip hn6 (hcompared _ _ hlookup)
      simp only [clean_bind, clean_lift, indexOf_eq_ok, index_eq_ok, clean_compareBytes,
        blockIn_sequences]
      exact ⟨position, hposition, item.2, hframe, rfl⟩

theorem blockIn_sized (hn6 : frames.length ≤ 6) : (blockIn fecV2 label blockStart frames).Sized :=
  ⟨by simp [blockIn, memberSequences_eq], hn6⟩

/-- The two checks on the sets: received and missing split the block. -/
theorem splits_iff : (received.toFinset ∪ missing.toFinset = (wireSequences blockStart frames.length).toFinset ∧
      received.toFinset ∩ missing.toFinset = ∅) ↔
      (∀ s, s ∈ received ∨ s ∈ missing ↔ s ∈ wireSequences blockStart frames.length) ∧
        ∀ s ∈ received, s ∉ missing := by
  simp [Finset.ext_iff]

/-- RECOVERY: a case passes exactly when it splits the block and lists the frames that were lost; the
    recovery itself never fails. -/
theorem clean_recoveryCase_iff {p q : Bytes} {parity : Table Bytes} {case : Json} {position : ℕ}
    (hn : 1 ≤ frames.length) (hn6 : frames.length ≤ 6) (hbytes : ∀ frame ∈ frames, 1 ≤ frame.length)
    (hencode : encodeParity (padded frames) = .ok (p, q)) (hp : parity.lookup 0 = some p)
    (hq : parity.lookup 1 = some q) :
    Clean (recoveryCase (blockIn fecV2 label blockStart frames) parity case position) () ↔
      ∃ recovery received missing, case = .obj recovery ∧
        RecoveryPasses fecV2 blockStart frames recovery received missing := by
  simp only [recoveryCase, Run.liftM_eq, clean_bind, clean_lift, asObject_eq_ok, asArray_eq_ok,
    require_eq_ok, Table.get_eq_ok, zipStrict_eq_ok, clean_compare, sequenceNumbers_eq_ok,
    blockIn_sequences, Json.eq_ints, exists_unit]
  constructor
  · rintro ⟨recovery, rfl, _, hreceived, _, hmissing, _, houtput, received, ⟨rfl, -⟩, missing,
      ⟨rfl, -⟩, hunion, hinter, htwo, -, -, -, -, -, -, recovered, -, _, ⟨hlength, rfl⟩, hloop, _,
      ⟨rfl, -⟩, rfl, hexpected⟩
    have hsource : ∀ pair ∈ (wireSequences blockStart frames.length).zip recovered,
        (blockOf label blockStart frames).sourceBySequence.lookup pair.1 = some pair.2 := by
      intro pair hpair
      have hcompare := clean_forM.mp hloop pair hpair
      simp only [clean_bind, clean_lift, Table.get_eq_ok, clean_compareBytes] at hcompare
      obtain ⟨source, hlookup, rfl⟩ := hcompare
      exact hlookup
    have hrecovered : recovered = frames := eq_frames_of_compared hn6 (by simpa using hlength) hsource
    obtain ⟨hsplits, hdisjoint⟩ := splits_iff.mp ⟨hunion, hinter⟩
    exact ⟨recovery, received, missing, rfl, hreceived, hmissing, houtput, hsplits, hdisjoint, htwo,
      (clean_checkExpected_iff hn6).mp (hrecovered ▸ hexpected)⟩
  · rintro ⟨recovery, received, missing, rfl, h⟩
    have hle : ∀ s, s ∈ received ∨ s ∈ missing → s ≤ 0xFFFF := fun s hs =>
      wireSequences_le ((h.splits s).mp hs)
    obtain ⟨hunion, hinter⟩ := splits_iff.mpr ⟨h.splits, h.disjoint⟩
    have hsized : (blockIn fecV2 label blockStart frames).Sized := blockIn_sized hn6
    obtain ⟨table, htable, hlookup⟩ := keepReceived_eq hsized
      (fun s hs => blockIn_sequences ▸ (h.splits s).mp (.inl hs)) []
    -- The tables of the block do not depend on its version.
    have hkept : ∀ s, table.lookup s = if s ∈ received
        then (blockOf label blockStart frames).sourceBySequence.lookup s else none :=
      fun s => hlookup s
    have hrecovered : recoverFrames (paddedFrames (blockIn fecV2 label blockStart frames) table) p q
        (frames.map List.length) = .ok frames :=
      recoverFrames_padded hn hn6 hbytes hencode h.missing_le (fun s hs => (h.splits s).mpr hs) hkept
    refine ⟨recovery, rfl, _, h.received_eq, _, h.missing_eq, _, h.output_eq, received,
      ⟨rfl, fun s hs => hle s (.inl hs)⟩, missing, ⟨rfl, fun s hs => hle s (.inr hs)⟩, hunion, hinter,
      h.missing_le, table, htable, p, hp, q, hq, frames, hrecovered, _, ⟨length_wireSequences, rfl⟩,
      clean_forM.mpr fun pair hpair => ?_, _, ⟨rfl, fun s hs => wireSequences_le hs⟩, rfl,
      (clean_checkExpected_iff hn6).mpr h.expected⟩
    simp only [clean_bind, clean_lift, Table.get_eq_ok, clean_compareBytes]
    have hsource : (blockOf label blockStart frames).sourceBySequence.lookup pair.1 = some pair.2 :=
      lookup_source hn6 hpair
    exact ⟨_, hsource, rfl⟩

end Recovery

section Block
variable {fecV2 : Bool} {label : Msg} {maxFrameBytes : ℕ} {value : Dict}

theorem packable_blockIn {blockStart : ℕ} {frames : List Bytes} (hstart : blockStart ≤ 65535)
    (hn6 : frames.length ≤ 6) (hmax : fecV2 = true → maxFrameBytes ≤ 65535)
    (hlength : ∀ frame ∈ frames, 1 ≤ frame.length ∧ frame.length ≤ maxFrameBytes) :
    (blockIn fecV2 label blockStart frames).Packable := by
  refine ⟨hstart, hn6, fun hv2 => ?_⟩
  simp only [blockIn, Block.lengths, List.forall_mem_map]
  exact fun frame hframe => (hlength frame hframe).2.trans (hmax hv2)

theorem exists_casesOf {P : List Json → Prop} : (∃ cases, casesOf fecV2 value cases ∧ P cases) ↔
    (fecV2 = true ∧ ∃ cases, Dict.get value "recoveryCases" = .arr cases ∧ P cases) ∨
      ¬fecV2 = true ∧ P [Dict.get value "recoveryCase"] := by
  cases fecV2 <;> simp [casesOf]

/-- BLOCK: a block passes exactly when its object lists what its frames determine. -/
theorem clean_validateBlock_iff (hmax : fecV2 = true → maxFrameBytes ≤ 65535) :
    Clean (validateBlock label value maxFrameBytes fecV2) () ↔
      ∃ blockStart frames, BlockPasses fecV2 maxFrameBytes blockStart frames value := by
  simp only [validateBlock, Run.liftM_eq, clean_bind, clean_lift, clean_ite, clean_pure,
    integer_eq_ok, asArray_eq_ok, require_eq_ok, maxOf_eq_ok, exists_unit, exists_eq_left',
    ← exists_casesOf]
  constructor
  · rintro ⟨blockStart, ⟨hstartEq, hstart⟩, blockSize, ⟨hsizeEq, hsize⟩, hpos, entries, hentries,
      parityValue, hparityValue, hcount, htwo, frames, hread, width, hwidth, ⟨p, q⟩, hencode,
      parity, hfold, -, cases, hcases, hloop⟩
    have hframes : entries.length = frames.length := by
      simpa using (clean_mapM.mp hread).length_eq
    obtain rfl : frames.length = blockSize := hframes.symm.trans hcount
    obtain ⟨hlisted, hlength⟩ := frameEntries_of_clean_readFrames hframes hread
    have hne : frames ≠ [] := fun hnil => hpos (by rw [hnil]; rfl)
    obtain rfl : longest frames = width :=
      Option.some.inj ((max?_eq_longest hne).symm.trans hwidth)
    obtain ⟨first, second, rfl⟩ := List.length_eq_two.mp htwo
    obtain ⟨hparities, hp, hq⟩ := parities_of_clean (packable_blockIn hstart hsize hmax hlength) hfold
    refine ⟨blockStart, frames, hstart, List.length_pos_iff.mpr hne, hsize, hlength, hstartEq,
      hsizeEq, ⟨entries, hentries, hlisted⟩, ⟨p, q, first, second, hencode, hparityValue,
      hparities⟩, cases, hcases, fun case hcase => ?_⟩
    obtain ⟨position, hposition⟩ := List.mem_iff_getElem?.mp hcase
    exact (clean_recoveryCase_iff (List.length_pos_iff.mpr hne) hsize
      (fun frame hframe => (hlength frame hframe).1) hencode hp hq).mp
        (clean_forM.mp hloop _ (List.mk_mem_zipIdx_iff_getElem?.mpr hposition))
  · rintro ⟨blockStart, frames, h⟩
    have hne : frames ≠ [] := List.length_pos_iff.mp h.one_le_size
    obtain ⟨entries, hentries, hlisted⟩ := h.frames_eq
    obtain ⟨p, q, first, second, hencode, hparityValue, hparities⟩ := h.parity_eq
    obtain ⟨cases, hcases, hpasses⟩ := h.cases_eq
    have hpackable : (blockIn fecV2 label blockStart frames).Packable :=
      packable_blockIn h.start_le h.size_le hmax h.frame_length
    obtain ⟨parity, hfold⟩ := clean_of_parities hpackable hparities
    obtain ⟨-, hp, hq⟩ := parities_of_clean hpackable hfold
    have hcount : entries.length = frames.length := by
      simpa using hlisted.length_eq.symm
    have hsize := h.one_le_size
    refine ⟨blockStart, ⟨h.blockStart_eq, h.start_le⟩, frames.length, ⟨h.blockSize_eq, h.size_le⟩,
      by omega, entries, hentries, _, hparityValue, hcount, rfl, frames,
      clean_readFrames hlisted h.frame_length, longest frames, max?_eq_longest hne, (p, q), hencode,
      parity, hfold,
      keys_of_readParity rfl hfold.returns, cases, hcases, clean_forM.mpr fun item hitem => ?_⟩
    exact (clean_recoveryCase_iff h.one_le_size h.size_le
      (fun frame hframe => (h.frame_length frame hframe).1) hencode hp hq).mpr
        (hpasses item.1 (List.fst_mem_of_mem_zipIdx hitem))

end Block

/-- The document declares the field. -/
def DeclaresField (document : Dict) : Prop := Dict.get document "field" = .str fieldDeclaration

/-- Both documents are stored, and what they list passes. -/
structure FecAccepted (root : Root) : Prop where
  version1 : ∃ document blockStart frames, root "test-vectors/fec-rs-6-2.json" = .json (.obj document) ∧
    DeclaresField document ∧ BlockPasses false 4096 blockStart frames document
  version2 : ∃ document maxFrameBytes cases,
    root "test-vectors/fec-v2-variable-6-2.json" = .json (.obj document) ∧ DeclaresField document ∧
    Dict.get document "maxMediaFrameBytes" = .int (maxFrameBytes : ℕ) ∧ maxFrameBytes ≤ 0xFFFF ∧
    Dict.get document "cases" = .arr cases ∧ ∀ case ∈ cases, ∃ value blockStart frames,
      case = .obj value ∧ BlockPasses true maxFrameBytes blockStart frames value

section Suite
variable {root : Root}

theorem clean_validateFecV1 : Clean (validateFecV1 root) () ↔
    ∃ document blockStart frames, root "test-vectors/fec-rs-6-2.json" = .json (.obj document) ∧
      DeclaresField document ∧ BlockPasses false 4096 blockStart frames document := by
  simp only [validateFecV1, Run.liftM_eq, clean_bind, clean_lift, load_eq_ok, require_eq_ok,
    Json.eq_str, exists_unit, clean_validateBlock_iff fun h => absurd h Bool.false_ne_true]
  constructor
  · rintro ⟨document, hdocument, hfield, blockStart, frames, hpasses⟩
    exact ⟨document, blockStart, frames, hdocument, hfield, hpasses⟩
  · rintro ⟨document, blockStart, frames, hdocument, hfield, hpasses⟩
    exact ⟨document, hdocument, hfield, blockStart, frames, hpasses⟩

theorem clean_fecV2Case {maxFrameBytes position : ℕ} {case : Json} (hmax : maxFrameBytes ≤ 0xFFFF) :
    Clean (fecV2Case maxFrameBytes case position) () ↔ ∃ value blockStart frames,
      case = .obj value ∧ BlockPasses true maxFrameBytes blockStart frames value := by
  simp only [fecV2Case, Run.liftM_eq, clean_bind, clean_lift, asObject_eq_ok,
    clean_validateBlock_iff fun _ => hmax]
  constructor
  · rintro ⟨value, rfl, blockStart, frames, hpasses⟩
    exact ⟨value, blockStart, frames, rfl, hpasses⟩
  · rintro ⟨value, blockStart, frames, rfl, hpasses⟩
    exact ⟨value, rfl, blockStart, frames, hpasses⟩

theorem clean_validateFecV2 : Clean (validateFecV2 root) () ↔ ∃ document maxFrameBytes cases,
    root "test-vectors/fec-v2-variable-6-2.json" = .json (.obj document) ∧ DeclaresField document ∧
    Dict.get document "maxMediaFrameBytes" = .int (maxFrameBytes : ℕ) ∧ maxFrameBytes ≤ 0xFFFF ∧
    Dict.get document "cases" = .arr cases ∧ ∀ case ∈ cases, ∃ value blockStart frames,
      case = .obj value ∧ BlockPasses true maxFrameBytes blockStart frames value := by
  simp only [validateFecV2, Run.liftM_eq, clean_bind, clean_lift, load_eq_ok, require_eq_ok,
    Json.eq_str, integer_eq_ok, asArray_eq_ok, exists_unit]
  constructor
  · rintro ⟨document, hdocument, hfield, maxFrameBytes, ⟨hmax, hle⟩, cases, hcases, hloop⟩
    exact ⟨document, maxFrameBytes, cases, hdocument, hfield, hmax, hle, hcases,
      (clean_forM_zipIdx fun _ _ => clean_fecV2Case hle).mp hloop⟩
  · rintro ⟨document, maxFrameBytes, cases, hdocument, hfield, hmax, hle, hcases, hpasses⟩
    exact ⟨document, hdocument, hfield, maxFrameBytes, ⟨hmax, hle⟩, cases, hcases,
      (clean_forM_zipIdx fun _ _ => clean_fecV2Case hle).mpr hpasses⟩

end Suite

/-- EXACT: the suite returns no error exactly when both documents list what their frames determine. -/
theorem fecSuite_passes_iff (root : Root) : validateFecVectors root = .ok [] ↔ FecAccepted root := by
  have hboth : validateFecVectors root = .ok [] ↔
      Clean (validateFecV1 root) () ∧ Clean (validateFecV2 root) () := by
    simp only [validateFecVectors, bind_eq_ok]
    constructor
    · rintro ⟨errors1, h1, errors2, h2, hret⟩
      obtain ⟨rfl, rfl⟩ := List.append_eq_nil_iff.mp (Except.ok.inj hret)
      exact ⟨handle_eq_nil.mp h1, handle_eq_nil.mp h2⟩
    · rintro ⟨h1, h2⟩
      exact ⟨[], handle_eq_nil.mpr h1, [], handle_eq_nil.mpr h2, rfl⟩
  rw [hboth, clean_validateFecV1, clean_validateFecV2]
  constructor
  · rintro ⟨h1, h2⟩
    exact ⟨h1, h2⟩
  · intro h
    exact ⟨h.version1, h.version2⟩

end IncomUdon.Fec
