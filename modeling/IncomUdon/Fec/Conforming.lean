import IncomUdon.Fec.Total

/-! Conforming FEC v2 blocks, as the protocol describes them, and COMPLETENESS of the check: a
    conforming block is accepted without an error. What makes the check complete is that the at most
    six sequence numbers stay distinct across the wrap from 65535 to 0, so that the table from
    sequence to frame and the search for a sequence undo each other. -/

namespace IncomUdon.Fec
open IncomUdon.Python IncomUdon.Lib.ErrorLog IncomUdon.Lib.BigEndian

/-! ### The blocks the protocol describes -/

/-- The sequence numbers of a block: consecutive modulo 65536. -/
def wireSequences (blockStart blockSize : ℕ) : List ℕ :=
  (List.range blockSize).map fun index => (blockStart + index) % 65536

/-- The length of the longest frame. -/
def longest (frames : List Bytes) : ℕ := (frames.map List.length).max?.getD 0

/-- The frames, zero-padded to the longest one. -/
def padded (frames : List Bytes) : List Bytes := frames.map (ljust · (longest frames))

/-- A frame entry: the sequence number and the data. -/
def FrameEntry (sequence : ℕ) (frame : Bytes) (entry : Json) : Prop :=
  ∃ d, entry = .obj d ∧ Dict.get d "audioSeq" = .int sequence ∧ IsHex (Dict.get d "dataHex") frame

/-- A parity entry: the index, the parity and the payload that carries it. -/
def ParityEntry (blockStart : ℕ) (frames : List Bytes) (parityIndex : ℕ) (parity : Bytes)
    (entry : Json) : Prop :=
  ∃ d, entry = .obj d ∧ Dict.get d "parityIndex" = .int parityIndex ∧
    IsHex (Dict.get d "dataHex") parity ∧
    IsHex (Dict.get d "fecPayloadHex")
      (toBE 1 2 ++ toBE 2 blockStart ++ toBE 1 frames.length ++ toBE 1 parityIndex
        ++ (frames.map List.length).flatMap (toBE 2) ++ parity)

/-- A case of loss: the sequences are split into received and at most two missing ones, the output
    is in order, and exactly the missing frames are listed as recovered. -/
structure ConformingRecovery (blockStart : ℕ) (frames : List Bytes) (case : Json) : Prop where
  recovers : ∃ d received missing items, case = .obj d ∧
    Dict.get d "receivedSequences" = .ints received ∧
    Dict.get d "missingSequences" = .ints missing ∧
    (received ++ missing).Perm (wireSequences blockStart frames.length) ∧ missing.length ≤ 2 ∧
    Dict.get d "expectedOutputSequences" = .ints (wireSequences blockStart frames.length) ∧
    Dict.getD d "expectedRecovered" (.arr []) = .arr items ∧
    ∃ listed, listed.Perm missing ∧
      List.Forall₂ (fun sequence item => ∃ frame,
        (sequence, frame) ∈ (wireSequences blockStart frames.length).zip frames ∧
          FrameEntry sequence frame item) listed items

/-- A block object for these frames. -/
structure ConformingBlock (maxFrameBytes blockStart : ℕ) (frames : List Bytes) (value : Dict) :
    Prop where
  start_le : blockStart ≤ 65535
  one_le_size : 1 ≤ frames.length
  size_le : frames.length ≤ 6
  frame_length : ∀ frame ∈ frames, 1 ≤ frame.length ∧ frame.length ≤ maxFrameBytes
  blockStart_eq : Dict.get value "blockStart" = .int blockStart
  blockSize_eq : Dict.get value "blockSize" = .int frames.length
  frames_eq : ∃ entries, Dict.get value "frames" = .arr entries ∧
    List.Forall₂ (fun labelled entry => FrameEntry labelled.1 labelled.2 entry)
      ((wireSequences blockStart frames.length).zip frames) entries
  parity_eq : ∃ p q first second, encodeParity (padded frames) = .ok (p, q) ∧
    Dict.get value "parity" = .arr [first, second] ∧
    (ParityEntry blockStart frames 0 p first ∧ ParityEntry blockStart frames 1 q second ∨
      ParityEntry blockStart frames 1 q first ∧ ParityEntry blockStart frames 0 p second)
  recoveryCases_eq : ∃ cases, Dict.get value "recoveryCases" = .arr cases ∧
    ∀ case ∈ cases, ConformingRecovery blockStart frames case

/-! ### Sequence numbers -/

section Sequences
variable {blockStart blockSize : ℕ}

theorem memberSequences_eq :
    memberSequences blockStart blockSize = wireSequences blockStart blockSize :=
  List.map_congr_left fun index _ => Nat.and_two_pow_sub_one_eq_mod (blockStart + index) 16

@[simp] theorem length_wireSequences : (wireSequences blockStart blockSize).length = blockSize := by
  simp [wireSequences]

/-- Six sequence numbers in a row are distinct, also across the wrap. -/
theorem nodup_wireSequences (h : blockSize ≤ 6) : (wireSequences blockStart blockSize).Nodup := by
  refine List.nodup_range.map_on fun i hi j hj heq => ?_
  rw [List.mem_range] at hi hj
  omega

theorem wireSequences_le {sequence : ℕ} (h : sequence ∈ wireSequences blockStart blockSize) :
    sequence ≤ 0xFFFF := by
  obtain ⟨index, -, rfl⟩ := List.mem_map.mp h
  omega

theorem sequenceNumbers_ints {label : Msg} {sequences : List ℕ} (h : ∀ s ∈ sequences, s ≤ 0xFFFF) :
    sequenceNumbers (sequences.map fun n : ℕ => .int n) label = .ok sequences := by
  refine mapM_eq_ok.mpr (List.forall₂_map_left_iff.mpr (List.forall₂_same.mpr fun s hs => ?_))
  exact integer_eq_ok.mpr ⟨rfl, h s hs⟩

end Sequences

/-! ### Frames and parities -/

section Frames
variable {label : Msg} {maxFrameBytes blockStart : ℕ} {frames : List Bytes}

theorem clean_readFrame {sequences : List ℕ} {sequence position : ℕ} {frame : Bytes} {entry : Json}
    (hentry : FrameEntry sequence frame entry) (hle : sequence ≤ 0xFFFF)
    (hget : sequences[position]? = some sequence)
    (hlen : 1 ≤ frame.length ∧ frame.length ≤ maxFrameBytes) :
    Clean (readFrame label maxFrameBytes sequences entry position) frame := by
  obtain ⟨d, rfl, hseq, hdata⟩ := hentry
  simp only [readFrame, Run.liftM_eq, clean_bind, clean_lift, asObject_eq_ok, integer_eq_ok,
    index_eq_ok, clean_compare, hexBytes_eq_ok, require_eq_ok, clean_pure]
  exact ⟨d, rfl, sequence, ⟨hseq, hle⟩, sequence, hget, (), by simp, frame, hdata, (), hlen, rfl⟩

theorem clean_readFrames {entries : List Json}
    (hentries : List.Forall₂ (fun labelled entry => FrameEntry labelled.1 labelled.2 entry)
      ((wireSequences blockStart frames.length).zip frames) entries)
    (hlen : ∀ frame ∈ frames, 1 ≤ frame.length ∧ frame.length ≤ maxFrameBytes) :
    Clean (entries.zipIdx.mapM fun item => readFrame label maxFrameBytes
      (memberSequences blockStart frames.length) item.1 item.2) frames := by
  obtain ⟨hcount, hget⟩ := List.forall₂_iff_get.mp hentries
  rw [List.length_zip, length_wireSequences, min_self] at hcount
  refine clean_mapM.mpr (List.forall₂_iff_get.mpr ⟨by simpa using hcount.symm, fun i hi hi' => ?_⟩)
  have hseq : i < (wireSequences blockStart frames.length).length := by simpa using hi'
  have hentry := hget i (by simpa using hi') (hcount ▸ hi')
  simp only [List.get_eq_getElem, List.getElem_zip, List.getElem_zipIdx, Nat.zero_add] at hentry ⊢
  rw [memberSequences_eq]
  exact clean_readFrame hentry (wireSequences_le (List.getElem_mem hseq))
    (List.getElem?_eq_getElem hseq) (hlen _ (List.getElem_mem hi'))

theorem max?_eq_longest (h : frames ≠ []) :
    (frames.map List.length).max? = some (longest frames) := by
  cases hwidth : (frames.map List.length).max? with
  | none => exact absurd (List.map_eq_nil_iff.mp (List.max?_eq_none_iff.mp hwidth)) h
  | some width => rw [longest, hwidth, Option.getD_some]

theorem packLengths_eq_ok {lengths : List ℕ} {encoded : List Bytes} :
    (lengths.mapM fun length => structPack [.uint 2 length]) = .ok encoded ↔
      (∀ length ∈ lengths, length < 256 ^ 2) ∧ lengths.map (toBE 2) = encoded := by
  rw [mapM_eq_ok]
  constructor
  · intro h
    induction h with
    | nil => simp
    | cons hpack _ ih =>
      obtain ⟨hfits, rfl⟩ := structPack_eq_ok.mp hpack
      rw [List.forall_mem_cons, List.map_cons, ih.2]
      exact ⟨⟨by simpa [Field.fits] using hfits, ih.1⟩, by simp [Field.encode]⟩
  · rintro ⟨hfits, rfl⟩
    refine List.forall₂_map_right_iff.mpr (List.forall₂_same.mpr fun n hn => ?_)
    exact structPack_eq_ok.mpr ⟨by simpa [Field.fits] using hfits n hn, by simp [Field.encode]⟩

/-- The payload is written when every number fits its field. -/
theorem fecPayload_eq_ok {block : Block} {parityIndex : ℕ} {parity payload : Bytes} :
    fecPayload block parityIndex parity = .ok payload ↔
      ((block.blockStart < 256 ^ 2 ∧ block.blockSize < 256 ^ 1 ∧ parityIndex < 256 ^ 1) ∧
        ∀ length ∈ block.lengths, length < 256 ^ 2) ∧
      toBE 1 2 ++ toBE 2 block.blockStart ++ toBE 1 block.blockSize ++ toBE 1 parityIndex
        ++ block.lengths.flatMap (toBE 2) ++ parity = payload := by
  simp only [fecPayload, bind_eq_ok, structPack_eq_ok, packLengths_eq_ok]
  constructor
  · rintro ⟨_, ⟨hfits, rfl⟩, _, ⟨hlens, rfl⟩, hret⟩
    refine ⟨⟨by simpa [Field.fits] using hfits, hlens⟩, ?_⟩
    simpa [Field.encode, List.flatMap_def] using Except.ok.inj hret
  · rintro ⟨⟨hfits, hlens⟩, rfl⟩
    refine ⟨_, ⟨by simpa [Field.fits] using hfits, rfl⟩, _, ⟨hlens, rfl⟩, ?_⟩
    simp [Field.encode, pure, Except.pure, List.flatMap_def]

theorem fecPayload_eq {block : Block} (hb : block.Packable) (hv2 : block.fecV2) {parityIndex : ℕ}
    (hindex : parityIndex ≤ 1) (parity : Bytes) :
    fecPayload block parityIndex parity
      = .ok (toBE 1 2 ++ toBE 2 block.blockStart ++ toBE 1 block.blockSize ++ toBE 1 parityIndex
        ++ block.lengths.flatMap (toBE 2) ++ parity) := by
  have hstart := hb.blockStart
  have hsize := hb.blockSize
  refine fecPayload_eq_ok.mpr ⟨⟨⟨by omega, by omega, by omega⟩, fun length hmem => ?_⟩, rfl⟩
  have hlength := hb.lengths hv2 length hmem
  omega

/-- The block that the check builds from a conforming block object. -/
def blockOf (label : Msg) (blockStart : ℕ) (frames : List Bytes) : Block :=
  ⟨label, blockStart, frames.length, memberSequences blockStart frames.length, frames,
    longest frames, true⟩

theorem clean_readParity {p q parity : Bytes} {parityIndex position : ℕ} {entry : Json}
    {table : Table Bytes} (hb : (blockOf label blockStart frames).Packable)
    (hentry : ParityEntry blockStart frames parityIndex parity entry) (hindex : parityIndex ≤ 1)
    (hnew : parityIndex ∉ table.keys) (hparity : (if parityIndex = 0 then p else q) = parity) :
    Clean (readParity (blockOf label blockStart frames) p q table (entry, position))
      (table.put parityIndex parity) := by
  obtain ⟨d, rfl, hidx, hdata, hpayload⟩ := hentry
  simp only [readParity, Run.liftM_eq, clean_bind, clean_lift, asObject_eq_ok, integer_eq_ok,
    require_eq_ok, hexBytes_eq_ok, clean_compareBytes, clean_ite, clean_pure]
  refine ⟨d, rfl, parityIndex, ⟨hidx, hindex⟩, (), hnew, parity, hdata, (), hparity.symm, ?_⟩
  rw [hparity]
  exact .inl ⟨rfl, _, fecPayload_eq hb rfl hindex parity, _, hpayload, (), rfl, rfl⟩

end Frames

/-! ### Recovery -/

section Recovery
variable {label : Msg} {blockStart : ℕ} {frames : List Bytes} {received missing : List ℕ}
  {table : Table Bytes}

theorem blockOf_sized (hn6 : frames.length ≤ 6) : (blockOf label blockStart frames).Sized :=
  ⟨by simp [blockOf, memberSequences_eq], hn6⟩

theorem blockOf_sequences :
    (blockOf label blockStart frames).sequences = wireSequences blockStart frames.length :=
  memberSequences_eq

/-- The table from sequence to frame. -/
theorem lookup_source (hn6 : frames.length ≤ 6) {sequence : ℕ} {frame : Bytes}
    (h : (sequence, frame) ∈ (wireSequences blockStart frames.length).zip frames) :
    (blockOf label blockStart frames).sourceBySequence.lookup sequence = some frame := by
  rw [Block.sourceBySequence, blockOf_sequences]
  exact Table.lookup_ofZip (nodup_wireSequences hn6) length_wireSequences h

theorem lookup_source_getElem (hn6 : frames.length ≤ 6) {i : ℕ}
    (hs : i < (wireSequences blockStart frames.length).length) (hf : i < frames.length) :
    (blockOf label blockStart frames).sourceBySequence.lookup
      (wireSequences blockStart frames.length)[i] = some frames[i] :=
  lookup_source hn6 (List.mem_iff_getElem.mpr ⟨i, by simpa using hf, List.getElem_zip⟩)

/-- The table of the received frames is the source table restricted to the received sequences. -/
theorem keepReceived_eq {block : Block} (hb : block.Sized)
    (hsub : ∀ sequence ∈ received, sequence ∈ block.sequences) (table : Table Bytes) :
    ∃ table', received.foldlM (keepReceived block) table = .ok table' ∧
      ∀ s, table'.lookup s
        = if s ∈ received then block.sourceBySequence.lookup s else table.lookup s := by
  induction received generalizing table with
  | nil => exact ⟨table, rfl, fun s => by simp⟩
  | cons sequence received ih =>
    rw [List.forall_mem_cons] at hsub
    obtain ⟨frame, hframe⟩ := Option.isSome_iff_exists.mp
      (Table.lookup_isSome.mpr (hb.mem_keys.mpr hsub.1))
    obtain ⟨table', hok, hlookup⟩ := ih hsub.2 (table.put sequence frame)
    refine ⟨table', ?_, fun s => ?_⟩
    · rw [List.foldlM_cons, keepReceived, Table.get_eq_ok.mpr hframe]
      exact hok
    · rw [hlookup, Table.lookup_put]
      by_cases hs : s = sequence
      · simp [hs, hframe]
      · simp [hs]

/-- What is received agrees with what was sent. -/
theorem paddedFrames_agrees (hn6 : frames.length ≤ 6)
    (htable : ∀ s, table.lookup s = if s ∈ received
      then (blockOf label blockStart frames).sourceBySequence.lookup s else none) :
    Agrees (paddedFrames (blockOf label blockStart frames) table) (padded frames) := by
  refine List.forall₂_iff_get.mpr ⟨by simp [paddedFrames, blockOf_sequences, padded],
    fun i hi hi' f hf => ?_⟩
  have hif : i < frames.length := by simpa [padded] using hi'
  have his : i < (wireSequences blockStart frames.length).length := by simpa using hif
  simp only [paddedFrames, blockOf_sequences, List.get_eq_getElem, List.getElem_map, htable,
    lookup_source_getElem hn6 his hif, Option.mem_def, Option.map_eq_some_iff] at hf
  obtain ⟨frame, hframe, rfl⟩ := hf
  split at hframe
  · cases hframe
    simp [padded, blockOf]
  · cases hframe

/-- At most the missing sequences lack a frame. -/
theorem length_missingIndexes_le (hn6 : frames.length ≤ 6)
    (hcover : ∀ s ∈ wireSequences blockStart frames.length, s ∈ received ∨ s ∈ missing)
    (htable : ∀ s, table.lookup s = if s ∈ received
      then (blockOf label blockStart frames).sourceBySequence.lookup s else none) :
    (missingIndexes (paddedFrames (blockOf label blockStart frames) table)).length
      ≤ missing.length := by
  have hat : ∀ i ∈ missingIndexes (paddedFrames (blockOf label blockStart frames) table),
      ∃ hs : i < (wireSequences blockStart frames.length).length,
        (wireSequences blockStart frames.length)[i] ∈ missing := by
    intro i hi
    obtain ⟨hlt, hnone⟩ := mem_missingIndexes.mp hi
    have hs : i < (wireSequences blockStart frames.length).length := by
      simpa [paddedFrames, blockOf_sequences] using hlt
    refine ⟨hs, (hcover _ (List.getElem_mem hs)).resolve_left fun hrec => ?_⟩
    rw [List.getD_eq_getElem _ _ hlt] at hnone
    simp only [paddedFrames, blockOf_sequences, List.getElem_map, htable, if_pos hrec,
      lookup_source_getElem hn6 hs (by simpa using hs), Option.map_some, reduceCtorEq] at hnone
  have hsub : ((missingIndexes (paddedFrames (blockOf label blockStart frames) table)).map
      ((wireSequences blockStart frames.length).getD · 0)) ⊆ missing := by
    intro s hmem
    obtain ⟨i, hi, rfl⟩ := List.mem_map.mp hmem
    obtain ⟨hs, hmiss⟩ := hat i hi
    rwa [List.getD_eq_getElem _ _ hs]
  have hnodup := (nodup_missingIndexes (paddedFrames (blockOf label blockStart frames) table)).map_on
    (f := ((wireSequences blockStart frames.length).getD · 0)) fun i hi j hj heq => by
      obtain ⟨⟨hi, -⟩, hj, -⟩ := And.intro (hat i hi) (hat j hj)
      rw [List.getD_eq_getElem _ _ hi, List.getD_eq_getElem _ _ hj] at heq
      exact (nodup_wireSequences hn6).getElem_inj_iff.mp heq
  simpa using (hnodup.subperm hsub).length_le

theorem zipWith_take_padded (width : ℕ) : ∀ frames : List Bytes,
    List.zipWith (fun frame length => frame.take length) (frames.map (ljust · width))
      (frames.map List.length) = frames
  | [] => rfl
  | frame :: frames => by
    rw [List.map_cons, List.map_cons, List.zipWith_cons_cons, take_ljust, zipWith_take_padded]

/-- A receiver of the conforming parities gets every frame back. -/
theorem recoverFrames_padded {p q : Bytes} (hn : 1 ≤ frames.length) (hn6 : frames.length ≤ 6)
    (hbytes : ∀ frame ∈ frames, 1 ≤ frame.length)
    (hencode : encodeParity (padded frames) = .ok (p, q)) (hmissing : missing.length ≤ 2)
    (hcover : ∀ s ∈ wireSequences blockStart frames.length, s ∈ received ∨ s ∈ missing)
    (htable : ∀ s, table.lookup s = if s ∈ received
      then (blockOf label blockStart frames).sourceBySequence.lookup s else none) :
    recoverFrames (paddedFrames (blockOf label blockStart frames) table) p q
      (frames.map List.length) = .ok frames := by
  have hne : frames ≠ [] := List.length_pos_iff.mp hn
  obtain ⟨⟨frame, hframe, hlongest⟩, hle, hwide⟩ := length_of_padded (max?_eq_longest hne)
  have hw : 1 ≤ longest frames := hlongest ▸ hbytes frame hframe
  have hcount : (padded frames).length = frames.length := by simp [padded]
  obtain ⟨p', q', hok, hp, hq, hpvec, hqvec⟩ :=
    encodeParity_spec (hcount ▸ hn) (hcount ▸ hn6) hw hwide
  cases hok.symm.trans hencode
  have hlengths : List.Forall₂ (fun frame length => 1 ≤ length ∧ length ≤ frame.length)
      (padded frames) (frames.map List.length) := by
    rw [padded, List.forall₂_map_left_iff, List.forall₂_map_right_iff, List.forall₂_same]
    exact fun frame hmem => ⟨hbytes frame hmem, by simp⟩
  have hrecover := recoverFrames_agrees (hcount ▸ hn) (hcount ▸ hn6) hwide
    (paddedFrames_agrees hn6 htable)
    ((length_missingIndexes_le hn6 hcover htable).trans hmissing) hp hq hpvec hqvec hlengths
  exact hrecover.trans (congrArg Except.ok (zipWith_take_padded (longest frames) frames))

/-- The entries of `expectedRecovered` fill a table of missing sequences and their frames. -/
theorem foldlM_readExpected (label : Msg) (table : Table Bytes) {R : ℕ → Bytes → Prop}
    (hle : ∀ s frame, R s frame → s ≤ 0xFFFF) {listed : List ℕ} {items : List Json}
    (hitems : List.Forall₂ (fun s item => ∃ frame, R s frame ∧ FrameEntry s frame item) listed items)
    (htable : ∀ item ∈ table, R item.1 item.2) :
    ∃ table', items.foldlM (readExpected label) table = .ok table' ∧
      (∀ item ∈ table', R item.1 item.2) ∧
      ∀ s, s ∈ table'.keys ↔ s ∈ listed ∨ s ∈ table.keys := by
  induction hitems generalizing table with
  | nil => exact ⟨table, rfl, htable, by simp⟩
  | @cons s item listed items hitem _ ih =>
    obtain ⟨frame, hR, d, rfl, hseq, hdata⟩ := hitem
    have hread : readExpected label table (.obj d) = .ok (table.put s frame) := by
      simp only [readExpected, bind_eq_ok, asObject_eq_ok, integer_eq_ok, hexBytes_eq_ok]
      exact ⟨d, rfl, s, ⟨hseq, hle s frame hR⟩, frame, hdata, rfl⟩
    obtain ⟨table', hok, hall, hkeys⟩ := ih (table.put s frame) fun item hmem => by
      rcases Table.mem_put hmem with rfl | hmem
      · exact hR
      · exact htable item hmem
    refine ⟨table', by rw [List.foldlM_cons, hread]; exact hok, hall, fun k => ?_⟩
    rw [hkeys, Table.mem_keys_put, List.mem_cons]
    tauto

theorem clean_checkExpected {recovery : Dict} {items : List Json} {listed : List ℕ}
    (hn6 : frames.length ≤ 6)
    (hget : Dict.getD recovery "expectedRecovered" (.arr []) = .arr items)
    (hperm : listed.Perm missing)
    (hitems : List.Forall₂ (fun sequence item => ∃ frame,
      (sequence, frame) ∈ (wireSequences blockStart frames.length).zip frames ∧
        FrameEntry sequence frame item) listed items) {msg : Msg} :
    Clean (checkExpected (blockOf label blockStart frames) msg recovery missing frames) () := by
  obtain ⟨table, hok, hall, hkeys⟩ := foldlM_readExpected msg []
    (fun s frame h => wireSequences_le (List.of_mem_zip h).1) hitems nofun
  have hset : table.keys.toFinset = missing.toFinset := by
    ext s
    rw [List.mem_toFinset, List.mem_toFinset, hkeys, hperm.mem_iff]
    simp [Table.keys]
  simp only [checkExpected, Run.liftM_eq, clean_bind, clean_lift, asArray_eq_ok, require_eq_ok]
  refine ⟨items, hget, table, hok, (), by simp [hset], clean_forM.mpr fun item hmem => ?_⟩
  obtain ⟨i, hi, heq⟩ := List.getElem_of_mem (hall item hmem)
  have hif : i < frames.length := by simpa using hi
  have his : i < (wireSequences blockStart frames.length).length := by simpa using hif
  rw [List.getElem_zip] at heq
  obtain ⟨hs, hf⟩ := Prod.ext_iff.mp heq
  simp only [clean_bind, clean_lift, indexOf_eq_ok, index_eq_ok, clean_compareBytes,
    blockOf_sequences]
  refine ⟨i, ⟨hs ▸ List.getElem_mem his, ?_⟩, item.2, ?_, rfl⟩
  · rw [← hs]
    exact (nodup_wireSequences hn6).idxOf_getElem i his
  · rw [← hf]
    exact List.getElem?_eq_getElem hif

theorem clean_recoveryCase {p q : Bytes} {parity : Table Bytes} {case : Json} {position : ℕ}
    (hn : 1 ≤ frames.length) (hn6 : frames.length ≤ 6)
    (hbytes : ∀ frame ∈ frames, 1 ≤ frame.length)
    (hencode : encodeParity (padded frames) = .ok (p, q)) (hp : parity.lookup 0 = some p)
    (hq : parity.lookup 1 = some q) (hcase : ConformingRecovery blockStart frames case) :
    Clean (recoveryCase (blockOf label blockStart frames) parity case position) () := by
  obtain ⟨d, received, missing, items, rfl, hreceived, hmissing, hsplit, htwo, houtput, hexpected,
    listed, hperm, hitems⟩ := hcase
  have hsized : (blockOf label blockStart frames).Sized := blockOf_sized hn6
  have hsequences : (blockOf label blockStart frames).sequences = _ := blockOf_sequences
  have hmem : ∀ s, s ∈ received ∨ s ∈ missing ↔ s ∈ wireSequences blockStart frames.length :=
    fun s => List.mem_append.symm.trans hsplit.mem_iff
  have hle : ∀ s, s ∈ received ∨ s ∈ missing → s ≤ 0xFFFF := fun s h =>
    wireSequences_le ((hmem s).mp h)
  have hdisjoint : ∀ s ∈ received, s ∉ missing :=
    (List.nodup_append.mp (hsplit.nodup_iff.mpr (nodup_wireSequences hn6))).2.2 |>
      fun h s hs hs' => h s hs s hs' rfl
  obtain ⟨table, htable, hlookup⟩ := keepReceived_eq hsized
    (fun s hs => hsequences ▸ (hmem s).mp (.inl hs)) []
  have hrecovered : recoverFrames (paddedFrames (blockOf label blockStart frames) table) p q
      (frames.map List.length) = .ok frames :=
    recoverFrames_padded hn hn6 hbytes hencode htwo (fun s hs => (hmem s).mpr hs)
      (by simpa using hlookup)
  simp only [recoveryCase, Run.liftM_eq, clean_bind, clean_lift, asObject_eq_ok, asArray_eq_ok,
    require_eq_ok, Table.get_eq_ok, zipStrict_eq_ok, clean_compare]
  refine ⟨d, rfl, _, hreceived, _, hmissing, _, houtput, received,
    sequenceNumbers_ints fun s hs => hle s (.inl hs), missing,
    sequenceNumbers_ints fun s hs => hle s (.inr hs), (), ?_, (), ?_, (), htwo, table, htable, p, hp,
    q, hq, frames, hrecovered, _, ⟨hsized.sequences, rfl⟩, (), ?_, _,
    sequenceNumbers_ints fun s hs => wireSequences_le hs, (), ?_,
    clean_checkExpected hn6 hexpected hperm hitems⟩
  · ext s
    simp [hsequences, hmem]
  · ext s
    simpa using hdisjoint s
  · refine clean_forM.mpr fun pair hpair => ?_
    rw [hsequences] at hpair
    simp only [clean_bind, clean_lift, Table.get_eq_ok, clean_compareBytes]
    exact ⟨_, lookup_source hn6 hpair, rfl⟩
  · rw [hsequences, Json.eq_ints]

end Recovery

/-- COMPLETENESS: a conforming block is accepted without an error. -/
theorem validateBlock_conforming (label : Msg) (maxFrameBytes blockStart : ℕ) (frames : List Bytes)
    (value : Dict) (hmax : maxFrameBytes ≤ 65535)
    (h : ConformingBlock maxFrameBytes blockStart frames value) :
    validateBlock label value maxFrameBytes true = .returned () [] := by
  obtain ⟨hstart, hn, hn6, hlen, hbs, hsize, ⟨entries, hentries, hframes⟩,
    ⟨p, q, first, second, hencode, hparity, hpq⟩, cases, hcases, hrecovery⟩ := h
  have hne : frames ≠ [] := List.length_pos_iff.mp hn
  have hpackable : (blockOf label blockStart frames).Packable := by
    refine ⟨hstart, hn6, fun _ => ?_⟩
    simp only [blockOf, Block.lengths, List.forall_mem_map]
    exact fun frame hmem => (hlen frame hmem).2.trans hmax
  have hcount : entries.length = frames.length := by
    simpa using hframes.length_eq.symm
  -- P and Q may come in either order; the table has both.
  obtain ⟨parity, hread, hp, hq⟩ : ∃ parity : Table Bytes,
      Clean ([first, second].zipIdx.foldlM
        (readParity (blockOf label blockStart frames) p q) []) parity ∧
      parity.lookup 0 = some p ∧ parity.lookup 1 = some q := by
    have hfold : ∀ t t', Clean (readParity (blockOf label blockStart frames) p q [] (first, 0)) t →
        Clean (readParity (blockOf label blockStart frames) p q t (second, 1)) t' →
        Clean ([first, second].zipIdx.foldlM
          (readParity (blockOf label blockStart frames) p q) []) t' := fun t t' ht ht' => by
      simp only [List.zipIdx_cons, List.zipIdx_nil, List.foldlM_cons, List.foldlM_nil, clean_bind,
        clean_pure]
      exact ⟨t, ht, t', ht', rfl⟩
    rcases hpq with ⟨h₀, h₁⟩ | ⟨h₁, h₀⟩
    · exact ⟨_, hfold _ _ (clean_readParity hpackable h₀ (by decide) (by decide) rfl)
        (clean_readParity hpackable h₁ (by decide) (by simp [Table.keys, Table.put]) rfl),
        by simp [Table.lookup_put], by simp [Table.lookup_put]⟩
    · exact ⟨_, hfold _ _ (clean_readParity hpackable h₁ (by decide) (by decide) rfl)
        (clean_readParity hpackable h₀ (by decide) (by simp [Table.keys, Table.put]) rfl),
        by simp [Table.lookup_put], by simp [Table.lookup_put]⟩
  have hblock : Clean (validateBlock label value maxFrameBytes true) () := by
    simp only [validateBlock, Run.liftM_eq, clean_bind, clean_lift, integer_eq_ok, asArray_eq_ok,
      require_eq_ok, maxOf_eq_ok, if_true]
    refine ⟨blockStart, ⟨hbs, hstart⟩, frames.length, ⟨hsize, hn6⟩, (), by omega, entries, hentries,
      _, hparity, (), hcount, (), rfl, frames, clean_readFrames hframes hlen, longest frames,
      max?_eq_longest hne, (p, q), hencode, parity, hread, (),
      keys_of_readParity rfl hread.returns, cases, hcases, clean_forM.mpr fun item hitem => ?_⟩
    exact clean_recoveryCase hn hn6 (fun frame hmem => (hlen frame hmem).1) hencode hp hq
      (hrecovery item.1 (List.fst_mem_of_mem_zipIdx hitem))
  exact hblock

/-- A block of two frames across the wrap, P listed after Q, with the second frame lost. -/
def wrapBlock : Dict :=
  [("blockStart", .int 65535), ("blockSize", .int 2),
    ("frames", .arr
      [.obj [("audioSeq", .int 65535), ("dataHex", .str "01")],
        .obj [("audioSeq", .int 0), ("dataHex", .str "0203")]]),
    ("parity", .arr
      [.obj [("parityIndex", .int 1), ("dataHex", .str "0506"),
          ("fecPayloadHex", .str "02ffff0201000100020506")],
        .obj [("parityIndex", .int 0), ("dataHex", .str "0303"),
          ("fecPayloadHex", .str "02ffff0200000100020303")]]),
    ("recoveryCases", .arr
      [.obj [("receivedSequences", .arr [.int 65535]), ("missingSequences", .arr [.int 0]),
        ("expectedOutputSequences", .arr [.int 65535, .int 0]),
        ("expectedRecovered", .arr [.obj [("audioSeq", .int 0), ("dataHex", .str "0203")]])]])]

theorem encodeParity_wrapBlock : encodeParity (padded [[1], [2, 3]]) = .ok ([3, 3], [5, 6]) := by
  have h : (encodeParity (padded [[1], [2, 3]])).toOption = some ([3, 3], [5, 6]) := by
    decide +kernel
  cases hrun : encodeParity (padded [[1], [2, 3]]) <;> simp_all [Except.toOption]

theorem wrapBlock_conforming : ConformingBlock 80 65535 [[1], [2, 3]] wrapBlock where
  start_le := by decide
  one_le_size := by decide
  size_le := by decide
  frame_length := by decide
  blockStart_eq := rfl
  blockSize_eq := rfl
  frames_eq := ⟨_, rfl, .cons ⟨_, rfl, rfl, _, rfl, rfl⟩ (.cons ⟨_, rfl, rfl, _, rfl, rfl⟩ .nil)⟩
  parity_eq := ⟨[3, 3], [5, 6], _, _, encodeParity_wrapBlock, rfl,
    .inr ⟨⟨_, rfl, rfl, ⟨_, rfl, rfl⟩, _, rfl, rfl⟩, ⟨_, rfl, rfl, ⟨_, rfl, rfl⟩, _, rfl, rfl⟩⟩⟩
  recoveryCases_eq := ⟨_, rfl, List.forall_mem_singleton.mpr
    ⟨_, [65535], [0], _, rfl, rfl, rfl, .refl _, by decide, rfl, rfl, [0], .refl _,
      .cons ⟨[2, 3], by decide, _, rfl, rfl, _, rfl, rfl⟩ .nil⟩⟩

theorem validateBlock_conforming_wrap :
    validateBlock ["block"] wrapBlock 80 true = .returned () [] :=
  validateBlock_conforming ["block"] 80 65535 [[1], [2, 3]] wrapBlock (by decide) wrapBlock_conforming

end IncomUdon.Fec
