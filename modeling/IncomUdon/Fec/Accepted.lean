import IncomUdon.Fec.Conforming

/-! Accepted FEC v2 blocks, read back from a run without an error. The check rebuilds the block from
    its frames and compares, so acceptance says what the object lists:

        frames             one entry for each sequence, in order
        missingSequences   numbers, at most two
        expectedRecovered  entries for these; of those with one number the LAST is compared -/

namespace IncomUdon.Fec
open IncomUdon.Python IncomUdon.Lib.ErrorLog

/-- A recovery case that was accepted: the entries `listed` are for the sequences `missing`, and the
    last one for each sequence has its frame. -/
structure AcceptedRecovery (blockStart : ℕ) (frames : List Bytes) (recovery : Dict)
    (missing : List ℕ) (listed : List (ℕ × Bytes)) : Prop where
  missing_eq : Dict.get recovery "missingSequences" = .ints missing
  listed_eq : ∃ items, Dict.getD recovery "expectedRecovered" (.arr []) = .arr items ∧
    List.Forall₂ (fun entry item => FrameEntry entry.1 entry.2 item) listed items
  named : ∀ sequence, sequence ∈ listed.map Prod.fst ↔ sequence ∈ missing
  compared : ∀ sequence frame, listed.reverse.lookup sequence = some frame →
    (sequence, frame) ∈ (wireSequences blockStart frames.length).zip frames

/-- A block that was accepted, with its frames. -/
structure AcceptedBlock (maxFrameBytes blockStart : ℕ) (frames : List Bytes) (value : Dict) :
    Prop where
  start_le : blockStart ≤ 65535
  one_le_size : 1 ≤ frames.length
  size_le : frames.length ≤ 6
  frame_length : ∀ frame ∈ frames, 1 ≤ frame.length ∧ frame.length ≤ maxFrameBytes
  frames_eq : ∃ entries, Dict.get value "frames" = .arr entries ∧
    List.Forall₂ (fun labelled entry => FrameEntry labelled.1 labelled.2 entry)
      ((wireSequences blockStart frames.length).zip frames) entries
  recoveryCases_eq : ∃ cases, Dict.get value "recoveryCases" = .arr cases ∧
    ∀ case ∈ cases, ∃ recovery missing listed, case = .obj recovery ∧
      AcceptedRecovery blockStart frames recovery missing listed

section Numbers
variable {label : Msg} {values : List Json} {numbers : List ℕ}

theorem sequenceNumbers_eq_ok :
    sequenceNumbers values label = .ok numbers ↔
      values = numbers.map (fun n : ℕ => .int n) ∧ ∀ n ∈ numbers, n ≤ 0xFFFF := by
  rw [sequenceNumbers, mapM_eq_ok]
  constructor
  · intro h
    induction h with
    | nil => simp
    | cons hvalue _ ih =>
      obtain ⟨rfl, hle⟩ := integer_eq_ok.mp hvalue
      exact ⟨by rw [ih.1, List.map_cons], List.forall_mem_cons.mpr ⟨hle, ih.2⟩⟩
  · rintro ⟨rfl, hle⟩
    exact List.forall₂_map_left_iff.mpr (List.forall₂_same.mpr fun n hn =>
      integer_eq_ok.mpr ⟨rfl, hle n hn⟩)

end Numbers

/-! ### The entries of `expectedRecovered` -/

section Expected
variable {label : Msg} {items : List Json} {table table' : Table Bytes}

theorem readExpected_eq_ok {item : Json} :
    readExpected label table item = .ok table' ↔
      ∃ entry : ℕ × Bytes, FrameEntry entry.1 entry.2 item ∧ entry.1 ≤ 0xFFFF ∧
        table.put entry.1 entry.2 = table' := by
  simp only [readExpected, bind_eq_ok, asObject_eq_ok, integer_eq_ok, hexBytes_eq_ok, FrameEntry]
  constructor
  · rintro ⟨d, rfl, sequence, ⟨hsequence, hle⟩, data, hdata, hput⟩
    exact ⟨(sequence, data), ⟨d, rfl, hsequence, hdata⟩, hle, Except.ok.inj hput⟩
  · rintro ⟨⟨sequence, data⟩, ⟨d, rfl, hsequence, hdata⟩, hle, rfl⟩
    exact ⟨d, rfl, sequence, ⟨hsequence, hle⟩, data, hdata, rfl⟩

/-- The loop stores the entries in the order of the list. -/
theorem entries_of_foldlM_readExpected (h : items.foldlM (readExpected label) table = .ok table') :
    ∃ listed : List (ℕ × Bytes),
      List.Forall₂ (fun entry item => FrameEntry entry.1 entry.2 item) listed items ∧
      listed.foldl (fun t entry => t.put entry.1 entry.2) table = table' := by
  induction items generalizing table with
  | nil => exact ⟨[], .nil, Except.ok.inj h⟩
  | cons item items ih =>
    rw [List.foldlM_cons, bind_eq_ok] at h
    obtain ⟨next, hread, hrest⟩ := h
    obtain ⟨entry, hentry, -, rfl⟩ := readExpected_eq_ok.mp hread
    obtain ⟨listed, hlisted, hfold⟩ := ih hrest
    exact ⟨entry :: listed, .cons hentry hlisted, hfold⟩

end Expected

/-! ### One recovery case -/

section Recovery
variable {label : Msg} {blockStart : ℕ} {frames recovered : List Bytes} {recovery : Dict}
  {missing : List ℕ}

/-- A position of the frames is where the search for its sequence ends. -/
theorem mem_zip_of_indexOf {sequence position : ℕ} {frame : Bytes}
    (hindex : sequence ∈ wireSequences blockStart frames.length ∧
      (wireSequences blockStart frames.length).idxOf sequence = position)
    (hframe : frames[position]? = some frame) :
    (sequence, frame) ∈ (wireSequences blockStart frames.length).zip frames := by
  obtain ⟨hmem, rfl⟩ := hindex
  obtain ⟨hlt, rfl⟩ := List.getElem?_eq_some_iff.mp hframe
  have hseq := List.idxOf_lt_length_of_mem hmem
  refine List.mem_iff_getElem.mpr ⟨_, by simpa using hlt, ?_⟩
  rw [List.getElem_zip, List.getElem_idxOf hseq]

/-- The comparison of the recovered frames leaves none but the source frames. -/
theorem eq_frames_of_compared (hn6 : frames.length ≤ 6) (hlen : frames.length = recovered.length)
    (hsource : ∀ pair ∈ (wireSequences blockStart frames.length).zip recovered,
      (blockOf label blockStart frames).sourceBySequence.lookup pair.1 = some pair.2) :
    recovered = frames := by
  refine List.ext_getElem hlen.symm fun i hi hi' => ?_
  have hs : i < (wireSequences blockStart frames.length).length := by simpa using hi'
  have hpair := hsource ((wireSequences blockStart frames.length)[i], recovered[i])
    (List.mem_iff_getElem.mpr ⟨i, by simpa using ⟨hi', hi⟩, List.getElem_zip⟩)
  rw [lookup_source_getElem hn6 hs hi'] at hpair
  exact (Option.some.inj hpair).symm

theorem accepted_of_clean_checkExpected {msg : Msg}
    (hmissing : Dict.get recovery "missingSequences" = .ints missing)
    (h : Clean (checkExpected (blockOf label blockStart frames) msg recovery missing frames) ()) :
    ∃ listed, AcceptedRecovery blockStart frames recovery missing listed := by
  simp only [checkExpected, Run.liftM_eq, clean_bind, clean_lift, asArray_eq_ok, require_eq_ok] at h
  obtain ⟨items, hitems, table, hfold, -, hkeys, hloop⟩ := h
  obtain ⟨listed, hlisted, rfl⟩ := entries_of_foldlM_readExpected hfold
  refine ⟨listed, hmissing, ⟨items, hitems, hlisted⟩, fun sequence => ?_,
    fun sequence frame hlast => ?_⟩
  · have hset := (not_and_not_right.mp hkeys) rfl
    rw [← List.mem_toFinset (l := missing), ← hset, List.mem_toFinset,
      Table.mem_keys_foldl_put fun entry => entry]
    simp [Table.keys]
  · have hstored := mem_of_lookup
      ((Table.lookup_foldl_put_last listed [] sequence).trans (congrArg (Option.or · none) hlast))
    have hcompare := clean_forM.mp hloop _ hstored
    simp only [clean_bind, clean_lift, indexOf_eq_ok, index_eq_ok, clean_compareBytes,
      blockOf_sequences] at hcompare
    obtain ⟨position, hposition, actual, hactual, rfl⟩ := hcompare
    exact mem_zip_of_indexOf hposition hactual

/-- ACCEPTED CASE: what a recovery case lists when it passes. -/
theorem accepted_of_clean_recoveryCase {parity : Table Bytes} {case : Json} {position : ℕ}
    (hn6 : frames.length ≤ 6)
    (h : Clean (recoveryCase (blockOf label blockStart frames) parity case position) ()) :
    ∃ recovery missing listed, case = .obj recovery ∧
      AcceptedRecovery blockStart frames recovery missing listed := by
  simp only [recoveryCase, Run.liftM_eq, clean_bind, clean_lift, asObject_eq_ok, asArray_eq_ok,
    require_eq_ok, Table.get_eq_ok, zipStrict_eq_ok, clean_compare] at h
  obtain ⟨recovery, rfl, -, -, values, hvalues, -, -, -, -, missing, hnumbers, -, -, -, -, -, -, -,
    -, -, -, -, -, recovered, -, _, ⟨hlength, rfl⟩, ⟨⟩, hloop, -, -, -, -, hexpected⟩ := h
  rw [blockOf_sequences] at hlength hloop
  have hsource : ∀ pair ∈ (wireSequences blockStart frames.length).zip recovered,
      (blockOf label blockStart frames).sourceBySequence.lookup pair.1 = some pair.2 := by
    intro pair hpair
    have hcompare := clean_forM.mp hloop pair hpair
    simp only [clean_bind, clean_lift, Table.get_eq_ok, clean_compareBytes] at hcompare
    obtain ⟨source, hlookup, rfl⟩ := hcompare
    exact hlookup
  have hrecovered : recovered = frames := eq_frames_of_compared hn6 (by simpa using hlength) hsource
  rw [(sequenceNumbers_eq_ok.mp hnumbers).1] at hvalues
  obtain ⟨listed, haccepted⟩ := accepted_of_clean_checkExpected hvalues (hrecovered ▸ hexpected)
  exact ⟨recovery, missing, listed, rfl, haccepted⟩

end Recovery

/-! ### The frames -/

section Frames
variable {label : Msg} {maxFrameBytes blockStart : ℕ} {frames : List Bytes} {entries : List Json}

theorem entry_of_clean_readFrame {sequences : List ℕ} {position : ℕ} {frame : Bytes} {entry : Json}
    (h : Clean (readFrame label maxFrameBytes sequences entry position) frame) :
    ∃ sequence, sequences[position]? = some sequence ∧ FrameEntry sequence frame entry ∧
      1 ≤ frame.length ∧ frame.length ≤ maxFrameBytes := by
  simp only [readFrame, Run.liftM_eq, clean_bind, clean_lift, asObject_eq_ok, integer_eq_ok,
    index_eq_ok, clean_compare, hexBytes_eq_ok, require_eq_ok, clean_pure] at h
  obtain ⟨d, rfl, sequence, ⟨hsequence, -⟩, expected, hexpected, -, heq, data, hdata, -, hlen,
    rfl⟩ := h
  rw [Json.eq_ints, List.singleton_inj] at heq
  exact ⟨expected, hexpected, ⟨d, rfl, heq ▸ hsequence, hdata⟩, hlen⟩

/-- ACCEPTED FRAMES: the entries are for the sequences of the block, in order. -/
theorem frameEntries_of_clean_readFrames (hcount : entries.length = frames.length)
    (h : Clean (entries.zipIdx.mapM fun item => readFrame label maxFrameBytes
      (memberSequences blockStart frames.length) item.1 item.2) frames) :
    List.Forall₂ (fun labelled entry => FrameEntry labelled.1 labelled.2 entry)
      ((wireSequences blockStart frames.length).zip frames) entries ∧
      ∀ frame ∈ frames, 1 ≤ frame.length ∧ frame.length ≤ maxFrameBytes := by
  have hat : ∀ i (hi : i < frames.length) (hi' : i < entries.length), ∃ sequence,
      (wireSequences blockStart frames.length)[i]? = some sequence ∧
        FrameEntry sequence frames[i] entries[i] ∧
        1 ≤ frames[i].length ∧ frames[i].length ≤ maxFrameBytes := by
    intro i hi hi'
    have hread := (List.forall₂_iff_get.mp (clean_mapM.mp h)).2 i (by simpa using hi') hi
    simp only [List.get_eq_getElem, List.getElem_zipIdx, Nat.zero_add, memberSequences_eq] at hread
    exact entry_of_clean_readFrame hread
  constructor
  · refine List.forall₂_iff_get.mpr ⟨by simpa using hcount.symm, fun i hi hi' => ?_⟩
    have hif : i < frames.length := hcount ▸ hi'
    obtain ⟨sequence, hsequence, hentry, -⟩ := hat i hif hi'
    obtain ⟨hlt, rfl⟩ := List.getElem?_eq_some_iff.mp hsequence
    simpa using hentry
  · intro frame hframe
    obtain ⟨i, hi, rfl⟩ := List.getElem_of_mem hframe
    obtain ⟨-, -, -, hlen⟩ := hat i hi (hcount ▸ hi)
    exact hlen

end Frames

/-- ACCEPTED: a block that passes has the frames it lists, and its recovery cases are accepted. -/
theorem accepted_of_clean_validateBlock {label : Msg} {value : Dict} {maxFrameBytes : ℕ}
    (h : Clean (validateBlock label value maxFrameBytes true) ()) :
    ∃ blockStart frames, AcceptedBlock maxFrameBytes blockStart frames value := by
  simp only [validateBlock, Run.liftM_eq, clean_bind, clean_lift, integer_eq_ok, asArray_eq_ok,
    require_eq_ok, maxOf_eq_ok, if_true] at h
  obtain ⟨blockStart, ⟨-, hstart⟩, blockSize, ⟨-, hsize⟩, -, hpos, entries, hentries, -, -, -, hcount,
    -, -, frames, hread, width, hwidth, -, -, parity, -, -, -, cases, hcases, hloop⟩ := h
  have hframes : entries.length = frames.length := by
    simpa using (clean_mapM.mp hread).length_eq
  obtain rfl : frames.length = blockSize := hframes.symm.trans hcount
  obtain ⟨hlisted, hlength⟩ := frameEntries_of_clean_readFrames hframes hread
  have hne : frames ≠ [] := fun hnil => hpos (by rw [hnil]; rfl)
  obtain rfl : longest frames = width :=
    Option.some.inj ((max?_eq_longest hne).symm.trans hwidth)
  refine ⟨blockStart, frames, hstart, List.length_pos_iff.mpr hne, hsize, hlength,
    ⟨entries, hentries, hlisted⟩, cases, hcases, fun case hcase => ?_⟩
  obtain ⟨position, hposition⟩ := List.mem_iff_getElem?.mp hcase
  have hclean : Clean (recoveryCase (blockOf label blockStart frames) parity case position) () :=
    clean_forM.mp hloop _ (List.mk_mem_zipIdx_iff_getElem?.mpr hposition)
  exact accepted_of_clean_recoveryCase hsize hclean

/-! ### What acceptance says about the entries -/

/-- A recovery case of a block object. -/
def HasRecovery (value recovery : Dict) : Prop :=
  ∃ cases, Dict.get value "recoveryCases" = .arr cases ∧ .obj recovery ∈ cases

/-- An entry of the `expectedRecovered` array of a case. -/
def HasExpected (recovery : Dict) (item : Json) : Prop :=
  ∃ items, Dict.getD recovery "expectedRecovered" (.arr []) = .arr items ∧ item ∈ items

/-- The frame is listed in `frames` for the sequence. -/
def ListsFrame (value : Dict) (sequence : ℕ) (frame : Bytes) : Prop :=
  ∃ entries, Dict.get value "frames" = .arr entries ∧
    ∃ entry ∈ entries, FrameEntry sequence frame entry

/-- The entry is for a missing sequence, with exactly the frame that is listed for it. -/
def SoundEntry (value recovery : Dict) (item : Json) : Prop :=
  ∃ sequence frame missing, FrameEntry sequence frame item ∧
    Dict.get recovery "missingSequences" = .ints missing ∧ sequence ∈ missing ∧
    ∀ source, ListsFrame value sequence source ↔ source = frame

/-- Entries of one case with the same sequence have the same data. -/
def ConsistentExpected (value : Dict) : Prop :=
  ∀ recovery, HasRecovery value recovery → ∀ first second, HasExpected recovery first →
    HasExpected recovery second → ∀ sequence frame frame', FrameEntry sequence frame first →
      FrameEntry sequence frame' second → frame = frame'

/-- An entry has one reading. -/
theorem FrameEntry.unique {sequence sequence' : ℕ} {frame frame' : Bytes} {entry : Json}
    (h : FrameEntry sequence frame entry) (h' : FrameEntry sequence' frame' entry) :
    sequence = sequence' ∧ frame = frame' := by
  obtain ⟨d, rfl, hsequence, hframe⟩ := h
  obtain ⟨d', hd, hsequence', hframe'⟩ := h'
  cases hd
  exact ⟨by simpa [hsequence] using hsequence', isHex_unique hframe hframe'⟩

theorem exists_of_forall₂ {α β : Type} {R : α → β → Prop} {xs : List α} {ys : List β}
    (h : List.Forall₂ R xs ys) : (∀ x ∈ xs, ∃ y ∈ ys, R x y) ∧ ∀ y ∈ ys, ∃ x ∈ xs, R x y := by
  induction h with
  | nil => simp
  | cons hxy _ ih =>
    simp only [List.mem_cons, forall_eq_or_imp, exists_eq_or_imp]
    exact ⟨⟨.inl hxy, fun x hx => .inr (ih.1 x hx)⟩, .inl hxy, fun y hy => .inr (ih.2 y hy)⟩

section Entries
variable {maxFrameBytes blockStart : ℕ} {frames : List Bytes} {value recovery : Dict}

/-- The frames listed are the block's frames, each under its sequence. -/
theorem AcceptedBlock.listsFrame (hblock : AcceptedBlock maxFrameBytes blockStart frames value)
    {sequence : ℕ} {frame : Bytes} : ListsFrame value sequence frame ↔
      (sequence, frame) ∈ (wireSequences blockStart frames.length).zip frames := by
  obtain ⟨entries, hentries, hframes⟩ := hblock.frames_eq
  constructor
  · rintro ⟨entries', hentries', entry, hentry, hread⟩
    cases hentries.symm.trans hentries'
    obtain ⟨⟨s, f⟩, hmem, hlabelled⟩ := (exists_of_forall₂ hframes).2 entry hentry
    obtain ⟨rfl, rfl⟩ := hlabelled.unique hread
    exact hmem
  · intro hmem
    obtain ⟨entry, hentry, hread⟩ := (exists_of_forall₂ hframes).1 _ hmem
    exact ⟨entries, hentries, entry, hentry, hread⟩

/-- A sequence of the block has one frame. -/
theorem AcceptedBlock.listsFrame_iff (hblock : AcceptedBlock maxFrameBytes blockStart frames value)
    {sequence : ℕ} {frame : Bytes} (h : ListsFrame value sequence frame) (source : Bytes) :
    ListsFrame value sequence source ↔ source = frame := by
  refine ⟨fun hsource => ?_, fun hsource => hsource ▸ h⟩
  have hlookup : ((blockOf [] blockStart frames).sourceBySequence).lookup sequence = some frame :=
    lookup_source hblock.size_le (hblock.listsFrame.mp h)
  rw [lookup_source hblock.size_le (hblock.listsFrame.mp hsource)] at hlookup
  exact Option.some.inj hlookup

/-- The last entry for each sequence is sound, and so is every entry that repeats it. -/
theorem AcceptedBlock.sound_of_consistent
    (hblock : AcceptedBlock maxFrameBytes blockStart frames value)
    (hconsistent : ConsistentExpected value) (hrecovery : HasRecovery value recovery) {item : Json}
    (hitem : HasExpected recovery item) : SoundEntry value recovery item := by
  obtain ⟨cases, hcases, haccepted⟩ := hblock.recoveryCases_eq
  obtain ⟨cases', hcases', hmem⟩ := hrecovery
  cases hcases.symm.trans hcases'
  obtain ⟨recovery', missing, listed, hobj, hcase⟩ := haccepted _ hmem
  cases hobj
  obtain ⟨items, hitems, hlisted⟩ := hcase.listed_eq
  obtain ⟨items', hitems', hitem⟩ := hitem
  cases hitems.symm.trans hitems'
  obtain ⟨⟨sequence, frame⟩, hentry, hread⟩ := (exists_of_forall₂ hlisted).2 item hitem
  have hkey : sequence ∈ listed.map Prod.fst := List.mem_map_of_mem hentry
  have hkey' : sequence ∈ Table.keys listed.reverse := by simpa [Table.keys] using hkey
  obtain ⟨last, hlast⟩ := Option.isSome_iff_exists.mp (Table.lookup_isSome.mpr hkey')
  obtain ⟨item', hitem', hread'⟩ := (exists_of_forall₂ hlisted).1 (sequence, last)
    (List.mem_reverse.mp (mem_of_lookup hlast))
  obtain rfl : frame = last := hconsistent recovery ⟨cases, hcases, hmem⟩ item item'
    ⟨items, hitems, hitem⟩ ⟨items, hitems, hitem'⟩ sequence frame last hread hread'
  have hlists : ListsFrame value sequence frame :=
    hblock.listsFrame.mpr (hcase.compared sequence frame hlast)
  exact ⟨sequence, frame, missing, hread, hcase.missing_eq, (hcase.named sequence).mp hkey,
    hblock.listsFrame_iff hlists⟩

end Entries

/-- SOUNDNESS: in a block that passes, every entry of `expectedRecovered` is for a missing sequence
    and has its frame exactly when no two entries of one case disagree about a sequence. -/
theorem validateBlock_sound_iff (label : Msg) (value : Dict) (maxFrameBytes : ℕ)
    (h : validateBlock label value maxFrameBytes true = .returned () []) :
    (∀ recovery, HasRecovery value recovery → ∀ item, HasExpected recovery item →
      SoundEntry value recovery item) ↔ ConsistentExpected value := by
  obtain ⟨blockStart, frames, hblock⟩ := accepted_of_clean_validateBlock h
  constructor
  · intro hsound recovery hrecovery first second hfirst hsecond sequence frame frame' hread hread'
    obtain ⟨s, f, -, hentry, -, -, hlists⟩ := hsound recovery hrecovery first hfirst
    obtain ⟨s', f', -, hentry', -, -, hlists'⟩ := hsound recovery hrecovery second hsecond
    obtain ⟨rfl, rfl⟩ := hentry.unique hread
    obtain ⟨rfl, rfl⟩ := hentry'.unique hread'
    exact (hlists' f).mp ((hlists f).mpr rfl)
  · intro hconsistent recovery hrecovery item hitem
    exact hblock.sound_of_consistent hconsistent hrecovery hitem

theorem validateBlock_sound_iff_wrap :
    (∀ recovery, HasRecovery wrapBlock recovery → ∀ item, HasExpected recovery item →
      SoundEntry wrapBlock recovery item) ↔ ConsistentExpected wrapBlock :=
  validateBlock_sound_iff ["block"] wrapBlock 80 (clean_of_isClean (by decide +kernel))

/-- The second frame is lost, and listed twice as recovered: first wrong, then right. -/
def repeatedBlock : Dict :=
  [("blockStart", .int 65535), ("blockSize", .int 2),
    ("frames", .arr
      [.obj [("audioSeq", .int 65535), ("dataHex", .str "01")],
        .obj [("audioSeq", .int 0), ("dataHex", .str "0203")]]),
    ("parity", .arr
      [.obj [("parityIndex", .int 0), ("dataHex", .str "0303"),
          ("fecPayloadHex", .str "02ffff0200000100020303")],
        .obj [("parityIndex", .int 1), ("dataHex", .str "0506"),
          ("fecPayloadHex", .str "02ffff0201000100020506")]]),
    ("recoveryCases", .arr [.obj repeatedRecovery])]
where
  repeatedRecovery : Dict :=
    [("receivedSequences", .arr [.int 65535]), ("missingSequences", .arr [.int 0]),
      ("expectedOutputSequences", .arr [.int 65535, .int 0]),
      ("expectedRecovered", .arr [.obj wrongEntry,
        .obj [("audioSeq", .int 0), ("dataHex", .str "0203")]])]
  wrongEntry : Dict := [("audioSeq", .int 0), ("dataHex", .str "ff")]

/-- The wrong entry passes: the table keeps the last one only. -/
theorem repeatedBlock_unsound :
    validateBlock ["block"] repeatedBlock 80 true = .returned () [] ∧
      ∃ recovery item, HasRecovery repeatedBlock recovery ∧ HasExpected recovery item ∧
        ¬SoundEntry repeatedBlock recovery item := by
  refine ⟨clean_of_isClean (by decide +kernel), repeatedBlock.repeatedRecovery,
    .obj repeatedBlock.wrongEntry, ⟨_, rfl, .head _⟩, ⟨_, rfl, .head _⟩, ?_⟩
  rintro ⟨sequence, frame, -, hread, -, -, hlists⟩
  have hwrong : FrameEntry 0 [0xff] (.obj repeatedBlock.wrongEntry) := ⟨_, rfl, rfl, _, rfl, rfl⟩
  obtain ⟨rfl, rfl⟩ := hread.unique hwrong
  have hlisted : ListsFrame repeatedBlock 0 [2, 3] :=
    ⟨_, rfl, _, .tail _ (.head _), _, rfl, rfl, _, rfl, rfl⟩
  exact absurd ((hlists [2, 3]).mp hlisted) (by decide)

end IncomUdon.Fec
