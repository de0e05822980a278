import IncomUdon.Fec.Block
import IncomUdon.Fec.Recovery

/-! The FEC suite is total. Whatever the two vector files hold, every exception of a validator is
    ordinary: a validation error about the fixture, or the `ValueError` of `list.index`. So the
    handler catches it, and none of the errors that guard the arithmetic itself is ever raised:

        gf_inv(0)    operands of different length    a frame still missing    struct.error

    The facts come from the structural checks of `_validate_block`: at most six frames make the
    coefficients distinct, u16 bounds make every packed field fit, two parity entries with distinct
    indexes below two are P and Q. -/

namespace IncomUdon.Fec
open IncomUdon.Python IncomUdon.Loader IncomUdon.Lib.ErrorLog

/-- The errors that no fixture may cause. -/
inductive Internal : PyExc → Prop
  | inverseOfZero : Internal (.vectorValidation zeroInverse)
  | frameLeftMissing : Internal (.vectorValidation leftMissing)
  | operandsUnequal : Internal (.vectorValidation unequalOperands)
  | packing : Internal (.fault .structError)
  | parityIndexes (label : Msg) : Internal (.vectorValidation (parityIndexesMissing label))

/-- The last pieces of the internal messages. -/
def internalTexts : List String :=
  ["zero has no GF(256) inverse", "FEC recovery left a missing frame",
    "FEC operands must have equal padded lengths", " must contain parity indexes 0 and 1"]

/-- An error about the fixture. -/
def Ordinary : PyExc → Prop
  | .vectorValidation msg => ∀ text ∈ internalTexts, msg.getLast? ≠ some (.lit text)
  | .fault kind => kind = .valueError

theorem Ordinary.caught {exc : PyExc} (h : Ordinary exc) : fecCaught exc = true := by
  cases exc with
  | vectorValidation msg => rfl
  | fault kind => simp [fecCaught, show kind = .valueError from h]

theorem Ordinary.not_internal {exc : PyExc} (h : Ordinary exc) : ¬Internal exc := by
  intro hi
  cases hi with
  | packing => exact absurd h nofun
  | parityIndexes label => exact h _ (by simp [internalTexts]) List.getLast?_concat
  | _ => exact h _ (by simp [internalTexts]) rfl

/-! Only the last piece of a message counts. -/

@[simp] theorem ordinary_append {label msg : Msg} {frag : Frag} :
    Ordinary (.vectorValidation (label ++ frag :: msg)) ↔
      Ordinary (.vectorValidation (frag :: msg)) := by
  simp [Ordinary, List.getLast?_append]

@[simp] theorem ordinary_cons_cons {msg : Msg} {frag frag' : Frag} :
    Ordinary (.vectorValidation (frag :: frag' :: msg)) ↔
      Ordinary (.vectorValidation (frag' :: msg)) := by
  simp [Ordinary]

@[simp] theorem ordinary_lit {text : String} :
    Ordinary (.vectorValidation [.lit text]) ↔ text ∉ internalTexts := by
  simp only [Ordinary, List.getLast?_singleton, Option.some.injEq, Frag.lit.injEq, ne_eq]
  exact ⟨fun h hmem => h text hmem rfl, fun h _ hmem heq => h (heq ▸ hmem)⟩

@[simp] theorem ordinary_val {value : Json} : Ordinary (.vectorValidation [.val value]) := by
  simp [Ordinary]

@[simp] theorem ordinary_valueError : Ordinary (.fault .valueError) := rfl

@[simp] theorem throwsOnly_integer_ordinary {value : Json} {label : Msg} {maximum : ℕ} :
    ThrowsOnly Ordinary (integer value label maximum) :=
  throwsOnly_integer (by simp [integer.outOfRange])

@[simp] theorem throwsOnly_hexBytes_ordinary {value : Json} {label : Msg} :
    ThrowsOnly Ordinary (hexBytes value label) :=
  throwsOnly_hexBytes (by simp [internalTexts]) (by simp [internalTexts])

/-! ### Recovery with any parity -/

section Recover
variable {entries : List (Option Bytes)} {p q : Bytes} {lengths : List ℕ}

theorem addKnown_ordinary {w n : ℕ} {acc : Bytes × Bytes} {cf : ℕ × Option Bytes}
    (hcf : cf ∈ (coefficients n).zip entries) (hacc : acc.1.length = w ∧ acc.2.length = w) :
    ThrowsOnly Ordinary (addKnown w acc cf.1 cf.2) ∧
      ∀ next, addKnown w acc cf.1 cf.2 = .ok next → next.1.length = w ∧ next.2.length = w := by
  obtain ⟨c, entry⟩ := cf
  obtain ⟨i, -, rfl⟩ : ∃ i, i < n ∧ (coefficient i).val = c := by
    obtain ⟨i, hi, rfl⟩ := List.getElem_of_mem (List.of_mem_zip hcf).1
    exact ⟨i, by simpa using hi, (getElem_coefficients ..).symm⟩
  by_cases hwide : ∀ f ∈ entry, f.length = w
  · obtain ⟨next, hok, hp, hq, -⟩ := addKnown_spec (coefficient i) hacc.1 hacc.2 hwide
    rw [hok]
    exact ⟨throwsOnly_ok next, fun _ h => Except.ok.inj h ▸ ⟨hp, hq⟩⟩
  · cases entry with
    | none => exact absurd nofun hwide
    | some f =>
      have hf : f.length ≠ w := fun h => hwide fun g hg => Option.some.inj hg ▸ h
      simp [addKnown, require, hf, Ordinary, internalTexts, bind, Except.bind, invalid]

theorem truncate_ordinary {entry : Option Bytes} {length : ℕ} (h : entry ≠ none) :
    ThrowsOnly Ordinary (truncate entry length) := by
  cases entry with
  | none => exact absurd rfl h
  | some frame => simp [truncate, Ordinary, internalTexts]

/-- After the known frames are summed up, only an advertised length can be wrong. -/
theorem fillAndTruncate_ordinary {known : Bytes × Bytes} (hn6 : entries.length ≤ 6)
    (hq : q.length = p.length) (hm : (missingIndexes entries).length ≤ 2)
    (hlen : entries.length = lengths.length) (hkp : known.1.length = p.length)
    (hkq : known.2.length = p.length) :
    ∃ filled : List (Option Bytes), filled.length = lengths.length ∧ none ∉ filled ∧
      (do
        let residualP ← xor p known.1
        let residualQ ← xor q known.2
        let filled ← fillMissing entries (missingIndexes entries) residualP residualQ
        (filled.zip lengths).mapM fun fl => truncate fl.1 fl.2)
        = (filled.zip lengths).mapM fun fl => truncate fl.1 fl.2 := by
  obtain ⟨rp, hrp, hrplen, -⟩ := xor_spec hkp.symm
  obtain ⟨rq, hrq, hrqlen, -⟩ := xor_spec (hq.trans hkq.symm)
  obtain ⟨fill, hfill, -⟩ := fillMissing_spec hn6 hm hrplen (hrqlen.trans hq)
  refine ⟨fillWith entries fill, by simpa using hlen, by simp [fillWith, List.mem_mapIdx], ?_⟩
  rw [hrp, hrq, ok_bind, ok_bind, hfill, ok_bind]

/-- Recovery raises ordinary errors only, and returns one frame for each length. -/
theorem recoverFrames_ordinary (hn6 : entries.length ≤ 6) :
    ThrowsOnly Ordinary (recoverFrames entries p q lengths) ∧
      ∀ recovered, recoverFrames entries p q lengths = .ok recovered →
        recovered.length = lengths.length := by
  let known := ((coefficients entries.length).zip entries).foldlM
    (fun acc cf => addKnown p.length acc cf.1 cf.2) (zeros p.length, zeros p.length)
  have hfold : ThrowsOnly Ordinary known ∧
      ∀ acc, known = .ok acc → acc.1.length = p.length ∧ acc.2.length = p.length :=
    foldlM_invariant (fun acc => acc.1.length = p.length ∧ acc.2.length = p.length) (by simp)
      (fun acc hacc cf hcf => (addKnown_ordinary hcf hacc).1)
      (fun acc hacc cf hcf => (addKnown_ordinary hcf hacc).2)
  simp only [recoverFrames, throwsOnly_bind, throwsOnly_require, require_eq_ok, bind_eq_ok]
  constructor
  · refine ⟨.inr ?_, fun _ hlen => ⟨.inr ?_, fun _ _ => ⟨.inr ?_, fun _ hq => ⟨.inr ?_, fun _ hm =>
      ⟨hfold.1, fun known hknown => ?_⟩⟩⟩⟩⟩
    any_goals simp [Ordinary, internalTexts]
    obtain ⟨hkp, hkq⟩ := hfold.2 known hknown
    obtain ⟨filled, -, hnone, heq⟩ := fillAndTruncate_ordinary hn6 hq hm hlen hkp hkq
    have hrun : ThrowsOnly Ordinary ((filled.zip lengths).mapM fun fl => truncate fl.1 fl.2) :=
      throwsOnly_mapM fun fl hfl => truncate_ordinary fun h => hnone (h ▸ (List.of_mem_zip hfl).1)
    rw [← heq] at hrun
    simpa only [throwsOnly_bind] using hrun
  · rintro recovered ⟨_, hlen, _, -, _, hq, _, hm, known, hknown, hrun⟩
    obtain ⟨hkp, hkq⟩ := hfold.2 known hknown
    obtain ⟨filled, hfilled, -, heq⟩ := fillAndTruncate_ordinary hn6 hq hm hlen hkp hkq
    simp only [← bind_eq_ok, heq] at hrun
    rw [← (mapM_eq_ok.mp hrun).length_eq, List.length_zip, hfilled, min_self]

end Recover

/-! ### The stages of a block -/

section Stages
variable {label : Msg} {block : Block} {value : Json} {position maxFrameBytes : ℕ}

theorem readFrame_ordinary {sequences : List ℕ} (hpos : position < sequences.length) :
    RaisesOnly Ordinary (readFrame label maxFrameBytes sequences value position) := by
  simp [readFrame, hpos, internalTexts]

theorem length_of_readFrame {sequences : List ℕ} {data : Bytes}
    (h : Returns (readFrame label maxFrameBytes sequences value position) data) :
    1 ≤ data.length ∧ data.length ≤ maxFrameBytes := by
  simp only [readFrame, Run.liftM_eq, returns_bind, returns_lift, require_eq_ok, returns_pure] at h
  obtain ⟨_, -, _, -, _, -, -, -, _, -, -, hlen, rfl⟩ := h
  exact hlen

/-- A block whose numbers fit the fields of its payloads. -/
structure Block.Packable (block : Block) : Prop where
  blockStart : block.blockStart ≤ 0xFFFF
  blockSize : block.blockSize ≤ 6
  lengths : block.fecV2 → ∀ length ∈ block.lengths, length ≤ 0xFFFF

theorem packable_header {parityIndex : ℕ} (hb : block.Packable) (hindex : parityIndex ≤ 1) :
    ∀ f ∈ [Field.uint 1 2, .uint 2 block.blockStart, .uint 1 block.blockSize, .uint 1 parityIndex],
      f.fits = true := by
  have := hb.blockStart
  have := hb.blockSize
  simp [Field.fits]
  omega

theorem packable_length {length : ℕ} (hb : block.Packable) (hv2 : block.fecV2)
    (hmem : length ∈ block.lengths) : ∀ f ∈ [Field.uint 2 length], f.fits = true := by
  have := hb.lengths hv2 length hmem
  simp [Field.fits]
  omega

theorem fecPayload_ordinary {parityIndex : ℕ} {parity : Bytes} (hb : block.Packable)
    (hv2 : block.fecV2) (hindex : parityIndex ≤ 1) :
    ThrowsOnly Ordinary (fecPayload block parityIndex parity) := by
  have hlengths : ThrowsOnly Ordinary
      (block.lengths.mapM fun length => structPack [.uint 2 length]) :=
    throwsOnly_mapM fun _ hmem => throwsOnly_structPack.mpr (.inl (packable_length hb hv2 hmem))
  simp only [fecPayload, throwsOnly_bind, throwsOnly_structPack, throwsOnly_pure]
  exact ⟨.inl (packable_header hb hindex), fun _ _ => ⟨hlengths, fun _ _ => trivial⟩⟩

theorem readParity_ordinary {p q : Bytes} {parity : Table Bytes} {item : Json × ℕ}
    (hb : block.Packable) : RaisesOnly Ordinary (readParity block p q parity item) := by
  simp [readParity, internalTexts]
  exact fun _ _ _ _ hindex _ _ _ hv2 => fecPayload_ordinary hb hv2 hindex

/-- A parity entry adds one of the two indexes that was not there. -/
theorem returns_readParity {p q : Bytes} {parity parity' : Table Bytes} {item : Json × ℕ}
    (h : Returns (readParity block p q parity item) parity') :
    ∃ parityIndex data, parityIndex ≤ 1 ∧ parityIndex ∉ parity.keys ∧
      parity' = parity.put parityIndex data := by
  simp only [readParity, Run.liftM_eq, bind_pure_comp, returns_bind, returns_lift, returns_map,
    returns_ite, returns_pure, returns_compareBytes, asObject_eq_ok, integer_eq_ok, require_eq_ok,
    hexBytes_eq_ok, exists_and_right, exists_const, true_and] at h
  obtain ⟨entry, -, i, ⟨-, hi⟩, hnew, data, -, ⟨-, _, -, _, -, rfl⟩ | ⟨-, rfl⟩⟩ := h <;>
    exact ⟨i, data, hi, hnew, rfl⟩

/-- Two parity entries are P and Q. -/
theorem keys_of_readParity {p q : Bytes} {items : List (Json × ℕ)} {parity : Table Bytes}
    (hlen : items.length = 2) (h : Returns (items.foldlM (readParity block p q) []) parity) :
    parity.keys.toFinset = {0, 1} := by
  obtain ⟨a, b, rfl⟩ := List.length_eq_two.mp hlen
  simp only [List.foldlM_cons, List.foldlM_nil, returns_bind, returns_pure] at h
  obtain ⟨t, ht, _, ht', rfl⟩ := h
  obtain ⟨i, data, hi, -, rfl⟩ := returns_readParity ht
  obtain ⟨j, data', hj, hne, rfl⟩ := returns_readParity ht'
  ext k
  simp only [List.mem_toFinset, Table.mem_keys_put, Finset.mem_insert, Finset.mem_singleton] at hne ⊢
  simp [Table.keys] at hne ⊢
  omega

/-- A block with one sequence number for each of its at most six frames. -/
structure Block.Sized (block : Block) : Prop where
  sequences : block.sequences.length = block.frames.length
  frames : block.frames.length ≤ 6

theorem Block.Sized.mem_keys (hb : block.Sized) {sequence : ℕ} :
    sequence ∈ block.sourceBySequence.keys ↔ sequence ∈ block.sequences :=
  Table.mem_keys_ofZip hb.sequences

theorem readExpected_ordinary {expected : Table Bytes} :
    ThrowsOnly Ordinary (readExpected label expected value) := by
  simp [readExpected, internalTexts]

theorem checkExpected_ordinary {recovery : Dict} {missing : List ℕ} {recovered : List Bytes}
    (hrecovered : recovered.length = block.sequences.length) :
    RaisesOnly Ordinary (checkExpected block label recovery missing recovered) := by
  have hfold : ∀ items : List Json,
      ThrowsOnly Ordinary (items.foldlM (readExpected label) ([] : Table Bytes)) := fun items =>
    throwsOnly_foldlM_of_forall fun _ _ _ => readExpected_ordinary
  simp [checkExpected, internalTexts, hfold]
  intro items _ expected _ _
  refine raisesOnly_forM fun item _ => ?_
  simp
  intro hmem
  rw [hrecovered]
  exact .inl (List.idxOf_lt_length_of_mem hmem)

theorem keepReceived_ordinary (hb : block.Sized) {received : List ℕ}
    (hsub : ∀ sequence ∈ received, sequence ∈ block.sequences) :
    ThrowsOnly Ordinary (received.foldlM (keepReceived block) ([] : Table Bytes)) := by
  refine throwsOnly_foldlM_of_forall fun table sequence hmem => ?_
  simp [keepReceived, hb.mem_keys, hsub sequence hmem]

@[simp] theorem sequenceNumbers_ordinary {values : List Json} :
    ThrowsOnly Ordinary (sequenceNumbers values label) :=
  throwsOnly_mapM fun _ _ => throwsOnly_integer_ordinary

theorem recoveryCase_ordinary (hb : block.Sized) {parity : Table Bytes}
    (hparity : parity.keys.toFinset = {0, 1}) :
    RaisesOnly Ordinary (recoveryCase block parity value position) := by
  have hkeys : ∀ i ∈ ({0, 1} : Finset ℕ), i ∈ parity.keys := fun i hi =>
    List.mem_toFinset.mp (hparity ▸ hi)
  have hpadded : ∀ received, (paddedFrames block received).length ≤ 6 := fun received => by
    rw [paddedFrames, List.length_map, hb.sequences]; exact hb.frames
  simp [recoveryCase, internalTexts, hkeys]
  intro recovery _ _ _ _ _ _ _ received _ missing _ hunion _ _
  have hsub : ∀ sequence ∈ received, sequence ∈ block.sequences := fun sequence hmem =>
    List.mem_toFinset.mp (hunion ▸ Finset.mem_union_left _ (List.mem_toFinset.mpr hmem))
  refine ⟨keepReceived_ordinary hb hsub, fun table _ p _ q _ => ?_⟩
  refine ⟨(recoverFrames_ordinary (hpadded table)).1, fun recovered _ hlen => ⟨?_, ?_⟩⟩
  · refine raisesOnly_forM fun pair hpair => ?_
    simp [hb.mem_keys, (List.of_mem_zip hpair).1]
  · exact fun _ _ _ _ => checkExpected_ordinary hlen.symm

end Stages

/-! ### The suite -/

section Suite

theorem length_memberSequences (blockStart blockSize : ℕ) :
    (memberSequences blockStart blockSize).length = blockSize := by
  simp [memberSequences]

theorem length_of_readFrames {label : Msg} {maxFrameBytes : ℕ} {sequences : List ℕ}
    {items : List (Json × ℕ)} {frames : List Bytes}
    (h : Returns (items.mapM fun item => readFrame label maxFrameBytes sequences item.1 item.2)
      frames) :
    frames.length = items.length ∧
      ∀ frame ∈ frames, 1 ≤ frame.length ∧ frame.length ≤ maxFrameBytes := by
  have hread := returns_mapM.mp h
  refine ⟨hread.length_eq.symm, fun frame hmem => ?_⟩
  obtain ⟨i, hi, rfl⟩ := List.getElem_of_mem hmem
  exact length_of_readFrame ((List.forall₂_iff_get.mp hread).2 i (hread.length_eq ▸ hi) hi)

/-- Padded to the longest one, the frames have one width. -/
theorem length_of_padded {frames : List Bytes} {width : ℕ}
    (hwidth : (frames.map List.length).max? = some width) :
    (∃ frame ∈ frames, frame.length = width) ∧
      (∀ frame ∈ frames, frame.length ≤ width) ∧
      ∀ frame ∈ frames.map (ljust · width), frame.length = width := by
  obtain ⟨hmem, hmax⟩ := List.max?_eq_some_iff.mp hwidth
  have hle : ∀ frame ∈ frames, frame.length ≤ width := fun frame h =>
    hmax _ (List.mem_map_of_mem h)
  refine ⟨List.mem_map.mp hmem, hle, ?_⟩
  simp only [List.forall_mem_map, length_ljust]
  exact fun frame h => max_eq_right (hle frame h)

/-- Every exception of `_validate_block` is ordinary, whatever the block is. -/
theorem validateBlock_ordinary {label : Msg} {value : Dict} {maxFrameBytes : ℕ} {fecV2 : Bool}
    (hmax : fecV2 → maxFrameBytes ≤ 0xFFFF) :
    RaisesOnly Ordinary (validateBlock label value maxFrameBytes fecV2) := by
  simp [validateBlock, internalTexts, maxBlockSize]
  intro blockStart _ hstart blockSize _ hsize hpos framesValue _ parityValue _ hframes hparity
  refine ⟨raisesOnly_mapM fun item hitem => readFrame_ordinary ?_,
    fun frames hread width hwidth => ?_⟩
  · rw [length_memberSequences, ← hframes]
    exact List.snd_lt_of_mem_zipIdx hitem
  obtain ⟨hcount, hbytes⟩ := length_of_readFrames hread
  rw [List.length_zipIdx, hframes] at hcount
  obtain ⟨⟨longest, hlongest, rfl⟩, -, hpadded⟩ := length_of_padded hwidth
  obtain ⟨p, q, hencode, -⟩ := encodeParity_spec (by simp [hcount]; omega)
    (by simpa [hcount] using hsize) (hbytes longest hlongest).1 hpadded
  refine ⟨hencode ▸ throwsOnly_ok _, fun expectedP expectedQ _ => ?_⟩
  set block : Block := ⟨label, blockStart, blockSize, memberSequences blockStart blockSize, frames,
    longest.length, fecV2⟩ with hblock
  have hpackable : block.Packable := by
    refine ⟨hstart, hsize, fun hv2 => ?_⟩
    simp only [hblock, Block.lengths, List.forall_mem_map]
    exact fun frame hmem => (hbytes frame hmem).2.trans (hmax hv2)
  have hsized : block.Sized :=
    ⟨(length_memberSequences blockStart blockSize).trans hcount.symm, hcount ▸ hsize⟩
  refine ⟨raisesOnly_foldlM fun _ _ _ => readParity_ordinary hpackable, fun parity hp => ?_⟩
  have hkeys := keys_of_readParity (by simpa using hparity) hp
  refine ⟨.inl hkeys, fun _ => ⟨fun _ cases _ => raisesOnly_forM fun item _ => ?_, fun _ => ?_⟩⟩ <;>
    exact recoveryCase_ordinary hsized hkeys

theorem validateFecV1_ordinary {root : Root} {value : Json}
    (h : root "test-vectors/fec-rs-6-2.json" = .json value) :
    RaisesOnly Ordinary (validateFecV1 root) := by
  simp [validateFecV1, load, loadJson, h, internalTexts, validateBlock_ordinary]

theorem validateFecV2_ordinary {root : Root} {value : Json}
    (h : root "test-vectors/fec-v2-variable-6-2.json" = .json value) :
    RaisesOnly Ordinary (validateFecV2 root) := by
  simp [validateFecV2, load, loadJson, h, internalTexts]
  intro document _ _ maxFrameBytes _ hmax cases _
  refine raisesOnly_forM fun item _ => ?_
  simp [fecV2Case, internalTexts]
  exact fun case _ => validateBlock_ordinary fun _ => hmax

/-- TOTAL: for any two stored documents the suite returns a list of errors, and neither validator
    ends in an internal error. -/
theorem validateFecVectors_total (root : Root) (v1 v2 : Json)
    (h1 : root "test-vectors/fec-rs-6-2.json" = .json v1)
    (h2 : root "test-vectors/fec-v2-variable-6-2.json" = .json v2) :
    (∃ errors, validateFecVectors root = .ok errors) ∧
      RaisesOnly (fun exc => ¬Internal exc) (validateFecV1 root) ∧
      RaisesOnly (fun exc => ¬Internal exc) (validateFecV2 root) := by
  have hv1 := validateFecV1_ordinary h1
  have hv2 := validateFecV2_ordinary h2
  refine ⟨?_, fun exc w h => (hv1 exc w h).not_internal, fun exc w h => (hv2 exc w h).not_internal⟩
  obtain ⟨errors1, herrors1⟩ := handle_isOk.mpr fun exc w h => (hv1 exc w h).caught
  obtain ⟨errors2, herrors2⟩ := handle_isOk.mpr fun exc w h => (hv2 exc w h).caught
  exact ⟨errors1 ++ errors2, by rw [validateFecVectors, herrors1, herrors2]; rfl⟩

/-- Two documents that declare the field and nothing else. -/
theorem validateFecVectors_total_declared :
    (∃ errors, validateFecVectors
        (fun _ => .json (.obj [("field", .str fieldDeclaration)])) = .ok errors) ∧
      RaisesOnly (fun exc => ¬Internal exc)
        (validateFecV1 fun _ => .json (.obj [("field", .str fieldDeclaration)])) ∧
      RaisesOnly (fun exc => ¬Internal exc)
        (validateFecV2 fun _ => .json (.obj [("field", .str fieldDeclaration)])) :=
  validateFecVectors_total (fun _ => .json (.obj [("field", .str fieldDeclaration)])) _ _ rfl rfl

end Suite

end IncomUdon.Fec
