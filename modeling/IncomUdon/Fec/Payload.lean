import IncomUdon.Fec.Accepted
import IncomUdon.Lib.SelfDelimiting

/-! The FEC v2 payload of one parity unit, which every parity packet carries:

        2 | blockStart u16 | blockSize u8 | parityIndex u8 | lengths u16 each | parity

    Nothing says how long the parity is. SELF-DELIMITING: the block size says how many lengths there
    are, and the parity is what remains, as long as the longest frame. -/

namespace IncomUdon.Fec
open IncomUdon.Python IncomUdon.Lib.ErrorLog IncomUdon.Lib.BigEndian IncomUdon.Lib.SelfDelimiting

/-- A parity unit and its payload, as `_validate_block` computes them. -/
def parityPayload (block : Block) (parityIndex : ℕ) : Py (Bytes × Bytes) := do
  let (expectedP, expectedQ) ← encodeParity (block.frames.map (ljust · block.width))
  let expected := if parityIndex = 0 then expectedP else expectedQ
  let payload ← fecPayload block parityIndex expected
  return (expected, payload)

/-- A block that passed the structural checks: one to six frames, none empty and none longer than a
    u16 can say. -/
structure Block.Structural (block : Block) : Prop where
  blockStart : block.blockStart ≤ 0xFFFF
  blockSize : block.blockSize = block.frames.length
  one_le_size : 1 ≤ block.blockSize
  size_le : block.blockSize ≤ 6
  lengths : ∀ length ∈ block.lengths, 1 ≤ length ∧ length ≤ 0xFFFF
  width : block.lengths.max? = some block.width

section Payload
variable {block : Block} {parityIndex : ℕ} {parity payload : Bytes}

theorem AcceptedBlock.structural {maxFrameBytes blockStart : ℕ} {frames : List Bytes} {value : Dict}
    (h : AcceptedBlock maxFrameBytes blockStart frames value) (hmax : maxFrameBytes ≤ 0xFFFF)
    (label : Msg) : (blockOf label blockStart frames).Structural where
  blockStart := h.start_le
  blockSize := rfl
  one_le_size := h.one_le_size
  size_le := h.size_le
  lengths := by
    rw [blockOf, Block.lengths, List.forall_mem_map]
    exact fun frame hframe => ⟨(h.frame_length frame hframe).1,
      (h.frame_length frame hframe).2.trans hmax⟩
  width := max?_eq_longest (List.length_pos_iff.mp h.one_le_size)

/-- P and Q are as wide as the longest frame. -/
theorem encodeParity_of_structural (h : block.Structural) :
    ∃ p q, encodeParity (block.frames.map (ljust · block.width)) = .ok (p, q) ∧
      p.length = block.width ∧ q.length = block.width := by
  obtain ⟨⟨frame, hframe, hwidth⟩, -, hwide⟩ := length_of_padded h.width
  have hcount : (block.frames.map (ljust · block.width)).length = block.blockSize := by
    rw [List.length_map, h.blockSize]
  have hone : 1 ≤ block.width := hwidth ▸ (h.lengths _ (List.mem_map_of_mem hframe)).1
  obtain ⟨p, q, hok, hp, hq, -⟩ :=
    encodeParity_spec (hcount ▸ h.one_le_size) (hcount ▸ h.size_le) hone hwide
  exact ⟨p, q, hok, hp, hq⟩

theorem parityPayload_eq_ok : parityPayload block parityIndex = .ok (parity, payload) ↔
    ∃ p q, encodeParity (block.frames.map (ljust · block.width)) = .ok (p, q) ∧
      (if parityIndex = 0 then p else q) = parity ∧
      fecPayload block parityIndex parity = .ok payload := by
  simp only [parityPayload, bind_eq_ok, Prod.exists]
  constructor
  · rintro ⟨p, q, hencode, written, hwritten, hret⟩
    cases hret
    exact ⟨p, q, hencode, rfl, hwritten⟩
  · rintro ⟨p, q, hencode, rfl, hwritten⟩
    exact ⟨p, q, hencode, payload, hwritten, rfl⟩

/-- A parity index that fits its byte has a payload. -/
theorem parityPayload_exists (h : block.Structural) (hindex : parityIndex ≤ 255) :
    ∃ parity payload, parityPayload block parityIndex = .ok (parity, payload) := by
  obtain ⟨p, q, hencode, -, -⟩ := encodeParity_of_structural h
  have hstart := h.blockStart
  have hsize := h.size_le
  refine ⟨_, _, parityPayload_eq_ok.mpr ⟨p, q, hencode, rfl, fecPayload_eq_ok.mpr
    ⟨⟨⟨by omega, by omega, by omega⟩, fun length hmem => ?_⟩, rfl⟩⟩⟩
  have hlength := (h.lengths length hmem).2
  omega

theorem length_flatMap_toBE (width : ℕ) (ns : List ℕ) :
    (ns.flatMap (toBE width)).length = width * ns.length := by
  induction ns with
  | nil => rfl
  | cons n ns ih =>
    rw [List.flatMap_cons, List.length_append, length_toBE, ih, List.length_cons]
    ring

/-- The payload is as long as the block size and the longest frame say. -/
theorem length_of_parityPayload (h : block.Structural)
    (hpayload : parityPayload block parityIndex = .ok (parity, payload)) :
    payload.length = 5 + 2 * block.blockSize + block.width := by
  obtain ⟨p, q, hencode, rfl, hwritten⟩ := parityPayload_eq_ok.mp hpayload
  obtain ⟨p', q', hencode', hp, hq⟩ := encodeParity_of_structural h
  cases hencode.symm.trans hencode'
  obtain ⟨-, rfl⟩ := fecPayload_eq_ok.mp hwritten
  have hparity : (if parityIndex = 0 then p else q).length = block.width := by
    split
    · exact hp
    · exact hq
  have hlengths : block.lengths.length = block.blockSize := by
    rw [Block.lengths, List.length_map, h.blockSize]
  simp only [List.length_append, length_toBE, length_flatMap_toBE, hparity, hlengths]

/-- Equal payloads have equal fields. -/
theorem parityPayload_inj {block' : Block} {parityIndex' : ℕ} {parity' : Bytes}
    (h : block.Structural) (h' : block'.Structural)
    (hpayload : parityPayload block parityIndex = .ok (parity, payload))
    (hpayload' : parityPayload block' parityIndex' = .ok (parity', payload)) :
    block.blockStart = block'.blockStart ∧ block.blockSize = block'.blockSize ∧
      parityIndex = parityIndex' ∧ block.lengths = block'.lengths ∧ parity = parity' := by
  obtain ⟨-, -, -, -, hwritten⟩ := parityPayload_eq_ok.mp hpayload
  obtain ⟨-, -, -, -, hwritten'⟩ := parityPayload_eq_ok.mp hpayload'
  obtain ⟨⟨⟨hstart, hsize, hindex⟩, hlengths⟩, heq⟩ := fecPayload_eq_ok.mp hwritten
  obtain ⟨⟨⟨hstart', hsize', hindex'⟩, hlengths'⟩, heq'⟩ := fecPayload_eq_ok.mp hwritten'
  have hfields := heq.trans heq'.symm
  simp only [List.append_assoc] at hfields
  -- The fields are taken off in the order in which they are written.
  have hrest := List.append_cancel_left hfields
  obtain ⟨hstartEq, hrest⟩ := delimits_toBE 2 hstart hstart' hrest
  obtain ⟨hsizeEq, hrest⟩ := delimits_toBE 1 hsize hsize' hrest
  obtain ⟨hindexEq, hrest⟩ := delimits_toBE 1 hindex hindex' hrest
  have hcount : block.lengths.length = block.blockSize ∧
      block'.lengths.length = block.blockSize := by
    simp only [Block.lengths, List.length_map, hsizeEq, ← h'.blockSize, and_true]
    rw [← h.blockSize, hsizeEq]
  obtain ⟨hlengthsEq, hparity⟩ := (delimits_toBE 2).flatMap block.blockSize
    ⟨hcount.1, hlengths⟩ ⟨hcount.2, hlengths'⟩ hrest
  exact ⟨hstartEq, hsizeEq, hindexEq, hlengthsEq, hparity⟩

end Payload

/-- SELF-DELIMITING: a block has a payload for every parity index, of the length that its fields
    give, and two payloads with the same bytes have the same fields and the same parity. -/
theorem parityPayload_selfDelimiting (block block' : Block) (h : block.Structural)
    (h' : block'.Structural) :
    (∀ parityIndex ≤ 255, ∃ parity payload,
      parityPayload block parityIndex = .ok (parity, payload)) ∧
    (∀ parityIndex parity payload, parityPayload block parityIndex = .ok (parity, payload) →
      ∃ widest, block.lengths.max? = some widest ∧
        payload.length = 5 + 2 * block.blockSize + widest) ∧
    ∀ parityIndex parityIndex' parity parity' payload,
      parityPayload block parityIndex = .ok (parity, payload) →
      parityPayload block' parityIndex' = .ok (parity', payload) →
      block.blockStart = block'.blockStart ∧ block.blockSize = block'.blockSize ∧
        parityIndex = parityIndex' ∧ block.lengths = block'.lengths ∧ parity = parity' := by
  refine ⟨fun i hi => parityPayload_exists h hi, fun i parity payload hpayload => ?_,
    fun i i' parity parity' payload hpayload hpayload' => ?_⟩
  · exact ⟨block.width, h.width, length_of_parityPayload h hpayload⟩
  · exact parityPayload_inj h h' hpayload hpayload'

theorem structural_wrap : (blockOf ["block"] 65535 [[1], [2, 3]]).Structural where
  blockStart := by decide
  blockSize := rfl
  one_le_size := by decide
  size_le := by decide
  lengths := by decide
  width := rfl

/-- A block of two frames across the wrap has a payload for Q. -/
theorem parityPayload_selfDelimiting_wrap :
    ∃ parity payload, parityPayload (blockOf ["block"] 65535 [[1], [2, 3]]) 1
      = .ok (parity, payload) :=
  (parityPayload_selfDelimiting (blockOf ["block"] 65535 [[1], [2, 3]])
    (blockOf ["block"] 65535 [[1], [2, 3]]) structural_wrap structural_wrap).1 1 (by decide)

end IncomUdon.Fec
