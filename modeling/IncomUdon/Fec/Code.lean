import IncomUdon.Fec.Recovery

/-! The two properties that make P and Q a parity code. RECOVERY: whatever at most two frames a
    receiver misses, it gets every frame of the block back, truncated to its length. DISTANCE:
    different blocks differ in at least three of their frames and parities, so two losses still
    determine the block and one corrupted unit never looks like another block. -/

namespace IncomUdon.Fec
open IncomUdon.Python IncomUdon.Lib.ErrorLog IncomUdon.Lib.ParityCode

/-- The block with the frames at the positions `lost` replaced by `None`. -/
def loseFrames (lost : Finset ℕ) (frames : List Bytes) : List (Option Bytes) :=
  frames.mapIdx fun index frame => if index ∈ lost then none else some frame

theorem loseFrames_agrees (lost : Finset ℕ) (frames : List Bytes) :
    Agrees (loseFrames lost frames) frames := by
  refine List.forall₂_iff_get.mpr ⟨by simp [loseFrames], fun i hi hi' f hf => ?_⟩
  simp only [loseFrames, List.get_eq_getElem, List.getElem_mapIdx, Option.mem_def] at hf
  split at hf <;> simp_all

theorem length_missingIndexes_loseFrames (lost : Finset ℕ) (frames : List Bytes) :
    (missingIndexes (loseFrames lost frames)).length ≤ lost.card := by
  have hsub : (missingIndexes (loseFrames lost frames)).toFinset ⊆ lost := by
    intro i hi
    obtain ⟨hlt, hnone⟩ := mem_missingIndexes.mp (List.mem_toFinset.mp hi)
    rw [List.getD_eq_getElem _ _ hlt] at hnone
    simp only [loseFrames, List.getElem_mapIdx] at hnone
    split at hnone <;> simp_all
  rw [← List.toFinset_card_of_nodup (nodup_missingIndexes _)]
  exact Finset.card_le_card hsub

/-- RECOVERY: encoding a block, losing at most two of its frames and recovering gives every frame
    back up to its advertised length. -/
theorem recoverFrames_encodeParity (frames : List Bytes) (w : ℕ) (lost : Finset ℕ)
    (lengths : List ℕ) (hn : 1 ≤ frames.length) (hn6 : frames.length ≤ 6) (hw : 1 ≤ w)
    (hwidth : ∀ f ∈ frames, f.length = w) (hlost : lost.card ≤ 2)
    (hlen : lengths.length = frames.length) (hbound : ∀ l ∈ lengths, 1 ≤ l ∧ l ≤ w) :
    ∃ p q, encodeParity frames = .ok (p, q) ∧
      recoverFrames (loseFrames lost frames) p q lengths
        = .ok (List.zipWith (fun frame length => frame.take length) frames lengths) := by
  obtain ⟨p, q, hok, hp, hq, hpvec, hqvec⟩ := encodeParity_spec hn hn6 hw hwidth
  refine ⟨p, q, hok, ?_⟩
  refine recoverFrames_agrees hn hn6 hwidth (loseFrames_agrees lost frames)
    ((length_missingIndexes_loseFrames lost frames).trans hlost) hp hq hpvec hqvec ?_
  refine List.forall₂_iff_get.mpr ⟨hlen.symm, fun i hi hi' => ?_⟩
  rw [hwidth _ (List.get_mem frames ⟨i, hi⟩)]
  exact hbound _ (List.get_mem lengths ⟨i, hi'⟩)

/-- A block of two frames, both lost, comes back from P and Q. -/
theorem recoverFrames_encodeParity_both_lost :
    ∃ p q, encodeParity [[1, 2], [3, 0]] = .ok (p, q) ∧
      recoverFrames (loseFrames {0, 1} [[1, 2], [3, 0]]) p q [2, 1] = .ok [[1, 2], [3]] :=
  recoverFrames_encodeParity [[1, 2], [3, 0]] 2 {0, 1} [2, 1] (by decide) (by decide) (by decide)
    (by decide) (by decide) (by decide) (by decide)

/-- The positions at which two blocks of `n` frames differ. -/
def differingFrames (n : ℕ) (a b : List Bytes) : Finset ℕ :=
  {i ∈ Finset.range n | a.getD i [] ≠ b.getD i []}

section Distance
variable {a b : List Bytes} {n w : ℕ}

/-- Blocks of equally wide frames have one vector family exactly when they are equal frame by
    frame. -/
theorem blockVec_eq_iff (ha : a.length = n) (hb : b.length = n) (haw : ∀ f ∈ a, f.length = w)
    (hbw : ∀ f ∈ b, f.length = w) (i : Fin n) :
    blockVec n (a.map some) i = blockVec n (b.map some) i ↔ a.getD i [] = b.getD i [] := by
  have hwide : (a.getD i []).length = (b.getD i []).length := by
    rw [List.getD_eq_getElem _ _ (ha ▸ i.isLt), List.getD_eq_getElem _ _ (hb ▸ i.isLt),
      haw _ (List.getElem_mem _), hbw _ (List.getElem_mem _)]
  rw [blockVec_map_some (ha ▸ i.isLt), blockVec_map_some (hb ▸ i.isLt)]
  exact ⟨eq_of_toVec hwide, congrArg toVec⟩

open Classical in
theorem card_support (ha : a.length = n) (hb : b.length = n) (haw : ∀ f ∈ a, f.length = w)
    (hbw : ∀ f ∈ b, f.length = w) :
    (support (blockVec n (a.map some)) (blockVec n (b.map some))).card
      = (differingFrames n a b).card := by
  refine Finset.card_bij (fun i _ => (i : ℕ)) ?_ (fun i _ j _ h => Fin.ext h) ?_
  · intro i hi
    rw [support, Finset.mem_filter, ne_eq, blockVec_eq_iff ha hb haw hbw] at hi
    exact Finset.mem_filter.mpr ⟨Finset.mem_range.mpr i.isLt, hi.2⟩
  · intro i hi
    obtain ⟨hlt, hne⟩ := Finset.mem_filter.mp hi
    refine ⟨⟨i, Finset.mem_range.mp hlt⟩, ?_, rfl⟩
    rw [support, Finset.mem_filter, ne_eq, blockVec_eq_iff ha hb haw hbw]
    exact ⟨Finset.mem_univ _, hne⟩

/-- DISTANCE: two different blocks of equally wide frames differ in at least three of their frames,
    P and Q. -/
theorem three_le_encodeParity_distance (n w : ℕ) (a b : List Bytes) (hn : 1 ≤ n) (hn6 : n ≤ 6)
    (hw : 1 ≤ w) (ha : a.length = n) (hb : b.length = n) (haw : ∀ f ∈ a, f.length = w)
    (hbw : ∀ f ∈ b, f.length = w) (hab : a ≠ b) :
    ∃ pa qa pb qb, encodeParity a = .ok (pa, qa) ∧ encodeParity b = .ok (pb, qb) ∧
      3 ≤ (differingFrames n a b).card + (if pa ≠ pb then 1 else 0) + (if qa ≠ qb then 1 else 0) := by
  classical
  obtain ⟨pa, qa, haok, hpa, hqa, hpavec, hqavec⟩ :=
    encodeParity_spec (ha ▸ hn) (ha ▸ hn6) hw haw
  obtain ⟨pb, qb, hbok, hpb, hqb, hpbvec, hqbvec⟩ :=
    encodeParity_spec (hb ▸ hn) (hb ▸ hn6) hw hbw
  refine ⟨pa, qa, pb, qb, haok, hbok, ?_⟩
  rw [ha] at hpavec hqavec
  rw [hb] at hpbvec hqbvec
  have hvec : blockVec n (a.map some) ≠ blockVec n (b.map some) := by
    intro h
    refine hab (List.ext_getElem (ha.trans hb.symm) fun i hia hib => ?_)
    have hi := (blockVec_eq_iff ha hb haw hbw ⟨i, ha ▸ hia⟩).mp (congrFun h _)
    rwa [List.getD_eq_getElem _ _ hia, List.getD_eq_getElem _ _ hib] at hi
  have hdist := three_le_distance (blockCoefficient_injective hn6) (blockCoefficient_ne_zero hn6) hvec
  rw [card_support ha hb haw hbw, ← hpavec, ← hpbvec, ← hqavec, ← hqbvec] at hdist
  have hp : toVec pa = toVec pb ↔ pa = pb := ⟨eq_of_toVec (by rw [hpa, hpb]), congrArg toVec⟩
  have hq : toVec qa = toVec qb ↔ qa = qb := ⟨eq_of_toVec (by rw [hqa, hqb]), congrArg toVec⟩
  simpa only [hp, hq, ne_eq, ite_not] using hdist

/-- Two blocks of one frame each: the frames and both parities differ. -/
theorem three_le_encodeParity_distance_single :
    ∃ pa qa pb qb, encodeParity [[1]] = .ok (pa, qa) ∧ encodeParity [[2]] = .ok (pb, qb) ∧
      3 ≤ (differingFrames 1 [[1]] [[2]]).card + (if pa ≠ pb then 1 else 0)
        + (if qa ≠ qb then 1 else 0) :=
  three_le_encodeParity_distance 1 1 [[1]] [[2]] (by decide) (by decide) (by decide) rfl rfl
    (by decide) (by decide) (by decide)

end Distance

end IncomUdon.Fec
