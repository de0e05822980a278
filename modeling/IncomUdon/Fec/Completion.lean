import IncomUdon.Fec.Code

/-! Recovery with any parity. Two lost frames are two unknowns, and P and Q two equations for them,
    whatever bytes P and Q are:

        received frames, p, q ──recover_frames──▶ block ──encode_parity──▶ p, q

    COMPLETION: recovery returns the one block that agrees with what was received and has that
    parity. -/

namespace IncomUdon.Fec
open IncomUdon.Python IncomUdon.Lib.ErrorLog IncomUdon.Lib.ParityCode

/-- The block with its missing frames filled in. -/
def completed (entries : List (Option Bytes)) (fill : ℕ → Bytes) : List Bytes :=
  entries.mapIdx fun i entry => entry.getD (fill i)

section Completed
variable {entries : List (Option Bytes)} {fill : ℕ → Bytes} {w : ℕ}

@[simp] theorem length_completed : (completed entries fill).length = entries.length := by
  simp [completed]

theorem completed_agrees : Agrees entries (completed entries fill) := by
  refine List.forall₂_iff_get.mpr ⟨by simp, fun i hi hi' f hf => ?_⟩
  simp only [completed, List.get_eq_getElem, List.getElem_mapIdx] at hf ⊢
  rw [Option.mem_def.mp hf, Option.getD_some]

theorem getD_completed {i : ℕ} (hi : i ∈ missingIndexes entries) :
    (completed entries fill).getD i [] = fill i := by
  obtain ⟨hlt, hnone⟩ := mem_missingIndexes.mp hi
  rw [List.getD_eq_getElem _ _ hlt] at hnone
  rw [List.getD_eq_getElem _ _ (by simpa using hlt)]
  simp [completed, hnone]

theorem length_of_completed (hwide : ∀ f, some f ∈ entries → f.length = w)
    (hfill : ∀ i ∈ missingIndexes entries, (fill i).length = w) :
    ∀ frame ∈ completed entries fill, frame.length = w := by
  intro frame hframe
  obtain ⟨i, hi, rfl⟩ := List.mem_mapIdx.mp hframe
  cases hentry : entries[i] with
  | some f => exact hwide f (hentry ▸ List.getElem_mem hi)
  | none => exact hfill i (mem_missingIndexes.mpr ⟨hi, by rw [List.getD_eq_getElem _ _ hi, hentry]⟩)

end Completed

section Block
variable {entries : List (Option Bytes)} {frames : List Bytes} {w : ℕ} {p q : Bytes}

theorem length_missingIndexes : (missingIndexes entries).length = entries.count none := by
  have hmap : (List.range entries.length).map (entries.getD · none) = entries :=
    List.ext_getElem (by simp) fun i hi hi' => by
      rw [List.getElem_map, List.getElem_range, List.getD_eq_getElem _ _ hi']
  calc (missingIndexes entries).length
      = (List.range entries.length).countP fun i => (entries.getD i none).isNone :=
        List.countP_eq_length_filter.symm
    _ = ((List.range entries.length).map (entries.getD · none)).countP Option.isNone := by
        rw [List.countP_map]; rfl
    _ = entries.count none := by
        rw [hmap, List.count]
        exact List.countP_congr fun entry _ => by cases entry <;> simp

/-- What `encode_parity` returns on a block are its parity units, as wide as its frames. -/
theorem parity_of_encodeParity (h : encodeParity frames = .ok (p, q)) :
    (1 ≤ frames.length ∧ frames.length ≤ 6) ∧ 1 ≤ p.length ∧ q.length = p.length ∧
      (∀ f ∈ frames, f.length = p.length) ∧
      toVec p = parityP (blockVec frames.length (frames.map some)) ∧
      toVec q = parityQ (blockCoefficient _) (blockVec frames.length (frames.map some)) := by
  have hrun := h
  simp only [encodeParity, bind_eq_ok, require_eq_ok] at hrun
  obtain ⟨-, hsize, -, ⟨hne, hwide⟩, -⟩ := hrun
  obtain ⟨p', q', hok, hp, hq, hpvec, hqvec⟩ :=
    encodeParity_spec hsize.1 hsize.2 (Nat.one_le_iff_ne_zero.mpr hne) hwide
  cases hok.symm.trans h
  rw [hp]
  exact ⟨hsize, Nat.one_le_iff_ne_zero.mpr hne, hq, hwide, hpvec, hqvec⟩

/-- Recovery from a block's own parity returns the block. -/
theorem recoverFrames_of_agrees (hag : Agrees entries frames) (hm : entries.count none ≤ 2)
    (h : encodeParity frames = .ok (p, q)) :
    recoverFrames entries p q (List.replicate entries.length p.length) = .ok frames := by
  obtain ⟨hsize, hw, hq, hwide, hpvec, hqvec⟩ := parity_of_encodeParity h
  have hlengths : List.Forall₂ (fun frame length => 1 ≤ length ∧ length ≤ frame.length) frames
      (List.replicate entries.length p.length) := by
    refine List.forall₂_iff_get.mpr ⟨by simp [hag.length_eq], fun i hi hi' => ?_⟩
    simp [hw, hwide _ (List.getElem_mem hi)]
  rw [recoverFrames_agrees hsize.1 hsize.2 hwide hag (length_missingIndexes.trans_le hm) rfl hq
    hpvec hqvec hlengths, hag.length_eq]
  refine congrArg Except.ok (List.ext_getElem (by simp) fun i hi hi' => ?_)
  rw [List.getElem_zipWith, List.getElem_replicate]
  exact List.take_of_length_le (hwide _ (List.getElem_mem hi')).le

/-- Filling in what solves for the residuals gives a block with the parity that was received. -/
theorem encodeParity_completed {fill : ℕ → Bytes} {rp rq : Bytes} {f s : ℕ}
    (hn6 : entries.length ≤ 6) (hw : 1 ≤ w)
    (hwide : ∀ frame ∈ completed entries fill, frame.length = w)
    (hmiss : missingIndexes entries = [f, s]) (hp : p.length = w) (hq : q.length = w)
    (hrp : toVec rp = toVec p - parityP (blockVec entries.length entries))
    (hrq : toVec rq = toVec q - parityQ (blockCoefficient _) (blockVec entries.length entries))
    (hf : toVec (fill f) = solveFirst (coefficient f) (coefficient s) (toVec rp) (toVec rq))
    (hs : toVec (fill s) = solveSecond (coefficient f) (coefficient s) (toVec rp) (toVec rq)) :
    encodeParity (completed entries fill) = .ok (p, q) := by
  have hag : Agrees entries (completed entries fill) := completed_agrees
  have hfmem : f ∈ missingIndexes entries := by simp [hmiss]
  have hsmem : s ∈ missingIndexes entries := by simp [hmiss]
  have hflt : f < (completed entries fill).length := by simpa using (mem_missingIndexes.mp hfmem).1
  have hslt : s < (completed entries fill).length := by simpa using (mem_missingIndexes.mp hsmem).1
  have hfs : f ≠ s := by simpa [hmiss] using nodup_missingIndexes entries
  have hcount : (completed entries fill).length = entries.length := length_completed
  have hne : coefficient f ≠ coefficient s := fun h =>
    hfs (coefficient_injOn f (by omega) s (by omega) h)
  have hlost : ({i : Fin (completed entries fill).length | (i : ℕ) ∈ missingIndexes entries} :
      Finset _) = {⟨f, hflt⟩, ⟨s, hslt⟩} := by
    ext i; simp [hmiss, Fin.ext_iff]
  have hat : ∀ i (hi : i < (completed entries fill).length), i ∈ missingIndexes entries →
      blockVec _ ((completed entries fill).map some) ⟨i, hi⟩ = toVec (fill i) := fun i hi hmem => by
    rw [blockVec_map_some hi, getD_completed hmem]
  -- What was received is the completed block with the two frames erased.
  rw [hag.length_eq, hag.blockVec_eq, hlost] at hrp hrq
  obtain ⟨p', q', hok, hp', hq', hpvec, hqvec⟩ := encodeParity_spec (by omega) (by omega) hw hwide
  obtain ⟨hP, hQ⟩ := parity_of_solved (c := blockCoefficient _)
    (x := blockVec _ ((completed entries fill).map some)) (j := ⟨f, hflt⟩) (k := ⟨s, hslt⟩)
    (by simpa using hfs) hne ((hat f hflt hfmem).trans (by rw [hf, hrp, hrq]; rfl))
    ((hat s hslt hsmem).trans (by rw [hs, hrp, hrq]; rfl))
  rw [hok, eq_of_toVec (hp'.trans hp.symm) (hpvec.trans hP),
    eq_of_toVec (hq'.trans hq.symm) (hqvec.trans hQ)]

end Block

/-- COMPLETION: with two frames lost and any parity of the right width, recovery returns a block that
    agrees with the frames received and has this parity, and no other block does. -/
theorem recoverFrames_completes (entries : List (Option Bytes)) (w : ℕ) (p q : Bytes)
    (hn6 : entries.length ≤ 6) (hw : 1 ≤ w) (hwide : ∀ f, some f ∈ entries → f.length = w)
    (htwo : entries.count none = 2) (hp : p.length = w) (hq : q.length = w) :
    ∃ frames, recoverFrames entries p q (List.replicate entries.length w) = .ok frames ∧
      Agrees entries frames ∧ encodeParity frames = .ok (p, q) ∧
      ∀ other, Agrees entries other → encodeParity other = .ok (p, q) → other = frames := by
  have hm : (missingIndexes entries).length = 2 := length_missingIndexes.trans htwo
  have hne : entries ≠ [] := by rintro rfl; simp at htwo
  have hlengths : entries.length = (List.replicate entries.length w).length := by simp
  obtain ⟨rp, rq, hrp, hrq, hrpvec, hrqvec, -⟩ :=
    recoverFrames_residuals hlengths hne hp hq hwide hm.le
  obtain ⟨fill, -, hfill, -, hsolves⟩ := fillMissing_spec hn6 hm.le hrp hrq
  obtain ⟨f, s, hmiss⟩ := List.length_eq_two.mp hm
  obtain ⟨hf, hs⟩ := hsolves f s hmiss
  have hencode := encodeParity_completed hn6 hw (length_of_completed hwide hfill) hmiss hp hq hrpvec
    hrqvec hf hs
  have hrecover := recoverFrames_of_agrees completed_agrees htwo.le hencode
  rw [hp] at hrecover
  refine ⟨completed entries fill, hrecover, completed_agrees, hencode, fun other hag hother => ?_⟩
  have hsame := recoverFrames_of_agrees hag htwo.le hother
  rw [hp, hrecover] at hsame
  exact (Except.ok.inj hsame).symm

/-- The last two of three frames lost, and a parity that no sender computed. -/
theorem recoverFrames_completes_last_two :
    ∃ frames, recoverFrames [some [7], none, none] [1] [2] [1, 1, 1] = .ok frames ∧
      Agrees [some [7], none, none] frames ∧ encodeParity frames = .ok ([1], [2]) ∧
      ∀ other, Agrees [some [7], none, none] other → encodeParity other = .ok ([1], [2]) →
        other = frames :=
  recoverFrames_completes [some [7], none, none] 1 [1] [2] (by decide) (by decide) (by simp)
    (by decide) rfl rfl

end IncomUdon.Fec
