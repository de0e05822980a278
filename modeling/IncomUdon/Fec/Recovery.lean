import IncomUdon.Fec.Parity

/-! What the parity functions compute, through the vector reading of frames: `encodeParity` returns
    the two parity units of the code, the residuals of `recoverFrames` are the sums of the missing
    frames, and its closed formula solves for them. From these, recovery undoes encoding for every
    erasure of at most two frames, and different blocks differ in at least three units. -/

namespace IncomUdon.Fec
open IncomUdon.Python IncomUdon.Lib.ErrorLog IncomUdon.Lib.ParityCode

/-- The vector of a block entry; a missing frame counts as zero. -/
def entryVec (entry : Option Bytes) : ℕ → GF256 := entry.elim 0 toVec

/-- A block of `n` entries as a family of vectors. -/
def blockVec (n : ℕ) (entries : List (Option Bytes)) : Fin n → ℕ → GF256 :=
  fun i => entryVec (entries.getD i none)

/-- In a complete block every entry is the vector of its frame. -/
theorem blockVec_map_some {n : ℕ} {frames : List Bytes} {i : Fin n} (hi : i < frames.length) :
    blockVec n (frames.map some) i = toVec (frames.getD i []) := by
  simp [blockVec, entryVec, hi]

/-- The coefficients of a block of `n` frames. -/
def blockCoefficient (n : ℕ) : Fin n → GF256 := fun i => coefficient i

theorem blockCoefficient_injective {n : ℕ} (hn : n ≤ 6) : Function.Injective (blockCoefficient n) :=
  fun i j h => Fin.ext (coefficient_injOn i (by omega) j (by omega) h)

theorem blockCoefficient_ne_zero {n : ℕ} (hn : n ≤ 6) (i : Fin n) : blockCoefficient n i ≠ 0 :=
  coefficient_ne_zero i (by omega)

/-! ### The accumulation -/

theorem addFrame_spec {w : ℕ} {acc : Bytes × Bytes} {frame : Bytes} (c : GF256)
    (hp : acc.1.length = w) (hq : acc.2.length = w) (hf : frame.length = w) :
    ∃ next, addFrame acc c.val frame = .ok next ∧ next.1.length = w ∧ next.2.length = w ∧
      toVec next.1 = toVec acc.1 + toVec frame ∧ toVec next.2 = toVec acc.2 + c • toVec frame := by
  obtain ⟨p, hpok, hplen, hpvec⟩ := xor_spec (hp.trans hf.symm)
  obtain ⟨s, hsok, hslen, hsvec⟩ := gfScale_spec frame c
  obtain ⟨q, hqok, hqlen, hqvec⟩ := xor_spec (a := acc.2) (b := s) (by omega)
  refine ⟨(p, q), ?_, hplen.trans hp, hqlen.trans hq, hpvec, by rw [hqvec, hsvec]⟩
  simp only [addFrame, bind_eq_ok]
  exact ⟨p, hpok, s, hsok, q, hqok, rfl⟩

theorem addKnown_spec {w : ℕ} {acc : Bytes × Bytes} {entry : Option Bytes} (c : GF256)
    (hp : acc.1.length = w) (hq : acc.2.length = w) (hf : ∀ f ∈ entry, f.length = w) :
    ∃ next, addKnown w acc c.val entry = .ok next ∧ next.1.length = w ∧ next.2.length = w ∧
      toVec next.1 = toVec acc.1 + entryVec entry ∧
      toVec next.2 = toVec acc.2 + c • entryVec entry := by
  cases entry with
  | none => exact ⟨acc, rfl, hp, hq, by simp [entryVec], by simp [entryVec]⟩
  | some frame =>
    obtain ⟨next, hok, hrest⟩ := addFrame_spec c hp hq (hf frame rfl)
    refine ⟨next, ?_, hrest⟩
    simp only [addKnown, bind_eq_ok]
    exact ⟨(), require_eq_ok.mpr (hf frame rfl), hok⟩

theorem getD_concat (entries : List (Option Bytes)) (entry : Option Bytes) {i : ℕ}
    (hi : i < entries.length) : (entries ++ [entry]).getD i none = entries.getD i none :=
  List.getD_append _ _ _ _ hi

/-- A weighted sum over a block grows by its last entry. -/
theorem sum_blockVec_concat (c : ℕ → GF256) (entries : List (Option Bytes)) (entry : Option Bytes) :
    ∑ i : Fin (entries ++ [entry]).length, c i • blockVec _ (entries ++ [entry]) i
      = ∑ i : Fin entries.length, c i • blockVec _ entries i
        + c entries.length • entryVec entry := by
  simp only [blockVec, Fin.sum_univ_eq_sum_range (fun i => c i • entryVec (entries.getD i none)),
    Fin.sum_univ_eq_sum_range (fun i => c i • entryVec ((entries ++ [entry]).getD i none)),
    List.length_append, List.length_singleton]
  rw [Finset.sum_range_succ]
  congr 1
  · exact Finset.sum_congr rfl fun i hi => by rw [getD_concat _ _ (Finset.mem_range.mp hi)]
  · simp

theorem parityP_concat (entries : List (Option Bytes)) (entry : Option Bytes) :
    parityP (blockVec (entries ++ [entry]).length (entries ++ [entry]))
      = parityP (blockVec entries.length entries) + entryVec entry := by
  simpa [parityP] using sum_blockVec_concat (fun _ => 1) entries entry

theorem parityQ_concat (entries : List (Option Bytes)) (entry : Option Bytes) :
    parityQ (blockCoefficient _) (blockVec (entries ++ [entry]).length (entries ++ [entry]))
      = parityQ (blockCoefficient _) (blockVec entries.length entries)
        + coefficient entries.length • entryVec entry :=
  sum_blockVec_concat coefficient entries entry

/-- Summing the known entries of a block gives its two parities, missing frames counted as zero. -/
theorem foldlM_addKnown {w : ℕ} (entries : List (Option Bytes))
    (hw : ∀ f, some f ∈ entries → f.length = w) :
    ∃ acc, ((coefficients entries.length).zip entries).foldlM
        (fun acc cf => addKnown w acc cf.1 cf.2) (zeros w, zeros w) = .ok acc ∧
      acc.1.length = w ∧ acc.2.length = w ∧
      toVec acc.1 = parityP (blockVec entries.length entries) ∧
      toVec acc.2 = parityQ (blockCoefficient entries.length) (blockVec entries.length entries) := by
  induction entries using List.reverseRecOn with
  | nil =>
    exact ⟨(zeros w, zeros w), rfl, by simp, by simp, by simp [parityP], by simp [parityQ]⟩
  | append_singleton entries entry ih =>
    obtain ⟨acc, hok, hp, hq, hpvec, hqvec⟩ := ih fun f hf => hw f (List.mem_append_left _ hf)
    obtain ⟨next, hnok, hnp, hnq, hnpvec, hnqvec⟩ := addKnown_spec
      (coefficient entries.length) hp hq fun f (hf : f ∈ entry) => hw f (by simp [Option.mem_def.mp hf])
    have hzip : (coefficients (entries ++ [entry]).length).zip (entries ++ [entry])
        = (coefficients entries.length).zip entries
          ++ [((coefficient entries.length).val, entry)] := by
      rw [List.length_append, List.length_singleton, coefficients, List.range_succ, List.map_append,
        List.zip_append (by simp)]
      rfl
    refine ⟨next, ?_, hnp, hnq, ?_, ?_⟩
    · rw [hzip, List.foldlM_append, bind_eq_ok]
      exact ⟨acc, hok, by simp [hnok]⟩
    · rw [hnpvec, hpvec, parityP_concat]
    · rw [hnqvec, hqvec, parityQ_concat]

/-- On equally wide frames the plain accumulation is the one over received entries. -/
theorem foldlM_addFrame {w : ℕ} : ∀ (frames : List Bytes) (cs : List ℕ) (acc : Bytes × Bytes),
    (∀ f ∈ frames, f.length = w) →
    (cs.zip frames).foldlM (fun acc cf => addFrame acc cf.1 cf.2) acc
      = (cs.zip (frames.map some)).foldlM (fun acc cf => addKnown w acc cf.1 cf.2) acc
  | [], cs, acc, _ => by simp
  | frame :: frames, [], acc, _ => rfl
  | frame :: frames, c :: cs, acc, h => by
    rw [List.forall_mem_cons] at h
    simp only [List.map_cons, List.zip_cons_cons, List.foldlM_cons, addKnown, h.1, require, if_true]
    exact congrArg _ (funext fun acc => foldlM_addFrame frames cs acc h.2)

/-- `encodeParity` returns the parity units of the block. -/
theorem encodeParity_spec {frames : List Bytes} {w : ℕ} (hn : 1 ≤ frames.length)
    (hn6 : frames.length ≤ 6) (hw : 1 ≤ w) (hlen : ∀ f ∈ frames, f.length = w) :
    ∃ p q, encodeParity frames = .ok (p, q) ∧ p.length = w ∧ q.length = w ∧
      toVec p = parityP (blockVec frames.length (frames.map some)) ∧
      toVec q = parityQ (blockCoefficient frames.length)
        (blockVec frames.length (frames.map some)) := by
  have hhead : (frames.headD []).length = w := by
    cases frames with
    | nil => simp at hn
    | cons frame frames => exact hlen frame List.mem_cons_self
  obtain ⟨⟨p, q⟩, hok, hspec⟩ := foldlM_addKnown (w := w) (frames.map some) (by simpa using hlen)
  rw [List.length_map] at hok hspec
  refine ⟨p, q, ?_, hspec⟩
  simp only [encodeParity, bind_eq_ok, require_eq_ok, hhead]
  refine ⟨(), ⟨hn, hn6⟩, (), ⟨by omega, hlen⟩, ?_⟩
  rw [foldlM_addFrame (w := w) frames _ _ hlen]
  exact hok

/-! ### Solving for the missing frames -/

/-- The divisor of the closed formula has an inverse: the coefficients differ. -/
theorem gfInv_spec {a b : GF256} (hab : a ≠ b) : gfInv (a.val ^^^ b.val) = .ok (b - a)⁻¹.val := by
  have hval : (b - a).val = a.val ^^^ b.val := by rw [GF256.val_sub, Nat.xor_comm]
  have hne : (b - a).val ≠ 0 := fun h => sub_ne_zero.mpr hab.symm (GF256.ext h)
  rw [← hval, GF256.val_inv, gfInv, bind_eq_ok]
  exact ⟨(), require_eq_ok.mpr hne, rfl⟩

theorem getD_coefficients {n i : ℕ} (hi : i < n) :
    (coefficients n).getD i 0 = (coefficient i).val := by
  rw [List.getD_eq_getElem _ _ (by simpa using hi), getElem_coefficients]

/-- Subtracting vectors is adding them. -/
theorem vec_sub_eq_add (x y : ℕ → GF256) : x - y = x + y :=
  funext fun j => GF256.sub_eq_add' (x j) (y j)

/-- With two frames missing, the closed formula of the code fills them in. -/
theorem fillMissing_pair {entries : List (Option Bytes)} {f s w : ℕ} {rp rq : Bytes}
    (hn6 : entries.length ≤ 6) (hf : f < entries.length) (hs : s < entries.length) (hfs : f ≠ s)
    (hrp : rp.length = w) (hrq : rq.length = w) :
    ∃ u v, fillMissing entries [f, s] rp rq = .ok ((entries.set f (some u)).set s (some v)) ∧
      u.length = w ∧ v.length = w ∧
      toVec u = solveFirst (coefficient f) (coefficient s) (toVec rp) (toVec rq) ∧
      toVec v = solveSecond (coefficient f) (coefficient s) (toVec rp) (toVec rq) := by
  have hne : coefficient f ≠ coefficient s := fun h =>
    hfs (coefficient_injOn f (by omega) s (by omega) h)
  obtain ⟨scaled, hscok, hsclen, hscvec⟩ := gfScale_spec rp (coefficient f)
  obtain ⟨diff, hdok, hdlen, hdvec⟩ := xor_spec (a := rq) (b := scaled) (by omega)
  obtain ⟨v, hvok, hvlen, hvvec⟩ := gfScale_spec diff (coefficient s - coefficient f)⁻¹
  obtain ⟨u, huok, hulen, huvec⟩ := xor_spec (a := rp) (b := v) (by omega)
  have hsecond : toVec v = solveSecond (coefficient f) (coefficient s) (toVec rp) (toVec rq) := by
    rw [hvvec, hdvec, hscvec, solveSecond, vec_sub_eq_add]
  refine ⟨u, v, ?_, by omega, by omega, ?_, hsecond⟩
  · simp only [fillMissing, bind_eq_ok, getD_coefficients hf, getD_coefficients hs]
    exact ⟨scaled, hscok, diff, hdok, _, gfInv_spec hne, v, hvok, u, huok, rfl⟩
  · rw [huvec, hsecond, solveFirst, vec_sub_eq_add]

/-! ### Recovering a block -/

theorem mem_missingIndexes {entries : List (Option Bytes)} {i : ℕ} :
    i ∈ missingIndexes entries ↔ i < entries.length ∧ entries.getD i none = none := by
  simp [missingIndexes]

theorem nodup_missingIndexes (entries : List (Option Bytes)) : (missingIndexes entries).Nodup :=
  List.nodup_range.filter _

/-- The block with its missing entries filled in. -/
def fillWith (entries : List (Option Bytes)) (fill : ℕ → Bytes) : List (Option Bytes) :=
  entries.mapIdx fun i entry => some (entry.getD (fill i))

@[simp] theorem length_fillWith (entries : List (Option Bytes)) (fill : ℕ → Bytes) :
    (fillWith entries fill).length = entries.length := by
  simp [fillWith]

/-- A block is the filled one when it has the filling at the missing positions and is unchanged at
    the others. -/
theorem eq_fillWith {entries filled : List (Option Bytes)} {fill : ℕ → Bytes}
    (hlen : filled.length = entries.length)
    (hmiss : ∀ i ∈ missingIndexes entries, filled.getD i none = some (fill i))
    (hkeep : ∀ i ∉ missingIndexes entries, filled.getD i none = entries.getD i none) :
    filled = fillWith entries fill := by
  refine List.ext_getElem (by simpa using hlen) fun i h₁ h₂ => ?_
  have hi : i < entries.length := hlen ▸ h₁
  rw [← List.getD_eq_getElem _ none h₁]
  simp only [fillWith, List.getElem_mapIdx]
  by_cases hm : i ∈ missingIndexes entries
  · have hnone := (mem_missingIndexes.mp hm).2
    rw [List.getD_eq_getElem _ _ hi] at hnone
    rw [hmiss i hm, hnone, Option.getD_none]
  · rw [hkeep i hm, List.getD_eq_getElem _ _ hi]
    cases he : entries[i] with
    | none => exact absurd (mem_missingIndexes.mpr ⟨hi, by simp [hi, he]⟩) hm
    | some frame => rfl

/-- The fill step always succeeds; what it fills in is the residual of P for one missing frame, and
    the closed formula of the code for two. -/
theorem fillMissing_spec {entries : List (Option Bytes)} {w : ℕ} {rp rq : Bytes}
    (hn6 : entries.length ≤ 6) (hm : (missingIndexes entries).length ≤ 2) (hrp : rp.length = w)
    (hrq : rq.length = w) :
    ∃ fill, fillMissing entries (missingIndexes entries) rp rq = .ok (fillWith entries fill) ∧
      (∀ i ∈ missingIndexes entries, (fill i).length = w) ∧
      (∀ m, missingIndexes entries = [m] → toVec (fill m) = toVec rp) ∧
      ∀ f s, missingIndexes entries = [f, s] →
        toVec (fill f) = solveFirst (coefficient f) (coefficient s) (toVec rp) (toVec rq) ∧
        toVec (fill s) = solveSecond (coefficient f) (coefficient s) (toVec rp) (toVec rq) := by
  have hmem : ∀ i ∈ missingIndexes entries, i < entries.length := fun i hi =>
    (mem_missingIndexes.mp hi).1
  match hmiss : missingIndexes entries with
  | [] =>
    refine ⟨fun _ => [], congrArg Except.ok (eq_fillWith rfl ?_ fun _ _ => rfl), nofun, nofun, nofun⟩
    simp [hmiss]
  | [m] =>
    refine ⟨fun _ => rp, congrArg Except.ok (eq_fillWith (by simp) ?_ ?_), fun _ _ => hrp,
      fun _ _ => rfl, nofun⟩
    · intro i hi
      have hlt := hmem i hi
      rw [hmiss, List.mem_singleton] at hi
      simp [hi, hi ▸ hlt]
    · intro i hi
      rw [hmiss, List.mem_singleton] at hi
      simp [Ne.symm hi]
  | [f, s] =>
    have hf : f < entries.length := hmem f (by simp [hmiss])
    have hs : s < entries.length := hmem s (by simp [hmiss])
    have hfs : f ≠ s := by simpa [hmiss] using nodup_missingIndexes entries
    obtain ⟨u, v, hok, hulen, hvlen, hu, hv⟩ := fillMissing_pair hn6 hf hs hfs hrp hrq
    refine ⟨fun i => if i = f then u else v, ?_, fun i _ => by dsimp only; split <;> assumption,
      nofun, ?_⟩
    · refine hok.trans (congrArg Except.ok (eq_fillWith (by simp) ?_ ?_))
      · intro i hi
        rw [hmiss, List.mem_pair] at hi
        rcases hi with rfl | rfl
        · simp [hfs.symm, hf]
        · simp [hfs.symm, hs]
      · intro i hi
        rw [hmiss, List.mem_pair, not_or] at hi
        simp [Ne.symm hi.1, Ne.symm hi.2]
    · rintro _ _ ⟨⟩
      simpa [hfs.symm] using ⟨hu, hv⟩
  | _ :: _ :: _ :: _ => rw [hmiss] at hm; simp at hm

/-- Up to the fill step, `recoverFrames` computes the residuals of the known frames. -/
theorem recoverFrames_residuals {entries : List (Option Bytes)} {p q : Bytes} {lengths : List ℕ}
    {w : ℕ} (hlen : entries.length = lengths.length) (hne : entries ≠ []) (hp : p.length = w)
    (hq : q.length = w) (hw : ∀ f, some f ∈ entries → f.length = w)
    (hm : (missingIndexes entries).length ≤ 2) :
    ∃ rp rq, rp.length = w ∧ rq.length = w ∧
      toVec rp = toVec p - parityP (blockVec entries.length entries) ∧
      toVec rq = toVec q - parityQ (blockCoefficient _) (blockVec entries.length entries) ∧
      recoverFrames entries p q lengths = (do
        let filled ← fillMissing entries (missingIndexes entries) rp rq
        (filled.zip lengths).mapM fun fl => truncate fl.1 fl.2) := by
  obtain ⟨known, hkok, hkp, hkq, hkpvec, hkqvec⟩ := foldlM_addKnown entries hw
  obtain ⟨rp, hrpok, hrplen, hrpvec⟩ := xor_spec (a := p) (b := known.1) (by omega)
  obtain ⟨rq, hrqok, hrqlen, hrqvec⟩ := xor_spec (a := q) (b := known.2) (by omega)
  refine ⟨rp, rq, by omega, by omega, ?_, ?_, ?_⟩
  · rw [hrpvec, hkpvec, vec_sub_eq_add]
  · rw [hrqvec, hkqvec, vec_sub_eq_add]
  · simp only [recoverFrames, require, hlen, hne, hp, hq, hm, if_true, ne_eq, not_false_eq_true]
    rw [hlen] at hkok
    simp only [bind, Except.bind, hkok, hrpok, hrqok]

/-- The entries of a received block: each is missing or the sent frame. -/
def Agrees (entries : List (Option Bytes)) (frames : List Bytes) : Prop :=
  List.Forall₂ (fun entry frame => ∀ f ∈ entry, f = frame) entries frames

namespace Agrees
variable {entries : List (Option Bytes)} {frames : List Bytes}

theorem length_eq (h : Agrees entries frames) : entries.length = frames.length :=
  List.Forall₂.length_eq h

/-- An entry that is not missing is the sent frame. -/
theorem getD_eq (h : Agrees entries frames) {i : ℕ} (hi : i < frames.length)
    (hmiss : i ∉ missingIndexes entries) : entries.getD i none = some (frames.getD i []) := by
  have hie : i < entries.length := h.length_eq ▸ hi
  cases he : entries.getD i none with
  | none => exact absurd (mem_missingIndexes.mpr ⟨hie, he⟩) hmiss
  | some f =>
    rw [List.getD_eq_getElem _ _ hie] at he
    rw [List.getD_eq_getElem _ _ hi, (List.forall₂_iff_get.mp h).2 i hie hi f he]; rfl

/-- The vectors of a received block are those of the sent one with the missing units erased. -/
theorem blockVec_eq (h : Agrees entries frames) :
    blockVec frames.length entries
      = erase {i : Fin frames.length | (i : ℕ) ∈ missingIndexes entries}
          (blockVec frames.length (frames.map some)) := by
  funext i
  by_cases hmiss : (i : ℕ) ∈ missingIndexes entries
  · rw [erase, if_pos (by simpa using hmiss), blockVec, (mem_missingIndexes.mp hmiss).2]; rfl
  · rw [erase, if_neg (by simpa using hmiss), blockVec, h.getD_eq i.isLt hmiss]
    simp [blockVec]

end Agrees

/-- Truncation of a complete block. -/
theorem mapM_truncate : ∀ (frames : List Bytes) (lengths : List ℕ),
    List.Forall₂ (fun frame length => 1 ≤ length ∧ length ≤ frame.length) frames lengths →
    ((frames.map some).zip lengths).mapM (fun fl => truncate fl.1 fl.2)
      = .ok (List.zipWith (fun frame length => frame.take length) frames lengths)
  | [], [], _ => rfl
  | frame :: frames, length :: lengths, .cons h hs => by
    simp only [List.map_cons, List.zip_cons_cons, List.mapM_cons, bind_eq_ok, List.zipWith_cons_cons]
    refine ⟨frame.take length, ?_, _, mapM_truncate frames lengths hs, rfl⟩
    simp only [truncate, bind_eq_ok, require_eq_ok]
    exact ⟨(), h, rfl⟩

section Block
variable {entries : List (Option Bytes)} {frames : List Bytes} {w : ℕ} {rp rq : Bytes}

/-- One sum determines one missing frame, and both sums two of them: what the formulas fill in has the
    vector of the frame that was sent. -/
theorem toVec_fill_eq {fill : ℕ → Bytes} (hn6 : frames.length ≤ 6)
    (hmem : ∀ i ∈ missingIndexes entries, i < frames.length)
    (hm : (missingIndexes entries).length ≤ 2)
    (hrpvec : toVec rp = ∑ i ∈ {i : Fin frames.length | (i : ℕ) ∈ missingIndexes entries},
      blockVec frames.length (frames.map some) i)
    (hrqvec : toVec rq = ∑ i ∈ {i : Fin frames.length | (i : ℕ) ∈ missingIndexes entries},
      blockCoefficient _ i • blockVec frames.length (frames.map some) i)
    (hone : ∀ m, missingIndexes entries = [m] → toVec (fill m) = toVec rp)
    (htwo : ∀ f s, missingIndexes entries = [f, s] →
      toVec (fill f) = solveFirst (coefficient f) (coefficient s) (toVec rp) (toVec rq) ∧
      toVec (fill s) = solveSecond (coefficient f) (coefficient s) (toVec rp) (toVec rq)) :
    ∀ i ∈ missingIndexes entries, toVec (fill i) = toVec (frames.getD i []) := by
  have hvec : ∀ i : Fin frames.length,
      blockVec frames.length (frames.map some) i = toVec (frames.getD i []) := fun i =>
    blockVec_map_some i.isLt
  match hmiss : missingIndexes entries with
  | [] => nofun
  | [m] =>
    rw [hmiss] at hmem hrpvec
    have hm' : m < frames.length := hmem m List.mem_cons_self
    have hS : ({i : Fin frames.length | (i : ℕ) ∈ [m]} : Finset _) = {⟨m, hm'⟩} := by
      ext i; simp [Fin.ext_iff]
    rw [hS, Finset.sum_singleton, hvec] at hrpvec
    rintro i hi
    rw [List.mem_singleton.mp hi, hone m hmiss, hrpvec]
  | [f, s] =>
    have hnodup := nodup_missingIndexes entries
    rw [hmiss] at hmem hrpvec hrqvec hnodup
    have hf : f < frames.length := hmem f (by simp)
    have hs : s < frames.length := hmem s (by simp)
    have hfs : f ≠ s := by simpa using hnodup
    have hne : coefficient f ≠ coefficient s := fun h =>
      hfs (coefficient_injOn f (by omega) s (by omega) h)
    have hS : ({i : Fin frames.length | (i : ℕ) ∈ [f, s]} : Finset _) = {⟨f, hf⟩, ⟨s, hs⟩} := by
      ext i; simp [Fin.ext_iff]
    have hpair : (⟨f, hf⟩ : Fin frames.length) ≠ ⟨s, hs⟩ := by simpa using hfs
    rw [hS, Finset.sum_pair hpair, hvec, hvec] at hrpvec hrqvec
    obtain ⟨hu, hv⟩ := htwo f s hmiss
    rw [hrpvec, hrqvec] at hu hv
    intro i hi
    rcases List.mem_pair.mp hi with rfl | rfl
    · exact hu.trans (solveFirst_eq hne)
    · exact hv.trans (solveSecond_eq hne)
  | _ :: _ :: _ :: _ => rw [hmiss] at hm; simp at hm

/-- A received block filled with the frames that were sent is the sent block. -/
theorem Agrees.fillWith_eq (hag : Agrees entries frames) {fill : ℕ → Bytes}
    (hfill : ∀ i ∈ missingIndexes entries, fill i = frames.getD i []) :
    fillWith entries fill = frames.map some := by
  refine (eq_fillWith (by simpa using hag.length_eq.symm) ?_ ?_).symm
  · intro i hi
    have hlt : i < frames.length := hag.length_eq ▸ (mem_missingIndexes.mp hi).1
    rw [hfill i hi]
    simp [hlt]
  · intro i hi
    by_cases hlt : i < frames.length
    · rw [hag.getD_eq hlt hi]
      simp [hlt]
    · have hge : entries.length ≤ i := by rw [hag.length_eq]; omega
      rw [List.getD_eq_default _ _ hge, List.getD_eq_default _ _ (by simpa using hlt)]

/-- The fill step restores the sent block from the sums of its missing frames. -/
theorem fillMissing_agrees (hn6 : frames.length ≤ 6) (hlen : ∀ f ∈ frames, f.length = w)
    (hag : Agrees entries frames) (hm : (missingIndexes entries).length ≤ 2)
    (hrp : rp.length = w) (hrq : rq.length = w)
    (hrpvec : toVec rp = ∑ i ∈ {i : Fin frames.length | (i : ℕ) ∈ missingIndexes entries},
      blockVec frames.length (frames.map some) i)
    (hrqvec : toVec rq = ∑ i ∈ {i : Fin frames.length | (i : ℕ) ∈ missingIndexes entries},
      blockCoefficient _ i • blockVec frames.length (frames.map some) i) :
    fillMissing entries (missingIndexes entries) rp rq = .ok (frames.map some) := by
  have hmem : ∀ i ∈ missingIndexes entries, i < frames.length := fun i hi =>
    hag.length_eq ▸ (mem_missingIndexes.mp hi).1
  obtain ⟨fill, hok, hfill, hone, htwo⟩ := fillMissing_spec (hag.length_eq ▸ hn6) hm hrp hrq
  have hsent := toVec_fill_eq hn6 hmem hm hrpvec hrqvec hone htwo
  rw [hok, hag.fillWith_eq fun i hi => ?_]
  have hlt := hmem i hi
  have hwide : (frames.getD i []).length = w := by
    rw [List.getD_eq_getElem _ _ hlt]; exact hlen _ (List.getElem_mem hlt)
  exact eq_of_toVec ((hfill i hi).trans hwide.symm) (hsent i hi)

/-- A received block with at most two missing frames is restored from the parities of the sent
    one, each frame truncated to its advertised length. -/
theorem recoverFrames_agrees {p q : Bytes} {lengths : List ℕ} (hn : 1 ≤ frames.length)
    (hn6 : frames.length ≤ 6) (hlen : ∀ f ∈ frames, f.length = w) (hag : Agrees entries frames)
    (hm : (missingIndexes entries).length ≤ 2) (hp : p.length = w) (hq : q.length = w)
    (hpvec : toVec p = parityP (blockVec frames.length (frames.map some)))
    (hqvec : toVec q = parityQ (blockCoefficient _) (blockVec frames.length (frames.map some)))
    (hlengths : List.Forall₂ (fun frame length => 1 ≤ length ∧ length ≤ frame.length) frames
      lengths) :
    recoverFrames entries p q lengths
      = .ok (List.zipWith (fun frame length => frame.take length) frames lengths) := by
  have hlen_eq := hag.length_eq
  have hwide : ∀ f, some f ∈ entries → f.length = w := by
    intro f hf
    obtain ⟨i, hi, he⟩ := List.getElem_of_mem hf
    have hi' : i < frames.length := hlen_eq ▸ hi
    rw [(List.forall₂_iff_get.mp hag).2 i hi hi' f he]
    exact hlen _ (List.getElem_mem hi')
  obtain ⟨rp, rq, hrp, hrq, hrpvec, hrqvec, hrun⟩ := recoverFrames_residuals (p := p) (q := q)
    (hlen_eq.trans hlengths.length_eq) (by rw [← List.length_pos_iff]; omega) hp hq hwide hm
  rw [hlen_eq, hag.blockVec_eq, hpvec, parityP_sub_erase] at hrpvec
  rw [hlen_eq, hag.blockVec_eq, hqvec, parityQ_sub_erase] at hrqvec
  rw [hrun, fillMissing_agrees hn6 hlen hag hm hrp hrq hrpvec hrqvec]
  exact mapM_truncate frames lengths hlengths

end Block

end IncomUdon.Fec
