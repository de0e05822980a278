import Mathlib.Data.Int.ConditionallyCompleteOrder
import Mathlib.Data.List.Sort
import IncomUdon.Lifecycle.Directory.Fragments

/-! The order in which a fragmented response is received. The indexes of what was received are
    compared as sets, and the sender IDs are read from the sorted list of all that was received:

        table      10 ↦ fragment 0      11 ↦ fragment 1      12 ↦ fragment 2
        received   12 10 11             complete, sender IDs 0 1 2
        received   12 10 11 10          complete, sender IDs 0 0 1 2

    REASSEMBLED: whatever the order, the sender IDs are those of the fragments exactly when no
    sequence was received twice. -/

namespace IncomUdon.Lifecycle
open IncomUdon.Python IncomUdon.Lib.ErrorLog

/-- The table has a fragment with this sequence, index and sender ID. -/
def FragmentTable.Has (table : FragmentTable) (sequence : ℤ) (index : ℕ) (senderId : Json) : Prop :=
  table.entry (.int sequence) = some (.int index, senderId)

/-- Sequences increase with the fragment index. -/
def SequencesIncrease (table : FragmentTable) : Prop :=
  ∀ ⦃s t : ℤ⦄ ⦃i j : ℕ⦄ ⦃x y : Json⦄, table.Has s i x → table.Has t j y → (s < t ↔ i < j)

/-- The received sequences are those of fragments `0, …, count - 1`, each at least once. -/
structure Covers (table : FragmentTable) (count : ℕ) (order : List ℤ) : Prop where
  known : ∀ s ∈ order, ∃ i < count, ∃ senderId, table.Has s i senderId
  all : ∀ i < count, ∃ s ∈ order, ∃ senderId, table.Has s i senderId

/-- The sender IDs of fragments `0, …, count - 1`, in this order and each once. -/
def SendersInOrder (table : FragmentTable) (count : ℕ) (senderIds : List Json) : Prop :=
  List.Forall₂ (fun i senderId => ∃ s, table.Has s i senderId) (List.range count) senderIds

/-- What an increasing function takes from a sorted list is the list of all its values exactly when
    nothing in the list is repeated. -/
theorem map_mergeSort_eq_iff_nodup {xs : List ℤ} {ys : List ℕ} {f : ℤ → ℕ}
    (hf : StrictMonoOn f {x | x ∈ xs}) (hys : ys.SortedLT) (hmem : ∀ y, y ∈ ys ↔ ∃ x ∈ xs, f x = y) :
    xs.mergeSort.map f = ys ↔ xs.Nodup := by
  have hperm : xs.mergeSort.Perm xs := List.mergeSort_perm xs _
  constructor
  · intro h
    rw [← hperm.nodup_iff]
    exact .of_map f (h ▸ hys.nodup)
  · intro h
    have hsorted : xs.mergeSort.SortedLT :=
      List.sortedLE_mergeSort.sortedLT_of_nodup (hperm.nodup_iff.mpr h)
    have himage : (xs.mergeSort.map f).SortedLT := by
      rw [List.sortedLT_iff_pairwise, List.pairwise_map]
      refine hsorted.pairwise.imp_of_mem fun hx hy hlt => ?_
      exact hf (hperm.mem_iff.mp hx) (hperm.mem_iff.mp hy) hlt
    refine himage.eq_of_mem_iff hys fun y => ?_
    simp [hmem]

section Reassembly
variable {table : FragmentTable} {count : ℕ} {order : List ℤ}

/-- FIXTURE: a case with `receivedSequenceOrder` reports nothing exactly when what was received is
    complete and the case lists the sender IDs that are computed. -/
theorem clean_sequenceOrderCase {case : Dict} {name : Msg} :
    Clean (sequenceOrderCase table case name) () ↔ ∃ received indexes senderIds expected,
      iterate (Dict.get case "receivedSequenceOrder") = .ok received ∧
      reassemble table received = .ok (indexes, senderIds) ∧
      rangeOf (Dict.getD case "fragmentCount" (.int 0)) = .ok expected ∧
      Json.setEq indexes expected = true ∧
      (Json.arr senderIds).eq (Dict.get case "expectedParticipantSenderIds") = true ∧
      Dict.get case "expected" = .str "reassemble_and_apply_atomically" := by
  have hbool : ∀ b, (Json.bool b).eq (.bool true) = true ↔ b = true := by decide
  simp only [sequenceOrderCase, Run.liftM_eq, clean_bind, clean_lift, clean_compare, Prod.exists,
    exists_unit, exists_and_left, hbool, Json.eq_str]

/-- `sorted(...)` on integers. -/
theorem sortedOn_ints : sortedOn id (order.map .int) = .ok (order.mergeSort.map .int) := by
  rw [sortedOn_eq_ok]
  constructor
  · exact List.pairwise_map.mpr (List.pairwise_of_forall fun _ _ => by simp)
  · refine (List.map_mergeSort fun x _ y _ => ?_).symm
    simp

/-- What is read from the table for each received sequence. -/
theorem reassemble_eq {index : ℤ → ℕ} {sender : ℤ → Json}
    (h : ∀ s ∈ order, table.Has s (index s) (sender s)) :
    reassemble table (order.map .int) =
      .ok ((order.map fun s => (index s : ℤ)).map .int, order.mergeSort.map sender) := by
  have hindexes : (order.map Json.int).mapM (fragmentIndexOf table)
      = .ok ((order.map fun s => (index s : ℤ)).map .int) := by
    rw [List.map_map]
    refine mapM_map_eq_ok fun s hs => ?_
    rw [fragmentIndexOf, h s hs]
    rfl
  have hsenders : (order.mergeSort.map Json.int).mapM (senderIdOf table)
      = .ok (order.mergeSort.map sender) := by
    refine mapM_map_eq_ok fun s hs => ?_
    rw [senderIdOf, h s (List.mem_mergeSort.mp hs)]
    rfl
  have hset : setOf ((order.map fun s => (index s : ℤ)).map Json.int)
      = .ok ((order.map fun s => (index s : ℤ)).map .int) :=
    setOf_eq_ok.mpr ⟨by simp [Json.hashable], rfl⟩
  rw [reassemble, hindexes, ok_bind, sortedOn_ints, ok_bind, hsenders, ok_bind, hset]
  rfl

/-- The indexes of the received sequences are those of the range, and increase with the sequences. -/
structure Indexed (table : FragmentTable) (count : ℕ) (order : List ℤ) (index : ℤ → ℕ)
    (sender : ℤ → Json) : Prop where
  has : ∀ s ∈ order, table.Has s (index s) (sender s)
  mem : ∀ i, i ∈ List.range count ↔ ∃ s ∈ order, index s = i
  increasing : StrictMonoOn index {s | s ∈ order}

theorem Covers.indexed (h : Covers table count order) (hincrease : SequencesIncrease table) :
    ∃ index sender, Indexed table count order index sender := by
  have : Nonempty Json := ⟨.null⟩
  choose! index hlt sender hhas using h.known
  have hsame : ∀ ⦃s i x⦄, s ∈ order → table.Has s i x → index s = i := by
    intro s i x hs hx
    have heq : some (Json.int (index s), sender s) = some (Json.int i, x) := (hhas s hs).symm.trans hx
    simpa using congrArg (Option.map Prod.fst) heq
  refine ⟨index, sender, hhas, fun i => ?_, fun s hs t ht hst => ?_⟩
  · rw [List.mem_range]
    constructor
    · intro hi
      obtain ⟨s, hs, x, hx⟩ := h.all i hi
      exact ⟨s, hs, hsame hs hx⟩
    · rintro ⟨s, hs, rfl⟩
      exact hlt s hs
  · exact (hincrease (hhas s hs) (hhas t ht)).mp hst

variable {index : ℤ → ℕ} {sender : ℤ → Json}

/-- As many received sequences as fragments are different ones. -/
theorem Indexed.nodup_of_length (h : Indexed table count order index sender)
    (hlength : order.length = count) : order.Nodup := by
  have hsub : List.range count ⊆ order.map index := fun i hi => List.mem_map.mpr ((h.mem i).mp hi)
  have hperm : (List.range count).Perm (order.map index) :=
    (List.subperm_of_subset List.nodup_range hsub).perm_of_length_le (by simp [hlength])
  exact .of_map index (hperm.nodup_iff.mp List.nodup_range)

/-- The sender IDs are those of the fragments exactly when no sequence was received twice. -/
theorem Indexed.sendersInOrder_iff (h : Indexed table count order index sender) :
    SendersInOrder table count (order.mergeSort.map sender) ↔ order.Nodup := by
  constructor
  · intro hsenders
    refine h.nodup_of_length ?_
    simpa using hsenders.length_eq.symm
  · intro hnodup
    have hrange : order.mergeSort.map index = List.range count :=
      (map_mergeSort_eq_iff_nodup h.increasing (List.sortedLT_range count) h.mem).mpr hnodup
    rw [SendersInOrder, ← hrange, List.forall₂_map_left_iff, List.forall₂_map_right_iff]
    exact List.forall₂_same.mpr fun s hs => ⟨s, h.has s (List.mem_mergeSort.mp hs)⟩

/-- REASSEMBLED: a response whose fragments were all received, in any order and with any
    repetitions, is complete, and its sender IDs are those of the fragments, each once, exactly when
    no sequence was received twice. -/
theorem reassemble_inOrder_iff (hincrease : SequencesIncrease table) (h : Covers table count order) :
    ∃ indexes senderIds, reassemble table (order.map .int) = .ok (indexes, senderIds) ∧
      Json.setEq indexes (Json.range count) = true ∧
      (SendersInOrder table count senderIds ↔ order.Nodup) := by
  obtain ⟨index, sender, hindexed⟩ := h.indexed hincrease
  refine ⟨_, _, reassemble_eq hindexed.has, ?_, hindexed.sendersInOrder_iff⟩
  have hrange : Json.range count = ((List.range count).map fun i : ℕ => (i : ℤ)).map .int := by
    rw [Json.range, Int.toNat_natCast, List.map_map]
    rfl
  rw [hrange, Json.setEq_ints]
  refine fun n => ⟨?_, ?_⟩
  · intro hn
    obtain ⟨s, hs, rfl⟩ := List.mem_map.mp hn
    exact List.mem_map_of_mem ((hindexed.mem _).mpr ⟨s, hs, rfl⟩)
  · intro hn
    obtain ⟨i, hi, rfl⟩ := List.mem_map.mp hn
    obtain ⟨s, hs, rfl⟩ := (hindexed.mem i).mp hi
    exact List.mem_map_of_mem hs

end Reassembly

/-- Three fragments of one response. -/
def threeFragments : FragmentTable :=
  [(.int 12, .int 2, .int 1003), (.int 11, .int 1, .int 1002), (.int 10, .int 0, .int 1001)]

theorem threeFragments_has {s : ℤ} {i : ℕ} {x : Json} : threeFragments.Has s i x ↔
    (s = 10 ∧ i = 0 ∧ x = .int 1001) ∨ (s = 11 ∧ i = 1 ∧ x = .int 1002) ∨
      (s = 12 ∧ i = 2 ∧ x = .int 1003) := by
  have heq : ∀ m : ℤ, (Json.int m).eq (.int s) = decide (s = m) := fun m => by
    rw [Bool.eq_iff_iff, Json.eq_int_int, decide_eq_true_iff, eq_comm]
  rw [FragmentTable.Has, FragmentTable.entry, threeFragments]
  simp only [List.find?_cons, List.find?_nil, Json.same_int, heq]
  by_cases h12 : s = 12
  · simp [h12]
    exact and_congr (by omega) eq_comm
  by_cases h11 : s = 11
  · simp [h11]
    exact and_congr (by omega) eq_comm
  by_cases h10 : s = 10 <;> simp [h10, h11, h12]
  exact and_congr (by omega) eq_comm

theorem threeFragments_increase : SequencesIncrease threeFragments := by
  intro s t i j x y hs ht
  rw [threeFragments_has] at hs ht
  omega

theorem threeFragments_covers {order : List ℤ} (h10 : 10 ∈ order) (h11 : 11 ∈ order)
    (h12 : 12 ∈ order)
    (h : ∀ s ∈ order, s = 10 ∨ s = 11 ∨ s = 12) : Covers threeFragments 3 order := by
  constructor
  · intro s hs
    rcases h s hs with rfl | rfl | rfl
    · exact ⟨0, by decide, .int 1001, rfl⟩
    · exact ⟨1, by decide, .int 1002, rfl⟩
    · exact ⟨2, by decide, .int 1003, rfl⟩
  · intro i hi
    match i, hi with
    | 0, _ => exact ⟨10, h10, .int 1001, rfl⟩
    | 1, _ => exact ⟨11, h11, .int 1002, rfl⟩
    | 2, _ => exact ⟨12, h12, .int 1003, rfl⟩

/-- The three fragments, out of order. -/
theorem reassemble_inOrder_iff_three :
    ∃ indexes senderIds, reassemble threeFragments ([12, 10, 11].map .int) = .ok (indexes, senderIds) ∧
      Json.setEq indexes (Json.range (3 : ℕ)) = true ∧
      (SendersInOrder threeFragments 3 senderIds ↔ [(12 : ℤ), 10, 11].Nodup) :=
  reassemble_inOrder_iff threeFragments_increase
    (threeFragments_covers (by decide) (by decide) (by decide) (by decide))

/-- The fixture of a response whose fragment 0 was received twice. -/
def repeatedFragmentCase : Dict :=
  [("fragmentCount", .int 3),
    ("receivedSequenceOrder", .arr ([12, 10, 11, 10].map .int)),
    ("expectedParticipantSenderIds", .arr [.int 1001, .int 1001, .int 1002, .int 1003]),
    ("expected", .str "reassemble_and_apply_atomically")]

/-- The repeated fragment gives its sender ID twice, and the fixture that says so is accepted. -/
theorem reassemble_repeated :
    SequencesIncrease threeFragments ∧ Covers threeFragments 3 [12, 10, 11, 10] ∧
      Clean (fragmentCase threeFragments (.obj repeatedFragmentCase)) () ∧
      ¬SendersInOrder threeFragments 3 [.int 1001, .int 1001, .int 1002, .int 1003] := by
  refine ⟨threeFragments_increase,
    threeFragments_covers (by decide) (by decide) (by decide) (by decide), ?_, ?_⟩
  · have hsorted : [(12 : ℤ), 10, 11, 10].mergeSort = [10, 10, 11, 12] := by
      simp [List.mergeSort, List.MergeSort.Internal.splitInTwo]
    have hreassemble : reassemble threeFragments ([12, 10, 11, 10].map .int)
        = .ok ([2, 0, 1, 0].map .int, [1001, 1001, 1002, 1003].map .int) := by
      rw [reassemble, sortedOn_ints, hsorted]
      rfl
    have hbranch : Clean (sequenceOrderCase threeFragments repeatedFragmentCase ["fragment case"]) () →
        Clean (fragmentCase threeFragments (.obj repeatedFragmentCase)) () :=
      fun h => clean_bind.mpr ⟨_, clean_lift.mpr rfl, h⟩
    have horder : iterate (Dict.get repeatedFragmentCase "receivedSequenceOrder")
        = .ok ([12, 10, 11, 10].map .int) := rfl
    exact hbranch (clean_sequenceOrderCase.mpr
      ⟨_, _, _, _, horder, hreassemble, rfl, by decide, by decide, rfl⟩)
  · intro h
    exact absurd h.length_eq (by decide)

end IncomUdon.Lifecycle
