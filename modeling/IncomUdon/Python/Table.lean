import Mathlib.Data.Finset.Basic
import Mathlib.Data.Finset.Dedup
import IncomUdon.Python.Outcome

/-! A `dict` that the validators build themselves, with integer keys: its items in insertion order.
    Storing under a key that is there replaces the value and keeps the place. -/

namespace IncomUdon.Python
open IncomUdon.Lib.ErrorLog

/-- A `dict[int, α]`. -/
abbrev Table (α : Type) := List (ℕ × α)

namespace Table

variable {α : Type}

/-- `table[key] = value`. -/
def put : Table α → ℕ → α → Table α
  | [], key, value => [(key, value)]
  | item :: table, key, value =>
    if item.1 = key then (key, value) :: table else item :: put table key value

/-- The keys. -/
def keys (table : Table α) : List ℕ := table.map Prod.fst

/-- `table[key]`. -/
def get (table : Table α) (key : ℕ) : Py α :=
  match table.lookup key with
  | some value => .ok value
  | none => fails .keyError

/-- `dict(zip(keys, values))`. -/
def ofZip (keys : List ℕ) (values : List α) : Table α :=
  (keys.zip values).foldl (fun table item => table.put item.1 item.2) []

variable {table : Table α} {key : ℕ} {value : α}

@[simp] theorem mem_keys_cons {item : ℕ × α} :
    key ∈ keys (item :: table) ↔ key = item.1 ∨ key ∈ table.keys :=
  List.mem_cons

theorem lookup_cons_eq (k key : ℕ) (v : α) (table : Table α) :
    List.lookup key ((k, v) :: table) = if key = k then some v else table.lookup key := by
  rw [List.lookup_cons]
  split <;> simp_all

/-- A key is there exactly when it has a value. -/
theorem lookup_isSome : (table.lookup key).isSome = true ↔ key ∈ table.keys := by
  induction table with
  | nil => simp [keys]
  | cons item table ih =>
    rw [lookup_cons_eq, mem_keys_cons, ← ih]
    split <;> simp_all

/-- Reading after a store. -/
theorem lookup_put (key key' : ℕ) :
    (table.put key value).lookup key' = if key' = key then some value else table.lookup key' := by
  induction table with
  | nil => exact lookup_cons_eq key key' value []
  | cons item table ih =>
    obtain ⟨k, v⟩ := item
    by_cases hk : k = key
    · rw [put, if_pos hk, lookup_cons_eq, lookup_cons_eq, hk]
      split <;> rfl
    · rw [put, if_neg hk, lookup_cons_eq, lookup_cons_eq, ih]
      split_ifs with h h' <;> first | rfl | exact absurd (h.symm.trans h') hk

theorem mem_keys_put {key' : ℕ} :
    key' ∈ (table.put key value).keys ↔ key' = key ∨ key' ∈ table.keys := by
  rw [← lookup_isSome, lookup_put, ← lookup_isSome]
  split <;> simp_all

/-- A key is stored once. -/
theorem nodup_keys_put (h : table.keys.Nodup) : (table.put key value).keys.Nodup := by
  induction table with
  | nil => simp [put, keys]
  | cons item table ih =>
    obtain ⟨hnew, hrest⟩ := List.nodup_cons.mp h
    rw [put]
    split
    · next hkey => exact hkey ▸ h
    · next hkey =>
      refine List.nodup_cons.mpr ⟨fun hmem => ?_, ih hrest⟩
      rcases mem_keys_put.mp hmem with heq | hmem
      · exact hkey heq
      · exact hnew hmem

theorem nodup_keys_foldl_put (items : List (ℕ × α)) (h : table.keys.Nodup) :
    (items.foldl (fun t item => t.put item.1 item.2) table).keys.Nodup := by
  induction items generalizing table with
  | nil => exact h
  | cons item items ih => exact ih (nodup_keys_put h)

@[simp] theorem get_eq_ok : table.get key = .ok value ↔ table.lookup key = some value := by
  unfold get
  cases table.lookup key <;> simp

@[simp] theorem throwsOnly_get {E : PyExc → Prop} :
    ThrowsOnly E (table.get key) ↔ key ∈ table.keys ∨ E (.fault .keyError) := by
  rw [← lookup_isSome, get]
  cases table.lookup key <;> simp

/-- A table filled key by key has the keys stored and the values stored last. -/
theorem mem_keys_foldl_put {β : Type} (f : β → ℕ × α) (items : List β) (table : Table α) :
    key ∈ (items.foldl (fun t x => t.put (f x).1 (f x).2) table).keys ↔
      key ∈ items.map (fun x => (f x).1) ∨ key ∈ table.keys := by
  induction items generalizing table with
  | nil => simp
  | cons x items ih =>
    rw [List.foldl_cons, ih, mem_keys_put, List.map_cons, List.mem_cons]
    tauto

theorem mem_keys_ofZip {ks : List ℕ} {values : List α} (hlen : ks.length = values.length) :
    key ∈ (ofZip ks values).keys ↔ key ∈ ks := by
  rw [ofZip, mem_keys_foldl_put fun item => item]
  simp [keys, List.map_fst_zip hlen.le]

/-- What is stored is the new item or an old one. -/
theorem mem_put {item : ℕ × α} (h : item ∈ table.put key value) :
    item = (key, value) ∨ item ∈ table := by
  induction table with
  | nil => exact .inl (List.mem_singleton.mp h)
  | cons first table ih =>
    unfold put at h
    split at h
    · exact (List.mem_cons.mp h).imp_right (List.mem_cons_of_mem first)
    · rcases List.mem_cons.mp h with rfl | h
      · exact .inr List.mem_cons_self
      · exact (ih h).imp_right (List.mem_cons_of_mem first)

/-- Storing items with distinct keys leaves each value under its key. -/
theorem lookup_foldl_put {items : List (ℕ × α)} (hkeys : (items.map Prod.fst).Nodup)
    (table : Table α) (key : ℕ) :
    (items.foldl (fun t item => t.put item.1 item.2) table).lookup key
      = (items.lookup key).or (table.lookup key) := by
  induction items generalizing table with
  | nil => simp
  | cons item items ih =>
    obtain ⟨k, v⟩ := item
    rw [List.map_cons, List.nodup_cons] at hkeys
    rw [List.foldl_cons, ih hkeys.2, lookup_put, lookup_cons_eq]
    split_ifs with hk
    · have hnone : items.lookup key = none := by
        rw [← Option.not_isSome_iff_eq_none, lookup_isSome, hk]
        exact hkeys.1
      rw [hnone, Option.none_or, Option.some_or]
    · rfl

theorem lookup_of_mem {items : List (ℕ × α)} (hkeys : (items.map Prod.fst).Nodup)
    (h : (key, value) ∈ items) : items.lookup key = some value := by
  induction items with
  | nil => cases h
  | cons item items ih =>
    obtain ⟨k, v⟩ := item
    rw [List.map_cons, List.nodup_cons] at hkeys
    rw [lookup_cons_eq]
    rcases List.mem_cons.mp h with heq | hmem
    · cases heq
      simp
    · have hne : key ≠ k := by
        rintro rfl
        exact hkeys.1 (List.mem_map.mpr ⟨_, hmem, rfl⟩)
      rw [if_neg hne, ih hkeys.2 hmem]

/-- Storing items one by one leaves the value that was stored last under each key. -/
theorem lookup_foldl_put_last (items : List (ℕ × α)) (table : Table α) (key : ℕ) :
    (items.foldl (fun t item => t.put item.1 item.2) table).lookup key
      = (items.reverse.lookup key).or (table.lookup key) := by
  induction items generalizing table with
  | nil => rfl
  | cons item items ih =>
    obtain ⟨k, v⟩ := item
    rw [List.foldl_cons, ih, lookup_put, List.reverse_cons, List.lookup_append, Option.or_assoc,
      lookup_cons_eq]
    split <;> rfl

/-- `dict(zip(keys, values))` has each value under its key when the keys are distinct. -/
theorem lookup_ofZip {ks : List ℕ} {values : List α} (hks : ks.Nodup)
    (hlen : ks.length = values.length) (h : (key, value) ∈ ks.zip values) :
    (ofZip ks values).lookup key = some value := by
  have hkeys : ((ks.zip values).map Prod.fst).Nodup := by rwa [List.map_fst_zip hlen.le]
  rw [ofZip, lookup_foldl_put hkeys, lookup_of_mem hkeys h, Option.some_or]

end Table

end IncomUdon.Python
