import IncomUdon.Lib.BigEndian

/-! Formats that can be written and read. A `Codec` is a writer and a reader that undo each other, and
    the reader says what it left over, so that codecs follow one another:

        read (write a ++ rest) = (a, rest)          what was written is read
        read bs = (a, rest) → write a ++ rest = bs  what is read was written

    By the second law a reader accepts nothing else: `whole` reads exactly the strings that can be
    written. Codecs are built from literals, integers and strings of fixed length, one after the
    other, and restricted to the values that a format allows. -/

namespace IncomUdon.Lib
open IncomUdon.Lib.BigEndian

variable {τ α β : Type}

/-- A writer and a reader that undo each other. -/
structure Codec (τ α : Type) where
  write : α → List τ
  read : List τ → Option (α × List τ)
  read_write : ∀ a rest, read (write a ++ rest) = some (a, rest)
  write_of_read : ∀ {bs a rest}, read bs = some (a, rest) → write a ++ rest = bs

namespace Codec

/-! ### Strings that are one value -/

/-- The value, when nothing is left over. -/
def whole (c : Codec τ α) (bs : List τ) : Option α :=
  match c.read bs with
  | some (a, []) => some a
  | _ => none

/-- EXACT: a string is read whole exactly when it is what is written. -/
theorem whole_eq_some (c : Codec τ α) {bs : List τ} {a : α} : c.whole bs = some a ↔
    c.write a = bs := by
  unfold whole
  constructor
  · intro h
    split at h
    · next a' hread =>
      cases h
      simpa using c.write_of_read hread
    · cases h
  · rintro rfl
    have hread := c.read_write a []
    rw [List.append_nil] at hread
    rw [hread]

theorem whole_write (c : Codec τ α) (a : α) : c.whole (c.write a) = some a := c.whole_eq_some.mpr rfl

/-! ### Building codecs -/

/-- A fixed string. -/
def literal [DecidableEq τ] (text : List τ) : Codec τ Unit where
  write _ := text
  read bs := if text <+: bs then some ((), bs.drop text.length) else none
  read_write _ rest := by simp
  write_of_read := by
    intro bs _ rest h
    split at h
    · next hprefix =>
      cases h
      obtain ⟨tail, rfl⟩ := hprefix
      rw [List.drop_left]
    · cases h

/-- A string of fixed length. -/
def octets (length : ℕ) : Codec τ { data : List τ // data.length = length } where
  write data := data.1
  read bs :=
    if h : length ≤ bs.length then
      some (⟨bs.take length, List.length_take_of_le h⟩, bs.drop length)
    else none
  read_write := by
    rintro ⟨data, rfl⟩ rest
    simp
  write_of_read := by
    intro bs data rest h
    split at h
    · cases h
      exact List.take_append_drop length bs
    · cases h

/-- An integer in `width` bytes. -/
def word (width : ℕ) : Codec UInt8 (Fin (256 ^ width)) where
  write n := toBE width n
  read bs :=
    if width ≤ bs.length then
      some (Fin.ofNat _ (ofBE (bs.take width)), bs.drop width)
    else none
  read_write n rest := by
    have hlength := length_toBE width n
    have hread : (toBE width n ++ rest).take width = toBE width n := by
      rw [List.take_append_of_le_length hlength.ge, List.take_of_length_le hlength.le]
    have hrest : (toBE width n ++ rest).drop width = rest := by
      rw [List.drop_append_of_le_length hlength.ge, List.drop_of_length_le hlength.le,
        List.nil_append]
    rw [if_pos (by simp), hread, hrest, ofBE_toBE_of_lt n.isLt]
    simp
  write_of_read := by
    intro bs n rest h
    split at h
    · next hle =>
      cases h
      have hlength : (bs.take width).length = width := List.length_take_of_le hle
      have hlt : ofBE (bs.take width) < 256 ^ width := by simpa [hlength] using ofBE_lt (bs.take width)
      have hwrite := toBE_ofBE (bs.take width)
      rw [hlength] at hwrite
      rw [Fin.val_ofNat, Nat.mod_eq_of_lt hlt, hwrite, List.take_append_drop]
    · cases h

/-- One value after the other. -/
def pair (c : Codec τ α) (d : Codec τ β) : Codec τ (α × β) where
  write ab := c.write ab.1 ++ d.write ab.2
  read bs := do
    let (a, bs) ← c.read bs
    let (b, rest) ← d.read bs
    return ((a, b), rest)
  read_write ab rest := by
    simp [c.read_write, d.read_write]
  write_of_read := by
    intro bs ab rest h
    simp only [Option.bind_eq_bind, Option.bind_eq_some_iff, Option.pure_def, Option.some.injEq] at h
    obtain ⟨⟨a, mid⟩, hfirst, ⟨b, rest'⟩, hsecond, ⟨⟩⟩ := h
    rw [List.append_assoc, d.write_of_read hsecond, c.write_of_read hfirst]

/-- The values that stand for others of the format. -/
def restrict (c : Codec τ α) (toFormat : β → α) (ofFormat : α → Option β)
    (hto : ∀ b, ofFormat (toFormat b) = some b)
    (hof : ∀ {a b}, ofFormat a = some b → toFormat b = a) : Codec τ β where
  write b := c.write (toFormat b)
  read bs := do
    let (a, rest) ← c.read bs
    let b ← ofFormat a
    return (b, rest)
  read_write b rest := by
    simp [c.read_write, hto]
  write_of_read := by
    intro bs b rest h
    simp only [Option.bind_eq_bind, Option.bind_eq_some_iff, Option.pure_def, Option.some.injEq] at h
    obtain ⟨⟨a, rest'⟩, hread, b', hvalue, ⟨⟩⟩ := h
    rw [hof hvalue, c.write_of_read hread]

/-- The same values under other names. -/
def rename (c : Codec τ α) (e : α ≃ β) : Codec τ β :=
  c.restrict e.symm (fun a => some (e a)) (fun b => by simp) (by
    intro a b h
    cases h
    exact e.symm_apply_apply a)

@[simp] theorem write_pair (c : Codec τ α) (d : Codec τ β) (a : α) (b : β) :
    (c.pair d).write (a, b) = c.write a ++ d.write b := rfl

@[simp] theorem write_word (width : ℕ) (n : Fin (256 ^ width)) :
    (word width).write n = toBE width n := rfl

@[simp] theorem write_octets (length : ℕ) (data : { data : List τ // data.length = length }) :
    (octets length).write data = data.1 := rfl

@[simp] theorem write_literal [DecidableEq τ] (text : List τ) (u : Unit) :
    (literal text).write u = text := rfl

end Codec

end IncomUdon.Lib
