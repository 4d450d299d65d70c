/-
Module: VirtualMemory.Storage.Contents
Purpose: The bytes of a file.
Main exports:
  FileContents and its byteAt, read, write; length_read, getElem?_read,
  byteAt_write

A file is kept in blocks of the size of a page. A block that was never written to
takes no room and reads as zeros, so a file may have gaps of any length. Both
reading and writing are pinned down by what `byteAt` says of every position.
-/
import VirtualMemory.Page
import VirtualMemory.Span

namespace VirtualMemory

/-- Blocks by number. -/
abbrev Blocks := Std.ExtTreeMap Nat Page

namespace Blocks

/-- A block, of zeros if it was never written to. -/
def block (blocks : Blocks) (number : Nat) : Page :=
  blocks[number]?.getD Page.zero

theorem block_insert (blocks : Blocks) (number other : Nat) (page : Page) :
    block (blocks.insert number page) other =
      if number = other then page else blocks.block other := by
  simp only [block, Std.ExtTreeMap.getElem?_insert, Std.LawfulEqCmp.compare_eq_iff_eq]
  split <;> rfl

/-- The byte at a position. -/
def byteAt (blocks : Blocks) (position : Nat) : UInt8 :=
  (blocks.block (position / pageBytes)).bytes.getD (position % pageBytes) 0

theorem byteAt_empty (position : Nat) : byteAt ∅ position = 0 := by
  simp only [byteAt, block, Std.ExtTreeMap.getElem?_empty, Option.getD_none, Page.zero,
    zeroBytes, List.getD_eq_getElem?_getD, List.getElem?_replicate]
  split <;> rfl

/-- The bytes of one part of a run. -/
def readSpan (blocks : Blocks) (span : Span) : Bytes :=
  slice (blocks.block span.page).bytes span.offset span.count

theorem length_readSpan (blocks : Blocks) (start length : Nat) :
    (blocks.readSpan (Span.first start length)).length = (Span.first start length).count := by
  have fits := Span.first_fits start length
  have size := (blocks.block (Span.first start length).page).length_bytes
  rw [readSpan, length_slice]
  omega

theorem getElem?_readSpan (blocks : Blocks) {start length index : Nat}
    (inside : index < (Span.first start length).count) :
    (blocks.readSpan (Span.first start length))[index]? =
      some (blocks.byteAt (start + index)) := by
  have fits := Span.first_fits start length
  have page : (start + index) / pageBytes = (Span.first start length).page := by
    simp only [Span.first, pageBytes] at inside ⊢
    omega
  have offset : (start + index) % pageBytes = (Span.first start length).offset + index := by
    simp only [Span.first, pageBytes] at inside ⊢
    omega
  have size := (blocks.block (Span.first start length).page).length_bytes
  simp only [readSpan, slice, byteAt, page, offset, List.getD_eq_getElem?_getD]
  rw [List.getElem?_take_of_lt inside, List.getElem?_drop, List.getElem?_eq_getElem (by omega)]
  rfl

/-- The blocks with the start of `data` put over one part of a run. -/
def writeSpan (blocks : Blocks) (span : Span) (data : Bytes) : Blocks :=
  blocks.insert span.page
    ((blocks.block span.page).overwrite span.offset (data.take span.count))

theorem byteAt_writeSpan (blocks : Blocks) {start length : Nat} {data : Bytes}
    (enough : length ≤ data.length) (position : Nat) :
    (blocks.writeSpan (Span.first start length) data).byteAt position =
      if start ≤ position ∧ position < start + (Span.first start length).count then
        data.getD (position - start) 0
      else blocks.byteAt position := by
  have shorter := Span.first_count_le start length
  have fits := Span.first_fits start length
  have length_part : (data.take (Span.first start length).count).length =
      (Span.first start length).count := by
    rw [List.length_take]
    omega
  simp only [writeSpan, byteAt, block_insert]
  by_cases same : (Span.first start length).page = position / pageBytes
  · rw [if_pos same, List.getD_eq_getElem?_getD,
      Page.getElem?_overwrite _ (by rw [length_part]; exact fits), length_part, same]
    have order :
        ((Span.first start length).offset ≤ position % pageBytes ∧
            position % pageBytes <
              (Span.first start length).offset + (Span.first start length).count) ↔
          start ≤ position ∧ position < start + (Span.first start length).count := by
      simp only [Span.first, pageBytes] at same ⊢
      omega
    by_cases within : start ≤ position ∧ position < start + (Span.first start length).count
    · rw [if_pos within, if_pos (order.mpr within)]
      have distance :
          position % pageBytes - (Span.first start length).offset = position - start := by
        simp only [Span.first, pageBytes] at same ⊢
        omega
      rw [distance, List.getElem?_take_of_lt (by omega), List.getD_eq_getElem?_getD]
    · rw [if_neg within, if_neg (fun inside => within (order.mp inside)),
        List.getD_eq_getElem?_getD]
  · rw [if_neg same, if_neg]
    simp only [Span.first, pageBytes] at same fits shorter ⊢
    omega

/-- The blocks with `data` put over the parts of a run, in their order. -/
def writeSpans (blocks : Blocks) (data : Bytes) : List Span → Blocks
  | [] => blocks
  | span :: rest => (blocks.writeSpan span data).writeSpans (data.drop span.count) rest

/-- The bytes of a run. -/
def read (blocks : Blocks) (offset length : Nat) : Bytes :=
  (cut offset length).flatMap blocks.readSpan

theorem length_read (blocks : Blocks) (offset length : Nat) :
    (blocks.read offset length).length = length := by
  simp only [read]
  induction length using Nat.strongRecOn generalizing offset with
  | ind length hypothesis =>
    by_cases empty : length = 0
    · subst empty
      rfl
    · have positive : 0 < (Span.first offset length).count :=
        Span.first_count_pos (Nat.pos_of_ne_zero empty)
      have shorter := Span.first_count_le offset length
      rw [cut_of_pos offset (Nat.pos_of_ne_zero empty), List.flatMap_cons, List.length_append,
        length_readSpan, hypothesis _ (by omega)]
      omega

theorem getElem?_read (blocks : Blocks) (offset : Nat) {length index : Nat}
    (inside : index < length) :
    (blocks.read offset length)[index]? = some (blocks.byteAt (offset + index)) := by
  simp only [read]
  induction length using Nat.strongRecOn generalizing offset index with
  | ind length hypothesis =>
    have positive : 0 < (Span.first offset length).count := Span.first_count_pos (by omega)
    have shorter := Span.first_count_le offset length
    rw [cut_of_pos offset (by omega), List.flatMap_cons, List.getElem?_append, length_readSpan]
    split
    · next first => exact getElem?_readSpan blocks first
    · next later =>
      rw [hypothesis _ (by omega) _ (by omega)]
      congr 2
      omega

/-- The blocks with `data` put over the bytes from `offset` on. -/
def write (blocks : Blocks) (offset : Nat) (data : Bytes) : Blocks :=
  blocks.writeSpans data (cut offset data.length)

/-- A write changes the bytes that it covers, and no others. -/
theorem byteAt_write (blocks : Blocks) (offset : Nat) (data : Bytes) (position : Nat) :
    (blocks.write offset data).byteAt position =
      if offset ≤ position ∧ position < offset + data.length then
        data.getD (position - offset) 0
      else blocks.byteAt position := by
  simp only [write]
  generalize size : data.length = length
  induction length using Nat.strongRecOn generalizing blocks offset data with
  | ind length hypothesis =>
    by_cases empty : length = 0
    · subst empty
      rw [cut_zero, if_neg (by omega)]
      rfl
    · have positive : 0 < (Span.first offset length).count :=
        Span.first_count_pos (Nat.pos_of_ne_zero empty)
      have shorter := Span.first_count_le offset length
      rw [cut_of_pos offset (Nat.pos_of_ne_zero empty), writeSpans,
        hypothesis (length - (Span.first offset length).count) (by omega) _ _ _
          (by rw [List.length_drop, size]),
        byteAt_writeSpan blocks (Nat.le_of_eq size.symm)]
      simp only [List.getD_eq_getElem?_getD, List.getElem?_drop]
      grind

end Blocks

/-- The bytes of a file: how many there are, and the blocks that hold them. No block
holds anything but zeros past the end. -/
structure FileContents where
  length : Nat := 0
  blocks : Blocks := ∅
  zero_beyond : ∀ position, length ≤ position → blocks.byteAt position = 0 := by
    exact fun position _ => Blocks.byteAt_empty position
deriving DecidableEq

namespace FileContents

/-- No bytes. -/
def empty : FileContents := {}

/-- The byte at a position; past the end it is zero. -/
def byteAt (contents : FileContents) (position : Nat) : UInt8 :=
  contents.blocks.byteAt position

/-- The bytes from `offset` on: `length` of them, or fewer at the end. -/
def read (contents : FileContents) (offset length : Nat) : Bytes :=
  contents.blocks.read offset (min length (contents.length - offset))

theorem length_read (contents : FileContents) (offset length : Nat) :
    (contents.read offset length).length = min length (contents.length - offset) :=
  contents.blocks.length_read offset _

theorem getElem?_read (contents : FileContents) {offset length index : Nat}
    (inside : index < min length (contents.length - offset)) :
    (contents.read offset length)[index]? = some (contents.byteAt (offset + index)) :=
  contents.blocks.getElem?_read offset inside

/-- The contents with `data` put at `offset`. They grow as needed, and a gap between
their end and the offset is filled with zeros. -/
def write (contents : FileContents) (offset : Nat) (data : Bytes) : FileContents :=
  { length := max contents.length (offset + data.length)
    blocks := contents.blocks.write offset data
    zero_beyond := by
      intro position beyond
      rw [Blocks.byteAt_write, if_neg (by omega)]
      exact contents.zero_beyond position (by omega) }

theorem byteAt_write (contents : FileContents) (offset : Nat) (data : Bytes)
    (position : Nat) :
    (contents.write offset data).byteAt position =
      if offset ≤ position ∧ position < offset + data.length then
        data.getD (position - offset) 0
      else contents.byteAt position :=
  contents.blocks.byteAt_write offset data position

end FileContents

end VirtualMemory
