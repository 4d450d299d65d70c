/-
Module: VirtualMemory.Page
Purpose: Byte strings, and the contents of one page.
Main exports:
  Bytes, overlay, Page
-/
import VirtualMemory.Address

namespace VirtualMemory

/-- A string of bytes. -/
abbrev Bytes := List UInt8

/-- Zero bytes. -/
def zeroBytes (count : Nat) : Bytes :=
  List.replicate count 0

/-- Puts `data` over the bytes of `old` from `offset` on. -/
def overlay (old : Bytes) (offset : Nat) (data : Bytes) : Bytes :=
  old.take offset ++ data ++ old.drop (offset + data.length)

/-- The `length` bytes from `offset` on, or as many of them as there are. -/
def slice (bytes : Bytes) (offset length : Nat) : Bytes :=
  (bytes.drop offset).take length

theorem length_slice (bytes : Bytes) (offset length : Nat) :
    (slice bytes offset length).length = min length (bytes.length - offset) := by
  simp only [slice, List.length_take, List.length_drop]

/-- A buffer after `data` was copied to its start. -/
def fillStart (buffer data : Bytes) : Bytes :=
  overlay buffer 0 data

theorem length_overlay {old data : Bytes} {offset : Nat}
    (fits : offset + data.length ≤ old.length) :
    (overlay old offset data).length = old.length := by
  simp only [overlay, List.length_append, List.length_take, List.length_drop]
  omega

/-- What stands at a position after bytes were put over others. -/
theorem getElem?_overlay {old data : Bytes} {offset : Nat} (inside : offset ≤ old.length)
    (index : Nat) :
    (overlay old offset data)[index]? =
      if index < offset then old[index]?
      else if index < offset + data.length then data[index - offset]?
      else old[index]? := by
  simp only [overlay, List.append_assoc, List.getElem?_append, List.length_take,
    Nat.min_eq_left inside]
  split
  · next before => rw [List.getElem?_take_of_lt before]
  · next notBefore =>
    by_cases within : index < offset + data.length
    · rw [if_pos (by omega), if_pos within]
    · rw [if_neg (by omega), if_neg within, List.getElem?_drop]
      congr 1
      omega

/-- The contents of a page or frame. -/
structure Page where
  bytes : Bytes
  length_bytes : bytes.length = pageBytes
deriving DecidableEq

namespace Page

/-- The page of zeros that a fresh frame holds. -/
def zero : Page :=
  { bytes := zeroBytes pageBytes
    length_bytes := List.length_replicate }

instance : Inhabited Page := ⟨zero⟩

/-- The page with `data` written at `offset`, as far as it fits. -/
def overwrite (page : Page) (offset : Nat) (data : Bytes) : Page :=
  { bytes := overlay page.bytes offset (data.take (pageBytes - offset))
    length_bytes := by
      by_cases inside : offset ≤ pageBytes
      · rw [length_overlay]
        · exact page.length_bytes
        · rw [page.length_bytes, List.length_take]
          omega
      · have none : pageBytes - offset = 0 := by omega
        have size := page.length_bytes
        simp only [overlay, none, List.take_zero, List.append_nil, List.length_nil,
          Nat.add_zero, List.take_append_drop, size] }

/-- What stands at a position of a page after bytes that fit were written to it. -/
theorem getElem?_overwrite (page : Page) {offset : Nat} {data : Bytes}
    (fits : offset + data.length ≤ pageBytes) (index : Nat) :
    (page.overwrite offset data).bytes[index]? =
      if offset ≤ index ∧ index < offset + data.length then data[index - offset]?
      else page.bytes[index]? := by
  have whole : data.take (pageBytes - offset) = data := List.take_of_length_le (by omega)
  have size := page.length_bytes
  have inside : offset ≤ page.bytes.length := by omega
  simp only [overwrite, whole, getElem?_overlay inside]
  grind

end Page

end VirtualMemory
