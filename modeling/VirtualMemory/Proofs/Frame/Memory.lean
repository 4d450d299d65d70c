/-
Module: VirtualMemory.Proofs.Frame.Memory
Purpose: The bytes of the frames, what each operation on them answers and which of them it
  changes.
Main exports:
  PhysicalMemory.frame, byteAt; accessed_eq, readInto_eq, write_eq, copyIn_eq, zero_eq and
  their refusals; byteAt_overwrite, getElem?_filled
-/
import Mathlib.Tactic.ByContra
import VirtualMemory.Frame.Memory

namespace VirtualMemory

namespace Page

/-- Pages with the same bytes are the same. -/
theorem eq_of_bytes {first second : Page} (same : first.bytes = second.bytes) :
    first = second := by
  cases first
  cases second
  cases same
  rfl

variable (page : Page) {offset index : Nat}

/-- Data is cut off at the end of the page. -/
theorem overwrite_take (offset : Nat) (data : Bytes) :
    page.overwrite offset (data.take (pageBytes - offset)) = page.overwrite offset data := by
  simp only [overwrite, List.take_take, Nat.min_self]

/-- What stands at a position after bytes were written, as far as they fit. -/
theorem getElem?_overwrite_cut (inside : offset ≤ pageBytes) (data : Bytes) (index : Nat) :
    (page.overwrite offset data).bytes[index]? =
      if offset ≤ index ∧ index < offset + min data.length (pageBytes - offset) then
        data[index - offset]?
      else page.bytes[index]? := by
  have length : (data.take (pageBytes - offset)).length = min data.length (pageBytes - offset) := by
    rw [List.length_take, Nat.min_comm]
  rw [← overwrite_take, getElem?_overwrite page (by omega), length]
  split
  · next within => rw [List.getElem?_take_of_lt (by omega)]
  · rfl

/-- Data of a whole page leaves nothing of what there was. -/
theorem overwrite_whole (contents : Page) : page.overwrite 0 contents.bytes = contents := by
  rcases contents with ⟨bytes, full⟩
  have oldFull := page.length_bytes
  have whole : bytes.take pageBytes = bytes := List.take_of_length_le (Nat.le_of_eq full)
  simp only [Page.overwrite, overlay, Nat.sub_zero, whole, List.take_zero, List.nil_append,
    Nat.zero_add, full, List.drop_eq_nil_of_le (Nat.le_of_eq oldFull), List.append_nil]

/-- Every byte of a zeroed page is zero. -/
theorem getElem?_zero (within : index < pageBytes) : zero.bytes[index]? = some 0 :=
  List.getElem?_replicate_of_lt within

end Page

namespace PhysicalMemory

@[simp] theorem size_store (memory : PhysicalMemory) (ppn : Ppn) (contents : Page) :
    (memory.store ppn contents).size = memory.size := by
  simp only [size, store, Array.size_setIfInBounds]

/-- A write makes the memory neither larger nor smaller. -/
theorem size_of_write {memory next : PhysicalMemory} {ppn : Ppn} {offset : Nat} {data : Bytes}
    {count : Nat} (written : memory.write ppn offset data = .ok (count, next)) :
    next.size = memory.size := by
  simp only [write] at written
  split at written
  · cases written
    exact size_store memory ppn _
  · cases written

/-- A write reaches one frame. -/
theorem copyOut_write {memory next : PhysicalMemory} {ppn other : Ppn} {offset : Nat}
    {data : Bytes} {count : Nat}
    (written : memory.write ppn offset data = .ok (count, next)) (different : ppn ≠ other) :
    next.copyOut other = memory.copyOut other := by
  simp only [write] at written
  split at written
  · cases written
    simp only [copyOut, store, Array.getElem?_setIfInBounds_ne different]
  · cases written

/-- Only frames of the memory are copied. -/
theorem lt_size_of_copyOut {memory : PhysicalMemory} {ppn : Ppn} {contents : Page}
    (copied : memory.copyOut ppn = .ok contents) : ppn < memory.size := by
  by_contra outside
  rw [copyOut, Array.getElem?_eq_none (Nat.le_of_not_lt outside)] at copied
  cases copied

/-- The contents of a frame; a frame that does not exist has zeros. -/
def frame (memory : PhysicalMemory) (ppn : Ppn) : Page := memory.frames[ppn]?.getD Page.zero

/-- The byte at a position of a frame. -/
def byteAt (memory : PhysicalMemory) (ppn : Ppn) (position : Nat) : UInt8 :=
  (memory.frame ppn).bytes.getD position 0

variable {memory : PhysicalMemory} {ppn other : Ppn} {contents : Page}
  {offset position index : Nat} {buffer data : Bytes}

/-- What is copied is the frame. -/
theorem frame_eq (copied : memory.copyOut ppn = .ok contents) : memory.frame ppn = contents := by
  simp only [copyOut] at copied
  split at copied
  · next page found =>
    cases copied
    rw [frame, found, Option.getD_some]
  · cases copied

/-- Every frame of the memory is copied. -/
theorem copyOut_eq (inside : ppn < memory.size) : memory.copyOut ppn = .ok (memory.frame ppn) := by
  have found : memory.frames[ppn]? = some memory.frames[ppn] := Array.getElem?_eq_getElem inside
  simp only [copyOut, frame, found, Option.getD_some]

/-- A store changes one frame. -/
theorem frame_store (inside : ppn < memory.size) (contents : Page) (other : Ppn) :
    (memory.store ppn contents).frame other =
      if ppn = other then contents else memory.frame other := by
  simp only [size] at inside
  simp only [frame, store, Array.getElem?_setIfInBounds]
  split
  · next same =>
    rw [same] at inside
    simp only [Option.getD_some]
  · rfl

/-- The bytes of a frame are those of the memory. -/
theorem getElem?_frame (within : position < pageBytes) :
    (memory.frame ppn).bytes[position]? = some (memory.byteAt ppn position) := by
  have present : position < (memory.frame ppn).bytes.length := by
    rwa [(memory.frame ppn).length_bytes]
  rw [byteAt, List.getD_eq_getElem?_getD, List.getElem?_eq_getElem present, Option.getD_some]

@[simp] theorem size_blank (count : Nat) : (blank count).size = count := by
  simp only [size, blank, Array.size_replicate]

/-- In a blank memory every byte is zero. -/
theorem byteAt_blank (count : Nat) (ppn : Ppn) (position : Nat) :
    (blank count).byteAt ppn position = 0 := by
  have zeros : (blank count).frame ppn = .zero := by
    simp only [frame, blank, Array.getElem?_replicate]
    split <;> rfl
  rw [byteAt, zeros, List.getD_eq_getElem?_getD]
  by_cases within : position < pageBytes
  · rw [Page.getElem?_zero within, Option.getD_some]
  · have beyond : Page.zero.bytes.length ≤ position := by
      rw [Page.zero.length_bytes]
      exact Nat.le_of_not_lt within
    rw [List.getElem?_eq_none beyond, Option.getD_none]

/-! ### What the operations answer -/

/-- Other frames are not copied. -/
theorem copyOut_refused (outside : memory.size ≤ ppn) :
    memory.copyOut ppn = .error (.invalidFrame ppn) := by
  rw [copyOut, Array.getElem?_eq_none outside]

/-- Inside a frame it is found. -/
theorem accessed_eq (inside : ppn < memory.size) (within : offset < pageBytes) :
    memory.accessed ppn offset = .ok (memory.frame ppn) := by
  rw [accessed, if_neg (Nat.not_le.mpr within), copyOut_eq inside]

/-- Outside a frame, or beyond the memory, nothing is found. -/
theorem accessed_refused (outside : memory.size ≤ ppn ∨ pageBytes ≤ offset) :
    memory.accessed ppn offset = .error (.invalidFrame ppn) := by
  rw [accessed]
  split
  · rfl
  · next within => exact copyOut_refused (outside.resolve_right within)

/-- A read copies up to the end of the frame, or until the buffer is full. -/
theorem readInto_eq (inside : ppn < memory.size) (within : offset < pageBytes) (buffer : Bytes) :
    memory.readInto ppn offset buffer =
      .ok (min buffer.length (pageBytes - offset),
        fillStart buffer (slice (memory.frame ppn).bytes offset buffer.length)) := by
  simp only [readInto, read, accessed_eq inside within, length_slice,
    (memory.frame ppn).length_bytes]

/-- Outside a frame, or beyond the memory, nothing is read. -/
theorem readInto_refused (outside : memory.size ≤ ppn ∨ pageBytes ≤ offset) (buffer : Bytes) :
    memory.readInto ppn offset buffer = .error (.invalidFrame ppn) := by
  simp only [readInto, read, accessed_refused outside]

/-- Inside a frame a write puts in as many bytes as fit. -/
theorem write_eq (inside : ppn < memory.size) (within : offset < pageBytes) (data : Bytes) :
    memory.write ppn offset data =
      .ok (min data.length (pageBytes - offset),
        memory.store ppn ((memory.frame ppn).overwrite offset data)) := by
  simp only [write, accessed_eq inside within]

/-- Outside a frame, or beyond the memory, nothing is written. -/
theorem write_refused (outside : memory.size ≤ ppn ∨ pageBytes ≤ offset) (data : Bytes) :
    memory.write ppn offset data = .error (.invalidFrame ppn) := by
  simp only [write, accessed_refused outside]

/-- A copy is put in from the start of the frame. -/
theorem copyIn_eq (inside : ppn < memory.size) (data : Bytes) :
    memory.copyIn ppn data = .ok (memory.store ppn ((memory.frame ppn).overwrite 0 data)) := by
  simp only [copyIn, copyOut_eq inside]

/-- Beyond the memory nothing is put in. -/
theorem copyIn_refused (outside : memory.size ≤ ppn) (data : Bytes) :
    memory.copyIn ppn data = .error (.invalidFrame ppn) := by
  simp only [copyIn, copyOut_refused outside]

/-- A frame that is zeroed is a zeroed page. -/
theorem zero_eq (inside : ppn < memory.size) :
    memory.zero ppn = .ok (memory.store ppn Page.zero) := by
  simp only [zero, copyOut_eq inside]

/-- Beyond the memory nothing is zeroed. -/
theorem zero_refused (outside : memory.size ≤ ppn) :
    memory.zero ppn = .error (.invalidFrame ppn) := by
  simp only [zero, copyOut_refused outside]

/-! ### Which bytes change -/

/-- A store changes the bytes of one frame. -/
theorem byteAt_store (inside : ppn < memory.size) (contents : Page) :
    (memory.store ppn contents).byteAt other position =
      if ppn = other then contents.bytes.getD position 0 else memory.byteAt other position := by
  rw [byteAt, frame_store inside]
  split <;> rfl

/-- Writing changes the bytes that are written, in one frame, and no others. -/
theorem byteAt_overwrite (inside : ppn < memory.size) (within : offset ≤ pageBytes)
    (data : Bytes) :
    (memory.store ppn ((memory.frame ppn).overwrite offset data)).byteAt other position =
      if ppn = other ∧ offset ≤ position ∧
          position < offset + min data.length (pageBytes - offset) then
        data.getD (position - offset) 0
      else memory.byteAt other position := by
  rw [byteAt_store inside]
  by_cases same : ppn = other
  · subst same
    rw [if_pos rfl, List.getD_eq_getElem?_getD, Page.getElem?_overwrite_cut _ within]
    simp only [true_and]
    split
    · rw [List.getD_eq_getElem?_getD]
    · rw [byteAt, List.getD_eq_getElem?_getD]
  · rw [if_neg same, if_neg fun both => same both.1]

/-- A buffer that was read into starts with bytes of the frame, and is otherwise as it was. -/
theorem getElem?_filled (within : offset < pageBytes) (index : Nat) :
    (fillStart buffer (slice (memory.frame ppn).bytes offset buffer.length))[index]? =
      if index < min buffer.length (pageBytes - offset) then
        some (memory.byteAt ppn (offset + index))
      else buffer[index]? := by
  have length : (slice (memory.frame ppn).bytes offset buffer.length).length =
      min buffer.length (pageBytes - offset) := by
    rw [length_slice, (memory.frame ppn).length_bytes]
  rw [fillStart, getElem?_overlay (Nat.zero_le _), if_neg (Nat.not_lt_zero _), length,
    Nat.zero_add, Nat.sub_zero]
  split
  · next copied =>
    rw [slice, List.getElem?_take_of_lt (by omega), List.getElem?_drop,
      getElem?_frame (by omega)]
  · rfl

end PhysicalMemory

end VirtualMemory
