/-
Module: VirtualMemory.Proofs.Frame.LastStored
Purpose: Main memory is an array of bytes that do not depend on each other: each is the one
  that was last stored at its place.
Main exports:
  MemoryCall and its start, moved, stored, OutOfRange; lastStored; PhysicalMemory.perform,
  step and run, byteAt_run; PhysicalMemory.ArrayOfBytes, memory_is_array_of_bytes

The operations clip what they copy in different ways, and may overlap in part. What each of
them stores is told for every position of every frame, and compared with what is read from
there later.
-/
import VirtualMemory.Proofs.Frame.Memory

namespace VirtualMemory

/-- A call of the main memory. A read has a buffer of the caller to fill. -/
inductive MemoryCall where
  | read (ppn : Ppn) (offset : Nat) (buffer : Bytes)
  | write (ppn : Ppn) (offset : Nat) (data : Bytes)
  | copyIn (ppn : Ppn) (data : Bytes)
  | copyOut (ppn : Ppn)
  | zero (ppn : Ppn)
deriving DecidableEq, Repr

namespace MemoryCall

/-- The frame that a call is for. -/
def ppn : MemoryCall → Ppn
  | .read ppn _ _ | .write ppn _ _ | .copyIn ppn _ | .copyOut ppn | .zero ppn => ppn

/-- Where in its frame a call begins to copy. -/
def start : MemoryCall → Nat
  | .read _ offset _ | .write _ offset _ => offset
  | .copyIn _ _ | .copyOut _ | .zero _ => 0

/-- How many bytes there are, or how many there is room for, on the caller's side. -/
def room : MemoryCall → Nat
  | .read _ _ buffer => buffer.length
  | .write _ _ data | .copyIn _ data => data.length
  | .copyOut _ | .zero _ => pageBytes

/-- How many bytes a call copies: it stops at the end of the frame. -/
def moved (call : MemoryCall) : Nat := min call.room (pageBytes - call.start)

/-- What a call copies into its frame. -/
def data : MemoryCall → Bytes
  | .write _ _ data | .copyIn _ data => data
  | .zero _ => zeroBytes pageBytes
  | .read _ _ _ | .copyOut _ => []

/-- The byte that a call stores at a position of a frame, if it stores one there. -/
def stored (call : MemoryCall) (ppn : Ppn) (position : Nat) : Option UInt8 :=
  if call.ppn = ppn ∧ call.start ≤ position ∧ position < call.start + call.moved then
    call.data[position - call.start]?
  else none

/-- A call is for a frame that does not exist, or begins past the end of its frame. -/
def OutOfRange (count : Nat) (call : MemoryCall) : Prop :=
  count ≤ call.ppn ∨ pageBytes ≤ call.start

variable {call : MemoryCall} {other : Ppn} {position count : Nat}

/-- A call that is refused would store nothing where there is memory. -/
theorem stored_of_outOfRange (outside : call.OutOfRange count) (inside : other < count)
    (within : position < pageBytes) : call.stored other position = none := by
  rw [stored, if_neg]
  rintro ⟨rfl, reached, -⟩
  rcases outside with beyond | past
  · exact absurd inside (Nat.not_lt.mpr beyond)
  · exact absurd within (Nat.not_lt.mpr (Nat.le_trans past reached))

theorem stored_of_no_data (nothing : call.data = []) (other : Ppn) (position : Nat) :
    call.stored other position = none := by
  rw [stored, nothing, List.getElem?_nil, ite_self]

theorem getD_stored (whole : call.data.length = call.room) (old : UInt8) :
    (call.stored other position).getD old =
      if call.ppn = other ∧ call.start ≤ position ∧ position < call.start + call.moved then
        call.data.getD (position - call.start) 0
      else old := by
  rw [stored]
  split
  · next reached =>
    have present : position - call.start < call.data.length := by
      rw [whole]
      have fewer : call.moved ≤ call.room := Nat.min_le_left _ _
      omega
    rw [List.getD_eq_getElem?_getD, List.getElem?_eq_getElem present, Option.getD_some,
      Option.getD_some]
  · rfl

/-- A call that is in range stays inside its frame, and inside what the caller has. -/
theorem moved_le (inRange : ¬ call.OutOfRange count) :
    call.start + call.moved ≤ pageBytes ∧ call.moved ≤ call.room := by
  have within := (not_or.mp inRange).2
  rw [moved]
  omega

end MemoryCall

/-- The byte that the last of some calls to store one at a position stored there; before
any of them there is a zero. -/
def lastStored (calls : List MemoryCall) (ppn : Ppn) (position : Nat) : UInt8 :=
  (calls.reverse.findSome? fun call => call.stored ppn position).getD 0

namespace PhysicalMemory

/-- The memory after a call, unless the call is refused. -/
def perform (memory : PhysicalMemory) : MemoryCall → Except PagingError PhysicalMemory
  | .read ppn offset buffer =>
      match memory.readInto ppn offset buffer with
      | .ok _ => .ok memory
      | .error cause => .error cause
  | .write ppn offset data =>
      match memory.write ppn offset data with
      | .ok (_, next) => .ok next
      | .error cause => .error cause
  | .copyIn ppn data => memory.copyIn ppn data
  | .copyOut ppn =>
      match memory.copyOut ppn with
      | .ok _ => .ok memory
      | .error cause => .error cause
  | .zero ppn => memory.zero ppn

/-- The memory after a call, refused or not. -/
def step (memory : PhysicalMemory) (call : MemoryCall) : PhysicalMemory :=
  match memory.perform call with
  | .ok next => next
  | .error _ => memory

/-- The memory after calls, one after another. -/
def run (memory : PhysicalMemory) (calls : List MemoryCall) : PhysicalMemory :=
  calls.foldl step memory

/-- The buffer of a read after it. -/
def bufferAfter (memory : PhysicalMemory) (ppn : Ppn) (offset : Nat) (buffer : Bytes) : Bytes :=
  match memory.readInto ppn offset buffer with
  | .ok (_, filled) => filled
  | .error _ => buffer

variable {memory : PhysicalMemory} {call : MemoryCall} {ppn other : Ppn}
  {position offset : Nat} {count : Nat}

/-! ### One call -/

/-- A call out of range is refused. -/
theorem perform_refused (outside : call.OutOfRange memory.size) :
    memory.perform call = .error (.invalidFrame call.ppn) := by
  have beyond (fromStart : call.start = 0) : memory.size ≤ call.ppn := by
    refine outside.resolve_right fun past => ?_
    rw [fromStart] at past
    exact absurd past (by decide)
  cases call with
  | read ppn offset buffer =>
    have refused : memory.readInto ppn offset buffer = .error (.invalidFrame ppn) :=
      readInto_refused outside buffer
    simp only [perform, refused, MemoryCall.ppn]
  | write ppn offset data =>
    have refused : memory.write ppn offset data = .error (.invalidFrame ppn) :=
      write_refused outside data
    simp only [perform, refused, MemoryCall.ppn]
  | copyIn ppn data => exact copyIn_refused (beyond rfl) data
  | copyOut ppn =>
    have refused : memory.copyOut ppn = .error (.invalidFrame ppn) := copyOut_refused (beyond rfl)
    simp only [perform, refused, MemoryCall.ppn]
  | zero ppn => exact zero_refused (beyond rfl)

/-- What a call that is in range leaves: the memory as it was, or data over a part of a
frame. -/
theorem perform_accepted (inRange : ¬ call.OutOfRange memory.size) :
    memory.perform call = .ok memory ∧ call.data = [] ∨
      memory.perform call =
          .ok (memory.store call.ppn ((memory.frame call.ppn).overwrite call.start call.data)) ∧
        call.data.length = call.room := by
  obtain ⟨exists_frame, within⟩ := not_or.mp inRange
  rw [Nat.not_le] at exists_frame within
  cases call with
  | read ppn offset buffer =>
    have filled : memory.readInto ppn offset buffer = .ok _ :=
      readInto_eq exists_frame within buffer
    refine Or.inl ⟨?_, rfl⟩
    simp only [perform, filled]
  | write ppn offset data =>
    have written : memory.write ppn offset data =
        .ok (_, memory.store ppn ((memory.frame ppn).overwrite offset data)) :=
      write_eq exists_frame within data
    refine Or.inr ⟨?_, rfl⟩
    simp only [perform, written, MemoryCall.ppn, MemoryCall.start, MemoryCall.data]
  | copyIn ppn data => exact Or.inr ⟨copyIn_eq exists_frame data, rfl⟩
  | copyOut ppn =>
    have copied : memory.copyOut ppn = .ok (memory.frame ppn) := copyOut_eq exists_frame
    refine Or.inl ⟨?_, rfl⟩
    simp only [perform, copied]
  | zero ppn =>
    have zeros : (memory.frame ppn).overwrite 0 (zeroBytes pageBytes) = Page.zero :=
      Page.overwrite_whole _ Page.zero
    refine Or.inr ⟨?_, List.length_replicate⟩
    rw [MemoryCall.ppn, MemoryCall.start, MemoryCall.data, zeros]
    exact zero_eq exists_frame

theorem perform_eq_error_iff {cause : PagingError} :
    memory.perform call = .error cause ↔
      call.OutOfRange memory.size ∧ cause = .invalidFrame call.ppn := by
  by_cases outside : call.OutOfRange memory.size
  · rw [perform_refused outside, Except.error.injEq, and_iff_right outside, eq_comm]
  · refine iff_of_false (fun refused => ?_) fun both => outside both.1
    rcases perform_accepted outside with ⟨kept, -⟩ | ⟨wrote, -⟩
    · rw [kept] at refused
      cases refused
    · rw [wrote] at refused
      cases refused

theorem step_refused (outside : call.OutOfRange memory.size) : memory.step call = memory := by
  rw [step, perform_refused outside]

theorem size_step (memory : PhysicalMemory) (call : MemoryCall) :
    (memory.step call).size = memory.size := by
  by_cases outside : call.OutOfRange memory.size
  · rw [step_refused outside]
  · rcases perform_accepted outside with ⟨kept, -⟩ | ⟨wrote, -⟩
    · rw [step, kept]
    · rw [step, wrote, size_store]

/-- A call changes the bytes that it stores, and no others. -/
theorem byteAt_step (inside : other < memory.size) (within : position < pageBytes)
    (call : MemoryCall) :
    (memory.step call).byteAt other position =
      (call.stored other position).getD (memory.byteAt other position) := by
  by_cases outside : call.OutOfRange memory.size
  · rw [step_refused outside, MemoryCall.stored_of_outOfRange outside inside within,
      Option.getD_none]
  · rcases perform_accepted outside with ⟨kept, nothing⟩ | ⟨wrote, whole⟩
    · rw [step, kept, MemoryCall.stored_of_no_data nothing, Option.getD_none]
    · obtain ⟨exists_frame, begins⟩ := not_or.mp outside
      rw [step, wrote, MemoryCall.getD_stored whole, MemoryCall.moved, ← whole]
      exact byteAt_overwrite (Nat.not_le.mp exists_frame) (Nat.le_of_not_le begins) call.data

/-! ### All calls -/

theorem size_run (memory : PhysicalMemory) (calls : List MemoryCall) :
    (memory.run calls).size = memory.size := by
  induction calls generalizing memory with
  | nil => rfl
  | cons call rest hypothesis => exact (hypothesis _).trans (memory.size_step call)

/-- After a run each byte is the last one stored there, or the one that was there before. -/
theorem byteAt_run (inside : other < memory.size) (within : position < pageBytes)
    (calls : List MemoryCall) :
    (memory.run calls).byteAt other position =
      (calls.reverse.findSome? fun call => call.stored other position).getD
        (memory.byteAt other position) := by
  induction calls generalizing memory with
  | nil => rfl
  | cons call rest hypothesis =>
    have first : ([call].findSome? fun call => call.stored other position) =
        call.stored other position := by
      rw [List.findSome?_singleton]
    change ((memory.step call).run rest).byteAt other position = _
    rw [hypothesis ((memory.size_step call).symm ▸ inside), byteAt_step inside within,
      List.reverse_cons, List.findSome?_append, first, Option.getD_or]

/-- In a memory that was blank each byte is the last one stored there, or zero. -/
theorem byteAt_run_blank (inside : other < count) (within : position < pageBytes)
    (calls : List MemoryCall) :
    ((blank count).run calls).byteAt other position = lastStored calls other position := by
  rw [byteAt_run ((size_blank count).symm ▸ inside) within, byteAt_blank]
  rfl

/-- Main memory of `count` frames after calls, as an array of bytes. -/
structure ArrayOfBytes (count : Nat) (calls : List MemoryCall) (memory : PhysicalMemory) :
    Prop where
  /-- A read answers the bytes that were last stored, and leaves the rest of its buffer. -/
  read : ∀ ppn < count, ∀ offset < pageBytes, ∀ buffer,
    ∃ filled, memory.readInto ppn offset buffer =
        .ok (min buffer.length (pageBytes - offset), filled) ∧
      ∀ index : Nat, filled[index]? =
        if index < min buffer.length (pageBytes - offset) then
          some (lastStored calls ppn (offset + index))
        else buffer[index]?
  copyOut : ∀ ppn < count, ∃ page, memory.copyOut ppn = .ok page ∧
    page.bytes.length = pageBytes ∧
      ∀ position < pageBytes, page.bytes[position]? = some (lastStored calls ppn position)
  write : ∀ ppn < count, ∀ offset < pageBytes, ∀ data,
    memory.write ppn offset data =
      .ok (min data.length (pageBytes - offset), memory.step (.write ppn offset data))
  /-- Whatever a call does not store stays, in its own frame and in all others. -/
  changed : ∀ call, ∀ ppn < count, ∀ position < pageBytes,
    (memory.step call).byteAt ppn position =
      (call.stored ppn position).getD (memory.byteAt ppn position)
  refused_iff : ∀ call cause, memory.perform call = .error cause ↔
    call.OutOfRange count ∧ cause = .invalidFrame call.ppn
  refused : ∀ call : MemoryCall, call.OutOfRange count → memory.step call = memory
  buffer_kept : ∀ ppn offset buffer, (MemoryCall.read ppn offset buffer).OutOfRange count →
    memory.bufferAfter ppn offset buffer = buffer
  /-- What a call copies lies inside its frame, and inside what the caller has. -/
  in_range : ∀ call : MemoryCall, ¬ call.OutOfRange count →
    call.ppn < memory.frames.size ∧
      call.start + call.moved ≤ (memory.frame call.ppn).bytes.length ∧
      call.moved ≤ call.room

/-- Whatever was read, written, copied and cleared before, in whichever frames and with
whichever lengths: every byte is the one that was last stored at its place. -/
theorem memory_is_array_of_bytes (count : Nat) (calls : List MemoryCall) :
    ArrayOfBytes count calls ((blank count).run calls) := by
  have size_eq : ((blank count).run calls).size = count :=
    ((blank count).size_run calls).trans (size_blank count)
  have bytes {ppn position : Nat} (inside : ppn < count) (within : position < pageBytes) :
      ((blank count).run calls).byteAt ppn position = lastStored calls ppn position :=
    byteAt_run_blank inside within calls
  generalize (blank count).run calls = memory at size_eq bytes
  subst size_eq
  constructor
  case read =>
    intro ppn inside offset within buffer
    refine ⟨_, readInto_eq inside within buffer, fun index => ?_⟩
    rw [getElem?_filled within]
    split
    · rw [bytes inside (by omega)]
    · rfl
  case copyOut =>
    intro ppn inside
    refine ⟨_, copyOut_eq inside, (memory.frame ppn).length_bytes, fun position within => ?_⟩
    rw [getElem?_frame within, bytes inside within]
  case write =>
    intro ppn inside offset within data
    rw [step, perform, write_eq inside within]
  case changed => exact fun call _ inside _ within => byteAt_step inside within call
  case refused_iff => exact fun _ _ => perform_eq_error_iff
  case refused => exact fun _ outside => step_refused outside
  case buffer_kept =>
    intro ppn offset buffer outside
    have refused : memory.readInto ppn offset buffer = .error (.invalidFrame ppn) :=
      readInto_refused outside buffer
    rw [bufferAfter, refused]
  case in_range =>
    intro call inRange
    rw [(memory.frame call.ppn).length_bytes]
    exact ⟨Nat.not_le.mp (not_or.mp inRange).1, MemoryCall.moved_le inRange⟩

/-- Data that runs over the end of a frame is cut off there, and does not reach the next
one. -/
example :
    let memory := (blank 2).run [.write 0 1022 [1, 2, 3, 4], .zero 1, .copyIn 1 [5]]
    memory.byteAt 0 1023 = 2 ∧ memory.byteAt 1 0 = 5 ∧ memory.byteAt 1 1 = 0 := by
  decide +kernel

end PhysicalMemory

end VirtualMemory
