/-
Module: VirtualMemory.Frame.Memory
Purpose: The machine's main memory, an array of frames.
Main exports:
  PhysicalMemory and its read, readInto, write, copyOut, copyIn, zero
-/
import VirtualMemory.Page
import VirtualMemory.Failure

namespace VirtualMemory

/-- Main memory: the contents of every frame. -/
structure PhysicalMemory where
  frames : Array Page
deriving DecidableEq

namespace PhysicalMemory

/-- Memory of `count` frames, all zero. -/
def blank (count : Nat) : PhysicalMemory :=
  { frames := Array.replicate count Page.zero }

/-- The number of frames. -/
def size (memory : PhysicalMemory) : Nat := memory.frames.size

/-- The contents of a whole frame. -/
def copyOut (memory : PhysicalMemory) (ppn : Ppn) : Except PagingError Page :=
  match memory.frames[ppn]? with
  | some page => .ok page
  | none => .error (.invalidFrame ppn)

/-- A frame with its contents replaced. -/
def store (memory : PhysicalMemory) (ppn : Ppn) (page : Page) :
    PhysicalMemory :=
  { frames := memory.frames.setIfInBounds ppn page }

/-- A frame that exists holds what was last stored there, and no store reaches
another frame. -/
theorem copyOut_store (memory : PhysicalMemory) {ppn : Ppn} (inside : ppn < memory.size)
    (page : Page) (other : Ppn) :
    (memory.store ppn page).copyOut other =
      if ppn = other then .ok page else memory.copyOut other := by
  simp only [size] at inside
  by_cases same : ppn = other
  · subst same
    simp [copyOut, store, inside]
  · simp [copyOut, store, same]

/-- The frame that an access at `offset` goes to; an offset past the end of the
frame names no frame. -/
def accessed (memory : PhysicalMemory) (ppn : Ppn) (offset : Nat) :
    Except PagingError Page :=
  if pageBytes ≤ offset then .error (.invalidFrame ppn) else memory.copyOut ppn

/-- Up to `length` bytes of a frame from `offset` on, stopping at its end. -/
def read (memory : PhysicalMemory) (ppn : Ppn) (offset length : Nat) :
    Except PagingError Bytes :=
  match memory.accessed ppn offset with
  | .ok page => .ok (slice page.bytes offset length)
  | .error cause => .error cause

/-- Reads into a buffer: the number of bytes read, and the buffer with its start
replaced by them. -/
def readInto (memory : PhysicalMemory) (ppn : Ppn) (offset : Nat) (buffer : Bytes) :
    Except PagingError (Nat × Bytes) :=
  match memory.read ppn offset buffer.length with
  | .ok bytes => .ok (bytes.length, fillStart buffer bytes)
  | .error cause => .error cause

/-- Writes into a frame from `offset` on, stopping at its end, and answers the
number of bytes written. -/
def write (memory : PhysicalMemory) (ppn : Ppn) (offset : Nat) (data : Bytes) :
    Except PagingError (Nat × PhysicalMemory) :=
  match memory.accessed ppn offset with
  | .ok page =>
      .ok (min data.length (pageBytes - offset),
        memory.store ppn (page.overwrite offset data))
  | .error cause => .error cause

/-- Writes the start of a frame, at most a whole frame of it. -/
def copyIn (memory : PhysicalMemory) (ppn : Ppn) (data : Bytes) :
    Except PagingError PhysicalMemory :=
  match memory.copyOut ppn with
  | .ok page => .ok (memory.store ppn (page.overwrite 0 data))
  | .error cause => .error cause

/-- Fills a frame with zeros. -/
def zero (memory : PhysicalMemory) (ppn : Ppn) : Except PagingError PhysicalMemory :=
  match memory.copyOut ppn with
  | .ok _ => .ok (memory.store ppn Page.zero)
  | .error cause => .error cause

end PhysicalMemory

end VirtualMemory
