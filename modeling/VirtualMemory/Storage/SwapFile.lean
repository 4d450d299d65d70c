/-
Module: VirtualMemory.Storage.SwapFile
Purpose: The swap file: where pages go that leave memory.
Main exports:
  SwapSlot, SwapFile and its create, writePage, readPage, loadPage, terminate

The file is a run of page-sized slots without a header. A page gets a slot at
the end the first time it is written and keeps it; a slot is never given to
another page. Which slot is whose is known in memory only.
-/
import VirtualMemory.Frame.Memory
import VirtualMemory.Frame.Tables
import VirtualMemory.Storage.FileSystem

namespace VirtualMemory

/-- Where a page that was written out lives, and whether stores to it are
refused. -/
structure SwapSlot where
  offset : Nat
  readOnly : Bool
deriving DecidableEq, Repr

/-- A swap file on a file system. Its handle is gone once it is terminated. -/
structure SwapFile (φ : Type) where
  files : φ
  name : String
  handle : Option FileHandle
  slots : Std.ExtTreeMap PageId SwapSlot := ∅
  /-- The offset of the next new slot. -/
  finish : Nat := 0

namespace SwapFile

variable {φ : Type}

/-- A swap file without slots, made by `create` on the file system. -/
def fresh (files : φ) (name : String) (handle : FileHandle) : SwapFile φ :=
  { files := files, name := name, handle := some handle }

/-- Whether the file still has its handle. -/
def isOpen (swap : SwapFile φ) : Bool := swap.handle.isSome

/-- The slot of a page. -/
def slot (swap : SwapFile φ) (page : PageId) : Option SwapSlot := swap.slots[page]?

/-- Whether a page was ever written out. -/
def contains (swap : SwapFile φ) (page : PageId) : Bool := swap.slots.contains page

/-- The number of slots handed out. -/
def slotCount (swap : SwapFile φ) : Nat := swap.slots.size

/-- Where a page goes when it is written: to its slot, or else to the end. -/
def offsetFor (swap : SwapFile φ) (page : PageId) : Nat :=
  match swap.slot page with
  | some slot => slot.offset
  | none => swap.finish

/-- Notes that a page was written out in full. -/
def claim (swap : SwapFile φ) (page : PageId) (readOnly : Bool) : SwapFile φ :=
  { swap with
    slots :=
      swap.slots.insert page { offset := swap.offsetFor page, readOnly := readOnly }
    finish := if swap.contains page then swap.finish else swap.finish + pageBytes }

/-- A call on the file system that holds the file. -/
def onFiles {α : Type} (action : Action φ FileError α) :
    Action (SwapFile φ) SwapError α :=
  (action.causing SwapError.files).within SwapFile.files fun swap files =>
    { swap with files := files }

/-- The handle, as long as the file is open. -/
def openHandle : Action (SwapFile φ) SwapError FileHandle :=
  .inspect fun swap =>
    match swap.handle with
    | some handle => .ok handle
    | none => .error .closed

variable [FileSystem φ]

open FileSystem

/-- Makes an empty swap file, after removing any file of its name. -/
def create (name : String) : Action φ SwapError FileHandle := do
  match ← (removeFile name : Action φ FileError Unit).attempt with
  | .ok () | .error .notFound => pure ()
  | .error cause => throw (.files cause)
  (openFile name true).causing SwapError.files

/-- Writes the bytes of a page to its slot. A page that is written in part has no
claim to a slot. -/
def writeBytes (page : PageId) (readOnly : Bool) (bytes : Bytes) :
    Action (SwapFile φ) SwapError Unit := do
  let handle ← openHandle
  let offset := (← get).offsetFor page
  let written ← onFiles (writeFile handle offset bytes)
  if written ≠ bytes.length then
    throw (.shortWrite offset written)
  modify (·.claim page readOnly)

/-- Writes the frame of an entry out as a page of a process. -/
def writePage (memory : PhysicalMemory) (pid : Pid) (entry : TranslationEntry) :
    Action (SwapFile φ) PagingError Unit := do
  let _ ← openHandle.causing PagingError.swap
  let contents ← Action.conclude (memory.copyOut entry.ppn)
  (writeBytes (entry.page pid) entry.readOnly contents.bytes).causing PagingError.swap

/-- Reads a page back from its slot. A page that was never written out has
none. -/
def readPage (page : PageId) :
    Action (SwapFile φ) SwapError (Option (SwapSlot × Bytes)) := do
  match (← get).slot page with
  | none => return none
  | some slot =>
      let handle ← openHandle
      let bytes ← onFiles (readFile handle slot.offset pageBytes)
      if bytes.length ≠ pageBytes then
        throw (.shortRead slot.offset bytes.length)
      return some (slot, bytes)

/-- Reads a page back into a frame, and answers its fresh entry. -/
def loadPage (page : PageId) (ppn : Ppn) :
    Action (SwapFile φ × PhysicalMemory) PagingError (Option TranslationEntry) := do
  let found ←
    ((readPage page).causing PagingError.swap).within Prod.fst fun state swap =>
      (swap, state.2)
  match found with
  | none => return none
  | some (slot, bytes) =>
      .update fun state =>
        match state.2.copyIn ppn bytes with
        | .error cause => .error cause
        | .ok memory =>
            .ok (some (.fresh page.vpn ppn slot.readOnly), (state.1, memory))

/-- Closes and removes the file. Its handle is given up first, so a file that was
terminated once is closed whatever happens. -/
def terminate : Action (SwapFile φ) SwapError Unit := do
  let swap ← get
  match swap.handle with
  | none => return
  | some handle =>
      set { swap with handle := none }
      onFiles (closeFile handle)
      onFiles (removeFile swap.name)

end SwapFile

end VirtualMemory
