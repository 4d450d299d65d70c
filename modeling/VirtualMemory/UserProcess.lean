/-
Module: VirtualMemory.UserProcess
Purpose: The memory of a user process: its cache, its stack, its faults.
Main exports:
  TerminationHook; UserProcess and its fault, loadSection, allocateStack, read, write,
  saveState, restoreState, exit, hooked
-/
import VirtualMemory.Pager.Upkeep
import VirtualMemory.Span

namespace VirtualMemory

/-- A process as far as its memory goes. -/
structure UserProcess where
  pid : Pid
  /-- The topmost page of the stack. -/
  stackTop : Vpn
  /-- How many pages below the topmost one the stack may reach. -/
  stackPages : UInt32
  tlb : TlbId
  exited : Bool := false
deriving DecidableEq, Repr

/-- An operation of a process on the pager. -/
abbrev ProcessAction (φ α : Type) := Action (Pager φ) FaultError α

/-- The exit status of a process that a fault ended. -/
def faultExitStatus : Int32 := -1

/-- What is run when a fault ends a process. It is told the number of the process and
its exit status. -/
abbrev TerminationHook (σ : Type) := Pid → Int32 → σ → σ

/-- What becomes of a state when an operation of a process failed: a fault that the
process cannot survive runs the hook. -/
def TerminationHook.afterFault {σ : Type} (hook : TerminationHook σ) (pid : Pid)
    (cause : FaultError) (state : σ) : σ :=
  if cause.killsProcess then hook pid faultExitStatus state else state

namespace UserProcess

variable {φ : Type}

/-- Starts a process with an empty cache, which evictions can reach through the
pager. -/
def start (pager : Pager φ) (pid : Pid) (stackTop : Vpn) : UserProcess × Pager φ :=
  let (tlb, bank) := pager.tlbs.make pager.config.tlbEntries
  ({ pid := pid
     stackTop := stackTop
     stackPages := pager.config.stackPages
     tlb := tlb },
    { pager with tlbs := bank.attach pid tlb })

/-- A page of the process. -/
def page (process : UserProcess) (vpn : Vpn) : PageId :=
  { pid := process.pid, vpn := vpn }

/-- The stack grows down from its topmost page by as many pages as it may; both
ends belong to it. -/
def isStackPage (process : UserProcess) (vpn : Vpn) : Bool :=
  vpn ≤ process.stackTop && process.stackTop - vpn ≤ process.stackPages

/-- The process as a line of a report. -/
def describe (process : UserProcess) : String :=
  s!"VmProcess \x7b pid: {process.pid.toNat}, stack_top: {process.stackTop.toNat}, " ++
    s!"exited: {process.exited}, .. \x7d"

/-- The process's translation cache. -/
def cache (process : UserProcess) (pager : Pager φ) : Tlb :=
  (pager.tlbs.unit process.tlb).getD (.empty 0)

/-- The pager with the process's translation cache changed. -/
def changeCache (process : UserProcess) (step : Tlb → Tlb) (pager : Pager φ) : Pager φ :=
  { pager with tlbs := pager.tlbs.change process.tlb step }

/-- The pager with an access recorded in the process's translation cache. -/
def markCached (process : UserProcess) (vpn : Vpn) (write : Bool) : Pager φ → Pager φ :=
  process.changeCache fun tlb => (tlb.markAccessed vpn write).2

/-- Refuses a process that has exited. -/
def ensureRunning (process : UserProcess) : ProcessAction φ Unit :=
  if process.exited then throw (.exited process.pid) else pure ()

/-- Caches an entry for the process. -/
def installCached (process : UserProcess) (entry : TranslationEntry) :
    ProcessAction φ Unit := do
  let _ ← Pager.onTlbs (.always fun bank => bank.install process.tlb entry)

/-- Reads from a pinned frame. -/
def readFrame (ppn : Ppn) (offset length : Nat) : ProcessAction φ Bytes :=
  .inspect fun pager =>
    (pager.memory.read ppn offset length).mapError FaultError.kernel

/-- Writes to a pinned frame, and answers the number of bytes written. -/
def writeFrame (ppn : Ppn) (offset : Nat) (data : Bytes) : ProcessAction φ Nat :=
  (Pager.onMemory (.update fun memory => memory.write ppn offset data)).causing
    FaultError.kernel

/-- The pager without the pin that an access took. -/
def letGo (entry : TranslationEntry) (pager : Pager φ) : Pager φ :=
  pager.unpin entry.ppn

/-- The number of the page that is `index` pages after `first`. -/
def sectionPage (first : Vpn) (index : Nat) : Except FaultError Vpn :=
  if first.toNat + index < UInt32.size then .ok (first + index.toUInt32)
  else .error (.kernel (.invalidPage first))

/-- The first `limit` pages of contents. -/
def chunksUpTo : (limit : Nat) → Bytes → List Bytes
  | 0, _ => []
  | limit + 1, contents =>
      if contents.isEmpty then []
      else contents.take pageBytes :: chunksUpTo limit (contents.drop pageBytes)

/-- Cuts contents into pages; the last may be shorter. -/
def chunks (contents : Bytes) : List Bytes :=
  chunksUpTo contents.length contents

/-- The page tables with the accesses recorded that a cache's slot knows of. -/
def foldBack (process : UserProcess) (tables : PageTables) (slot : TranslationEntry) :
    PageTables :=
  if slot.valid && slot.used then
    (tables.markAccessed (process.page slot.vpn) slot.dirty).2
  else tables

/-- Switches the process out. What its cache knows of accesses goes back into the
page tables before the cache is emptied. -/
def saveState (process : UserProcess) (pager : Pager φ) : Pager φ :=
  let slots := (process.cache pager).slots
  let tables := slots.foldl process.foldBack pager.tables
  process.changeCache Tlb.invalidateAll { pager with tables := tables }

/-- Switches the process in, with an empty cache. -/
def restoreState (process : UserProcess) (pager : Pager φ) : Pager φ :=
  process.changeCache Tlb.invalidateAll pager

/-- Ends the process and gives its frames back. Answers their number; a process
that has exited has none. -/
def exit (process : UserProcess) (pager : Pager φ) : Nat × UserProcess × Pager φ :=
  if process.exited then (0, process, pager)
  else
    let (count, after) := pager.deallocate process.pid
    (count, { process with exited := true }, after)

/-- An operation of a process on a state that the pager is a part of. Its hook is run
before a fault that ends the process is answered. -/
def hooked {σ α : Type} (process : UserProcess) (part : σ → Pager φ)
    (replace : σ → Pager φ → σ) (hook : TerminationHook σ)
    (operation : ProcessAction φ α) : Action σ FaultError α := fun state =>
  match operation (part state) with
  | .ok answer pager => .ok answer (replace state pager)
  | .error cause pager =>
      .error cause (hook.afterFault process.pid cause (replace state pager))

variable [FileSystem φ]

/-- A failure to bring a page in, as the process meets it: a slot that cannot be
read is the process's misfortune, all else the kernel's. -/
def pageInFailure (page : PageId) : PagingError → FaultError
  | .swapRead _ cause => .pageIn page cause
  | cause => .kernel cause

/-- Finds a page or makes it: in memory, in swap, or as a new page of the
stack. -/
def faultIn (process : UserProcess) (vpn : Vpn) : ProcessAction φ TranslationEntry := do
  let page := process.page vpn
  match ← (Pager.loadFromSwap page).causing (pageInFailure page) with
  | some entry => return entry
  | none =>
      if process.isStackPage vpn then
        (Pager.newPage page false).causing FaultError.kernel
      else throw (.segfault page)

/-- Finds a page or makes it, and caches its translation. -/
def resolve (process : UserProcess) (vpn : Vpn) : ProcessAction φ TranslationEntry := do
  process.ensureRunning
  let entry ← process.faultIn vpn
  process.installCached entry
  return entry

/-- Resolves a translation fault at an address. -/
def fault (process : UserProcess) (address : UInt32) : ProcessAction φ Unit := do
  let _ ← process.resolve (VirtualAddress.mk address).vpn

/-- Resolves a page, records the access, and pins the page. -/
def resolvePinned (process : UserProcess) (vpn : Vpn) (write : Bool) :
    ProcessAction φ TranslationEntry := do
  let found ← process.resolve vpn
  let marked ←
    Pager.onTables (.always fun tables => tables.markAccessed (process.page vpn) write)
  let entry := marked.getD found
  modify (process.markCached vpn write)
  modify (·.pin entry.ppn)
  return entry

/-- Makes a page resident and pins it, as the processor would on a load or store:
a cached translation is used, a missing one faults. -/
def pinPage (process : UserProcess) (vpn : Vpn) (write : Bool) :
    ProcessAction φ TranslationEntry := do
  if ((process.cache (← get)).lookup vpn).isSome then
    match ← (Pager.getTranslationPinned (process.page vpn)).causing FaultError.kernel with
    | some entry =>
        modify (process.markCached vpn write)
        return entry
    | none =>
        modify (process.changeCache fun tlb => (tlb.invalidate vpn).2)
        process.resolvePinned vpn write
  else process.resolvePinned vpn write

/-- Copies the bytes of one span out of the process's memory. -/
def readSpan (process : UserProcess) (span : Span) : ProcessAction φ Bytes := do
  let entry ← process.pinPage span.page.toUInt32 false
  (readFrame entry.ppn span.offset span.count).thenAlways (letGo entry)

/-- Copies the bytes of spans out of the process's memory, in their order. -/
def readSpans (process : UserProcess) : List Span → ProcessAction φ Bytes
  | [] => return []
  | span :: rest => do
      let bytes ← process.readSpan span
      let others ← process.readSpans rest
      return bytes ++ others

/-- Copies `length` bytes at an address out of the process's memory, paging in as
needed. Stops early at the top of the address space. -/
def read (process : UserProcess) (address : UInt32) (length : Nat) :
    ProcessAction φ Bytes := do
  process.ensureRunning
  process.readSpans (spans address length)

/-- Copies the start of `data` to one span of the process's memory. Answers the
number of bytes written, or nothing for a page that refuses stores. -/
def writeSpan (process : UserProcess) (span : Span) (data : Bytes) :
    ProcessAction φ (Option Nat) := do
  let entry ← process.pinPage span.page.toUInt32 true
  (if entry.readOnly then pure none
    else some <$> writeFrame entry.ppn span.offset (data.take span.count)).thenAlways
    (letGo entry)

/-- Copies `data` to spans of the process's memory, in their order, up to the
first page that refuses stores. Answers `written` and the number of bytes
written. -/
def writeSpans (process : UserProcess) (written : Nat) (data : Bytes) :
    List Span → ProcessAction φ Nat
  | [] => return written
  | span :: rest => do
      match ← process.writeSpan span data with
      | none => return written
      | some count => process.writeSpans (written + count) (data.drop span.count) rest

/-- Copies `data` into the process's memory at an address. Stops at the first
read-only page and at the top of the address space, and answers the number of
bytes written. -/
def write (process : UserProcess) (address : UInt32) (data : Bytes) :
    ProcessAction φ Nat := do
  process.ensureRunning
  process.writeSpans 0 data (spans address data.length)

/-- Backs one page of a section. The rest of a page that is not filled stays
zero. -/
def loadChunk (process : UserProcess) (vpn : Vpn) (readOnly : Bool) (chunk : Bytes) :
    ProcessAction φ Unit := do
  process.ensureRunning
  let entry ←
    (Pager.newPagePinned (process.page vpn) readOnly).causing FaultError.kernel
  let _ ← (writeFrame entry.ppn 0 chunk).thenAlways (letGo entry)

/-- Backs the pages of a section from page `index` on, and answers the number of
pages when all are done. -/
def loadChunks (process : UserProcess) (first : Vpn) (readOnly : Bool) (index : Nat) :
    List Bytes → ProcessAction φ Nat
  | [] => return index
  | chunk :: rest => do
      let vpn ← Action.conclude (sectionPage first index)
      process.loadChunk vpn readOnly chunk
      process.loadChunks first readOnly (index + 1) rest

/-- Backs the pages from `first` on with fresh pages that hold `contents`, and
answers their number. -/
def loadSection (process : UserProcess) (first : Vpn) (contents : Bytes)
    (readOnly : Bool) : ProcessAction φ Nat :=
  process.loadChunks first readOnly 0 (chunks contents)

/-- Maps the topmost page of the stack. Deeper pages are made on demand. -/
def allocateStack (process : UserProcess) : ProcessAction φ TranslationEntry := do
  process.ensureRunning
  (Pager.newPage (process.page process.stackTop) false).causing FaultError.kernel

end UserProcess

end VirtualMemory
