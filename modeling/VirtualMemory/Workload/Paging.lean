/-
Module: VirtualMemory.Workload.Paging
Purpose: Loads that several threads put on one kernel, with answers that do not
  depend on how the threads take turns.
Main exports:
  Workload.faultTogether, Workload.fillWithReclaim, Workload.writeAndReadBack
-/
import VirtualMemory.Kernel

namespace VirtualMemory.Workload

variable {φ : Type} [FileSystem φ]

/-- The books of a kernel after a load. -/
structure Books where
  resident : Nat
  free : Nat
  consistency : Except PagingError Unit

/-- Reads the books. -/
def booksOf (kernel : Kernel φ) : Books :=
  { resident := kernel.pager.residentPageCount
    free := kernel.pager.freeFrameCount
    consistency := kernel.pager.checkConsistency }

/-- Threads of one process that fault at an address one after another. -/
def faultAll (process : UserProcess) (address : UInt32) :
    (threads : Nat) → Kernel φ → List (Except FaultError Unit) × Kernel φ
  | 0, kernel => ([], kernel)
  | threads + 1, kernel =>
      let (outcome, next) :=
        (Kernel.perform process fun present => present.fault address).outcome kernel
      let (outcomes, final) := faultAll process address threads next
      (outcome :: outcomes, final)

/-- Threads of one process that fault at the same address: how each fault ended,
and the books afterwards. -/
def faultTogether (kernel : Kernel φ) (stackTop : Vpn) (address : UInt32)
    (threads : Nat) : Except PagingError (List (Except FaultError Unit) × Books) :=
  match (Kernel.spawn stackTop).outcome kernel with
  | (.error cause, _) => .error cause
  | (.ok process, started) =>
      let (outcomes, final) := faultAll process address threads started
      .ok (outcomes, booksOf final)

/-- Pages of process 1 from number `first` on are made while frames are reclaimed
in the background. -/
def fillPages (first : Nat) : (pages : Nat) → Kernel φ → Kernel φ
  | 0, kernel => kernel
  | pages + 1, kernel =>
      let page : PageId := { pid := 1, vpn := first.toUInt32 }
      let (_, next) := (Kernel.onPager (Pager.newPage page false)).outcome kernel
      fillPages (first + 1) pages next.reclaimInBackground

/-- What is left after pages were made with reclamation in the background. -/
structure FillReport where
  runningBefore : Bool
  runningAfter : Bool
  books : Books
  evictions : Nat
  slots : Nat
  /-- Whether every page is resident or in swap. -/
  nothingLost : Bool

/-- Makes the first pages of process 1 while frames are reclaimed in the
background, and then stops reclamation. -/
def fillWithReclaim (pager : Pager φ) (pages : Nat) : FillReport :=
  let filled := fillPages 0 pages { pager := pager, reclaiming := true }
  let stopped := { filled with reclaiming := false }
  { runningBefore := filled.reclaiming
    runningAfter := stopped.reclaiming
    books := booksOf stopped
    evictions := stopped.pager.evictions
    slots := stopped.pager.swapSlotCount
    nothingLost :=
      (List.range pages).all fun index =>
        let page : PageId := { pid := 1, vpn := index.toUInt32 }
        (stopped.pager.translation page).isSome || stopped.pager.swapContains page }

/-- Starts processes with the same stack. -/
def startProcesses (stackTop : Vpn) :
    (count : Nat) → Kernel φ → List UserProcess × Kernel φ
  | 0, kernel => ([], kernel)
  | count + 1, kernel =>
      match (Kernel.spawn stackTop).outcome kernel with
      | (.error _, next) => startProcesses stackTop count next
      | (.ok process, next) =>
          let (others, final) := startProcesses stackTop count next
          (process :: others, final)

/-- The bytes that a process writes in a round. -/
def pattern (process : UserProcess) (round length : Nat) : Bytes :=
  (List.range length).map fun index =>
    (index * 7 + index / pageBytes + process.pid.toNat * 31 + round * 13).toUInt8

/-- A process writes bytes to an address and reads them back: whether they are
the same. -/
def writeOnce (process : UserProcess) (address : UInt32) (data : Bytes)
    (kernel : Kernel φ) : Bool × Kernel φ :=
  let (written, afterWrite) :=
    (Kernel.perform process fun present => present.write address data).outcome kernel
  let (bytes, afterRead) :=
    (Kernel.perform process fun present => present.read address data.length).outcome
      afterWrite.reclaimInBackground
  let same :=
    match written, bytes with
    | .ok count, .ok found => count == data.length && found == data
    | _, _ => false
  (same, afterRead.reclaimInBackground)

/-- Every process of a list writes and reads back once. -/
def writeRound (round : Nat) (address : UInt32) (length : Nat) :
    List (UserProcess × Bool) → Kernel φ → List (UserProcess × Bool) × Kernel φ
  | [], kernel => ([], kernel)
  | (process, good) :: rest, kernel =>
      let (same, next) := writeOnce process address (pattern process round length) kernel
      let (others, final) := writeRound round address length rest next
      ((process, good && same) :: others, final)

/-- Rounds of writing and reading back. -/
def writeRounds (address : UInt32) (length : Nat) :
    (rounds : Nat) → List (UserProcess × Bool) → Kernel φ →
      List (UserProcess × Bool) × Kernel φ
  | 0, writers, kernel => (writers, kernel)
  | rounds + 1, writers, kernel =>
      let (moved, next) := writeRound rounds address length writers kernel
      writeRounds address length rounds moved next

/-- What is left after processes wrote and read back. -/
structure WriteReport where
  /-- For each process, whether it always read what it had written. -/
  allEqual : List Bool
  pinned : Nat
  evicted : Bool
  consistency : Except PagingError Unit
  shutdown : Except PagingError Unit
  statuses : List (Option Int32)
  free : Nat
  swapExists : Bool

/-- Processes with the same stack write the `pages` pages up to its topmost one
and read them back, `rounds` times each; then the kernel is shut down. -/
def writeAndReadBack (kernel : Kernel φ) (stackTop : Vpn)
    (threads rounds pages : Nat) : WriteReport :=
  let (processes, started) := startProcesses stackTop threads kernel
  let bottom := stackTop + 1 - pages.toUInt32
  let address := (VirtualAddress.ofParts bottom 0).raw
  let (writers, worked) :=
    writeRounds address (pages * pageBytes) rounds
      (processes.map fun process => (process, true)) started
  let (ended, final) := Kernel.shutdown.outcome worked
  { allEqual := writers.map Prod.snd
    pinned := worked.pager.pinnedFrameCount
    evicted := 0 < worked.pager.evictions
    consistency := worked.pager.checkConsistency
    shutdown := ended
    statuses := processes.map fun process => final.exitStatus process.pid
    free := final.pager.freeFrameCount
    swapExists := final.pager.swapExists }

end VirtualMemory.Workload
