/-
Module: VirtualMemory.Proofs.Flat.Machine
Purpose: A machine that gives every process a flat memory, and the calls that it has in
  common with the kernel.
Main exports:
  SystemCall, SystemAnswer, converse; Kernel.call; FlatMachine and its boot, call,
  undisturbed

The machine has no frames, no swap file and no translation caches. Its answers leave out
what only they can tell: which frame a page is in, and how many frames were reclaimed.
-/
import VirtualMemory.Kernel
import VirtualMemory.Proofs.Flat.Memory

namespace VirtualMemory

open VirtualMemory.Action

/-- What the system can be asked for. -/
inductive SystemCall where
  | spawn (stackTop : Vpn)
  | serve (pid : Pid) (request : ProcessRequest)
  | exit (pid : Pid) (status : Int32)
  | exitStatus (pid : Pid)
  | reclaimOnce
  /-- Nothing is asked for, and frames may be reclaimed in the background. -/
  | idle
deriving DecidableEq, Repr

/-- What the system answers. -/
inductive SystemAnswer where
  | spawned (result : Except PagingError Pid)
  | served (result : Except FaultError ProcessAnswer)
  /-- No process with the number is live. -/
  | notRunning
  | ended (wasLive : Bool)
  | status (found : Option Int32)
  | reclaimed (result : Except PagingError Unit)
  | idled
deriving DecidableEq

/-- The answers to calls that are made one after another, and the state that they
leave. -/
def converse {σ : Type} (call : σ → SystemCall → SystemAnswer × σ) (state : σ) :
    List SystemCall → List SystemAnswer × σ
  | [] => ([], state)
  | next :: rest =>
      let (answer, after) := call state next
      let (answers, last) := converse call after rest
      (answer :: answers, last)

namespace Kernel

variable {φ : Type} [FileSystem φ]

/-- The kernel's answer to a call, and the kernel after it. -/
def call (kernel : Kernel φ) : SystemCall → SystemAnswer × Kernel φ
  | .spawn stackTop =>
      let (result, next) := (spawn stackTop).outcome kernel
      (.spawned (result.map UserProcess.pid), next)
  | .serve pid request =>
      match kernel.running pid with
      | none => (.notRunning, kernel)
      | some process =>
          let (result, next) := (perform process (·.serve request)).outcome kernel
          (.served result, next)
  | .exit pid status =>
      let (wasLive, next) := kernel.exit pid status
      (.ended wasLive, next)
  | .exitStatus pid => (.status (kernel.exitStatus pid), kernel)
  | .reclaimOnce =>
      let (result, next) := (onPager Pager.reclaimOnce).outcome kernel
      (.reclaimed (result.map fun _ => ()), next)
  | .idle => (.idled, kernel.reclaimInBackground)

end Kernel

/-- A live process of the machine: where its stack begins, and its pages. -/
structure FlatImage where
  stackTop : Vpn
  pages : PageViews

/-- The live processes, how the others ended, and the mishaps to come. -/
structure FlatMachine where
  /-- How many pages a stack may reach below its topmost page. -/
  stackPages : UInt32
  nextPid : Pid := 1
  live : Pid → Option FlatImage := fun _ => none
  statuses : Pid → Option Int32 := fun _ => none
  coming : Mishaps

namespace FlatMachine

/-- The machine before any process was started. -/
def boot (stackPages : UInt32) (coming : Mishaps) : FlatMachine :=
  { stackPages := stackPages, coming := coming }

/-- The machine on which nothing ever goes wrong. -/
def undisturbed (stackPages : UInt32) : FlatMachine := boot stackPages .never

/-- The machine with a live process changed or added. -/
def setImage (machine : FlatMachine) (pid : Pid) (image : FlatImage) : FlatMachine :=
  { machine with live := Function.update machine.live pid (some image) }

/-- The machine without a process that was live. -/
def finish (machine : FlatMachine) (pid : Pid) (status : Int32) : FlatMachine :=
  { machine with
    live := Function.update machine.live pid none
    statuses := Function.update machine.statuses pid (some status) }

/-- Whether a result of an operation leaves its process running: it does not survive that it
has no page, nor that its page cannot be read. -/
def survives {α : Type} : Except FaultError α → Bool
  | .error (.segfault _) | .error (.pageIn _ _) => false
  | .ok _ | .error _ => true

/-- Starts a process without pages. The highest number is never given out. -/
def spawn (machine : FlatMachine) (stackTop : Vpn) : Except PagingError Pid × FlatMachine :=
  let later := { machine with coming := machine.coming.tail }
  match machine.coming.head with
  | some (.noRoom cause) => (.error (.swap cause), later)
  | some (.unreadable _) | none =>
      if machine.nextPid.toNat + 1 < UInt16.size then
        (.ok machine.nextPid,
          { later with nextPid := machine.nextPid + 1 }.setImage machine.nextPid
            { stackTop := stackTop, pages := fun _ => none })
      else (.error .pidsExhausted, later)

/-- Serves a live process. A fault that the process cannot survive ends it, with status
-1. -/
def serve (machine : FlatMachine) (pid : Pid) (image : FlatImage) (request : ProcessRequest) :
    Except FaultError ProcessAnswer × FlatMachine :=
  let process : FlatProcess := ⟨pid, image.stackTop, machine.stackPages⟩
  let (result, memory) := (process.serve request).outcome ⟨image.pages, machine.coming⟩
  let later := { machine with coming := memory.coming }
  (result,
    if survives result then later.setImage pid { image with pages := memory.pages }
    else later.finish pid (-1))

/-- The machine's answer to a call, and the machine after it. -/
def call (machine : FlatMachine) : SystemCall → SystemAnswer × FlatMachine
  | .spawn stackTop =>
      let (result, next) := machine.spawn stackTop
      (.spawned result, next)
  | .serve pid request =>
      match machine.live pid with
      | none => (.notRunning, machine)
      | some image =>
          let (result, next) := machine.serve pid image request
          (.served result, next)
  | .exit pid status =>
      match machine.live pid with
      | none => (.ended false, machine)
      | some _ => (.ended true, machine.finish pid status)
  | .exitStatus pid => (.status (machine.statuses pid), machine)
  | .reclaimOnce =>
      let later := { machine with coming := machine.coming.tail }
      match machine.coming.head with
      | some (.noRoom cause) => (.reclaimed (.error (.swap cause)), later)
      | some (.unreadable _) | none => (.reclaimed (.ok ()), later)
  | .idle => (.idled, machine)

end FlatMachine

end VirtualMemory
