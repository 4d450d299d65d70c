/-
Module: VirtualMemory.Kernel
Purpose: The kernel: a pager and the processes that share it.
Main exports:
  Kernel and its boot, spawn, exit, exitStatus, running, exitHook, perform,
  handleTranslationFault, endProcess, shutdown
-/
import VirtualMemory.UserProcess
import VirtualMemory.ProcessTable

namespace VirtualMemory

/-- What the kernel sets up at boot. -/
structure Kernel (φ : Type) where
  pager : Pager φ
  processes : ProcessTable UserProcess := .empty
  nextPid : Pid := 1
  /-- Whether frames are reclaimed in the background. -/
  reclaiming : Bool := false

/-- An operation of the kernel. -/
abbrev KernelAction (φ ε α : Type) := Action (Kernel φ) ε α

namespace Kernel

variable {φ : Type}

/-- Boots around a pager. Background reclamation runs if the configuration asks
for it and there is a place to evict pages to. -/
def around (pager : Pager φ) : Kernel φ :=
  { pager := pager
    reclaiming := pager.config.backgroundReclaim && pager.usesSwap }

/-- Boots a machine as configured. -/
def boot (config : Config) (files : φ) (policy : Policy) (chance : Chance) :
    Except BootError (Kernel φ) :=
  match Pager.boot config files policy chance with
  | .error cause => .error (.config cause)
  | .ok pager => .ok (around pager)

/-- An action on the pager. -/
def onPager {ε α : Type} (action : Action (Pager φ) ε α) : KernelAction φ ε α :=
  action.within Kernel.pager fun kernel pager => { kernel with pager := pager }

/-- The live process with a number. -/
def running (kernel : Kernel φ) (pid : Pid) : Option UserProcess :=
  kernel.processes.get pid

/-- How a process that has ended did so. -/
def exitStatus (kernel : Kernel φ) (pid : Pid) : Option Int32 :=
  kernel.processes.exitStatus pid

/-- A process as it is now. One that is not live any more has exited. -/
def current (kernel : Kernel φ) (process : UserProcess) : UserProcess :=
  match kernel.running process.pid with
  | some present => present
  | none => { process with exited := true }

/-- Ends a live process: records its status and frees its memory. Answers whether
it was live. -/
def exit (kernel : Kernel φ) (pid : Pid) (status : Int32) : Bool × Kernel φ :=
  match kernel.processes.remove pid status with
  | none => (false, kernel)
  | some (process, processes) =>
      let (_, _, pager) := process.exit kernel.pager
      (true, { kernel with processes := processes, pager := pager })

/-- What the kernel has its processes run at a fault that they cannot survive: they
are ended. -/
def exitHook : TerminationHook (Kernel φ) :=
  fun pid status kernel => (kernel.exit pid status).2

/-- Performs an operation of a process. -/
def perform {α : Type} (process : UserProcess)
    (operation : UserProcess → ProcessAction φ α) : KernelAction φ FaultError α :=
  fun kernel =>
    process.hooked Kernel.pager (fun state pager => { state with pager := pager }) exitHook
      (operation (kernel.current process)) kernel

/-- Frees the memory of a process that stays in the table. Answers the number of
frames. -/
def endProcess (process : UserProcess) (kernel : Kernel φ) : Nat × Kernel φ :=
  let (count, ended, pager) := (kernel.current process).exit kernel.pager
  (count,
    { kernel with
      pager := pager
      processes := kernel.processes.change process.pid fun _ => ended })

/-- Takes the next process number. The highest number is never given out. -/
def takePid : KernelAction φ PagingError Pid :=
  .update fun kernel =>
    if kernel.nextPid.toNat + 1 < UInt16.size then
      .ok (kernel.nextPid, { kernel with nextPid := kernel.nextPid + 1 })
    else .error .pidsExhausted

/-- Starts a process and adds it to the table. The numbers given out are never
live already. -/
def startProcess (pid : Pid) (stackTop : Vpn) : KernelAction φ PagingError UserProcess :=
  .always fun kernel =>
    let (process, pager) := UserProcess.start kernel.pager pid stackTop
    let processes :=
      match kernel.processes.add pid process with
      | .ok added => added
      | .error _ => kernel.processes
    (process, { kernel with pager := pager, processes := processes })

variable [FileSystem φ]

/-- Makes a process whose stack grows down from a page. Nothing is mapped yet, but
with demand paging the swap file is made. -/
def spawn (stackTop : Vpn) : KernelAction φ PagingError UserProcess := do
  if (← get).pager.usesSwap then
    onPager Pager.initializeSwap
  let pid ← takePid
  startProcess pid stackTop

/-- Resolves a translation fault of a process, by number. -/
def handleTranslationFault (pid : Pid) (address : UInt32) :
    KernelAction φ FaultError Unit := do
  match (← get).running pid with
  | none => throw (.exited pid)
  | some process => perform process fun present => present.fault address

/-- Starts background reclamation's work, if it was asked for. A failure leaves
the pager as it is until the next request. -/
def reclaimInBackground (kernel : Kernel φ) : Kernel φ :=
  if kernel.reclaiming && kernel.pager.reclaimRequested then
    match Pager.reclaimOnce { kernel.pager with reclaimRequested := false } with
    | .ok _ pager | .error _ pager => { kernel with pager := pager }
  else kernel

/-- Stops reclamation, ends every process with status 0 and deletes the swap
file. -/
def shutdown : KernelAction φ PagingError Unit := do
  modify fun kernel => { kernel with reclaiming := false }
  modify fun kernel =>
    kernel.processes.pids.foldl (fun state pid => (state.exit pid 0).2) kernel
  onPager Pager.terminate

end Kernel

end VirtualMemory
