/-
Module: VirtualMemory.Proofs.Kernel.Lifecycle
Purpose: Processes are numbered in order, each is live until it ends once, and how it ended
  is never forgotten or changed.
Main exports:
  LifecycleCall, Kernel.after, afterAll, pidsGiven, endings; Kernel.Spawned, spawn_ends,
  Kernel.Retired, Kernel.standing_after, Kernel.Numbered; Kernel.Lifecycle,
  Kernel.processes_end_once

Three things end a process: a request to end it, a fault that it cannot survive, in whatever
it was doing, and the shutdown of the kernel. They may come in any order, and nothing keeps
any of them from coming again.
-/
import VirtualMemory.Proofs.Kernel.Effects
import VirtualMemory.Proofs.Pager.Equipped
import VirtualMemory.Storage.Ephemeral

namespace VirtualMemory

open VirtualMemory.Action Pager

/-- A call of the kernel or of a process. -/
inductive LifecycleCall (φ : Type) where
  | spawn (stackTop : Vpn)
  | exit (pid : Pid) (status : Int32)
  /-- The processor reports that an address of a process has no translation. -/
  | translationFault (pid : Pid) (address : UInt32)
  /-- An operation of a process, told by any value that was ever its handle. -/
  | serve (process : UserProcess) (request : ProcessRequest)
  /-- A process frees its memory by its handle and stays in the process table. -/
  | endProcess (process : UserProcess)
  | shutdown
  /-- Nothing is asked for, and frames may be reclaimed in the background. -/
  | idle
  /-- Something happens to the file system from outside. -/
  | disturb (change : φ → φ)

namespace ProcessTable

variable {π : Type} {table : ProcessTable π} {pid : Pid}

/-- A number that is not live can be added. -/
theorem add_of_absent (absent : table.get pid = none) (process : π) :
    table.add pid process = .ok { table with live := table.live.insert pid process } := by
  have unknown : table.live.contains pid = false := by
    rw [← Std.ExtTreeMap.isSome_getElem?_eq_contains]
    exact congrArg Option.isSome absent
  rw [add, unknown, if_neg Bool.false_ne_true]

/-- Only a process that is not in the table cannot be removed from it. -/
theorem remove_eq_none {status : Int32} (refused : table.remove pid status = none) :
    table.get pid = none := by
  rw [remove] at refused
  split at refused
  · assumption
  · cases refused

/-- A process that was removed was in the table. -/
theorem get_of_removed {status : Int32} {process : π} {next : ProcessTable π}
    (removed : table.remove pid status = some (process, next)) : table.get pid = some process := by
  rw [remove] at removed
  split at removed
  · cases removed
  · rename_i found
    cases removed
    exact found

/-- A live process is among those that the table lists. -/
theorem mem_pids {process : π} (live : table.get pid = some process) : pid ∈ table.pids := by
  rw [pids, Std.ExtTreeMap.mem_keys]
  exact Std.ExtTreeMap.isSome_getElem?_iff_mem.mp (congrArg Option.isSome live)

/-- To add a process ends none. -/
theorem exitStatus_of_add {next : ProcessTable π} {process : π}
    (added : table.add pid process = .ok next) : next.exitStatus = table.exitStatus := by
  rw [add] at added
  split at added <;> cases added
  rfl

/-- To change a process ends none. -/
theorem exitStatus_change (table : ProcessTable π) (pid : Pid) (step : π → π) :
    (table.change pid step).exitStatus = table.exitStatus := by
  rw [change]
  split <;> rfl

end ProcessTable

namespace Kernel

variable {φ : Type} {kernel next : Kernel φ} {config : Config} {pid : Pid}

/-- Whether an operation of a process ended with a fault that the process does not survive. -/
def kills {α : Type} : Except FaultError α → Bool
  | .ok _ => false
  | .error cause => cause.killsProcess

section Calls

variable [FileSystem φ]

/-- The kernel after a call. -/
def after (kernel : Kernel φ) : LifecycleCall φ → Kernel φ
  | .spawn stackTop => ((spawn stackTop).outcome kernel).2
  | .exit pid status => (kernel.exit pid status).2
  | .translationFault pid address => ((handleTranslationFault pid address).outcome kernel).2
  | .serve process request => ((perform process (·.serve request)).outcome kernel).2
  | .endProcess process => (endProcess process kernel).2
  | .shutdown => (shutdown.outcome kernel).2
  | .idle => kernel.reclaimInBackground
  | .disturb change =>
      { kernel with
        pager :=
          { kernel.pager with
            device := kernel.pager.device.withFiles (change kernel.pager.device.files) } }

/-- The kernel after calls, one after another. -/
def afterAll (kernel : Kernel φ) (calls : List (LifecycleCall φ)) : Kernel φ :=
  calls.foldl after kernel

/-- The number of the process that a call makes. -/
def pidGiven (kernel : Kernel φ) : LifecycleCall φ → Option Pid
  | .spawn stackTop => ((spawn stackTop).outcome kernel).1.toOption.map UserProcess.pid
  | .exit _ _ | .translationFault _ _ | .serve _ _ | .endProcess _ | .shutdown | .idle
  | .disturb _ => none

/-- The numbers of the processes that calls make, in their order. -/
def pidsGiven : Kernel φ → List (LifecycleCall φ) → List Pid
  | _, [] => []
  | kernel, call :: calls => (kernel.pidGiven call).toList ++ pidsGiven (kernel.after call) calls

/-- The status with which a call ends a process, if it does so should the process be live. -/
def endings (kernel : Kernel φ) (call : LifecycleCall φ) (pid : Pid) : Option Int32 :=
  match call with
  | .exit ended status => if pid = ended then some status else none
  | .translationFault faulting address =>
      if pid = faulting ∧ kills ((handleTranslationFault faulting address).outcome kernel).1 then
        some (-1)
      else none
  | .serve process request =>
      if pid = process.pid ∧ kills ((perform process (·.serve request)).outcome kernel).1 then
        some (-1)
      else none
  | .shutdown => some 0
  | .spawn _ | .endProcess _ | .idle | .disturb _ => none

end Calls

/-- The kernel once reclamation is stopped and every process is ended with status 0. -/
def emptied (kernel : Kernel φ) : Kernel φ :=
  kernel.processes.pids.foldl (fun state pid => (state.exit pid 0).2)
    { kernel with reclaiming := false }

/-- A shutdown empties the kernel and then terminates paging. -/
theorem ends_shutdown [FileSystem φ] {post : Except PagingError Unit → Kernel φ → Prop} :
    shutdown.Ends kernel post ↔
      (Pager.terminate : PagerAction φ Unit).Ends kernel.emptied.pager fun result pager =>
        post result { kernel.emptied with pager := pager } := by
  rw [shutdown, ends_bind, ends_modify, ends_bind, ends_modify, ends_onPager]
  exact Iff.rfl

/-! ### Ending processes -/

/-- Some of the live processes end, each with a status, and all else about processes stays as
it is. -/
structure Retired (kernel next : Kernel φ) (ended : Pid → Option Int32) : Prop where
  nextPid : next.nextPid = kernel.nextPid
  named : ∀ pid process, next.running pid = some process →
    ∃ before, kernel.running pid = some before ∧ process.pid = before.pid ∧
      process.tlb = before.tlb
  running : ∀ pid, (next.running pid).isSome =
    ((kernel.running pid).isSome && (ended pid).isNone)
  exitStatus : ∀ pid, next.exitStatus pid =
    if (kernel.running pid).isSome then (ended pid).or (kernel.exitStatus pid)
    else kernel.exitStatus pid

namespace Retired

/-- Nothing ends while the table stays the same. -/
theorem of_same (processes : next.processes = kernel.processes)
    (nextPid : next.nextPid = kernel.nextPid) : Retired kernel next fun _ => none := by
  have running : next.running = kernel.running := congrArg ProcessTable.get processes
  have exitStatus : next.exitStatus = kernel.exitStatus :=
    congrArg ProcessTable.exitStatus processes
  refine ⟨nextPid, fun pid process live => ?_, fun pid => ?_, fun pid => ?_⟩
  · exact ⟨process, running ▸ live, rfl, rfl⟩
  · rw [running, Option.isNone_none, Bool.and_true]
  · rw [exitStatus, Option.none_or, ite_self]

/-- Processes that are not live may be said to have ended in any way. -/
theorem congr {ended others : Pid → Option Int32} (retired : Retired kernel next ended)
    (same : ∀ pid, (kernel.running pid).isSome = true → ended pid = others pid) :
    Retired kernel next others := by
  refine ⟨retired.nextPid, retired.named, fun pid => ?_, fun pid => ?_⟩
  · rw [retired.running]
    cases live : (kernel.running pid).isSome with
    | true => rw [same pid live]
    | false => rfl
  · rw [retired.exitStatus]
    split
    · rw [same pid ‹_›]
    · rfl

/-- What ends first has ended, and the rest may end later. -/
theorem trans {middle : Kernel φ} {first second : Pid → Option Int32}
    (one : Retired kernel middle first) (two : Retired middle next second) :
    Retired kernel next fun pid => (first pid).or (second pid) := by
  refine ⟨two.nextPid.trans one.nextPid, fun pid process live => ?_, fun pid => ?_, fun pid => ?_⟩
  · obtain ⟨between, wasLive, samePid, sameTlb⟩ := two.named pid process live
    obtain ⟨before, found, alsoPid, alsoTlb⟩ := one.named pid between wasLive
    exact ⟨before, found, samePid.trans alsoPid, sameTlb.trans alsoTlb⟩
  · rw [two.running, one.running]
    cases first pid <;> cases second pid <;> simp
  · rw [two.exitStatus, one.running, one.exitStatus]
    cases (kernel.running pid).isSome <;> cases first pid <;> cases second pid <;> simp

/-- An exit ends one process, with the status that it is given. -/
theorem exit (kernel : Kernel φ) (ended : Pid) (status : Int32) :
    Retired kernel (kernel.exit ended status).2 fun pid =>
      if pid = ended then some status else none := by
  rw [Kernel.exit]
  cases removed : kernel.processes.remove ended status with
  | none =>
    have absent : kernel.running ended = none := ProcessTable.remove_eq_none removed
    refine (of_same rfl rfl).congr fun pid live => ?_
    rw [if_neg]
    rintro rfl
    rw [absent] at live
    cases live
  | some pair =>
    obtain ⟨process, processes⟩ := pair
    have present : kernel.running ended = some process := ProcessTable.get_of_removed removed
    have running : ∀ pid, processes.get pid = if ended = pid then none else kernel.running pid :=
      ProcessTable.get_of_remove removed
    have exitStatus : ∀ pid, processes.exitStatus pid =
        if ended = pid then some status else kernel.exitStatus pid :=
      ProcessTable.exitStatus_of_remove removed
    refine ⟨rfl, fun pid process live => ?_, fun pid => ?_, fun pid => ?_⟩
    · have found := (running pid).symm.trans live
      split at found
      · cases found
      · exact ⟨process, found, rfl, rfl⟩
    · refine (congrArg Option.isSome (running pid)).trans ?_
      by_cases same : pid = ended
      · rw [if_pos same.symm, if_pos same, Option.isNone_some, Bool.and_false, Option.isSome_none]
      · rw [if_neg (Ne.symm same), if_neg same, Option.isNone_none, Bool.and_true]
    · refine (exitStatus pid).trans ?_
      by_cases same : pid = ended
      · rw [if_pos same.symm, if_pos same, same, present, Option.isSome_some, if_pos rfl,
          Option.some_or]
      · rw [if_neg (Ne.symm same), if_neg same, Option.none_or, ite_self]

/-- Ending processes one after another, all with one status. -/
theorem exitAll (kernel : Kernel φ) (pids : List Pid) (status : Int32) :
    Retired kernel (pids.foldl (fun state pid => (state.exit pid status).2) kernel) fun pid =>
      if pid ∈ pids then some status else none := by
  induction pids generalizing kernel with
  | nil => exact (of_same rfl rfl).congr fun pid _ => (if_neg List.not_mem_nil).symm
  | cons first rest ih =>
    refine ((exit kernel first status).trans (ih (kernel.exit first status).2)).congr ?_
    intro pid _
    by_cases same : pid = first
    · rw [if_pos same, Option.some_or, if_pos (same ▸ List.mem_cons_self)]
    · rw [if_neg same, Option.none_or]
      refine if_congr ?_ rfl rfl
      rw [List.mem_cons, or_iff_right same]

/-- A fault that kills ends the process with the status -1, and other faults end none. -/
theorem afterFault (kernel : Kernel φ) (ended : Pid) (cause : FaultError) :
    Retired kernel (exitHook.afterFault ended cause kernel) fun pid =>
      if pid = ended ∧ cause.killsProcess then some (-1) else none := by
  rw [TerminationHook.afterFault]
  split
  · refine (exit kernel ended faultExitStatus).congr fun pid _ => ?_
    refine if_congr ?_ rfl rfl
    rw [and_iff_left ‹_›]
  · refine (of_same rfl rfl).congr fun pid _ => ?_
    rw [if_neg fun both => absurd both.2 ‹_›]

/-- The memory of a process is freed by its handle, and the process counts as live. -/
theorem endProcess (kernel : Kernel φ) (process : UserProcess) :
    Retired kernel (Kernel.endProcess process kernel).2 fun _ => none := by
  have running : ∀ pid, (Kernel.endProcess process kernel).2.running pid =
      if process.pid = pid then
        (kernel.running pid).map fun _ => ((kernel.current process).exit kernel.pager).2.1
      else kernel.running pid :=
    fun pid => ProcessTable.get_change kernel.processes process.pid pid _
  have exitStatus : (Kernel.endProcess process kernel).2.exitStatus = kernel.exitStatus :=
    ProcessTable.exitStatus_change kernel.processes process.pid _
  refine ⟨rfl, fun pid current live => ?_, fun pid => ?_, fun pid => ?_⟩
  · rw [running] at live
    split at live
    · rename_i same
      obtain ⟨before, found, rfl⟩ := Option.map_eq_some_iff.mp live
      have present : kernel.current process = before := by rw [Kernel.current, same, found]
      rw [present]
      obtain ⟨sameTlb, samePid⟩ := before.exit_same kernel.pager
      exact ⟨before, found, samePid, sameTlb⟩
    · exact ⟨current, live, rfl, rfl⟩
  · rw [running, Option.isNone_none, Bool.and_true]
    split
    · exact Option.isSome_map
    · rfl
  · rw [exitStatus, Option.none_or, ite_self]

/-- An operation of a process ends at most that process, by a fault that kills. -/
theorem perform {α : Type} (kernel : Kernel φ) (process : UserProcess)
    (operation : UserProcess → ProcessAction φ α) :
    (Kernel.perform process operation).Ends kernel fun result next =>
      Retired kernel next fun pid =>
        if pid = process.pid ∧ kills result then some (-1) else none := by
  rw [ends_perform, Ends]
  rcases (operation (kernel.current process)).outcome kernel.pager with ⟨_ | _, pager⟩
  · rename_i cause
    have moved : Retired kernel { kernel with pager := pager } fun _ => none := of_same rfl rfl
    exact moved.trans (afterFault { kernel with pager := pager } process.pid cause)
  · have moved : Retired kernel { kernel with pager := pager } fun _ => none := of_same rfl rfl
    refine moved.congr fun pid _ => ?_
    rw [if_neg fun both => Bool.false_ne_true both.2]

section Calls

variable [FileSystem φ]

/-- A translation fault ends at most the process that it is a fault of. -/
theorem translationFault (kernel : Kernel φ) (faulting : Pid) (address : UInt32)
    (named : ∀ process, kernel.running faulting = some process → process.pid = faulting) :
    (handleTranslationFault faulting address).Ends kernel fun result next =>
      Retired kernel next fun pid => if pid = faulting ∧ kills result then some (-1) else none := by
  rw [handleTranslationFault, ends_bind, ends_get]
  dsimp only
  cases live : kernel.running faulting with
  | none =>
    have same : Retired kernel kernel fun _ => none := of_same rfl rfl
    refine same.congr fun pid _ => ?_
    rw [if_neg fun both => Bool.false_ne_true both.2]
  | some process =>
    have same := named process live
    subst same
    exact perform kernel process _

/-- A shutdown ends every live process with the status 0. -/
theorem shutdown (kernel : Kernel φ) :
    (Kernel.shutdown : KernelAction φ PagingError Unit).Ends kernel fun _ next =>
      Retired kernel next fun _ => some 0 := by
  rw [ends_shutdown, Ends]
  have idle : Retired kernel { kernel with reclaiming := false } fun _ => none := of_same rfl rfl
  have moved : ∀ pager,
      Retired kernel.emptied { kernel.emptied with pager := pager } fun _ => none :=
    fun pager => of_same rfl rfl
  refine ((idle.trans (exitAll _ kernel.processes.pids 0)).trans (moved _)).congr ?_
  intro pid live
  obtain ⟨process, found⟩ := Option.isSome_iff_exists.mp live
  rw [if_pos (ProcessTable.mem_pids found)]
  rfl

/-- All calls but those for a new process end processes at most. -/
theorem after (kernel : Kernel φ) (call : LifecycleCall φ)
    (named : ∀ pid process, kernel.running pid = some process → process.pid = pid)
    (notSpawn : ∀ stackTop, call ≠ .spawn stackTop) :
    Retired kernel (kernel.after call) (kernel.endings call) := by
  cases call with
  | spawn stackTop => exact absurd rfl (notSpawn stackTop)
  | exit pid status => exact exit kernel pid status
  | translationFault pid address => exact translationFault kernel pid address (named pid)
  | serve process request => exact perform kernel process _
  | endProcess process => exact endProcess kernel process
  | shutdown => exact shutdown kernel
  | idle =>
    change Retired kernel kernel.reclaimInBackground fun _ => none
    exact reclaimInBackground_ends (of_same rfl rfl) (of_same rfl rfl)
  | disturb change => exact of_same rfl rfl

end Calls

end Retired

/-! ### Making processes -/

section Spawning

variable [FileSystem φ]

/-- The ways in which making a process can end, on a pager whose swap file is made if it has
to be. -/
inductive Spawned (config : Config) (made : Prop) (kernel : Kernel φ) (stackTop : Vpn) :
    Except PagingError UserProcess → Kernel φ → Prop where
  | withoutFile {cause : PagingError} {pager : Pager φ} (equipped : Equipped config made pager)
      (demand : config.paging = .demand) (unmade : ¬ made) :
      Spawned config made kernel stackTop (.error cause) { kernel with pager := pager }
  | exhausted {pager : Pager φ} (equipped : Equipped config made pager)
      (last : ¬ kernel.nextPid.toNat + 1 < UInt16.size) :
      Spawned config made kernel stackTop (.error .pidsExhausted) { kernel with pager := pager }
  | started {pager : Pager φ} (equipped : Equipped config (config.paging = .demand) pager)
      (left : kernel.nextPid.toNat + 1 < UInt16.size) :
      Spawned config made kernel stackTop
        (.ok (UserProcess.start pager kernel.nextPid stackTop).1)
        ((startProcess kernel.nextPid stackTop).outcome
          { kernel with pager := pager, nextPid := kernel.nextPid + 1 }).2

omit [FileSystem φ] in
/-- Once the swap file is seen to, there may be no number left. -/
theorem number_ends {made : Prop} (kernel : Kernel φ) (pager : Pager φ) (stackTop : Vpn)
    (equipped : Equipped config (config.paging = .demand) pager)
    (needless : made → config.paging = .demand) :
    (takePid >>= fun pid => startProcess pid stackTop).Ends { kernel with pager := pager }
      (Spawned config made kernel stackTop) := by
  rw [ends_bind, ends_takePid]
  split
  · exact .started equipped ‹_›
  · exact .exhausted ⟨equipped.accounts, fun must => equipped.hasSwapFile (needless must)⟩ ‹_›

/-- However a start goes, it gives the next number or fails as told. -/
theorem spawn_ends {made : Prop} (equipped : Equipped config made kernel.pager)
    (needless : made → config.paging = .demand) (stackTop : Vpn) :
    (spawn stackTop).Ends kernel (Spawned config made kernel stackTop) := by
  obtain ⟨held, accounts⟩ := equipped.accounts
  rw [spawn, ends_bind, ends_get]
  simp only [usesSwap, accounts.config_eq]
  split
  · rename_i demand
    rw [ends_bind, ends_onPager]
    refine equipped.initializeSwap.mono fun result pager ends => ?_
    cases result with
    | ok =>
      have seenTo : Equipped config (config.paging = .demand) pager :=
        ⟨ends.accounts, fun _ => ends.hasSwapFile trivial⟩
      exact number_ends kernel pager stackTop seenTo needless
    | error cause => exact .withoutFile ends.1 (eq_of_beq demand) ends.2
  · rename_i resident
    have demandless : config.paging ≠ .demand := fun demand => resident (by rw [demand]; rfl)
    exact number_ends kernel kernel.pager stackTop
      ⟨equipped.accounts, fun demand => absurd demand demandless⟩ needless

end Spawning

/-! ### The pager under a kernel -/

section Upheld

variable [FileSystem φ] {property : Pager φ → Prop}

/-- What all paging upholds stands through an exit. -/
theorem standing_exit (upheld : Upheld config property)
    (standing : Standing config property kernel.pager) (pid : Pid) (status : Int32) :
    Standing config property (kernel.exit pid status).2.pager := by
  rw [Kernel.exit]
  split
  · exact standing
  · exact upheld.exit standing _

/-- What all paging upholds stands through any number of exits. -/
theorem standing_exitAll (upheld : Upheld config property) (kernel : Kernel φ)
    (standing : Standing config property kernel.pager) (pids : List Pid) (status : Int32) :
    Standing config property
      (pids.foldl (fun state pid => (state.exit pid status).2) kernel).pager := by
  induction pids generalizing kernel with
  | nil => exact standing
  | cons pid rest ih => exact ih _ (standing_exit upheld standing pid status)

/-- What all paging upholds stands through an operation and the fault it may end in. -/
theorem standing_perform {α : Type} (upheld : Upheld config property)
    (standing : Standing config property kernel.pager) {process : UserProcess}
    {operation : UserProcess → ProcessAction φ α}
    (preserves : ∀ present, (operation present).Preserves (Standing config property)) :
    (perform process operation).Ends kernel fun _ next =>
      Standing config property next.pager := by
  rw [ends_perform]
  apply Ends.mono (preserves (kernel.current process) kernel.pager standing)
  intro result pager holds
  cases result with
  | ok answer => exact holds
  | error cause =>
    simp only [TerminationHook.afterFault, exitHook]
    split
    · exact standing_exit upheld holds process.pid faultExitStatus
    · exact holds

/-- What all paging upholds stands through a translation fault. -/
theorem standing_translationFault (upheld : Upheld config property)
    (standing : Standing config property kernel.pager) (pid : Pid) (address : UInt32) :
    (handleTranslationFault pid address).Ends kernel fun _ next =>
      Standing config property next.pager := by
  rw [handleTranslationFault, ends_bind, ends_get]
  dsimp only
  split
  · exact standing
  · apply standing_perform upheld standing
    intro present
    have sustains := (upheld.keeps present).sustains (fun _ => True) fun _ => True
    exact (sustains.resolve _).bind fun _ => .pure _

/-- What all paging upholds stands through the start of a process. -/
theorem standing_spawn (upheld : Upheld config property)
    (standing : Standing config property kernel.pager) (stackTop : Vpn) :
    (spawn stackTop).Ends kernel fun _ next => Standing config property next.pager := by
  have numbered : ∀ pager, Standing config property pager →
      (takePid >>= fun pid => startProcess pid stackTop).Ends { kernel with pager := pager }
        fun _ next => Standing config property next.pager := by
    intro pager standing
    rw [ends_bind, ends_takePid]
    split
    · exact upheld.start standing kernel.nextPid stackTop
    · exact standing
  rw [spawn, ends_bind, ends_get]
  simp only
  split
  · rw [ends_bind, ends_onPager]
    apply Ends.mono (upheld.initializeSwap kernel.pager standing)
    intro result pager holds
    cases result with
    | ok => exact numbered pager holds
    | error cause => exact holds
  · exact numbered kernel.pager standing

/-- What every part of an operation upholds, every call of the kernel preserves. -/
theorem standing_after (upheld : Upheld config property)
    (standing : Standing config property kernel.pager) (call : LifecycleCall φ) :
    Standing config property (kernel.after call).pager := by
  cases call with
  | spawn stackTop => exact standing_spawn upheld standing stackTop
  | exit pid status => exact standing_exit upheld standing pid status
  | translationFault pid address => exact standing_translationFault upheld standing pid address
  | serve process request =>
    apply standing_perform upheld standing
    exact fun present => (upheld.keeps present).serve request
  | endProcess process => exact upheld.exit standing _
  | shutdown =>
    have ended : Standing config property kernel.emptied.pager :=
      standing_exitAll upheld { kernel with reclaiming := false } standing _ 0
    have closed : (shutdown : KernelAction φ PagingError Unit).Ends kernel fun _ next =>
        Standing config property next.pager := ends_shutdown.mpr (upheld.terminate _ ended)
    exact closed
  | idle =>
    change Standing config property kernel.reclaimInBackground.pager
    have asked : Standing config property { kernel.pager with reclaimRequested := false } :=
      ⟨standing.accounts.imp fun _ accounts => accounts.of_same rfl rfl rfl accounts.pins rfl,
        upheld.pooled kernel.pager.frames false standing.holds⟩
    exact reclaimInBackground_ends standing (upheld.reclaimOnce _ asked)
  | disturb change => exact upheld.disturb standing _

end Upheld

/-! ### Numbers -/

/-- Whether a process number is among the first that are given out. -/
def Counted (count : Nat) (pid : Pid) : Prop :=
  0 < pid.toNat ∧ pid.toNat ≤ count

/-- A kernel that has given out so many numbers: who has one of them is live or has exited. -/
structure Numbered (config : Config) (count : Nat) (kernel : Kernel φ) : Prop where
  equipped : Equipped config (0 < count ∧ config.paging = .demand) kernel.pager
  nextPid : kernel.nextPid.toNat = count + 1
  named : ∀ pid process, kernel.running pid = some process → process.pid = pid
  known : ∀ pid, Counted count pid →
    (kernel.running pid).isSome = (kernel.exitStatus pid).isNone
  unknown : ∀ pid, ¬ Counted count pid →
    kernel.running pid = none ∧ kernel.exitStatus pid = none

namespace Numbered

variable {count : Nat}

/-- A booted kernel has numbered no process yet. -/
theorem boot {files : φ} {policy : Policy} {chance : Chance}
    (booted : Kernel.boot config files policy chance = .ok kernel) : Numbered config 0 kernel := by
  obtain ⟨pager, set, rfl⟩ := exists_boot booted
  have nobody : ∀ pid, (around pager).running pid = none ∧ (around pager).exitStatus pid = none :=
    fun pid => ⟨Std.ExtTreeMap.getElem?_empty, Std.ExtTreeMap.getElem?_empty⟩
  exact {
    equipped := ⟨⟨∅, Accounts.boot set⟩, fun must => absurd must.1 (Nat.lt_irrefl 0)⟩
    nextPid := rfl
    named := fun pid process live => by cases (nobody pid).1.symm.trans live
    known := fun pid counted => absurd counted.2 (Nat.not_le_of_gt counted.1)
    unknown := fun pid _ => nobody pid }

/-- A process that has ended is not live, and its number was given out. -/
theorem not_running (numbered : Numbered config count kernel) {status : Int32}
    (ended : kernel.exitStatus pid = some status) : kernel.running pid = none := by
  by_cases counted : Counted count pid
  · have known := numbered.known pid counted
    rw [ended, Option.isNone_some] at known
    exact Option.not_isSome_iff_eq_none.mp (known ▸ Bool.false_ne_true)
  · exact (numbered.unknown pid counted).1

/-- A live process has no status. -/
theorem exitStatus_of_running (numbered : Numbered config count kernel) {process : UserProcess}
    (live : kernel.running pid = some process) : kernel.exitStatus pid = none := by
  cases ended : kernel.exitStatus pid with
  | none => rfl
  | some status => cases (numbered.not_running ended).symm.trans live

/-- Where processes only end, the numbers that were given stay what they are. -/
theorem retired {ended : Pid → Option Int32} (numbered : Numbered config count kernel)
    (retired : Retired kernel next ended)
    (equipped : Equipped config (0 < count ∧ config.paging = .demand) next.pager) :
    Numbered config count next where
  equipped := equipped
  nextPid := retired.nextPid ▸ numbered.nextPid
  named pid process live := by
    obtain ⟨before, found, same, _⟩ := retired.named pid process live
    exact same.trans (numbered.named pid before found)
  known pid counted := by
    have known := numbered.known pid counted
    rw [retired.running, retired.exitStatus]
    cases live : (kernel.running pid).isSome with
    | true =>
      rw [live] at known
      rw [Option.isNone_iff_eq_none.mp known.symm, Option.or_none, Bool.true_and, if_pos rfl]
    | false =>
      rw [live] at known
      rw [Bool.false_and, if_neg Bool.false_ne_true]
      exact known
  unknown pid uncounted := by
    obtain ⟨absent, unended⟩ := numbered.unknown pid uncounted
    have running := retired.running pid
    have exitStatus := retired.exitStatus pid
    rw [absent, Option.isSome_none, Bool.false_and] at running
    rw [absent, Option.isSome_none, if_neg Bool.false_ne_true] at exitStatus
    have absent := Option.not_isSome_iff_eq_none.mp (running ▸ Bool.false_ne_true)
    exact ⟨absent, exitStatus.trans unended⟩

/-- One more process is numbered with the next number. -/
theorem counted_succ (numbered : Numbered config count kernel) (pid : Pid) :
    Counted (count + 1) pid ↔ pid = kernel.nextPid ∨ Counted count pid := by
  have next := numbered.nextPid
  rw [← UInt16.toNat_inj, next, Counted, Counted]
  omega

/-- The next number is nobody's. -/
theorem nextPid_uncounted (numbered : Numbered config count kernel) :
    ¬ Counted count kernel.nextPid := by
  rw [Counted, numbered.nextPid]
  exact fun counted => absurd counted.2 (Nat.not_succ_le_self count)

/-- A process that starts with the next number is added to the table. -/
theorem started {pager : Pager φ} (numbered : Numbered config count kernel)
    (equipped : Equipped config (config.paging = .demand) pager)
    (left : kernel.nextPid.toNat + 1 < UInt16.size) (stackTop : Vpn) :
    let process := (UserProcess.start pager kernel.nextPid stackTop).1
    let next := ((startProcess kernel.nextPid stackTop).outcome
      { kernel with pager := pager, nextPid := kernel.nextPid + 1 }).2
    Numbered config (count + 1) next ∧ ∃ table,
      kernel.processes.add kernel.nextPid process = .ok table ∧ next.processes = table := by
  intro process next
  obtain ⟨absent, unended⟩ := numbered.unknown _ numbered.nextPid_uncounted
  have added := ProcessTable.add_of_absent absent process
  have whole : next =
      { kernel with
        pager := (UserProcess.start pager kernel.nextPid stackTop).2
        nextPid := kernel.nextPid + 1
        processes := { kernel.processes with
          live := kernel.processes.live.insert kernel.nextPid process } } := by
    simp only [next, startProcess, outcome_always]
    rw [added]
  have running : ∀ pid, next.running pid =
      if kernel.nextPid = pid then some process else kernel.running pid := by
    intro pid
    rw [whole]
    exact ProcessTable.get_of_add added pid
  have exitStatus : ∀ pid, next.exitStatus pid = kernel.exitStatus pid := fun pid => by
    rw [whole]
    rfl
  refine ⟨?_, _, added, by rw [whole]⟩
  exact {
    equipped := by
      rw [whole]
      exact ⟨equipped.accounts.imp fun _ accounts => accounts.start kernel.nextPid stackTop,
        fun must => equipped.hasSwapFile must.2⟩
    nextPid := by
      have number := numbered.nextPid
      rw [whole, UInt16.toNat_add, number]
      rw [number] at left
      exact Nat.mod_eq_of_lt left
    named := fun pid current live => by
      rw [running] at live
      split at live
      · cases live
        assumption
      · exact numbered.named pid current live
    known := fun pid counted => by
      rw [running, exitStatus]
      rcases (numbered.counted_succ pid).mp counted with rfl | before
      · rw [if_pos rfl, unended]
        rfl
      · rw [if_neg fun same : kernel.nextPid = pid => numbered.nextPid_uncounted (same ▸ before)]
        exact numbered.known pid before
    unknown := fun pid uncounted => by
      have different : kernel.nextPid ≠ pid := fun same =>
        uncounted ((numbered.counted_succ pid).mpr (.inl same.symm))
      rw [running, exitStatus, if_neg different]
      exact numbered.unknown pid fun counted =>
        uncounted ((numbered.counted_succ pid).mpr (.inr counted)) }

/-- A spawn that fails leaves processes and numbers alone. -/
theorem refused {stackTop : Vpn} {cause : PagingError} (numbered : Numbered config count kernel)
    (spawned : Spawned config (0 < count ∧ config.paging = .demand) kernel stackTop
      (.error cause) next) :
    Numbered config count next ∧ next.nextPid = kernel.nextPid ∧
      next.processes = kernel.processes := by
  cases spawned with
  | withoutFile equipped | exhausted equipped =>
    exact ⟨numbered.retired (.of_same rfl rfl) equipped, rfl, rfl⟩

/-- A spawn that succeeds answers the next number, with which it adds a process. -/
theorem spawned {stackTop : Vpn} {process : UserProcess} (numbered : Numbered config count kernel)
    (spawned : Spawned config (0 < count ∧ config.paging = .demand) kernel stackTop
      (.ok process) next) :
    Numbered config (count + 1) next ∧ process.pid = kernel.nextPid ∧
      ∃ table, kernel.processes.add process.pid process = .ok table ∧ next.processes = table := by
  cases spawned with
  | started equipped left =>
    obtain ⟨next, added⟩ := numbered.started equipped left stackTop
    exact ⟨next, rfl, added⟩

section Calls

variable [FileSystem φ]

/-- A start numbers one process more, or none. -/
theorem spawn (numbered : Numbered config count kernel) (stackTop : Vpn) :
    (Kernel.spawn stackTop).Ends kernel
      (Spawned config (0 < count ∧ config.paging = .demand) kernel stackTop) :=
  spawn_ends numbered.equipped And.right stackTop

/-- A call asks for a new process, or ends processes at most. -/
theorem after_cases (numbered : Numbered config count kernel) (call : LifecycleCall φ) :
    (∃ stackTop, call = .spawn stackTop) ∨
    (kernel.pidGiven call = none ∧ Retired kernel (kernel.after call) (kernel.endings call) ∧
      Numbered config count (kernel.after call)) := by
  by_cases isSpawn : ∃ stackTop, call = .spawn stackTop
  · exact .inl isSpawn
  · have notSpawn : ∀ stackTop, call ≠ .spawn stackTop := fun stackTop same =>
      isSpawn ⟨stackTop, same⟩
    have none : kernel.pidGiven call = none := by
      cases call with
      | spawn stackTop => exact absurd rfl (notSpawn stackTop)
      | exit | translationFault | serve | endProcess | shutdown | idle | disturb => rfl
    have retired := Retired.after kernel call numbered.named notSpawn
    have standing := standing_after (hasSwapFile_upheld config _) numbered.equipped.standing call
    exact .inr ⟨none, retired, numbered.retired retired (.of_standing standing)⟩

/-- With every call, numbers given out and processes stay in step. -/
theorem after (numbered : Numbered config count kernel) (call : LifecycleCall φ) :
    Numbered config (count + (kernel.pidGiven call).toList.length) (kernel.after call) ∧
      ∀ pid, kernel.pidGiven call = some pid → pid = kernel.nextPid := by
  rcases numbered.after_cases call with ⟨stackTop, rfl⟩ | ⟨none, _, next⟩
  · have ends := numbered.spawn stackTop
    rw [Ends] at ends
    simp only [pidGiven, Kernel.after]
    cases result : ((Kernel.spawn stackTop).outcome kernel).1 with
    | error cause =>
      rw [result] at ends
      refine ⟨(numbered.refused ends).1, ?_⟩
      rintro pid ⟨⟩
    | ok process =>
      rw [result] at ends
      obtain ⟨next, number, _⟩ := numbered.spawned ends
      exact ⟨next, fun pid given => (Option.some.inj given).symm.trans number⟩
  · rw [none]
    refine ⟨next, ?_⟩
    rintro pid ⟨⟩

/-- A run gives out the numbers that follow. -/
theorem afterAll (numbered : Numbered config count kernel) (calls : List (LifecycleCall φ)) :
    Numbered config (count + (kernel.pidsGiven calls).length) (kernel.afterAll calls) ∧
      (kernel.pidsGiven calls).map UInt16.toNat =
        List.range' (count + 1) (kernel.pidsGiven calls).length := by
  induction calls generalizing kernel count with
  | nil => exact ⟨numbered, rfl⟩
  | cons call calls ih =>
    obtain ⟨next, number⟩ := numbered.after call
    obtain ⟨last, numbers⟩ := ih next
    rw [pidsGiven, List.length_append, ← Nat.add_assoc]
    refine ⟨last, ?_⟩
    rw [List.map_append, numbers]
    cases given : kernel.pidGiven call with
    | none => rw [Option.toList_none, List.length_nil, Nat.zero_add, List.map_nil, List.nil_append,
        Nat.add_zero]
    | some pid =>
      have same : pid.toNat = count + 1 := number pid given ▸ numbered.nextPid
      rw [Option.toList_some, List.length_singleton, Nat.add_comm 1, List.range'_succ,
        List.map_singleton, same, List.singleton_append]

/-- A spawn leaves processes that there were as they are. -/
theorem spawn_keeps (numbered : Numbered config count kernel) (stackTop : Vpn) {pid : Pid}
    (counted : Counted count pid) :
    (kernel.after (.spawn stackTop)).running pid = kernel.running pid ∧
      (kernel.after (.spawn stackTop)).exitStatus pid = kernel.exitStatus pid := by
  have ends := numbered.spawn stackTop
  rw [Ends] at ends
  simp only [Kernel.after, running, exitStatus]
  cases result : ((Kernel.spawn stackTop).outcome kernel).1 with
  | error cause =>
    rw [result] at ends
    rw [(numbered.refused ends).2.2]
    exact ⟨rfl, rfl⟩
  | ok process =>
    rw [result] at ends
    obtain ⟨_, number, table, added, processes⟩ := numbered.spawned ends
    rw [processes, ProcessTable.get_of_add added, ProcessTable.exitStatus_of_add added, if_neg]
    · exact ⟨rfl, rfl⟩
    · exact fun same => numbered.nextPid_uncounted (number ▸ same ▸ counted)

/-- A live process ends as the call ends it, or stays live. -/
theorem fate (numbered : Numbered config count kernel) (call : LifecycleCall φ)
    (live : (kernel.running pid).isSome = true) :
    (kernel.after call).exitStatus pid = kernel.endings call pid ∧
      ((kernel.after call).running pid).isSome = (kernel.endings call pid).isNone := by
  obtain ⟨process, found⟩ := Option.isSome_iff_exists.mp live
  have unended := numbered.exitStatus_of_running found
  rcases numbered.after_cases call with ⟨stackTop, rfl⟩ | ⟨_, retired, _⟩
  · have counted : Counted count pid := by
      by_contra uncounted
      cases (numbered.unknown pid uncounted).1.symm.trans found
    obtain ⟨running, exitStatus⟩ := numbered.spawn_keeps stackTop counted
    rw [running, exitStatus, live, unended]
    exact ⟨rfl, rfl⟩
  · rw [retired.running, retired.exitStatus, live, unended, if_pos rfl, Option.or_none,
      Bool.true_and]
    exact ⟨rfl, rfl⟩

/-- How a process ended is not forgotten. -/
theorem remembers (numbered : Numbered config count kernel) (call : LifecycleCall φ)
    {status : Int32} (ended : kernel.exitStatus pid = some status) :
    (kernel.after call).exitStatus pid = some status := by
  rcases numbered.after_cases call with ⟨stackTop, rfl⟩ | ⟨_, retired, _⟩
  · have counted : Counted count pid := by
      by_contra uncounted
      cases (numbered.unknown pid uncounted).2.symm.trans ended
    exact (numbered.spawn_keeps stackTop counted).2.trans ended
  · rw [retired.exitStatus, numbered.not_running ended, Option.isSome_none,
      if_neg Bool.false_ne_true, ended]

/-- A status that was once recorded stays recorded. -/
theorem remembersAll (numbered : Numbered config count kernel) (calls : List (LifecycleCall φ))
    {status : Int32} (ended : kernel.exitStatus pid = some status) :
    (kernel.afterAll calls).exitStatus pid = some status := by
  induction calls generalizing kernel count with
  | nil => exact ended
  | cons call calls ih => exact ih (numbered.after call).1 (numbered.remembers call ended)

end Calls

end Numbered

/-! ### Whole runs -/

/-- What holds of processes once so many numbers were given out, in this order. -/
structure Lifecycle [FileSystem φ] (given : List Pid) (kernel : Kernel φ) : Prop where
  /-- The numbers given out are 1, 2, 3 and so on, and there are no more of them than there
  may be. -/
  counted : given.map UInt16.toNat = List.range' 1 given.length
  atMost : given.length ≤ 65534
  /-- A process that is made has the next number, and the table takes it. -/
  made : ∀ stackTop process, ((spawn stackTop).outcome kernel).1 = .ok process →
    process.pid.toNat = given.length + 1 ∧ ∃ table,
      kernel.processes.add process.pid process = .ok table ∧
        (kernel.after (.spawn stackTop)).processes = table
  /-- A process that could not be made leaves numbers and processes alone, and none can be
  made once all numbers are given out. -/
  refused : ∀ stackTop cause, ((spawn stackTop).outcome kernel).1 = .error cause →
    (kernel.after (.spawn stackTop)).nextPid = kernel.nextPid ∧
      (kernel.after (.spawn stackTop)).processes = kernel.processes
  exhausted : given.length = 65534 → ∀ stackTop,
    ((spawn stackTop).outcome kernel).1 = .error .pidsExhausted
  /-- Who has a number is live or has exited, and nobody else is or has. -/
  known : ∀ pid ∈ given,
    (kernel.running pid).isSome = true ∧ kernel.exitStatus pid = none ∨
      kernel.running pid = none ∧ (kernel.exitStatus pid).isSome = true
  unknown : ∀ pid, pid ∉ given → kernel.running pid = none ∧ kernel.exitStatus pid = none
  /-- A live process ends with the status with which a call ends it, and stays live when the
  call does not end it. -/
  ends : ∀ pid, (kernel.running pid).isSome = true → ∀ call : LifecycleCall φ,
    (kernel.after call).exitStatus pid = kernel.endings call pid ∧
      ((kernel.after call).running pid).isSome = (kernel.endings call pid).isNone
  exitAnswers : ∀ pid status, (kernel.exit pid status).1 = (kernel.running pid).isSome
  /-- A process that has ended is never live again, and how it ended never changes. -/
  final : ∀ pid status, kernel.exitStatus pid = some status →
    ∀ calls : List (LifecycleCall φ), (kernel.afterAll calls).exitStatus pid = some status ∧
      (kernel.afterAll calls).running pid = none

/-- An exit answers whether the process was live. -/
theorem fst_exit (kernel : Kernel φ) (pid : Pid) (status : Int32) :
    (kernel.exit pid status).1 = (kernel.running pid).isSome := by
  rw [exit]
  split
  · rename_i refused
    rw [running, ProcessTable.remove_eq_none refused]
    rfl
  · rename_i removed
    rw [running, ProcessTable.get_of_removed removed]
    rfl

variable [FileSystem φ]

omit [FileSystem φ] in
/-- The numbers 1, 2, 3 and so on are those that are counted. -/
theorem mem_iff_counted {given : List Pid}
    (counted : given.map UInt16.toNat = List.range' 1 given.length) :
    pid ∈ given ↔ Counted given.length pid := by
  have injective : Function.Injective UInt16.toNat := fun _ _ => UInt16.toNat_inj.mp
  rw [← List.mem_map_of_injective injective, counted, List.mem_range'_1, Counted]
  omega

omit [FileSystem φ] in
/-- When the last number is given out, there is a swap file if there has to be one, and no
number is left. -/
theorem Numbered.exhausted {stackTop : Vpn} {result : Except PagingError UserProcess}
    (numbered : Numbered config 65534 kernel)
    (spawned : Spawned config (0 < 65534 ∧ config.paging = .demand) kernel stackTop result next) :
    result = .error .pidsExhausted := by
  cases spawned with
  | withoutFile _ demand unmade => exact absurd ⟨by decide, demand⟩ unmade
  | exhausted => rfl
  | started _ left =>
    rw [numbered.nextPid] at left
    exact absurd left (by decide)

/-- What the numbering keeps is the whole life of every process. -/
theorem Numbered.lifecycle {given : List Pid} (numbered : Numbered config given.length kernel)
    (counted : given.map UInt16.toNat = List.range' 1 given.length) :
    Lifecycle given kernel where
  counted := counted
  atMost := by
    have last := kernel.nextPid.toNat_lt
    rw [numbered.nextPid] at last
    omega
  made stackTop process result := by
    have ends := numbered.spawn stackTop
    rw [Ends, result] at ends
    obtain ⟨_, number, added⟩ := numbered.spawned ends
    exact ⟨number ▸ numbered.nextPid, added⟩
  refused stackTop cause result := by
    have ends := numbered.spawn stackTop
    rw [Ends, result] at ends
    exact (numbered.refused ends).2
  exhausted all stackTop := by
    rw [all] at numbered
    exact numbered.exhausted (numbered.spawn stackTop)
  known pid listed := by
    have known := numbered.known pid ((mem_iff_counted counted).mp listed)
    cases ended : kernel.exitStatus pid with
    | none =>
      rw [ended] at known
      exact .inl ⟨known, rfl⟩
    | some status => exact .inr ⟨numbered.not_running ended, rfl⟩
  unknown pid unlisted := numbered.unknown pid fun among =>
    unlisted ((mem_iff_counted counted).mpr among)
  ends pid live call := numbered.fate call live
  exitAnswers := kernel.fst_exit
  final pid status ended calls := by
    have still := numbered.remembersAll calls ended
    exact ⟨still, (numbered.afterAll calls).1.not_running still⟩

/-- Whatever is asked of a kernel, and however the file system fails it, its processes are
numbered in order, and each is live until it ends once and for all. -/
theorem processes_end_once {files : φ} {policy : Policy} {chance : Chance}
    (booted : Kernel.boot config files policy chance = .ok kernel)
    (calls : List (LifecycleCall φ)) :
    Lifecycle (kernel.pidsGiven calls) (kernel.afterAll calls) := by
  obtain ⟨numbered, counted⟩ := (Numbered.boot booted).afterAll calls
  rw [Nat.zero_add] at numbered counted
  exact numbered.lifecycle counted

/-- Three processes: one has no page where it faults, one is ended by request, and the
shutdown ends the third. -/
theorem processes_end_once_three_ways :
    ∃ kernel : Kernel EphemeralFiles,
      Kernel.boot .oneFrame .empty (.scripted []) (.seeded 0) = .ok kernel ∧
      let calls : List (LifecycleCall EphemeralFiles) :=
        [.spawn 4, .spawn 4, .spawn 4, .translationFault 1 65536, .exit 2 7, .shutdown]
      kernel.pidsGiven calls = [1, 2, 3] ∧
        [1, 2, 3].map (kernel.afterAll calls).exitStatus = [some (-1), some 7, some 0] ∧
        Lifecycle (kernel.pidsGiven calls) (kernel.afterAll calls) :=
  ⟨_, rfl, by decide +kernel, by decide +kernel, processes_end_once
    (rfl : Kernel.boot .oneFrame EphemeralFiles.empty (.scripted []) (.seeded 0) = .ok _) _⟩

end Kernel

end VirtualMemory
