/-
Module: VirtualMemory.Proofs.Kernel.Caches
Purpose: No translation cache is ever stale, whatever processes and callers do.
Main exports:
  KernelCall, Kernel.step, Kernel.run; Kernel.CachesRight, Kernel.CachesCurrent,
  Kernel.caches_never_stale
-/
import VirtualMemory.Proofs.Kernel.Effects
import VirtualMemory.Proofs.Pager.Caches
import VirtualMemory.Storage.Ephemeral

namespace VirtualMemory

/-- A call of the kernel, of a process or of the pager that the kernel runs. -/
inductive KernelCall (φ : Type) where
  | spawn (stackTop : Vpn)
  | exit (pid : Pid) (status : Int32)
  /-- An operation of a process, told by any value that was ever its handle. -/
  | serve (process : UserProcess) (request : ProcessRequest)
  /-- A process is ended by its handle and stays in the process table. -/
  | endProcess (process : UserProcess)
  | newPage (page : PageId) (readOnly : Bool)
  | newPagePinned (page : PageId) (readOnly : Bool)
  | getTranslationPinned (page : PageId)
  /-- A guard of a frame is dropped. -/
  | dropGuard (ppn : Ppn)
  | getFreeFrame
  | returnFrame (ppn : Ppn)
  | evictPage
  | loadFromSwap (page : PageId)
  | deallocate (pid : Pid)
  | reclaimOnce
  /-- Something happens to the file system from outside. -/
  | disturb (change : φ → φ)

namespace Kernel

open VirtualMemory.Action Pager

variable {φ : Type}

variable {kernel : Kernel φ} {config : Config}

/-- Caches agree with the page tables, and the cache of a process that is live is attached
to that process or to nobody. -/
structure CachesRight (config : Config) (kernel : Kernel φ) : Prop where
  coherent : Coherent config kernel.pager.tlbs.attachedTo kernel.pager.tlbs.units.size
    kernel.pager
  made : ∀ {pid id}, kernel.pager.tlbs.attachedTo pid = some id →
    id < kernel.pager.tlbs.units.size
  made_live : ∀ {pid process}, kernel.running pid = some process →
    process.tlb < kernel.pager.tlbs.units.size
  owned : ∀ {pid process owner}, kernel.running pid = some process →
    kernel.pager.tlbs.attachedTo owner = some process.tlb → owner = process.pid

namespace CachesRight

/-- What leaves the caches with those who had them, or takes them away. -/
theorem of_pager (right : CachesRight config kernel) {attached : Pid → Option TlbId}
    (fewer : ∀ {pid id}, attached pid = some id →
      kernel.pager.tlbs.attachedTo pid = some id)
    {next : Kernel φ}
    (coherent : Coherent config attached kernel.pager.tlbs.units.size next.pager)
    (live : ∀ {pid process}, next.running pid = some process →
      ∃ before, kernel.running pid = some before ∧ before.tlb = process.tlb ∧
        before.pid = process.pid) :
    CachesRight config next := by
  have sameAttached := coherent.caches.attached_eq
  have sameMade := coherent.caches.made_eq
  refine ⟨coherent.own, ?_, ?_, ?_⟩
  · intro pid id isAttached
    rw [sameAttached] at isAttached
    rw [sameMade]
    exact right.made (fewer isAttached)
  · intro pid process isLive
    obtain ⟨before, wasLive, sameTlb, _⟩ := live isLive
    rw [sameMade, ← sameTlb]
    exact right.made_live wasLive
  · intro pid process owner isLive isAttached
    obtain ⟨before, wasLive, sameTlb, samePid⟩ := live isLive
    rw [sameAttached, ← sameTlb] at isAttached
    rw [← samePid]
    exact right.owned wasLive (fewer isAttached)

/-- Live processes stay as they are. -/
theorem withPager (right : CachesRight config kernel) {pager : Pager φ}
    (coherent : Coherent config kernel.pager.tlbs.attachedTo kernel.pager.tlbs.units.size
      pager) :
    CachesRight config { kernel with pager := pager } :=
  right.of_pager id coherent fun isLive => ⟨_, isLive, rfl, rfl⟩

/-- The caches are right after a process was deallocated. -/
theorem deallocate (right : CachesRight config kernel) (pid : Pid) {next : Kernel φ}
    (freed : next.pager = (kernel.pager.deallocate pid).2)
    (live : ∀ {other process}, next.running other = some process →
      ∃ before, kernel.running other = some before ∧ before.tlb = process.tlb ∧
        before.pid = process.pid) :
    CachesRight config next := by
  obtain ⟨⟨held, accounts⟩, agree⟩ := right.coherent
  have books := accounts.deallocate pid
  have emptied := agree.deallocate pid
  rw [← freed] at books emptied
  refine right.of_pager ?_ ⟨⟨held, books⟩, emptied⟩ live
  intro owner id isAttached
  split at isAttached
  · cases isAttached
  · exact isAttached

theorem exitProcess (right : CachesRight config kernel) (process : UserProcess)
    {next : Kernel φ} (freed : next.pager = (process.exit kernel.pager).2.2)
    (live : ∀ {other current}, next.running other = some current →
      ∃ before, kernel.running other = some before ∧ before.tlb = current.tlb ∧
        before.pid = current.pid) :
    CachesRight config next := by
  simp only [UserProcess.exit] at freed
  split at freed
  · apply right.of_pager id _ live
    rw [freed]
    exact right.coherent
  · exact right.deallocate process.pid freed live

/-- The caches are right after an exit. -/
theorem exit (right : CachesRight config kernel) (pid : Pid) (status : Int32) :
    CachesRight config (kernel.exit pid status).2 := by
  simp only [Kernel.exit]
  cases removed : kernel.processes.remove pid status with
  | none => exact right
  | some pair =>
    rcases pair with ⟨process, processes⟩
    apply right.exitProcess process rfl
    intro other current isLive
    have found : processes.get other = some current := isLive
    rw [ProcessTable.get_of_remove removed] at found
    split at found
    · cases found
    · exact ⟨current, found, rfl, rfl⟩

theorem current_owned (right : CachesRight config kernel) (process : UserProcess)
    (running : (kernel.current process).exited = false) {pid : Pid}
    (isAttached : kernel.pager.tlbs.attachedTo pid = some (kernel.current process).tlb) :
    pid = (kernel.current process).pid := by
  cases found : kernel.running process.pid with
  | some present =>
    have same : kernel.current process = present := by simp only [current, found]
    rw [same] at isAttached ⊢
    exact right.owned found isAttached
  | none =>
    have ended : kernel.current process = { process with exited := true } := by
      simp only [current, found]
    rw [ended] at running
    cases running

theorem afterFault (right : CachesRight config kernel) (pid : Pid) (cause : FaultError) :
    CachesRight config (exitHook.afterFault pid cause kernel) := by
  simp only [TerminationHook.afterFault, Kernel.exitHook]
  split
  · exact right.exit pid faultExitStatus
  · exact right

theorem endProcess (right : CachesRight config kernel) (process : UserProcess) :
    CachesRight config (Kernel.endProcess process kernel).2 := by
  apply right.exitProcess (kernel.current process) rfl
  intro other current isLive
  have found : (kernel.processes.change process.pid fun _ =>
      ((kernel.current process).exit kernel.pager).2.1).get other = some current := isLive
  rw [ProcessTable.get_change] at found
  split at found
  · next same =>
    obtain ⟨before, wasLive, rfl⟩ := Option.map_eq_some_iff.mp found
    have present : kernel.current process = before := by
      simp only [Kernel.current, running, same, wasLive]
    rw [present]
    obtain ⟨sameTlb, samePid⟩ := UserProcess.exit_same before kernel.pager
    exact ⟨before, wasLive, sameTlb.symm, samePid.symm⟩
  · exact ⟨current, found, rfl, rfl⟩

/-- A process that starts takes a cache that was just made. -/
theorem startProcess (right : CachesRight config kernel) (pid : Pid) (stackTop : Vpn) :
    CachesRight config ((Kernel.startProcess pid stackTop).outcome kernel).2 := by
  obtain ⟨⟨held, accounts⟩, agree⟩ := right.coherent
  have started := agree.start pid stackTop
  have sameMade := started.made_eq
  have whose : ∀ {owner id}, (UserProcess.start kernel.pager pid stackTop).2.tlbs.attachedTo
      owner = some id → pid = owner ∧ kernel.pager.tlbs.units.size = id ∨
        kernel.pager.tlbs.attachedTo owner = some id := by
    intro owner id isAttached
    rw [started.attached_eq] at isAttached
    simp only at isAttached
    split at isAttached
    · next same => exact Or.inl ⟨same, Option.some.inj isAttached⟩
    · exact Or.inr isAttached
  have coherent : Coherent config _ _ (UserProcess.start kernel.pager pid stackTop).2 :=
    ⟨⟨held, accounts.start pid stackTop⟩, started⟩
  refine ⟨coherent.own, ?_, ?_, ?_⟩
  · intro owner id isAttached
    change id < (UserProcess.start kernel.pager pid stackTop).2.tlbs.units.size
    rw [sameMade]
    rcases whose isAttached with ⟨_, rfl⟩ | before
    · exact Nat.lt_succ_self _
    · exact Nat.lt_succ_of_lt (right.made before)
  · intro other process isLive
    change process.tlb < (UserProcess.start kernel.pager pid stackTop).2.tlbs.units.size
    rw [sameMade]
    rcases live_startProcess isLive with rfl | before
    · exact Nat.lt_succ_self _
    · exact Nat.lt_succ_of_lt (right.made_live before)
  · intro other process owner isLive isAttached
    rcases live_startProcess isLive with rfl | before
    · rcases whose isAttached with ⟨same, _⟩ | before
      · exact same.symm
      · exact absurd (right.made before) (Nat.lt_irrefl _)
    · rcases whose isAttached with ⟨_, same⟩ | wasAttached
      · exact absurd (same ▸ right.made_live before) (Nat.lt_irrefl _)
      · exact right.owned before wasAttached

/-- The caches of a booted kernel are right. -/
theorem boot {files : φ} {policy : Policy} {chance : Chance}
    (booted : Kernel.boot config files policy chance = .ok kernel) :
    CachesRight config kernel := by
  obtain ⟨pager, set, rfl⟩ := exists_boot booted
  have accounts := Accounts.boot set
  have unattached : ∀ pid : Pid, pager.tlbs.attached[pid]? = none := by
    intro pid
    obtain ⟨-, rfl⟩ := eq_of_boot set
    exact Std.ExtTreeMap.getElem?_empty
  have nobody : ∀ {pid id}, pager.tlbs.attachedTo pid ≠ some id := by
    intro pid id isAttached
    rw [TlbBank.attachedTo, unattached] at isAttached
    cases isAttached
  refine ⟨⟨⟨∅, accounts⟩, ⟨rfl, rfl, fun isAttached => absurd isAttached nobody⟩⟩, ?_, ?_, ?_⟩
  · exact fun isAttached => absurd isAttached nobody
  · intro pid process isLive
    simp [around, running, ProcessTable.get, ProcessTable.empty] at isLive
  · exact fun _ isAttached => absurd isAttached nobody

end CachesRight

/-! ### Whole runs -/

variable [FileSystem φ]

/-- The kernel after an action on its pager, however the action ends. -/
def afterPager {ε α : Type} (kernel : Kernel φ) (action : Action (Pager φ) ε α) : Kernel φ :=
  { kernel with pager := (action.outcome kernel.pager).2 }

/-- The kernel after a call. -/
def step (kernel : Kernel φ) : KernelCall φ → Kernel φ
  | .spawn stackTop => ((spawn stackTop).outcome kernel).2
  | .exit pid status => (kernel.exit pid status).2
  | .serve process request => ((perform process (·.serve request)).outcome kernel).2
  | .endProcess process => (endProcess process kernel).2
  | .newPage page readOnly => kernel.afterPager (Pager.newPage page readOnly)
  | .newPagePinned page readOnly => kernel.afterPager (Pager.newPagePinned page readOnly)
  | .getTranslationPinned page => kernel.afterPager (Pager.getTranslationPinned page)
  | .dropGuard ppn => { kernel with pager := kernel.pager.unpin ppn }
  | .getFreeFrame => kernel.afterPager Pager.getFreeFrame
  | .returnFrame ppn => kernel.afterPager (Pager.returnFrame ppn)
  | .evictPage => kernel.afterPager Pager.evictPage
  | .loadFromSwap page => kernel.afterPager (Pager.loadFromSwap page)
  | .deallocate pid => { kernel with pager := (kernel.pager.deallocate pid).2 }
  | .reclaimOnce => kernel.afterPager Pager.reclaimOnce
  | .disturb change =>
      { kernel with
        pager :=
          { kernel.pager with
            device := kernel.pager.device.withFiles (change kernel.pager.device.files) } }

/-- The kernel after calls, one after another. -/
def run (kernel : Kernel φ) (calls : List (KernelCall φ)) : Kernel φ :=
  calls.foldl step kernel

namespace CachesRight

omit [FileSystem φ] in
theorem afterPager (right : CachesRight config kernel) {ε α : Type}
    {action : Action (Pager φ) ε α}
    (preserves : action.Preserves (Coherent config kernel.pager.tlbs.attachedTo
      kernel.pager.tlbs.units.size)) :
    CachesRight config (kernel.afterPager action) :=
  right.withPager (preserves kernel.pager right.coherent)

theorem serve (right : CachesRight config kernel) (process : UserProcess)
    (request : ProcessRequest) :
    CachesRight config ((perform process (·.serve request)).outcome kernel).2 := by
  suffices serves : (perform process (·.serve request)).Ends kernel fun _ next =>
      CachesRight config next from serves
  rw [ends_perform]
  have serves : ((kernel.current process).serve request :
      ProcessAction φ ProcessAnswer).Preserves
      (Coherent config kernel.pager.tlbs.attachedTo kernel.pager.tlbs.units.size) :=
    Coherent.serve (right.current_owned process) request
  apply Ends.mono (serves kernel.pager right.coherent)
  intro result next coherent
  cases result with
  | ok answer => exact right.withPager coherent
  | error cause => exact (right.withPager coherent).afterFault process.pid cause

theorem spawn (right : CachesRight config kernel) (stackTop : Vpn) :
    CachesRight config ((Kernel.spawn stackTop).outcome kernel).2 := by
  have numbered : (takePid >>= fun pid => Kernel.startProcess pid stackTop).Preserves
      (CachesRight (φ := φ) config) := by
    refine Preserves.bind ?_ fun pid kernel right => right.startProcess pid stackTop
    intro kernel right
    rw [ends_takePid]
    split
    · exact right.of_pager id right.coherent fun isLive => ⟨_, isLive, rfl, rfl⟩
    · exact right
  have prepared : (onPager Pager.initializeSwap : KernelAction φ PagingError Unit).Preserves
      (CachesRight config) := by
    intro kernel right
    rw [ends_onPager]
    apply Ends.mono (Coherent.initializeSwap kernel.pager right.coherent)
    intro _ _ coherent
    exact right.withPager coherent
  have started : (Kernel.spawn stackTop).Preserves (CachesRight (φ := φ) config) := by
    rw [Kernel.spawn]
    refine Preserves.get.bind fun _ => ?_
    split
    · exact prepared.bind fun _ => numbered
    · exact numbered
  exact started kernel right

/-- Every call keeps the caches right. -/
theorem step (right : CachesRight config kernel) (call : KernelCall φ) :
    CachesRight config (kernel.step call) := by
  cases call with
  | spawn stackTop => exact right.spawn stackTop
  | exit pid status => exact right.exit pid status
  | serve process request => exact right.serve process request
  | endProcess process => exact right.endProcess process
  | newPage page readOnly => exact right.afterPager (Coherent.newPage page readOnly)
  | newPagePinned page readOnly =>
    exact right.afterPager (Coherent.newPagePinned page readOnly)
  | getTranslationPinned page => exact right.afterPager (Coherent.getTranslationPinned page)
  | dropGuard ppn => exact right.withPager (right.coherent.unpin ppn)
  | getFreeFrame => exact right.afterPager Coherent.getFreeFrame
  | returnFrame ppn => exact right.afterPager (Coherent.returnFrame ppn)
  | evictPage => exact right.afterPager Coherent.evictPage
  | loadFromSwap page => exact right.afterPager (Coherent.loadFromSwap page)
  | deallocate pid => exact right.deallocate pid rfl fun isLive => ⟨_, isLive, rfl, rfl⟩
  | reclaimOnce => exact right.afterPager Coherent.reclaimOnce
  | disturb change =>
    obtain ⟨⟨held, accounts⟩, agree⟩ := right.coherent
    apply right.withPager
    exact ⟨⟨held, accounts.of_same rfl rfl rfl accounts.pins rfl⟩, agree.of_same rfl rfl⟩

/-- The caches are right through a whole run. -/
theorem run (right : CachesRight config kernel) (calls : List (KernelCall φ)) :
    CachesRight config (kernel.run calls) := by
  induction calls generalizing kernel with
  | nil => exact right
  | cons call rest hypothesis => exact hypothesis (right.step call)

end CachesRight

/-- The cache attached to any process is there, each of its valid slots says what the page
tables say, and no page has two valid slots in it. -/
def CachesCurrent (kernel : Kernel φ) : Prop :=
  ∀ pid id, kernel.pager.tlbs.attachedTo pid = some id →
    ∃ tlb, kernel.pager.tlbs.unit id = some tlb ∧ tlb.Agrees kernel.pager.tables pid

omit [FileSystem φ] in
/-- Caches that are right are there, and agree with the tables. -/
theorem CachesRight.current (right : CachesRight config kernel) : CachesCurrent kernel := by
  intro pid id isAttached
  have inside := right.made isAttached
  have present : kernel.pager.tlbs.unit id = some kernel.pager.tlbs.units[id] :=
    Array.getElem?_eq_getElem inside
  exact ⟨_, present, right.coherent.caches.agrees isAttached present⟩

/-- After any calls, however they ended, no attached cache is stale. -/
theorem caches_never_stale {files : φ} {policy : Policy} {chance : Chance}
    (booted : Kernel.boot config files policy chance = .ok kernel)
    (calls : List (KernelCall φ)) : CachesCurrent (kernel.run calls) := by
  intro pid id isAttached
  have right := (CachesRight.boot booted).run calls
  have inside := right.made isAttached
  have present : (kernel.run calls).pager.tlbs.unit id =
      some (kernel.run calls).pager.tlbs.units[id] := Array.getElem?_eq_getElem inside
  exact ⟨_, present, right.coherent.caches.agrees isAttached present⟩

/-- Two processes share one frame. The first has cached its stack page when the second
takes the frame, and nothing is left in its cache. -/
theorem caches_never_stale_one_frame :
    ∃ kernel : Kernel EphemeralFiles,
      Kernel.boot .oneFrame .empty (.scripted []) (.seeded 0) = .ok kernel ∧
      ((kernel.run [.spawn 4, .serve ⟨1, 4, 8, 0, false⟩ (.fault 4096)]).pager.tlbs.unit 0).map
        Tlb.validCount = some 1 ∧
      ((kernel.run [.spawn 4, .serve ⟨1, 4, 8, 0, false⟩ (.fault 4096),
        .newPage ⟨2, 9⟩ false]).pager.tlbs.unit 0).map Tlb.validCount = some 0 ∧
      CachesCurrent (kernel.run [.spawn 4, .serve ⟨1, 4, 8, 0, false⟩ (.fault 4096),
        .newPage ⟨2, 9⟩ false]) :=
  ⟨_, rfl, by decide, by decide +kernel, caches_never_stale
    (rfl : Kernel.boot .oneFrame EphemeralFiles.empty (.scripted []) (.seeded 0) = .ok _) _⟩

end Kernel

end VirtualMemory
