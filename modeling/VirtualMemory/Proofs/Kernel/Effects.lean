/-
Module: VirtualMemory.Proofs.Kernel.Effects
Purpose: What the kernel's own operations do to the pager and to the table of
  processes.
Main exports:
  Kernel.exists_boot, ends_perform, ends_takePid, ends_onPager, running_startProcess,
  ProcessTable.get_change
-/
import VirtualMemory.Kernel
import VirtualMemory.Proofs.Pager.Effects

namespace VirtualMemory

open VirtualMemory.Action

theorem ProcessTable.get_change {π : Type} (table : ProcessTable π) (pid other : Pid)
    (step : π → π) :
    (table.change pid step).get other =
      if pid = other then (table.get other).map step else table.get other := by
  simp only [change]
  split
  · next absent =>
    split
    · next same => rw [← same, absent, Option.map_none]
    · rfl
  · next process found =>
    simp only [get, Std.ExtTreeMap.getElem?_insert, Std.LawfulEqCmp.compare_eq_iff_eq]
    split
    · next same =>
      rw [same] at found
      rw [show table.live[other]? = some process from found, Option.map_some]
    · rfl

variable {φ : Type}

/-- A process keeps its number and its cache when it exits. -/
theorem UserProcess.exit_same (process : UserProcess) (pager : Pager φ) :
    (process.exit pager).2.1.tlb = process.tlb ∧
      (process.exit pager).2.1.pid = process.pid := by
  simp only [exit]
  split <;> exact ⟨rfl, rfl⟩

namespace Kernel

variable {kernel : Kernel φ}

/-- A kernel that boots does so around a pager that boots. -/
theorem exists_boot {config : Config} {files : φ} {policy : Policy} {chance : Chance}
    (booted : Kernel.boot config files policy chance = .ok kernel) :
    ∃ pager, Pager.boot config files policy chance = .ok pager ∧ kernel = around pager := by
  rw [Kernel.boot] at booted
  split at booted
  · cases booted
  · next pager set => exact ⟨pager, set, (Except.ok.inj booted).symm⟩

theorem ends_perform {α : Type} {process : UserProcess}
    {operation : UserProcess → ProcessAction φ α}
    {post : Except FaultError α → Kernel φ → Prop} :
    (perform process operation).Ends kernel post ↔
      (operation (kernel.current process)).Ends kernel.pager fun result pager =>
        match result with
        | .ok answer => post (.ok answer) { kernel with pager := pager }
        | .error cause =>
          post (.error cause) (exitHook.afterFault process.pid cause { kernel with pager := pager }) := by
  simp only [Ends, outcome, perform, UserProcess.hooked]
  cases operation (kernel.current process) kernel.pager <;> rfl

/-- The kernel after an operation of a process. -/
theorem snd_outcome_perform {α : Type} (process : UserProcess)
    (operation : UserProcess → ProcessAction φ α) (kernel : Kernel φ) :
    ((perform process operation).outcome kernel).2 =
      match (operation (kernel.current process)).outcome kernel.pager with
      | (.ok _, pager) => { kernel with pager := pager }
      | (.error cause, pager) => exitHook.afterFault process.pid cause { kernel with pager := pager } := by
  simp only [outcome, perform, UserProcess.hooked]
  cases operation (kernel.current process) kernel.pager <;> rfl

/-- In the background nothing happens, or frames are reclaimed as if it was asked for. -/
@[elab_as_elim]
theorem reclaimInBackground_ends [FileSystem φ] {motive : Kernel φ → Prop}
    (idle : motive kernel)
    (reclaims : (Pager.reclaimOnce : PagerAction φ Nat).Ends
      { kernel.pager with reclaimRequested := false } fun _ pager =>
        motive { kernel with pager := pager }) : motive kernel.reclaimInBackground := by
  rw [reclaimInBackground]
  split
  · rw [Ends, outcome] at reclaims
    split <;> rename_i result <;> rw [result] at reclaims <;> exact reclaims
  · exact idle

theorem ends_takePid {post : Except PagingError Pid → Kernel φ → Prop} :
    takePid.Ends kernel post ↔
      if kernel.nextPid.toNat + 1 < UInt16.size then
        post (.ok kernel.nextPid) { kernel with nextPid := kernel.nextPid + 1 }
      else post (.error .pidsExhausted) kernel := by
  simp only [takePid, ends_update]
  by_cases left : kernel.nextPid.toNat + 1 < UInt16.size
  · rw [if_pos left, if_pos left]
  · rw [if_neg left, if_neg left]

theorem ends_onPager {ε α : Type} {action : Action (Pager φ) ε α}
    {post : Except ε α → Kernel φ → Prop} :
    (onPager action).Ends kernel post ↔
      action.Ends kernel.pager fun result pager => post result { kernel with pager := pager } := by
  simp only [onPager, ends_within]

/-- The live processes once one was started. A number that is live already would keep its
process. -/
theorem running_startProcess (kernel : Kernel φ) (pid : Pid) (stackTop : Vpn) (other : Pid) :
    ((startProcess pid stackTop).outcome kernel).2.running other =
      if pid = other then
        some ((kernel.running pid).getD (UserProcess.start kernel.pager pid stackTop).1)
      else kernel.running other := by
  simp only [startProcess, outcome_always, running]
  cases added : kernel.processes.add pid (UserProcess.start kernel.pager pid stackTop).1 with
  | ok processes =>
    have absent : kernel.processes.get pid = none := by
      simp only [ProcessTable.add] at added
      split at added
      · cases added
      · next unknown =>
        rw [ProcessTable.get]
        exact Std.ExtTreeMap.getElem?_eq_none_of_contains_eq_false (Bool.not_eq_true _ ▸ unknown)
    simp only [ProcessTable.get_of_add added, absent, Option.getD_none]
  | error refusal =>
    simp only
    split
    · next same =>
      rw [← same]
      simp only [ProcessTable.add] at added
      split at added
      · next known =>
        obtain ⟨process, found⟩ := Option.isSome_iff_exists.mp
          (Std.ExtTreeMap.isSome_getElem?_eq_contains.trans known)
        rw [ProcessTable.get, found, Option.getD_some]
      · cases added
    · rfl

/-- Starting a process forgets of no other how it ended. -/
theorem exitStatus_startProcess (kernel : Kernel φ) (pid : Pid) (stackTop : Vpn)
    (other : Pid) :
    ((startProcess pid stackTop).outcome kernel).2.exitStatus other =
      kernel.exitStatus other := by
  simp only [startProcess, outcome_always, exitStatus, ProcessTable.add]
  split
  · next added =>
    split at added
    · cases added
    · cases added
      rfl
  · rfl

theorem live_startProcess {pid : Pid} {stackTop : Vpn} {other : Pid} {process : UserProcess}
    (isLive : ((startProcess pid stackTop).outcome kernel).2.running other = some process) :
    process = (UserProcess.start kernel.pager pid stackTop).1 ∨
      kernel.running other = some process := by
  rw [running_startProcess] at isLive
  split at isLive
  · next same =>
    cases before : kernel.running pid with
    | none =>
      rw [before, Option.getD_none] at isLive
      exact Or.inl (Option.some.inj isLive).symm
    | some present =>
      rw [before, Option.getD_some] at isLive
      rw [← same, before]
      exact Or.inr isLive
  · exact Or.inr isLive

end Kernel

end VirtualMemory
