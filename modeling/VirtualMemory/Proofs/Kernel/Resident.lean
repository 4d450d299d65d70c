/-
Module: VirtualMemory.Proofs.Kernel.Resident
Purpose: A machine that keeps its pages resident never makes a call of the file system, and
  a page stays where it is, as it is, until someone moves it or stores to it.
Main exports:
  MachineCall, Machine and its step and run; PagerSession.Moves, Kernel.Moves,
  Machine.MovedBy; PagerSession.undisturbed_step, Kernel.undisturbed_after;
  Machine.Resides, NeverSwaps, resident_mode_never_swaps

Others use the pager while the kernel runs its processes on it. They may ask it to evict
pages, to bring pages back or to reclaim frames, and none of that comes to anything. Only
making the swap file is kept from them.
-/
import VirtualMemory.Proofs.Kernel.Lifecycle
import VirtualMemory.Proofs.Pager.Resident
import VirtualMemory.Proofs.Pager.Session
import VirtualMemory.Storage.Faulty

namespace VirtualMemory

open VirtualMemory.Action Pager

variable {φ : Type} {config : Config} {held : Finset Ppn} {files : φ}
  {moved stored : PageId → Prop}

/-! ### A machine in use -/

/-- A call of a machine: of its kernel, or of the pager under it. -/
inductive MachineCall (φ : Type) where
  | pager (call : PagerCall φ)
  | kernel (call : LifecycleCall φ)

namespace MachineCall

/-- What a call does to the file system from outside. -/
def outside : MachineCall φ → φ → φ
  | .pager (.disturb change) | .kernel (.disturb change) => change
  | _ => id

/-- What calls do to the file system from outside, one after another. -/
def outsideAll (files : φ) (calls : List (MachineCall φ)) : φ :=
  calls.foldl (fun files call => call.outside files) files

/-- Whether a call is a request of a process that stores to a page. -/
def StoresTo : MachineCall φ → PageId → Prop
  | .pager (.serve process request), page | .kernel (.serve process request), page =>
      process.StoresTo request page
  | _, _ => False

end MachineCall

/-- A kernel in use, and what the callers of its pager keep. -/
structure Machine (φ : Type) where
  kernel : Kernel φ
  /-- The frames that were handed out and neither returned nor mapped since. -/
  held : Finset Ppn := ∅
  /-- The frames of the guards that are kept. -/
  guards : List Ppn := []

namespace Machine

/-- The pager of the machine, and what its callers keep. -/
def session (machine : Machine φ) : PagerSession φ where
  pager := machine.kernel.pager
  held := machine.held
  guards := machine.guards

variable [FileSystem φ]

/-- The machine after a call. -/
def step (machine : Machine φ) : MachineCall φ → Machine φ
  | .pager call =>
      let next := machine.session.step call
      { kernel := { machine.kernel with pager := next.pager }
        held := next.held
        guards := next.guards }
  | .kernel call => { machine with kernel := machine.kernel.after call }

/-- The machine after calls, one after another. -/
def run (machine : Machine φ) (calls : List (MachineCall φ)) : Machine φ :=
  calls.foldl step machine

end Machine

/-! ### Calls of the pager -/

namespace PagerSession

variable [FileSystem φ] {session : PagerSession φ}

/-- Whether a call maps a page anew, unmaps it, or frees the memory of its process. -/
def Moves (session : PagerSession φ) : PagerCall φ → PageId → Prop
  | .newPage other readOnly, page =>
      page = other ∧ ((newPage other readOnly).outcome session.pager).1.isOk = true
  | .newPagePinned other readOnly, page =>
      page = other ∧ ((newPagePinned other readOnly).outcome session.pager).1.isOk = true
  | .putTranslation pid entry, page =>
      page = entry.page pid ∧
        ((putTranslation pid entry).outcome session.pager).1.isOk = true
  | .deallocate pid, page => page.pid = pid
  | .exit process, page => page.pid = process.pid ∧ process.exited = false
  | .serve process request, page => process.Replaces session.pager request page
  | _, _ => False

omit [FileSystem φ] in
theorem pager_afterGuarding (session : PagerSession φ)
    (action : PagerAction φ (Option TranslationEntry)) :
    (session.afterGuarding action).pager = (action.outcome session.pager).2 := by
  simp only [afterGuarding]
  split <;> rfl

/-- Calls other than for the swap file leave swap alone, and move and fill what they are asked
to. -/
theorem undisturbed_step (swapless : Swapless config session.held files session.pager)
    (call : PagerCall φ) (notSwap : call ≠ .initializeSwap)
    (inside : ∀ change, call ≠ .disturb change) :
    Undisturbed (session.Moves call) (MachineCall.pager call).StoresTo session.pager
      (session.step call).pager := by
  cases call with
  | initializeSwap => exact absurd rfl notSwap
  | disturb change => exact absurd rfl (inside change)
  | getFreeFrame =>
    exact (getFreeFrame_ends swapless.accounts).mono
      fun _ _ obtained => obtained.undisturbed swapless
  | returnFrame ppn => exact returnFrame_undisturbed session.pager ppn
  | newPage page readOnly => exact newPage_undisturbed swapless page readOnly
  | newPagePinned page readOnly =>
    rw [step, pager_afterGuarding, snd_outcome_map]
    exact newPagePinned_undisturbed swapless _ page readOnly
  | putTranslation pid entry => exact putTranslation_undisturbed swapless.accounts pid entry
  | getTranslation page => exact .refl _ _ session.pager
  | getTranslationPinned page =>
    rw [step, pager_afterGuarding]
    exact getTranslationPinned_undisturbed session.pager page
  | dropGuard index =>
    rw [step]
    split
    · exact .refl _ _ session.pager
    · exact .of_same rfl rfl rfl rfl
  | loadFromSwap page =>
    apply Undisturbed.of_eq
    exact (loadFromSwap_ends swapless.accounts page).mono
      fun _ _ broughtBack => broughtBack.eq_of_swapless swapless
  | evictPage =>
    apply Undisturbed.of_eq
    exact (evictPage_ends swapless.accounts).mono
      fun _ _ evicted => (evicted.eq_of_swapless swapless).2
  | deallocate pid => exact deallocate_undisturbed session.pager pid
  | reclaimOnce => exact .of_eq (reclaimOnce_of_swapless swapless)
  | terminate => exact (terminate_undisturbed swapless).2
  | start pid stackTop => exact .of_same rfl rfl rfl rfl
  | serve process request => exact (swapless.serve process request).2
  | exit process => exact exit_undisturbed _ process session.pager

end PagerSession

/-! ### Calls of the kernel -/

namespace Kernel

variable {kernel next : Kernel φ} {pid : Pid}

/-- Every live process is known by its own number. -/
def Named (kernel : Kernel φ) : Prop :=
  ∀ pid process, kernel.running pid = some process → process.pid = pid

/-- A process that is live, with its memory not freed yet. -/
def Alive (kernel : Kernel φ) (pid : Pid) : Prop :=
  ∃ process, kernel.running pid = some process ∧ process.exited = false

theorem Named.current (named : kernel.Named) (process : UserProcess) :
    (kernel.current process).pid = process.pid := by
  rw [Kernel.current]
  split
  · next present live => exact named process.pid present live
  · rfl

/-- Whichever processes end, the others keep their numbers. -/
theorem Named.retired {ended : Pid → Option Int32} (named : kernel.Named)
    (retired : Retired kernel next ended) : next.Named := by
  intro pid process live
  obtain ⟨before, found, same, _⟩ := retired.named pid process live
  exact same.trans (named pid before found)

/-- Only a live process can have memory that was not freed yet. -/
theorem alive_of_current {process : UserProcess}
    (running : (kernel.current process).exited = false) : kernel.Alive process.pid := by
  rw [Kernel.current] at running
  split at running
  · next present live => exact ⟨present, live, running⟩
  · cases running

/-- Who runs after an exit ran before it. -/
theorem running_of_exit {ended : Pid} {status : Int32} {process : UserProcess}
    (live : (kernel.exit ended status).2.running pid = some process) :
    kernel.running pid = some process := by
  rw [Kernel.exit] at live
  split at live
  · exact live
  · next removed =>
    have found := (ProcessTable.get_of_remove removed pid).symm.trans live
    split at found
    · cases found
    · exact found

theorem exit_undisturbed (named : kernel.Named)
    (swapless : Swapless config held files kernel.pager) (stored : PageId → Prop) (ended : Pid)
    (status : Int32) :
    Swapless config held files (kernel.exit ended status).2.pager ∧
      Undisturbed (fun page => kernel.Alive page.pid ∧ page.pid = ended) stored kernel.pager
        (kernel.exit ended status).2.pager := by
  rw [Kernel.exit]
  cases removed : kernel.processes.remove ended status with
  | none => exact ⟨swapless, .refl _ stored kernel.pager⟩
  | some pair =>
    obtain ⟨process, processes⟩ := pair
    have live : kernel.running ended = some process := ProcessTable.get_of_removed removed
    have undisturbed := Pager.exit_undisturbed stored process kernel.pager
    refine ⟨swapless.next (swapless.accounts.exit process) undisturbed, ?_⟩
    refine undisturbed.mono (fun page both => ?_) fun _ => id
    have same : page.pid = ended := both.1.trans (named ended process live)
    exact ⟨⟨process, same ▸ live, both.2⟩, same⟩

theorem exitAll_undisturbed (named : kernel.Named)
    (swapless : Swapless config held files kernel.pager) (pids : List Pid) (status : Int32) :
    let last := pids.foldl (fun state pid => (state.exit pid status).2) kernel
    Swapless config held files last.pager ∧
      Undisturbed (fun page => kernel.Alive page.pid) stored kernel.pager last.pager := by
  induction pids generalizing kernel with
  | nil => exact ⟨swapless, .refl _ stored kernel.pager⟩
  | cons ended rest ih =>
    obtain ⟨still, undisturbed⟩ := exit_undisturbed named swapless stored ended status
    have namedStill := named.retired (.exit kernel ended status)
    obtain ⟨last, lastUndisturbed⟩ := ih namedStill still
    refine ⟨last, (undisturbed.mono (fun _ => And.left) fun _ => id).andThen ?_⟩
    refine lastUndisturbed.mono (fun page alive => ?_) fun _ => id
    obtain ⟨process, live, running⟩ := alive
    exact ⟨process, running_of_exit live, running⟩

/-- A process that a fault ends has its memory freed. -/
theorem perform_undisturbed {α : Type} (named : kernel.Named) (process : UserProcess)
    (operation : UserProcess → ProcessAction φ α)
    (ends : (operation (kernel.current process)).Ends kernel.pager fun _ after =>
      Swapless config held files after ∧ Undisturbed moved stored kernel.pager after) :
    (perform process operation).Ends kernel fun result next =>
      Swapless config held files next.pager ∧
        Undisturbed
          (fun page => (kernel.Alive page.pid ∧ page.pid = process.pid ∧ kills result = true) ∨
            moved page)
          stored kernel.pager next.pager := by
  rw [ends_perform]
  apply Ends.mono ends
  rintro result pager ⟨swapless, undisturbed⟩
  have performed : Undisturbed
      (fun page => (kernel.Alive page.pid ∧ page.pid = process.pid ∧ kills result = true) ∨
        moved page) stored kernel.pager pager :=
    undisturbed.mono (fun _ => .inr) fun _ => id
  cases result with
  | ok answer => exact ⟨swapless, performed⟩
  | error cause =>
    simp only [TerminationHook.afterFault, exitHook]
    split
    · next killed =>
      have namedStill : ({ kernel with pager := pager } : Kernel φ).Named := named
      obtain ⟨still, exited⟩ :=
        exit_undisturbed namedStill swapless stored process.pid faultExitStatus
      refine ⟨still, performed.andThen (exited.mono (fun page both => ?_) fun _ => id)⟩
      exact .inl ⟨both.1, both.2, killed⟩
    · exact ⟨swapless, performed⟩

variable [FileSystem φ]

/-- Whether a call frees the memory of a process. -/
def Frees (kernel : Kernel φ) (call : LifecycleCall φ) (pid : Pid) : Prop :=
  kernel.Alive pid ∧
    match call with
    | .endProcess process => pid = process.pid
    | call => (kernel.endings call pid).isSome = true

/-- Whether a call maps a page anew or frees the memory of its process. -/
def Moves (kernel : Kernel φ) (call : LifecycleCall φ) (page : PageId) : Prop :=
  kernel.Frees call page.pid ∨
    match call with
    | .serve process request => (kernel.current process).Replaces kernel.pager request page
    | _ => False

omit [FileSystem φ] in
/-- A process that starts is known by the number that it takes. -/
theorem Named.startProcess (named : kernel.Named) (pager : Pager φ) (stackTop : Vpn) :
    ((startProcess kernel.nextPid stackTop).outcome
      { kernel with pager := pager, nextPid := kernel.nextPid + 1 }).2.Named := by
  intro pid process live
  rw [running_startProcess] at live
  split at live
  · next same =>
    have before : ({ kernel with pager := pager, nextPid := kernel.nextPid + 1 } :
        Kernel φ).running kernel.nextPid = kernel.running kernel.nextPid := rfl
    rw [before] at live
    cases found : kernel.running kernel.nextPid with
    | none =>
      rw [found] at live
      cases live
      exact same
    | some present =>
      rw [found] at live
      cases live
      exact same ▸ named _ _ found
  · exact named pid process live

/-- Without swap a start disturbs no page of others. -/
theorem spawn_undisturbed (named : kernel.Named)
    (swapless : Swapless config held files kernel.pager) (stackTop : Vpn) :
    (spawn stackTop).Ends kernel fun _ next =>
      next.Named ∧ Swapless config held files next.pager ∧
        Undisturbed moved stored kernel.pager next.pager := by
  rw [spawn, ends_bind, ends_get]
  simp only [swapless.usesSwap, Bool.false_eq_true, if_false, ends_bind, ends_takePid]
  split
  · have started : Undisturbed moved stored kernel.pager
        (UserProcess.start kernel.pager kernel.nextPid stackTop).2 := .of_same rfl rfl rfl rfl
    exact ⟨named.startProcess kernel.pager stackTop,
      swapless.next (swapless.accounts.start _ stackTop) started, started⟩
  · exact ⟨named, swapless, .refl moved stored kernel.pager⟩

/-- Every call but the one for a new process leaves the others their numbers. -/
theorem Named.after (named : kernel.Named) (call : LifecycleCall φ)
    (notSpawn : ∀ stackTop, call ≠ .spawn stackTop) : (kernel.after call).Named :=
  named.retired (.after kernel call named notSpawn)

/-- Without swap a translation fault disturbs the pages of the process that it kills, and no
others. -/
theorem translationFault_undisturbed (named : kernel.Named)
    (swapless : Swapless config held files kernel.pager) (pid : Pid) (address : UInt32) :
    (handleTranslationFault pid address).Ends kernel fun result next =>
      Swapless config held files next.pager ∧
        Undisturbed (fun page => kernel.Alive page.pid ∧ page.pid = pid ∧ kills result = true)
          stored kernel.pager next.pager := by
  rw [handleTranslationFault, ends_bind, ends_get]
  dsimp only
  split
  · exact ⟨swapless, .refl _ stored kernel.pager⟩
  · next process live =>
    have faulted := swapless.fault (kernel.current process) address
    apply Ends.mono (perform_undisturbed named process (·.fault address) faulted)
    rintro result next ⟨still, undisturbed⟩
    refine ⟨still, undisturbed.mono (fun page how => ?_) fun _ => False.elim⟩
    rw [← named pid process live]
    exact how.resolve_right id

/-- Without swap a shutdown disturbs the pages of live processes only. -/
theorem shutdown_undisturbed (named : kernel.Named)
    (swapless : Swapless config held files kernel.pager) :
    (shutdown : KernelAction φ PagingError Unit).Ends kernel fun _ next =>
      Swapless config held files next.pager ∧
        Undisturbed (fun page => kernel.Alive page.pid) stored kernel.pager next.pager := by
  rw [ends_shutdown]
  have idle : ({ kernel with reclaiming := false } : Kernel φ).Named := named
  obtain ⟨emptied, undisturbed⟩ : Swapless config held files kernel.emptied.pager ∧
      Undisturbed (fun page => kernel.Alive page.pid) stored kernel.pager kernel.emptied.pager :=
    exitAll_undisturbed idle swapless kernel.processes.pids 0
  apply Ends.mono (terminate_undisturbed emptied)
  rintro result last ⟨still, closed⟩
  exact ⟨still, undisturbed.andThen closed⟩

theorem reclaim_undisturbed (swapless : Swapless config held files kernel.pager) :
    Swapless config held files kernel.reclaimInBackground.pager ∧
      Undisturbed moved stored kernel.pager kernel.reclaimInBackground.pager := by
  have undisturbed : Undisturbed moved stored kernel.pager
      { kernel.pager with reclaimRequested := false } := .of_same rfl rfl rfl rfl
  have asked : Swapless config held files { kernel.pager with reclaimRequested := false } :=
    swapless.next (swapless.accounts.of_same rfl rfl rfl swapless.accounts.pins rfl) undisturbed
  refine reclaimInBackground_ends ⟨swapless, .refl moved stored kernel.pager⟩
    ((reclaimOnce_of_swapless asked).mono ?_)
  rintro result pager rfl
  exact ⟨asked, undisturbed⟩

theorem undisturbed_after (named : kernel.Named)
    (swapless : Swapless config held files kernel.pager) (call : LifecycleCall φ)
    (inside : ∀ change, call ≠ .disturb change) :
    (kernel.after call).Named ∧ Swapless config held files (kernel.after call).pager ∧
      Undisturbed (kernel.Moves call) (MachineCall.kernel call).StoresTo kernel.pager
        (kernel.after call).pager := by
  cases call with
  | spawn stackTop => exact spawn_undisturbed named swapless stackTop
  | disturb change => exact absurd rfl (inside change)
  | exit pid status =>
    obtain ⟨still, undisturbed⟩ := exit_undisturbed named swapless _ pid status
    refine ⟨named.after _ nofun, still, undisturbed.mono (fun page how => ?_) fun _ => id⟩
    exact .inl ⟨how.1, Option.isSome_ite.mpr how.2⟩
  | translationFault pid address =>
    obtain ⟨still, undisturbed⟩ := translationFault_undisturbed named swapless pid address
    refine ⟨named.after _ nofun, still, undisturbed.mono (fun page how => ?_) fun _ => id⟩
    exact .inl ⟨how.1, Option.isSome_ite.mpr how.2⟩
  | serve process request =>
    obtain ⟨still, undisturbed⟩ := perform_undisturbed named process (·.serve request)
      (swapless.serve (kernel.current process) request)
    refine ⟨named.after _ nofun, still, undisturbed.mono (fun page how => ?_) fun page how => ?_⟩
    · exact how.imp (fun freed => ⟨freed.1, Option.isSome_ite.mpr freed.2⟩) id
    · exact ⟨how.1.trans (named.current process), how.2⟩
  | endProcess process =>
    have undisturbed :=
      Pager.exit_undisturbed (fun _ => False) (kernel.current process) kernel.pager
    refine ⟨named.after _ nofun, swapless.next (swapless.accounts.exit _) undisturbed,
      undisturbed.mono (fun page how => ?_) fun _ => False.elim⟩
    have same : page.pid = process.pid := how.1.trans (named.current process)
    exact .inl ⟨same ▸ alive_of_current how.2, same⟩
  | shutdown =>
    obtain ⟨still, undisturbed⟩ := shutdown_undisturbed named swapless
    refine ⟨named.after _ nofun, still, undisturbed.mono (fun page alive => ?_) fun _ => id⟩
    exact .inl ⟨alive, rfl⟩
  | idle => exact ⟨named.after _ nofun, reclaim_undisturbed swapless⟩

end Kernel

/-! ### Runs of a machine -/

namespace MachineCall

theorem outside_pager {call : PagerCall φ} (inside : ∀ change, call ≠ .disturb change) :
    (MachineCall.pager call).outside = id := by
  cases call with
  | disturb change => exact absurd rfl (inside change)
  | _ => rfl

theorem outside_kernel {call : LifecycleCall φ} (inside : ∀ change, call ≠ .disturb change) :
    (MachineCall.kernel call).outside = id := by
  cases call with
  | disturb change => exact absurd rfl (inside change)
  | _ => rfl

end MachineCall

namespace Machine

variable [FileSystem φ] {machine : Machine φ}

/-- Whether a call maps a page anew, unmaps it, or frees the memory of its process. -/
def Moves (machine : Machine φ) : MachineCall φ → PageId → Prop
  | .pager call => machine.session.Moves call
  | .kernel call => machine.kernel.Moves call

/-- Whether calls, one after another, move a page. -/
def MovedBy : Machine φ → List (MachineCall φ) → PageId → Prop
  | _, [], _ => False
  | machine, call :: rest, page => machine.Moves call page ∨ (machine.step call).MovedBy rest page

/-- A machine whose pager may not swap. -/
structure Resides (config : Config) (files : φ) (machine : Machine φ) : Prop where
  swapless : Swapless config machine.held files machine.kernel.pager
  named : machine.kernel.Named

omit [FileSystem φ] in
theorem Resides.boot {policy : Policy} {chance : Chance} {kernel : Kernel φ}
    (booted : Kernel.boot config files policy chance = .ok kernel)
    (resident : config.paging = .resident) :
    Resides config files ({ kernel := kernel } : Machine φ) := by
  have numbered := Kernel.Numbered.boot booted
  obtain ⟨pager, set, rfl⟩ := Kernel.exists_boot booted
  have accounts := Accounts.boot set
  obtain ⟨-, rfl⟩ := eq_of_boot set
  exact ⟨⟨accounts, resident, rfl, rfl⟩, numbered.named⟩

/-- A call leaves every page alone that it does not move, and its contents if it does not store
to it. -/
theorem Resides.step (resides : machine.Resides config files) (call : MachineCall φ)
    (notSwap : call ≠ .pager .initializeSwap) :
    (machine.step call).Resides config (call.outside files) ∧
      PagesStay (machine.Moves call) call.StoresTo machine.kernel.pager
        (machine.step call).kernel.pager := by
  cases call with
  | pager call =>
    by_cases disturbs : ∃ change, call = .disturb change
    · obtain ⟨change, rfl⟩ := disturbs
      exact ⟨⟨resides.swapless.disturb change, resides.named⟩, fun _ => id, fun _ _ _ => rfl⟩
    · have inside : ∀ change, call ≠ .disturb change := fun change same => disturbs ⟨change, same⟩
      have balanced : machine.session.Balanced config := resides.swapless.accounts
      have swapless : Swapless config machine.session.held files machine.session.pager :=
        resides.swapless
      have undisturbed := PagerSession.undisturbed_step swapless call
        (fun same => notSwap (congrArg _ same)) inside
      have accounts : Accounts config _ _ := PagerSession.balanced_step balanced call
      rw [MachineCall.outside_pager inside]
      exact ⟨⟨swapless.next accounts undisturbed, resides.named⟩, undisturbed.toPagesStay⟩
  | kernel call =>
    by_cases disturbs : ∃ change, call = .disturb change
    · obtain ⟨change, rfl⟩ := disturbs
      exact ⟨⟨resides.swapless.disturb change, resides.named⟩, fun _ => id, fun _ _ _ => rfl⟩
    · have inside : ∀ change, call ≠ .disturb change := fun change same => disturbs ⟨change, same⟩
      obtain ⟨named, swapless, undisturbed⟩ :=
        Kernel.undisturbed_after resides.named resides.swapless call inside
      rw [MachineCall.outside_kernel inside]
      exact ⟨⟨swapless, named⟩, undisturbed.toPagesStay⟩

/-- A machine without swap stays one, and pages move and change only by the calls that say so. -/
theorem Resides.run (resides : machine.Resides config files) (calls : List (MachineCall φ))
    (notSwap : .pager .initializeSwap ∉ calls) :
    (machine.run calls).Resides config (MachineCall.outsideAll files calls) ∧
      PagesStay (machine.MovedBy calls) (fun page => ∃ call ∈ calls, call.StoresTo page)
        machine.kernel.pager (machine.run calls).kernel.pager := by
  induction calls generalizing machine files with
  | nil => exact ⟨resides, .refl _ _ machine.kernel.pager⟩
  | cons call rest ih =>
    rw [List.mem_cons, not_or] at notSwap
    obtain ⟨notFirst, notLater⟩ := notSwap
    obtain ⟨next, first⟩ := resides.step call (Ne.symm notFirst)
    obtain ⟨last, later⟩ := ih next notLater
    refine ⟨last, (first.mono (fun page => .inl) fun page stores => ?_).andThen
      (later.mono (fun page => .inr) fun page stores => ?_)⟩
    · exact ⟨call, List.mem_cons_self, stores⟩
    · obtain ⟨among, listed, stores⟩ := stores
      exact ⟨among, List.mem_cons_of_mem call listed, stores⟩

/-- What is known of a machine that keeps its pages resident, at any time. -/
structure NeverSwaps (files : φ) (machine : Machine φ) : Prop where
  /-- But for what happened to it from outside, the file system is as it was at boot. It may
  be one that counts its calls, so there were none. -/
  untouched : machine.kernel.pager.device = .unused files
  noSwapFile : machine.kernel.pager.swapExists = false
  noSlots : machine.kernel.pager.swapSlotCount = 0
  noEvictions : machine.kernel.pager.evictions = 0
  evictPage : Pager.evictPage.outcome machine.kernel.pager =
    (.error .outOfMemory, machine.kernel.pager)
  getFreeFrame : TakesFreeFrame Pager.getFreeFrame machine.kernel.pager
  newPage : ∀ page readOnly, page.vpn ≤ lastPage →
    TakesFreeFrame (Pager.newPage page readOnly) machine.kernel.pager
  /-- Whatever is called for from now on, a page keeps its frame until a call maps it anew,
  unmaps it, or frees the memory of its process, and what is in the frame changes only when its
  process stores to it. -/
  pagesStay : ∀ later : List (MachineCall φ), .pager .initializeSwap ∉ later →
    PagesStay (machine.MovedBy later) (fun page => ∃ call ∈ later, call.StoresTo page)
      machine.kernel.pager (machine.run later).kernel.pager

/-- What resides in memory is never swapped. -/
theorem Resides.neverSwaps (resides : machine.Resides config files) :
    machine.NeverSwaps files := by
  have swapless := resides.swapless
  exact {
    untouched := swapless.device
    noSwapFile := by
      rw [Pager.swapExists, swapless.device]
      rfl
    noSlots := by
      rw [Pager.swapSlotCount, swapless.device]
      rfl
    noEvictions := swapless.evictions
    evictPage := by
      obtain ⟨failed, same⟩ := (evictPage_ends swapless.accounts).mono
        fun _ _ evicted => evicted.eq_of_swapless swapless
      exact Prod.ext failed same
    getFreeFrame := getFreeFrame_of_swapless swapless
    newPage := fun page readOnly inside => newPage_of_swapless swapless inside readOnly
    pagesStay := fun later notSwap => (resides.run later notSwap).2 }

/-- However the pager is used while the kernel runs its processes on it, a machine that keeps
its pages resident has no use for swap. -/
theorem resident_mode_never_swaps {policy : Policy} {chance : Chance} {kernel : Kernel φ}
    (booted : Kernel.boot config files policy chance = .ok kernel)
    (resident : config.paging = .resident) (calls : List (MachineCall φ))
    (notSwap : .pager .initializeSwap ∉ calls) :
    NeverSwaps (MachineCall.outsideAll files calls) (run { kernel := kernel } calls) :=
  ((Resides.boot booted resident).run calls notSwap).1.neverSwaps

/-- A process stores to the page that has the only frame. Then others want a frame. -/
def scrambleForFrame : List (MachineCall (FaultyFiles EphemeralFiles)) :=
  [.kernel (.spawn 4),
    .kernel (.serve { pid := 1, stackTop := 4, stackPages := 0, tlb := 0 } (.write 16384 [7])),
    .pager .evictPage, .pager .reclaimOnce, .pager (.newPage ⟨2, 9⟩ false)]

/-- The file system counts its calls, and there are none. -/
theorem resident_mode_never_swaps_one_frame :
    ∃ kernel : Kernel (FaultyFiles EphemeralFiles),
      Kernel.boot { Config.oneFrame with paging := .resident } { base := .empty } (.scripted [])
          (.seeded 0) = .ok kernel ∧
        (run { kernel := kernel } scrambleForFrame).kernel.pager.freeFrameCount = 0 ∧
        NeverSwaps { base := .empty } (run { kernel := kernel } scrambleForFrame) := by
  refine ⟨_, rfl, by decide +kernel, ?_⟩
  exact resident_mode_never_swaps
    (rfl : Kernel.boot { Config.oneFrame with paging := .resident }
      ({ base := .empty } : FaultyFiles EphemeralFiles) (.scripted []) (.seeded 0) = .ok _)
    rfl scrambleForFrame (by simp [scrambleForFrame])

end Machine

end VirtualMemory
