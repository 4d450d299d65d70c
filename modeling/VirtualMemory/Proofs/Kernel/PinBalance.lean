/-
Module: VirtualMemory.Proofs.Kernel.PinBalance
Purpose: No call leaves a pin behind, however it ends. Frames are pinned for longer only by
  the two calls that answer a guard.
Main exports:
  PagerCall.HandlesGuard, MachineCall.HandlesGuard; PagerSession.pins_step,
  Kernel.pins_after, Machine.Reachable.pins_run; Machine.PinsBalanced, pins_balanced

Frames are pinned in many places: a victim while it is written out, a frame while a page is
read into it, a page while bytes are copied to it or from it. Wherever an operation gives up,
it has let go of what it pinned. Others may have pinned any frames, any number of times.
-/
import VirtualMemory.Proofs.Kernel.Reachable
import VirtualMemory.Proofs.Pager.Steady

namespace VirtualMemory

open VirtualMemory.Action Pager

variable {φ : Type} {config : Config} {held : Finset Ppn}

/-- The calls that answer a guard, and the one that gives a guard back. -/
def PagerCall.HandlesGuard : PagerCall φ → Prop
  | .newPagePinned _ _ | .getTranslationPinned _ | .dropGuard _ => True
  | _ => False

/-- No call of the kernel has to do with guards. -/
def MachineCall.HandlesGuard : MachineCall φ → Prop
  | .pager call => call.HandlesGuard
  | .kernel _ => False

/-! ### Calls of the pager -/

theorem PagerSession.pins_step [FileSystem φ] {session : PagerSession φ}
    (accounts : Accounts config held session.pager) {call : PagerCall φ}
    (noGuard : ¬ call.HandlesGuard) :
    (session.step call).pager.pins = session.pager.pins := by
  have pins_eq : ∀ {after : Pager φ},
      Steady (fun _ => True) none session.pager after → after.pins = session.pager.pins :=
    Steady.pins_eq
  cases call with
  | newPagePinned | getTranslationPinned | dropGuard => exact absurd trivial noGuard
  | getFreeFrame =>
    exact (getFreeFrame_ends accounts).mono fun _ _ obtained => pins_eq obtained.steady
  | returnFrame ppn => exact pins_eq (returnFrame_steady session.pager ppn)
  | newPage page readOnly => exact (newPage_steady accounts page readOnly).pins_eq
  | putTranslation pid entry => exact (putTranslation_steady accounts pid entry).pins_eq
  | loadFromSwap page =>
    exact (loadFromSwap_ends accounts page).mono fun _ _ broughtBack =>
      pins_eq broughtBack.steady
  | evictPage => exact (evictPage_ends accounts).mono fun _ _ evicted => pins_eq evicted.steady
  | deallocate pid => exact (deallocate_steady session.pager pid).pins_eq
  | reclaimOnce => exact pins_eq (reclaimOnce_steady accounts)
  | initializeSwap => exact pins_eq (initializeSwap_steady session.pager)
  | terminate => exact pins_eq (terminate_steady session.pager)
  | serve process request => exact (serve_steady accounts process request).pins_eq
  | exit process => exact (exit_steady process session.pager).pins_eq
  | getTranslation | start | disturb => rfl

namespace Pager

variable {pager : Pager φ}

/-- Every frame is pinned as often as before, but for the one that is pinned once more. -/
def PinsOnly (pager : Pager φ) (pinned : Option Ppn) (next : Pager φ) : Prop :=
  ∀ ppn, next.pins.count ppn = pager.pins.count ppn + if pinned = some ppn then 1 else 0

theorem Steady.pinsOnly {taken : PageId → Prop} {pinned : Option Ppn} {next : Pager φ}
    (steady : Steady taken pinned pager next) : pager.PinsOnly pinned next := by
  intro ppn
  rw [steady.pins_eq]
  cases pinned with
  | none => rfl
  | some found =>
    rw [Option.elim_some, PinSet.count_hold]
    simp only [Option.some.injEq]

theorem newPagePinned_pinsOnly [FileSystem φ] (accounts : Accounts config held pager)
    (page : PageId) (readOnly : Bool) :
    (newPagePinned page readOnly).Ends pager fun result next =>
      pager.PinsOnly (result.toOption.map TranslationEntry.ppn) next := by
  refine (newPage_steady accounts page readOnly).bind (fun entry next steady => ?_)
    fun cause next steady => steady.pinsOnly
  exact (steady.pin entry.ppn).pinsOnly

theorem getTranslationPinned_pinsOnly (pager : Pager φ) (page : PageId) :
    (getTranslationPinned page).Ends pager fun result next =>
      pager.PinsOnly (result.toOption.join.map TranslationEntry.ppn) next := by
  have tells : (getTranslationPinned page).Ends pager (Guarded (fun _ => False) pager page) :=
    getTranslationPinned_guarded pager page
  apply Ends.mono tells
  intro result next guarded
  rcases result with cause | (_ | entry)
  · exact Steady.pinsOnly guarded
  · exact Steady.pinsOnly guarded
  · exact guarded.1.pinsOnly

end Pager

/-! ### Calls of the kernel -/

namespace Kernel

variable {kernel : Kernel φ}

theorem pins_exit (kernel : Kernel φ) (pid : Pid) (status : Int32) :
    (kernel.exit pid status).2.pager.pins = kernel.pager.pins := by
  rw [Kernel.exit]
  split
  · rfl
  · next process _ _ => exact (exit_steady process kernel.pager).pins_eq

theorem pins_exitAll (kernel : Kernel φ) (pids : List Pid) (status : Int32) :
    (pids.foldl (fun state pid => (state.exit pid status).2) kernel).pager.pins =
      kernel.pager.pins := by
  induction pids generalizing kernel with
  | nil => rfl
  | cons pid rest hypothesis => exact (hypothesis _).trans (kernel.pins_exit pid status)

/-- What ends a process in the middle of an operation lets go of nothing but its memory. -/
theorem pins_perform {α : Type} (process : UserProcess)
    {operation : UserProcess → ProcessAction φ α}
    (ends : (operation (kernel.current process)).Ends kernel.pager fun _ after =>
      after.pins = kernel.pager.pins) :
    (perform process operation).Ends kernel fun _ next =>
      next.pager.pins = kernel.pager.pins := by
  rw [ends_perform]
  apply Ends.mono ends
  intro result pager same
  cases result with
  | ok answer => exact same
  | error cause =>
    simp only [TerminationHook.afterFault, exitHook]
    split
    · exact (pins_exit _ process.pid faultExitStatus).trans same
    · exact same

variable [FileSystem φ]

theorem pins_spawn (kernel : Kernel φ) (stackTop : Vpn) :
    (spawn stackTop).Ends kernel fun _ next => next.pager.pins = kernel.pager.pins := by
  have numbered : ∀ pager : Pager φ, pager.pins = kernel.pager.pins →
      (takePid >>= fun pid => startProcess pid stackTop).Ends { kernel with pager := pager }
        fun _ next => next.pager.pins = kernel.pager.pins := by
    intro pager same
    rw [ends_bind, ends_takePid]
    split <;> exact same
  rw [spawn, ends_bind, ends_get]
  dsimp only
  split
  · rw [ends_bind, ends_onPager]
    have made : (initializeSwap : PagerAction φ Unit).Ends kernel.pager fun _ next =>
        Steady (fun _ => False) none kernel.pager next := initializeSwap_steady kernel.pager
    apply Ends.mono made
    intro result pager steady
    cases result with
    | ok => exact numbered pager steady.pins_eq
    | error cause => exact steady.pins_eq
  · exact numbered kernel.pager rfl

theorem pins_translationFault (accounts : Accounts config held kernel.pager) (pid : Pid)
    (address : UInt32) :
    (handleTranslationFault pid address).Ends kernel fun _ next =>
      next.pager.pins = kernel.pager.pins := by
  rw [handleTranslationFault, ends_bind, ends_get]
  dsimp only
  split
  · rfl
  · next process _ =>
    apply pins_perform process
    have served := serve_steady accounts (kernel.current process) (.fault address)
    rw [UserProcess.serve, ends_bind] at served
    apply Ends.mono served
    intro result after ended
    cases result <;> exact Steady.pins_eq ended

theorem pins_after (accounts : Accounts config held kernel.pager) (call : LifecycleCall φ) :
    (kernel.after call).pager.pins = kernel.pager.pins := by
  cases call with
  | spawn stackTop => exact pins_spawn kernel stackTop
  | exit pid status => exact pins_exit kernel pid status
  | translationFault pid address => exact pins_translationFault accounts pid address
  | serve process request =>
    apply pins_perform process
    exact (serve_steady accounts (kernel.current process) request).mono
      fun _ _ steady => steady.pins_eq
  | endProcess process => exact (exit_steady (kernel.current process) kernel.pager).pins_eq
  | shutdown =>
    have closed : (shutdown : KernelAction φ PagingError Unit).Ends kernel fun _ next =>
        next.pager.pins = kernel.pager.pins := by
      rw [ends_shutdown]
      have closes : (terminate : PagerAction φ Unit).Ends kernel.emptied.pager fun _ next =>
          Steady (fun _ => False) none kernel.emptied.pager next :=
        terminate_steady kernel.emptied.pager
      apply Ends.mono closes
      intro result last steady
      exact steady.pins_eq.trans (pins_exitAll { kernel with reclaiming := false } _ 0)
    exact closed
  | idle =>
    change kernel.reclaimInBackground.pager.pins = kernel.pager.pins
    have asked : Accounts config held { kernel.pager with reclaimRequested := false } :=
      accounts.of_same rfl rfl rfl accounts.pins rfl
    have reclaimed : (reclaimOnce : PagerAction φ Nat).Ends
        { kernel.pager with reclaimRequested := false } fun _ next =>
          Steady (fun _ => False) none { kernel.pager with reclaimRequested := false } next :=
      reclaimOnce_steady asked
    exact reclaimInBackground_ends rfl (reclaimed.mono fun _ _ steady => steady.pins_eq)
  | disturb change => rfl

end Kernel

/-! ### Runs of a machine -/

namespace Machine

variable [FileSystem φ] {machine : Machine φ}

theorem Reachable.pins_step (reachable : machine.Reachable config) {call : MachineCall φ}
    (noGuard : ¬ call.HandlesGuard) :
    (machine.step call).kernel.pager.pins = machine.kernel.pager.pins := by
  obtain ⟨held, accounts⟩ := reachable.fitted.accounts
  cases call with
  | pager call =>
    have session : Accounts config held machine.session.pager := accounts
    exact PagerSession.pins_step session noGuard
  | kernel call => exact Kernel.pins_after accounts call

/-- While no guard is handled, the pins stay what they are. -/
theorem Reachable.pins_run (reachable : machine.Reachable config) {calls : List (MachineCall φ)}
    (noGuards : ∀ call ∈ calls, ¬ call.HandlesGuard) :
    (machine.run calls).kernel.pager.pins = machine.kernel.pager.pins := by
  induction calls generalizing machine with
  | nil => rfl
  | cons call rest hypothesis =>
    have next := hypothesis (reachable.call call) fun other listed =>
      noGuards other (List.mem_cons_of_mem call listed)
    exact next.trans (reachable.pins_step (noGuards call List.mem_cons_self))

/-- Nothing that is called for leaves a pin behind or takes one away. -/
structure PinsBalanced (machine : Machine φ) : Prop where
  /-- Calls that are not for guards leave every frame pinned as often as it was, whether they
  succeed, fail, or end the process that they are made for. -/
  kept : ∀ calls : List (MachineCall φ), (∀ call ∈ calls, ¬ call.HandlesGuard) →
    machine.kernel.pager.PinsOnly none (machine.run calls).kernel.pager
  newPagePinned : ∀ page readOnly,
    (Pager.newPagePinned page readOnly).Ends machine.kernel.pager fun result next =>
      machine.kernel.pager.PinsOnly (result.toOption.map TranslationEntry.ppn) next
  getTranslationPinned : ∀ page,
    (Pager.getTranslationPinned page).Ends machine.kernel.pager fun result next =>
      machine.kernel.pager.PinsOnly (result.toOption.join.map TranslationEntry.ppn) next

/-- Whatever happened before, whichever frames are pinned, whatever the policy proposes and
however the file system behaves: a call changes no pins, but for the two that answer a guard,
and those pin the frame that they answer once more. -/
theorem pins_balanced (reachable : machine.Reachable config) : machine.PinsBalanced := by
  obtain ⟨held, accounts⟩ := reachable.fitted.accounts
  refine ⟨fun calls noGuards ppn => ?_, newPagePinned_pinsOnly accounts,
    getTranslationPinned_pinsOnly machine.kernel.pager⟩
  rw [reachable.pins_run noGuards]
  rfl

/-- A page of one process is guarded twice while another process runs. -/
def guardedTwice : List (MachineCall EphemeralFiles) :=
  [.kernel (.spawn 4), .pager (.newPagePinned ⟨2, 7⟩ false),
    .pager (.getTranslationPinned ⟨2, 7⟩)]

/-- A process reads from the last bytes of its stack on, and dies in the middle of the copy, at
the page above. Both guards still stand, and nothing else is pinned. -/
theorem pins_balanced_two_frames :
    ∃ kernel : Kernel EphemeralFiles,
      Kernel.boot { Config.oneFrame with frames := 2 } .empty (.scripted []) (.seeded 0) =
          .ok kernel ∧
        let before := run { kernel := kernel } guardedTwice
        let read : MachineCall EphemeralFiles :=
          .kernel (.serve ⟨1, 4, 8, 0, false⟩ (.read 5116 8))
        before.kernel.pager.pins.count 0 = 2 ∧
        (before.kernel.running 1).isSome = true ∧
        ((before.run [read]).kernel.running 1).isSome = false ∧
        before.kernel.pager.PinsOnly none (before.run [read]).kernel.pager ∧
        before.PinsBalanced := by
  have balanced := pins_balanced (.run (.boot
    (rfl : Kernel.boot { Config.oneFrame with frames := 2 } (.empty : EphemeralFiles)
      (.scripted []) (.seeded 0) = .ok _)) guardedTwice)
  refine ⟨_, rfl, by decide +kernel, by decide +kernel, by decide +kernel,
    balanced.kept _ ?_, balanced⟩
  intro call listed
  rw [List.mem_singleton.mp listed]
  exact not_false

end Machine

end VirtualMemory
