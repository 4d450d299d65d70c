/-
Module: VirtualMemory.Proofs.Kernel.Shutdown
Purpose: A shutdown reaches all that is left of what a kernel was asked for: every process, every
  page, every frame and the swap file.
Main exports:
  Kernel.Orderly and its lemma for every call, Orderly.shutdown; Kernel.Halted,
  Halted.shutdown_eq; MachineCall.IsOwn; Kernel.ShutDown, Machine.shutdown_is_clean

What is left depends on what went before. Processes may be live or have exited, may have freed
their memory while they stay in the table, and their pages may be in memory, in swap or nowhere.
That there is nothing besides is a matter of every call before: only a live process whose memory
was not freed has pages, and the swap file can be closed and removed.
-/
import VirtualMemory.Proofs.Kernel.Resident
import VirtualMemory.Proofs.Pager.Settled

namespace VirtualMemory

open VirtualMemory.Action

/-! ### A kernel whose pages are those of its processes -/

namespace Kernel

open Pager

section Orderly

variable {φ : Type} {config : Config} {holds : SwapDevice φ → Prop} {kernel next : Kernel φ}

/-- Every live process is known by its own number, and no page is resident but those of live
processes whose memory was not freed yet. -/
structure Orderly (config : Config) (holds : SwapDevice φ → Prop) (kernel : Kernel φ) : Prop where
  named : kernel.Named
  settled : kernel.pager.Settled config (fun page => ¬ kernel.Alive page.pid) holds

namespace Orderly

/-- A booted kernel has no pages. -/
theorem boot {files : φ} {policy : Policy} {chance : Chance}
    (booted : Kernel.boot config files policy chance = .ok kernel)
    (unused : holds (.unused files)) : kernel.Orderly config holds := by
  have named := (Numbered.boot booted).named
  obtain ⟨pager, set, rfl⟩ := exists_boot booted
  have accounts := Accounts.boot set
  obtain ⟨-, rfl⟩ := eq_of_boot set
  exact ⟨named, accounts, fun page _ => PageTables.get_empty _ page, unused⟩

/-- A process frees its memory, and others stay as they are. -/
theorem exits (orderly : kernel.Orderly config holds) (process : UserProcess) (named : next.Named)
    (before : process.exited = true → ¬ kernel.Alive process.pid)
    (freed : next.pager = (process.exit kernel.pager).2.2)
    (others : ∀ pid ≠ process.pid, next.running pid = kernel.running pid) :
    next.Orderly config holds := by
  refine ⟨named, freed ▸ (orderly.settled.exit fun exited _ => before exited).of_gone ?_⟩
  intro page notAlive
  -- The process is not alive any more. Who else is was so before.
  by_cases same : page.pid = process.pid
  · exact .inr same
  · refine .inl fun ⟨present, live, running⟩ => notAlive ⟨present, ?_, running⟩
    exact (others page.pid same).trans live

/-- An exit leaves the kernel orderly. -/
theorem exit (orderly : kernel.Orderly config holds) (pid : Pid) (status : Int32) :
    (kernel.exit pid status).2.Orderly config holds := by
  have named := orderly.named.retired (.exit kernel pid status)
  revert named
  rw [Kernel.exit]
  cases removed : kernel.processes.remove pid status with
  | none => exact fun _ => orderly
  | some pair =>
    obtain ⟨process, processes⟩ := pair
    intro named
    have live : kernel.running pid = some process := ProcessTable.get_of_removed removed
    obtain rfl := orderly.named pid process live
    refine orderly.exits process named (fun exited alive => ?_) rfl fun other different => ?_
    · obtain ⟨present, found, running⟩ := alive
      cases live.symm.trans found
      exact Bool.false_ne_true (running.symm.trans exited)
    · exact (ProcessTable.get_of_remove removed other).trans (if_neg different.symm)

theorem exitAll (orderly : kernel.Orderly config holds) (pids : List Pid) (status : Int32) :
    (pids.foldl (fun state pid => (state.exit pid status).2) kernel).Orderly config holds := by
  induction pids generalizing kernel with
  | nil => exact orderly
  | cons pid rest hypothesis => exact hypothesis (orderly.exit pid status)

/-- A kernel that is emptied is orderly. -/
theorem emptied (orderly : kernel.Orderly config holds) : kernel.emptied.Orderly config holds := by
  have stopped : Orderly config holds { kernel with reclaiming := false } :=
    ⟨orderly.named, orderly.settled⟩
  exact stopped.exitAll kernel.processes.pids 0

/-- A process that frees its memory by its handle stays in the table. -/
theorem endProcess (orderly : kernel.Orderly config holds) (process : UserProcess) :
    (Kernel.endProcess process kernel).2.Orderly config holds := by
  have samePid := orderly.named.current process
  have named := orderly.named.retired (.endProcess kernel process)
  refine orderly.exits (kernel.current process) named (fun exited alive => ?_) rfl
    fun other different => ?_
  · obtain ⟨present, live, running⟩ := alive
    rw [samePid] at live
    simp only [current, live] at exited
    exact Bool.false_ne_true (running.symm.trans exited)
  · rw [samePid] at different
    exact (ProcessTable.get_change _ _ _ _).trans (if_neg different.symm)

/-- A fault that ends the process frees its memory. -/
theorem perform {α : Type} {operation : UserProcess → ProcessAction φ α}
    (orderly : kernel.Orderly config holds) (process : UserProcess)
    (preserves : (operation (kernel.current process)).Preserves
      (Settled config (fun page => ¬ kernel.Alive page.pid) holds)) :
    (Kernel.perform process operation).Ends kernel fun _ next => next.Orderly config holds := by
  rw [ends_perform]
  apply Ends.mono (preserves kernel.pager orderly.settled)
  intro result pager settled
  have performed : Orderly config holds { kernel with pager := pager } := ⟨orderly.named, settled⟩
  cases result with
  | ok answer => exact performed
  | error cause =>
    simp only [TerminationHook.afterFault, exitHook]
    split
    · exact performed.exit process.pid faultExitStatus
    · exact performed

variable [FileSystem φ]

theorem served (orderly : kernel.Orderly config holds)
    (lasting : SwapDevice.Lasting config.swapFile holds) (process : UserProcess)
    (request : ProcessRequest) :
    ((kernel.current process).serve request).Preserves
      (Settled config (fun page => ¬ kernel.Alive page.pid) holds) := by
  refine Settled.serve lasting (fun running vpn gone => gone ?_) request
  have samePid : ((kernel.current process).page vpn).pid = process.pid :=
    orderly.named.current process
  exact samePid ▸ alive_of_current running

theorem serve (orderly : kernel.Orderly config holds)
    (lasting : SwapDevice.Lasting config.swapFile holds) (process : UserProcess)
    (request : ProcessRequest) :
    (Kernel.perform process (·.serve request)).Ends kernel fun _ next =>
      next.Orderly config holds :=
  orderly.perform process (orderly.served lasting process request)

theorem translationFault (orderly : kernel.Orderly config holds)
    (lasting : SwapDevice.Lasting config.swapFile holds) (pid : Pid) (address : UInt32) :
    (handleTranslationFault pid address).Ends kernel fun _ next =>
      next.Orderly config holds := by
  rw [handleTranslationFault, ends_bind, ends_get]
  dsimp only
  split
  · exact orderly
  · next process _ =>
    refine orderly.perform process fun pager settled => ?_
    have served := orderly.served lasting process (.fault address) pager settled
    rw [UserProcess.serve, ends_bind] at served
    refine served.mono fun result after told => ?_
    cases result <;> exact told

theorem spawn (orderly : kernel.Orderly config holds)
    (lasting : SwapDevice.Lasting config.swapFile holds) (stackTop : Vpn) :
    (Kernel.spawn stackTop).Ends kernel fun _ next => next.Orderly config holds := by
  have numbered : ∀ pager : Pager φ,
      pager.Settled config (fun page => ¬ kernel.Alive page.pid) holds →
        (takePid >>= fun pid => startProcess pid stackTop).Ends { kernel with pager := pager }
          fun _ next => next.Orderly config holds := by
    intro pager settled
    rw [ends_bind, ends_takePid]
    split
    · have started : Settled config (fun page => ¬ kernel.Alive page.pid) holds
          (UserProcess.start pager kernel.nextPid stackTop).2 :=
        ⟨settled.accounts.start _ _, settled.absent, settled.device⟩
      refine ⟨orderly.named.startProcess pager stackTop, started.of_gone fun page gone alive => ?_⟩
      obtain ⟨process, live, running⟩ := alive
      refine gone ⟨process, (running_startProcess _ _ _ _).trans ?_, running⟩
      split
      · next same =>
        have before : kernel.running kernel.nextPid = some process := same ▸ live
        exact congrArg (fun found => some (Option.getD found _)) before
      · exact live
    · exact ⟨orderly.named, settled⟩
  rw [Kernel.spawn, ends_bind, ends_get]
  simp only
  split
  · rw [ends_bind, ends_onPager]
    apply Ends.mono (Settled.initializeSwap lasting kernel.pager orderly.settled)
    intro result pager settled
    cases result with
    | ok => exact numbered pager settled
    | error cause => exact ⟨orderly.named, settled⟩
  · exact numbered kernel.pager orderly.settled

theorem reclaimOnce (orderly : kernel.Orderly config holds)
    (lasting : SwapDevice.Lasting config.swapFile holds) :
    (Pager.reclaimOnce : PagerAction φ Nat).Ends kernel.pager fun _ pager =>
      Orderly config holds { kernel with pager := pager } :=
  (preserves_reclaimOnce (Settled.evictToPool lasting) kernel.pager orderly.settled).mono
    fun _ _ settled => ⟨orderly.named, settled⟩

theorem reclaimInBackground (orderly : kernel.Orderly config holds)
    (lasting : SwapDevice.Lasting config.swapFile holds) :
    kernel.reclaimInBackground.Orderly config holds := by
  have settled := orderly.settled
  have asked : Orderly config holds
      { kernel with pager := { kernel.pager with reclaimRequested := false } } :=
    ⟨orderly.named, settled.accounts.of_same rfl rfl rfl settled.accounts.pins rfl,
      settled.absent, settled.device⟩
  exact reclaimInBackground_ends orderly (asked.reclaimOnce lasting)

end Orderly

/-! ### The end of a kernel -/

/-- Nothing is left to shut down. -/
structure Halted (kernel : Kernel φ) : Prop where
  nobody : ∀ pid, kernel.running pid = none
  idle : kernel.reclaiming = false
  detached : kernel.pager.tlbs.detachAll = kernel.pager.tlbs
  closed : kernel.pager.swapExists = false

/-- A kernel that was halted is empty already. -/
theorem Halted.emptied_eq (halted : kernel.Halted) : kernel.emptied = kernel := by
  have empty : kernel.processes.pids = [] := by
    refine List.eq_nil_iff_forall_not_mem.mpr fun pid listed => ?_
    rw [ProcessTable.pids, Std.ExtTreeMap.mem_keys, Std.ExtTreeMap.mem_iff_isSome_getElem?] at listed
    rw [show kernel.processes.live[pid]? = none from halted.nobody pid] at listed
    cases listed
  have idle := halted.idle
  rw [emptied, empty, List.foldl_nil]
  obtain ⟨pager, processes, nextPid, reclaiming⟩ := kernel
  cases idle
  rfl

/-- A second shutdown finds nothing to do. -/
theorem Halted.shutdown_eq [FileSystem φ] (halted : kernel.Halted) :
    (shutdown : KernelAction φ PagingError Unit).outcome kernel = (.ok (), kernel) := by
  suffices ends : (shutdown : KernelAction φ PagingError Unit).Ends kernel fun result after =>
      result = .ok () ∧ after = kernel from Prod.ext_iff.mpr ends
  rw [ends_shutdown, halted.emptied_eq, Ends, terminate_of_closed halted.closed, halted.detached]
  exact ⟨rfl, rfl⟩

/-- Nobody runs in a kernel that was emptied. -/
theorem running_emptied (kernel : Kernel φ) (pid : Pid) : kernel.emptied.running pid = none := by
  have retired := (Retired.exitAll { kernel with reclaiming := false }
    kernel.processes.pids 0).running pid
  refine Option.not_isSome_iff_eq_none.mp fun still => ?_
  obtain ⟨live, spared⟩ := (Bool.and_eq_true _ _).mp (retired.symm.trans still)
  obtain ⟨process, found⟩ := Option.isSome_iff_exists.mp live
  rw [if_pos (ProcessTable.mem_pids found)] at spared
  cases spared

theorem reclaiming_exit (kernel : Kernel φ) (pid : Pid) (status : Int32) :
    (kernel.exit pid status).2.reclaiming = kernel.reclaiming := by
  rw [exit]
  split <;> rfl

theorem reclaiming_emptied (kernel : Kernel φ) : kernel.emptied.reclaiming = false := by
  have ends : ∀ (pids : List Pid) (state : Kernel φ),
      (pids.foldl (fun state pid => (state.exit pid 0).2) state).reclaiming = state.reclaiming := by
    intro pids
    induction pids with
    | nil => exact fun _ => rfl
    | cons pid rest hypothesis =>
      exact fun state => (hypothesis _).trans (reclaiming_exit state pid 0)
  exact ends _ _

end Orderly

variable {config : Config} {kernel after : Kernel EphemeralFiles}

/-- Everything ends, and the swap file can be removed. -/
theorem Orderly.shutdown
    (orderly : kernel.Orderly config (SwapDevice.Removable config.swapFile)) :
    (Kernel.shutdown : KernelAction EphemeralFiles PagingError Unit).Ends kernel
      fun result after => result = .ok () ∧ after.Halted ∧
        after.Orderly config (SwapDevice.Removable config.swapFile) := by
  rw [ends_shutdown]
  have emptied := orderly.emptied
  have settled := emptied.settled
  apply Ends.mono (terminate_of_removable settled.device)
  rintro result pager ⟨rfl, same, closed, removable⟩
  have tables : pager.tables = kernel.emptied.pager.tables := by rw [same]
  have detached : pager.tlbs = kernel.emptied.pager.tlbs.detachAll := by rw [same]
  have accounts : Accounts config ∅ pager := by
    rw [same]
    exact settled.accounts.of_same rfl rfl rfl settled.accounts.pins rfl
  refine ⟨rfl, ⟨kernel.running_emptied, kernel.reclaiming_emptied, ?_, closed⟩, emptied.named,
    accounts, fun page gone => ?_, removable⟩
  · rw [detached]
    rfl
  · rw [tables]
    exact settled.absent page gone

/-- What a shutdown leaves of a kernel. -/
structure ShutDown (config : Config) (kernel after : Kernel EphemeralFiles) : Prop where
  nobody : ∀ pid, after.running pid = none
  /-- Who was live ended well, and how others ended stays as it was. -/
  ended : ∀ pid, (kernel.running pid).isSome = true → after.exitStatus pid = some 0
  kept : ∀ pid, kernel.running pid = none → after.exitStatus pid = kernel.exitStatus pid
  remembered : ∀ pid status, kernel.exitStatus pid = some status →
    after.exitStatus pid = some status
  unmapped : ∀ page, after.pager.tables.get page = none
  residentPageCount_eq : after.pager.residentPageCount = 0
  freeFrameCount_eq : after.pager.freeFrameCount = config.frames
  swapExists_eq : after.pager.swapExists = false
  /-- If the swap file was ever made, there is no file of its name any more. -/
  removed : kernel.pager.HasSwapFile → after.pager.device.files.names[config.swapFile]? = none

/-- A kernel that gives out its numbers in order, and that is all that its pager is used for. -/
structure Tended (config : Config) (kernel : Kernel EphemeralFiles) : Prop where
  numbered : ∃ count, Numbered config count kernel
  orderly : kernel.Orderly config (SwapDevice.Removable config.swapFile)

namespace Tended

theorem boot {files : EphemeralFiles} {policy : Policy} {chance : Chance}
    (booted : Kernel.boot config files policy chance = .ok kernel) : kernel.Tended config :=
  ⟨⟨0, .boot booted⟩, .boot booted trivial⟩

/-- A shutdown succeeds and leaves nothing behind, and a second one changes nothing. -/
theorem shutDown (tended : kernel.Tended config) :
    ∃ after, Kernel.shutdown.outcome kernel = (.ok (), after) ∧ kernel.ShutDown config after ∧
      Kernel.shutdown.outcome after = (.ok (), after) := by
  obtain ⟨⟨count, numbered⟩, orderly⟩ := tended
  obtain ⟨succeeds, halted, settled⟩ := orderly.shutdown
  have retired : Retired kernel (kernel.after .shutdown) fun _ => some 0 := .shutdown kernel
  have stays := standing_after (hasSwapFile_upheld config kernel.pager.HasSwapFile)
    ⟨⟨∅, orderly.settled.accounts⟩, id⟩ .shutdown
  change (kernel.after .shutdown).Halted at halted
  change (kernel.after .shutdown).Orderly config _ at settled
  refine ⟨kernel.after .shutdown, Prod.ext_iff.mpr ⟨succeeds, rfl⟩, ?_, halted.shutdown_eq⟩
  generalize kernel.after .shutdown = after at *
  obtain ⟨accounts, absent, removable⟩ := settled.settled
  have unmapped : ∀ page, after.pager.tables.get page = none := fun page =>
    absent page fun ⟨process, live, _⟩ => by cases (halted.nobody page.pid).symm.trans live
  have vacant : after.pager.residentPageCount = 0 := by
    refine PageTables.residentCount_eq_zero_iff.mpr fun ppn => ?_
    refine Option.eq_none_iff_forall_ne_some.mpr fun page owned => ?_
    obtain ⟨entry, found, _⟩ := accounts.tables.get_of_owner owned
    cases (unmapped page).symm.trans found
  have kept : ∀ pid, kernel.running pid = none →
      after.exitStatus pid = kernel.exitStatus pid := by
    intro pid notLive
    rw [retired.exitStatus, notLive, Option.isSome_none, if_neg Bool.false_ne_true]
  exact {
    nobody := halted.nobody
    ended := fun pid live => by rw [retired.exitStatus, if_pos live, Option.some_or]
    kept := kept
    remembered := fun pid status ended => (kept pid (numbered.not_running ended)).trans ended
    unmapped := unmapped
    residentPageCount_eq := vacant
    freeFrameCount_eq := by
      have all := accounts.card_eq
      rwa [vacant, Finset.card_empty] at all
    swapExists_eq := halted.closed
    removed := fun has => by
      obtain ⟨swap, used⟩ := stays.holds has
      rw [used] at removable ⊢
      exact SwapFile.Removable.removed removable
        (swapExists_eq_false_iff.mp halted.closed swap used) }

end Tended

end Kernel

/-! ### Runs -/

/-- Whether a call is one of the kernel or of a process, or is for frames to be reclaimed. Callers
get no frame and no pin from it, and the file system is left alone. -/
def MachineCall.IsOwn {φ : Type} : MachineCall φ → Prop
  | .kernel (.disturb _) => False
  | .kernel _ | .pager .reclaimOnce => True
  | .pager _ => False

namespace Machine

open Kernel

variable {config : Config} {machine : Machine EphemeralFiles}

theorem tended_step (tended : machine.kernel.Tended config) {call : MachineCall EphemeralFiles}
    (own : call.IsOwn) : (machine.step call).kernel.Tended config := by
  obtain ⟨⟨count, numbered⟩, orderly⟩ := tended
  have lasting := SwapDevice.removable_lasting config.swapFile
  cases call with
  | kernel call =>
    refine ⟨⟨_, (numbered.after call).1⟩, ?_⟩
    cases call with
    | disturb change => exact own.elim
    | spawn stackTop => exact orderly.spawn lasting stackTop
    | exit pid status => exact orderly.exit pid status
    | translationFault pid address => exact orderly.translationFault lasting pid address
    | serve process request => exact orderly.serve lasting process request
    | endProcess process => exact orderly.endProcess process
    | shutdown => exact orderly.shutdown.2.2
    | idle => exact orderly.reclaimInBackground lasting
  | pager call =>
    obtain rfl : call = .reclaimOnce := by
      cases call with
      | reclaimOnce => rfl
      | _ => exact own.elim
    have standing := (Pager.hasSwapFile_upheld (φ := EphemeralFiles) config _).reclaimOnce
      machine.kernel.pager numbered.equipped.standing
    exact ⟨⟨count, numbered.retired (.of_same rfl rfl) (.of_standing standing)⟩,
      orderly.reclaimOnce lasting⟩

/-- A kernel that only its own calls are made to can be shut down at any time. -/
theorem tended_run (tended : machine.kernel.Tended config)
    {calls : List (MachineCall EphemeralFiles)} (own : ∀ call ∈ calls, call.IsOwn) :
    (machine.run calls).kernel.Tended config := by
  induction calls generalizing machine with
  | nil => exact tended
  | cons call rest hypothesis =>
    obtain ⟨first, others⟩ := List.forall_mem_cons.mp own
    exact hypothesis (tended_step tended first) others

/-- Whatever a kernel and its processes were asked for, a shutdown succeeds. It leaves no process,
no page and no swap file, and every frame is free. Another shutdown changes nothing. -/
theorem shutdown_is_clean {files : EphemeralFiles} {policy : Policy} {chance : Chance}
    {kernel : Kernel EphemeralFiles}
    (booted : Kernel.boot config files policy chance = .ok kernel)
    {calls : List (MachineCall EphemeralFiles)} (own : ∀ call ∈ calls, call.IsOwn) :
    let used := (run { kernel := kernel } calls).kernel
    ∃ after, Kernel.shutdown.outcome used = (.ok (), after) ∧ used.ShutDown config after ∧
      Kernel.shutdown.outcome after = (.ok (), after) :=
  (tended_run (Kernel.Tended.boot booted) own).shutDown

/-- One process has lost its page to swap, another has the only frame, and a third has exited. -/
theorem shutdown_is_clean_three_processes :
    ∃ kernel : Kernel EphemeralFiles,
      Kernel.boot .oneFrame .empty (.scripted []) (.seeded 0) = .ok kernel ∧
        let calls : List (MachineCall EphemeralFiles) :=
          [.kernel (.spawn 4), .kernel (.spawn 4), .kernel (.spawn 4),
            .kernel (.serve ⟨1, 4, 8, 0, false⟩ .allocateStack),
            .kernel (.translationFault 2 4096), .pager .reclaimOnce, .kernel (.exit 3 7)]
        let used := (run { kernel := kernel } calls).kernel
        (∀ call ∈ calls, call.IsOwn) ∧
          used.pager.swapContains ⟨1, 4⟩ = true ∧
          used.pager.tables.frameOf ⟨2, 4⟩ = some 0 ∧
          [1, 2, 3].map used.exitStatus = [none, none, some 7] ∧
          ∃ after, Kernel.shutdown.outcome used = (.ok (), after) ∧
            used.ShutDown .oneFrame after ∧ Kernel.shutdown.outcome after = (.ok (), after) := by
  have own : ∀ call ∈ ([.kernel (.spawn 4), .kernel (.spawn 4), .kernel (.spawn 4),
      .kernel (.serve ⟨1, 4, 8, 0, false⟩ .allocateStack), .kernel (.translationFault 2 4096),
      .pager .reclaimOnce, .kernel (.exit 3 7)] : List (MachineCall EphemeralFiles)),
      call.IsOwn := by
    simp only [List.forall_mem_cons, MachineCall.IsOwn, List.not_mem_nil, false_imp_iff,
      implies_true, and_self]
  refine ⟨_, rfl, own, by decide +kernel, by decide +kernel, by decide +kernel, ?_⟩
  exact shutdown_is_clean
    (rfl : Kernel.boot .oneFrame EphemeralFiles.empty (.scripted []) (.seeded 0) = .ok _) own

end Machine

end VirtualMemory
