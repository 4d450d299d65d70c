/-
Module: VirtualMemory.Proofs.Kernel.Bystanders
Purpose: What calls for others leave of a process: it stays live, and its pages and its cache are
  spared.
Main exports:
  KernelCall.ForOthers; Kernel.Spares, Kernel.Hosts, Hosts.call, Hosts.access

Others are told from a process by their number and by their cache.
-/
import VirtualMemory.Proofs.Kernel.Caches
import VirtualMemory.Proofs.Kernel.Segfaults
import VirtualMemory.Proofs.Process.Spared

namespace VirtualMemory

open VirtualMemory.Action Pager

variable {φ : Type}

/-- Whether a call is not for a process: it is not about its memory, and no handle of the process
is used. -/
def KernelCall.ForOthers (process : UserProcess) : KernelCall φ → Prop
  | .exit pid _ | .deallocate pid => pid ≠ process.pid
  | .serve other _ | .endProcess other => other.pid ≠ process.pid ∧ other.tlb ≠ process.tlb
  | .newPage page _ | .newPagePinned page _ | .loadFromSwap page => page.pid ≠ process.pid
  | .spawn _ | .getTranslationPinned _ | .dropGuard _ | .getFreeFrame | .returnFrame _
  | .evictPage | .reclaimOnce | .disturb _ => True

namespace Kernel

variable {kernel middle next : Kernel φ} {process other : UserProcess} {config : Config}
  {held : Finset Ppn} {vpn : Vpn}

/-- Who uses a handle of another process uses another cache, and acts on other pages. -/
theorem CachesApart.current_ne (apart : kernel.CachesApart)
    (live : kernel.running process.pid = some process) (pids : other.pid ≠ process.pid)
    (tlbs : other.tlb ≠ process.tlb) :
    (kernel.current other).pid ≠ process.pid ∧ (kernel.current other).tlb ≠ process.tlb := by
  refine ⟨apart.housed.named.current other ▸ pids, fun same => ?_⟩
  rw [current] at same
  split at same
  · next otherLive => exact pids (apart.unique otherLive live same)
  · exact tlbs same

/-! ### One call -/

/-- A process that is live stays so, and its pages are spared. -/
structure Spares (process : UserProcess) (kernel next : Kernel φ) : Prop where
  live : kernel.running process.pid = some process → next.running process.pid = some process
  pages : ∀ vpn, process.Spared vpn kernel.pager next.pager

namespace Spares

theorem refl (process : UserProcess) (kernel : Kernel φ) : Spares process kernel kernel :=
  ⟨id, fun vpn => .refl process vpn kernel.pager⟩

theorem trans (one : Spares process kernel middle) (two : Spares process middle next) :
    Spares process kernel next :=
  ⟨fun live => two.live (one.live live), fun vpn => (one.pages vpn).trans (two.pages vpn)⟩

theorem of_pager {pager : Pager φ} (spared : ∀ vpn, process.Spared vpn kernel.pager pager) :
    Spares process kernel { kernel with pager := pager } :=
  ⟨id, spared⟩

theorem exit (named : kernel.Named) {pid : Pid} (different : pid ≠ process.pid) (status : Int32) :
    Spares process kernel (kernel.exit pid status).2 := by
  rw [Kernel.exit]
  cases removed : kernel.processes.remove pid status with
  | none => exact .refl process kernel
  | some pair =>
    obtain ⟨present, processes⟩ := pair
    have named : present.pid = pid := named pid present (ProcessTable.get_of_removed removed)
    refine ⟨fun live => ?_, fun vpn => .exit kernel.pager (named ▸ different)⟩
    have kept := ProcessTable.get_of_remove removed process.pid
    rw [if_neg different] at kept
    exact kept.trans live

theorem endProcess (named : kernel.Named) (different : other.pid ≠ process.pid) :
    Spares process kernel (Kernel.endProcess other kernel).2 := by
  refine ⟨fun live => ?_, fun vpn => .exit kernel.pager ?_⟩
  · have kept := ProcessTable.get_change kernel.processes other.pid process.pid
      fun _ => ((kernel.current other).exit kernel.pager).2.1
    rw [if_neg different] at kept
    exact kept.trans live
  · rw [named.current]
    exact different

/-- A process that starts has a cache of its own. -/
theorem startProcess (housed : process.tlb < kernel.pager.tlbs.units.size) (pid : Pid)
    (stackTop : Vpn) :
    Spares process kernel ((Kernel.startProcess pid stackTop).outcome kernel).2 where
  live live := by
    rw [running_startProcess]
    split
    · next same => rw [same, live, Option.getD_some]
    · exact live
  pages vpn := by
    have unit : (UserProcess.start kernel.pager pid stackTop).2.tlbs.unit process.tlb =
        kernel.pager.tlbs.unit process.tlb :=
      (TlbBank.unit_make kernel.pager.config.tlbEntries).trans
        (if_neg (Nat.ne_of_lt housed).symm)
    exact ⟨id, UserProcess.slotsOf_congr unit ▸ .refl _⟩

variable [FileSystem φ]

theorem spawn (housed : process.tlb < kernel.pager.tlbs.units.size) (stackTop : Vpn) :
    Spares process kernel ((Kernel.spawn stackTop).outcome kernel).2 := by
  have numbered : ∀ pager : Pager φ, (∀ vpn, process.Spared vpn kernel.pager pager) →
      process.tlb < pager.tlbs.units.size →
      (takePid >>= fun pid => Kernel.startProcess pid stackTop).Ends { kernel with pager := pager }
        fun _ next => Spares process kernel next := by
    intro pager spared housed
    have before : Spares process kernel { kernel with pager := pager } := .of_pager spared
    rw [ends_bind, ends_takePid]
    split
    · have counted : Spares process kernel
          { kernel with pager := pager, nextPid := kernel.nextPid + 1 } :=
        ⟨before.live, before.pages⟩
      exact counted.trans (.startProcess housed kernel.nextPid stackTop)
    · exact before
  suffices spares : (Kernel.spawn stackTop).Ends kernel fun _ next => Spares process kernel next
    from spares
  rw [Kernel.spawn, ends_bind, ends_get]
  simp only
  split
  · rw [ends_bind, ends_onPager, ends_initializeSwap]
    obtain ⟨result, device⟩ := kernel.pager.device.opened kernel.pager.config.swapFile
    have opened : ∀ vpn, process.Spared vpn kernel.pager { kernel.pager with device := device } :=
      fun _ => .of_same rfl rfl
    cases result with
    | ok => exact numbered _ opened housed
    | error cause => exact .of_pager opened
  · exact numbered kernel.pager (fun vpn => .refl process vpn kernel.pager) housed

/-- A request of one process spares another. -/
theorem serve (apart : kernel.CachesApart) (accounts : Accounts config held kernel.pager)
    (live : kernel.running process.pid = some process) (pids : other.pid ≠ process.pid)
    (tlbs : other.tlb ≠ process.tlb) (request : ProcessRequest) :
    Spares process kernel ((perform other (·.serve request)).outcome kernel).2 := by
  have elsewhere := apart.current_ne live pids tlbs
  have pages : ∀ vpn target, (kernel.current other).page target ≠ process.page vpn :=
    fun vpn target same => elsewhere.1 (congrArg PageId.pid same)
  suffices spares : (perform other (·.serve request)).Ends kernel fun _ next =>
      Spares process kernel next from spares
  rw [ends_perform]
  have spared : ((kernel.current other).serve request : ProcessAction φ ProcessAnswer).Ends
      kernel.pager fun _ after => ∀ vpn, process.Spared vpn kernel.pager after := by
    intro vpn
    have keeps := UserProcess.Spared.keeps (pages vpn) elsewhere.2 config held kernel.pager
    exact (keeps.serve request kernel.pager ⟨accounts, .refl process vpn kernel.pager⟩).2
  apply Ends.mono spared
  intro result pager spared
  have served : Spares process kernel { kernel with pager := pager } := .of_pager spared
  cases result with
  | ok answer => exact served
  | error cause =>
    simp only [TerminationHook.afterFault, exitHook]
    split
    · have named : ({ kernel with pager := pager } : Kernel φ).Named := apart.housed.named
      exact served.trans (.exit named pids faultExitStatus)
    · exact served

omit [FileSystem φ] in
/-- Calls of the pager leave the table of processes as it is. -/
theorem afterPager {ε α : Type} {action : Action (Pager φ) ε α}
    (spared : action.Ends kernel.pager fun _ after =>
      ∀ vpn, process.Spared vpn kernel.pager after) :
    Spares process kernel (kernel.afterPager action) :=
  .of_pager spared

/-- A call for others spares a process that is live. -/
theorem step (apart : kernel.CachesApart) (accounts : Accounts config held kernel.pager)
    (live : kernel.running process.pid = some process) {call : KernelCall φ}
    (others : call.ForOthers process) : Spares process kernel (kernel.step call) := by
  have housed := apart.housed.made live
  have named := apart.housed.named
  have pages : ∀ {page : PageId} {vpn : Vpn}, page.pid ≠ process.pid → page ≠ process.page vpn :=
    fun different same => different (congrArg PageId.pid same)
  cases call with
  | spawn stackTop => exact .spawn housed stackTop
  | exit pid status => exact .exit named others status
  | serve other request => exact .serve apart accounts live others.1 others.2 request
  | endProcess other => exact .endProcess named others.1
  | newPage page readOnly =>
    apply Spares.afterPager
    exact (newPage_ends accounts page readOnly).mono
      fun _ _ backed vpn => backed.spared (pages others)
  | newPagePinned page readOnly =>
    apply Spares.afterPager
    rw [Pager.newPagePinned]
    refine (newPage_ends accounts page readOnly).bind (fun entry after backed => ?_)
      fun cause after backed vpn => backed.spared (pages others)
    rw [ends_bind, ends_modify]
    exact fun vpn => (backed.spared (pages others)).congr rfl rfl
  | getTranslationPinned page =>
    apply Spares.afterPager
    simp only [Pager.getTranslationPinned, ends_bind, ends_get]
    cases kernel.pager.tables.get page with
    | none => exact fun vpn => .refl process vpn kernel.pager
    | some entry => exact fun vpn => .of_same rfl rfl
  | dropGuard ppn => exact .of_pager fun vpn => .of_same rfl rfl
  | getFreeFrame =>
    apply Spares.afterPager
    exact (getFreeFrame_ends accounts).mono fun _ _ obtained vpn => obtained.spared
  | returnFrame ppn =>
    apply Spares.afterPager
    simp only [Pager.returnFrame, ends_bind, ends_get]
    cases kernel.pager.tables.owner ppn with
    | some owner => exact fun vpn => .refl process vpn kernel.pager
    | none =>
      rw [ends_releaseFrame]
      cases kernel.pager.frames.release ppn with
      | ok pool => exact fun vpn => .of_same rfl rfl
      | error cause => exact fun vpn => .refl process vpn kernel.pager
  | evictPage =>
    apply Spares.afterPager
    exact (evictPage_ends accounts).mono fun _ _ evicted vpn => evicted.spared
  | loadFromSwap page =>
    apply Spares.afterPager
    exact (loadFromSwap_ends accounts page).mono
      fun _ _ broughtBack vpn => broughtBack.spared (pages others)
  | deallocate pid => exact .of_pager fun vpn => .deallocate kernel.pager others
  | reclaimOnce =>
    apply Spares.afterPager
    exact fun vpn => reclaimOnce_spared accounts process vpn
  | disturb change => exact .of_pager fun vpn => .of_same rfl rfl

end Spares

/-! ### A process that is live -/

/-- A process is live, on a kernel whose books balance and on which no two processes share a
cache. -/
structure Hosts (config : Config) (process : UserProcess) (kernel : Kernel φ) : Prop where
  apart : kernel.CachesApart
  accounts : ∃ held, Accounts config held kernel.pager
  live : kernel.running process.pid = some process
  running : process.exited = false

theorem Hosts.current_eq (hosts : kernel.Hosts config process) :
    kernel.current process = process := by
  simp only [current, hosts.live]

variable [FileSystem φ]

/-- Whatever the kernel is asked for, a machine can be asked for. -/
theorem exists_step (kernel : Kernel φ) (call : KernelCall φ) :
    ∃ (guards : List Ppn) (asked : MachineCall φ),
      (({ kernel := kernel, guards := guards } : Machine φ).step asked).kernel =
        kernel.step call := by
  cases call with
  | spawn stackTop => exact ⟨[], .kernel (.spawn stackTop), rfl⟩
  | exit pid status => exact ⟨[], .kernel (.exit pid status), rfl⟩
  | serve process request => exact ⟨[], .kernel (.serve process request), rfl⟩
  | endProcess process => exact ⟨[], .kernel (.endProcess process), rfl⟩
  | newPage page readOnly => exact ⟨[], .pager (.newPage page readOnly), rfl⟩
  | newPagePinned page readOnly =>
    refine ⟨[], .pager (.newPagePinned page readOnly), ?_⟩
    rw [Machine.step, PagerSession.step, PagerSession.pager_afterGuarding, snd_outcome_map]
    rfl
  | getTranslationPinned page =>
    refine ⟨[], .pager (.getTranslationPinned page), ?_⟩
    rw [Machine.step, PagerSession.step, PagerSession.pager_afterGuarding]
    rfl
  | dropGuard ppn => exact ⟨[ppn], .pager (.dropGuard 0), rfl⟩
  | getFreeFrame => exact ⟨[], .pager .getFreeFrame, rfl⟩
  | returnFrame ppn => exact ⟨[], .pager (.returnFrame ppn), rfl⟩
  | evictPage => exact ⟨[], .pager .evictPage, rfl⟩
  | loadFromSwap page => exact ⟨[], .pager (.loadFromSwap page), rfl⟩
  | deallocate pid => exact ⟨[], .pager (.deallocate pid), rfl⟩
  | reclaimOnce => exact ⟨[], .pager .reclaimOnce, rfl⟩
  | disturb change => exact ⟨[], .kernel (.disturb change), rfl⟩

theorem CachesApart.step (apart : kernel.CachesApart)
    (accounts : ∃ held, Accounts config held kernel.pager) (call : KernelCall φ) :
    (kernel.step call).CachesApart ∧ ∃ held, Accounts config held (kernel.step call).pager := by
  obtain ⟨guards, asked, same⟩ := kernel.exists_step call
  have upheld := attaches_upheld (φ := φ) config kernel.pager.tlbs.attachedTo
    kernel.pager.tlbs.units.size
  rw [← same]
  exact ⟨Machine.cachesApart_step apart accounts asked,
    (Machine.standing_step upheld ⟨accounts, apart.now⟩ asked).accounts⟩

theorem CachesApart.run (apart : kernel.CachesApart)
    (accounts : ∃ held, Accounts config held kernel.pager) (calls : List (KernelCall φ)) :
    (kernel.run calls).CachesApart ∧ ∃ held, Accounts config held (kernel.run calls).pager := by
  induction calls generalizing kernel with
  | nil => exact ⟨apart, accounts⟩
  | cons call rest hypothesis =>
    obtain ⟨apart, accounts⟩ := apart.step accounts call
    exact hypothesis apart accounts

namespace Hosts

/-- A process survives the calls that are for others. -/
theorem call (hosts : kernel.Hosts config process) {call : KernelCall φ}
    (others : call.ForOthers process) :
    (kernel.step call).Hosts config process ∧ Spares process kernel (kernel.step call) := by
  obtain ⟨held, accounts⟩ := hosts.accounts
  have spares := Spares.step hosts.apart accounts hosts.live others
  obtain ⟨apart, accounts⟩ := hosts.apart.step hosts.accounts call
  exact ⟨⟨apart, accounts, spares.live hosts.live, hosts.running⟩, spares⟩

/-- A process that has a page mapped after an access of its own has survived the access. -/
theorem access (hosts : kernel.Hosts config process) (page : PageAccess)
    {entry : TranslationEntry}
    (stays : ((perform process (·.access page)).outcome kernel).2.pager.tables.get
      (process.page vpn) = some entry) :
    ((perform process (·.access page)).outcome kernel).2.Hosts config process ∧
      process.Accessed kernel.pager page ((perform process (·.access page)).outcome kernel).1
        ((perform process (·.access page)).outcome kernel).2.pager := by
  obtain ⟨held, accounts⟩ := hosts.accounts
  have upheld := attaches_upheld (φ := φ) config kernel.pager.tlbs.attachedTo
    kernel.pager.tlbs.units.size
  have ends : (process.access page).Ends kernel.pager fun result after =>
      process.Accessed kernel.pager page result after ∧
        (({ kernel with pager := after } : Kernel φ).CachesApart ∧
          ∃ held, Accounts config held after) := by
    have standing := (upheld.keeps process).access page kernel.pager
      ⟨⟨held, accounts⟩, hosts.apart.now⟩
    refine (UserProcess.access_accessed accounts process page).and (standing.mono ?_)
    exact fun _ after standing => ⟨hosts.apart.withPager standing.holds, standing.accounts⟩
  revert stays
  suffices done : (perform process (·.access page)).Ends kernel fun result next =>
      next.pager.tables.get (process.page vpn) = some entry →
        next.Hosts config process ∧ process.Accessed kernel.pager page result next.pager from done
  rw [ends_perform, hosts.current_eq]
  apply ends.mono
  rintro result after ⟨accessed, apart, accounts⟩
  have survived : ({ kernel with pager := after } : Kernel φ).Hosts config process :=
    ⟨apart, accounts, hosts.live, hosts.running⟩
  cases result with
  | ok answer => exact fun _ => ⟨survived, accessed⟩
  | error cause =>
    simp only [TerminationHook.afterFault, exitHook]
    split
    · intro stays
      obtain ⟨held, balanced⟩ := accounts
      have ended := apart.exit_ended balanced hosts.live hosts.running faultExitStatus
      cases stays.symm.trans ((ended.get (process.page vpn)).trans (if_pos rfl))
    · exact fun _ => ⟨survived, accessed⟩

end Hosts

end Kernel

end VirtualMemory
