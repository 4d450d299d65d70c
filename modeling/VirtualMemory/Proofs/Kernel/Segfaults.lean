/-
Module: VirtualMemory.Proofs.Kernel.Segfaults
Purpose: What a fault at a page that is nowhere does: its process loses its memory, and nothing
  else happens to anyone.
Main exports:
  UserProcess.GaveUp, Accessed.gaveUp; Accounts.isFree_deallocate, Accounts.freeFrameCount_deallocate;
  Kernel.Ended, CachesApart.exit_ended, Machine.segfault_cost

The page is looked for in the tables and in swap, and the stack is asked for it, before a frame
is. What is left to be done is to end the process.
-/
import VirtualMemory.Proofs.Kernel.Ownership
import VirtualMemory.Proofs.Process.Accesses

namespace VirtualMemory

open VirtualMemory.Action Pager

variable {φ : Type}

/-! ### The access that faults -/

namespace UserProcess

variable {process : UserProcess} {pager after : Pager φ} {vpn : Vpn} {target : PageId}

/-- A running process was told that a page of its own is nowhere, and all that was done about it
is to take the page out of its cache, should it have been there. -/
structure GaveUp (process : UserProcess) (vpn : Vpn) (pager : Pager φ) (target : PageId)
    (after : Pager φ) : Prop where
  running : process.exited = false
  here : target = process.page vpn
  absent : pager.tables.get target = none
  left : after = pager ∨ after = process.changeCache (fun tlb => (tlb.invalidate vpn).2) pager

variable [FileSystem φ]

/-- A page is only missed for good if it is nowhere, and then nothing was changed. -/
theorem Resolved.of_segfault
    (resolved : Resolved process vpn pager (.error (.segfault target)) after) :
    process.exited = false ∧ target = process.page vpn ∧ pager.tables.get target = none ∧
      after = pager := by
  cases resolved with
  | @failed cause _ running faulted =>
    generalize told : (Except.error (FaultError.segfault target) :
      Except FaultError TranslationEntry) = result at faulted
    cases faulted with
    | found | grown => cases told
    | ungrown => cases Except.error.inj told
    | @missed cause =>
      -- Trouble with swap is never mistaken for a page that is nowhere.
      cases cause <;> cases Except.error.inj told
    | segfault broughtBack =>
      cases Except.error.inj told
      exact ⟨running, rfl, broughtBack.absent, rfl⟩

theorem Resolved.gaveUp
    (resolved : Resolved process vpn pager (.error (.segfault target)) after) :
    process.GaveUp vpn pager target after := by
  obtain ⟨running, here, absent, same⟩ := resolved.of_segfault
  exact ⟨running, here, absent, .inl same⟩

theorem PinnedIn.gaveUp {write : Bool}
    (pinned : PinnedIn process vpn write pager (.error (.segfault target)) after) :
    process.GaveUp vpn pager target after := by
  cases pinned with
  | failed misses resolved =>
    obtain ⟨running, here, absent, same⟩ := resolved.of_segfault
    cases misses with
    | uncached => exact ⟨running, here, absent, .inl same⟩
    | stale => exact ⟨running, here, absent, .inr same⟩

theorem Accessed.gaveUp {page : PageAccess}
    (accessed : Accessed process pager page (.error (.segfault target)) after) :
    process.GaveUp page.vpn pager target after := by
  cases accessed with
  | lost resolved => exact resolved.gaveUp
  | unloaded pinned | unstored pinned => exact pinned.gaveUp
  | loaded _ told | stored _ told =>
    rcases told with told | ⟨_, told⟩ <;> cases told

end UserProcess

/-! ### The frames that come free -/

namespace Pager.Accounts

variable {config : Config} {held : Finset Ppn} {pager : Pager φ}

/-- When the memory of a process is freed, its frames come free and no others. -/
theorem isFree_deallocate (accounts : Accounts config held pager) (pid : Pid) (ppn : Ppn) :
    (pager.deallocate pid).2.frames.isFree ppn = true ↔
      pager.frames.isFree ppn = true ∨
        ∃ entry ∈ pager.tables.getAll pid, entry.ppn = ppn := by
  have after := accounts.deallocate pid
  obtain ⟨pool, tlbs, freed⟩ := exists_deallocate pager pid
  have owner : (pager.deallocate pid).2.tables.owner ppn =
      if ∃ page, pager.tables.owner ppn = some page ∧ page.pid = pid then none
      else pager.tables.owner ppn := by
    rw [freed]
    exact PageTables.owner_removeAll accounts.tables pid ppn
  have owned : (∃ entry ∈ pager.tables.getAll pid, entry.ppn = ppn) ↔
      ∃ page, pager.tables.owner ppn = some page ∧ page.pid = pid := by
    constructor
    · rintro ⟨entry, listed, rfl⟩
      obtain ⟨page, ofProcess, found⟩ := PageTables.mem_getAll.mp listed
      exact ⟨page, accounts.tables.owner_of_get found, ofProcess⟩
    · rintro ⟨page, isOwner, ofProcess⟩
      obtain ⟨entry, found, here⟩ := accounts.tables.get_of_owner isOwner
      exact ⟨entry, PageTables.mem_getAll.mpr ⟨page, ofProcess, found⟩, here⟩
  rw [owned]
  constructor
  · intro free
    obtain ⟨unowned, notHeld⟩ := (after.isFree_iff ppn (after.isFree_lt free)).mp free
    rw [owner] at unowned
    split at unowned
    · next ofProcess => exact Or.inr ofProcess
    · exact Or.inl ((accounts.isFree_iff ppn (after.isFree_lt free)).mpr ⟨unowned, notHeld⟩)
  · rintro (free | ofProcess)
    · refine (after.isFree_iff ppn (accounts.isFree_lt free)).mpr
        ⟨?_, accounts.not_held_of_isFree free⟩
      rw [owner, accounts.owner_of_isFree free, ite_self]
    · have ⟨page, isOwner, _⟩ := ofProcess
      refine (after.isFree_iff ppn (accounts.owner_lt isOwner)).mpr
        ⟨?_, accounts.not_held_of_owner isOwner⟩
      rw [owner, if_pos ofProcess]

/-- As many frames come free as the process had pages. -/
theorem freeFrameCount_deallocate (accounts : Accounts config held pager) (pid : Pid) :
    (pager.deallocate pid).2.freeFrameCount =
      pager.freeFrameCount + (pager.tables.getAll pid).length := by
  have apart : List.Disjoint pager.frames.free
      ((pager.tables.getAll pid).map TranslationEntry.ppn) := by
    intro ppn isFree listed
    obtain ⟨entry, ofProcess, rfl⟩ := List.mem_map.mp listed
    obtain ⟨page, _, found⟩ := PageTables.mem_getAll.mp ofProcess
    have unowned := (accounts.mem_free_iff.mp isFree).2.1
    rw [accounts.tables.owner_of_get found] at unowned
    cases unowned
  have both : (pager.deallocate pid).2.frames.free.Perm
      (pager.frames.free ++ (pager.tables.getAll pid).map TranslationEntry.ppn) := by
    rw [List.perm_ext_iff_of_nodup (accounts.deallocate pid).pool.nodup
      (List.Nodup.append accounts.pool.nodup (accounts.tables.nodup_getAll pid) apart)]
    intro ppn
    rw [(accounts.deallocate pid).pool.mem_free_iff, accounts.isFree_deallocate, List.mem_append,
      accounts.pool.mem_free_iff, List.mem_map]
  calc (pager.deallocate pid).2.freeFrameCount
      = (pager.frames.free ++ (pager.tables.getAll pid).map TranslationEntry.ppn).length :=
        both.length_eq
    _ = pager.freeFrameCount + (pager.tables.getAll pid).length := by
        rw [List.length_append, List.length_map]
        rfl

end Pager.Accounts

/-! ### The process that is ended -/

namespace Kernel

variable {kernel next : Kernel φ} {config : Config} {held : Finset Ppn} {pid other : Pid}
  {id : TlbId}

/-- Whether a cache is that of a process: it is attached to it, or the process is live and uses
it. -/
def HasCache (kernel : Kernel φ) (pid : Pid) (id : TlbId) : Prop :=
  kernel.pager.tlbs.attachedTo pid = some id ∨
    ∃ process, kernel.running pid = some process ∧ process.tlb = id

/-- A process has ended, which gave its memory back, and nothing else is different. -/
structure Ended (pid : Pid) (status : Int32) (begun next : Kernel φ) : Prop where
  /-- Memory, pins, the swap file with its slots and the file system under it, the policy and
  the number of evictions are what they were. -/
  elsewhere : next =
    { begun with
      processes := next.processes
      pager :=
        { begun.pager with
          frames := next.pager.frames
          tables := next.pager.tables
          tlbs := next.pager.tlbs } }
  running : ∀ other, next.running other = if pid = other then none else begun.running other
  exitStatus : ∀ other, next.exitStatus other =
    if pid = other then some status else begun.exitStatus other
  get : ∀ page, next.pager.tables.get page =
    if page.pid = pid then none else begun.pager.tables.get page
  isFree_iff : ∀ ppn, next.pager.frames.isFree ppn = true ↔
    begun.pager.frames.isFree ppn = true ∨
      ∃ entry ∈ begun.pager.tables.getAll pid, entry.ppn = ppn
  freeFrameCount : next.pager.freeFrameCount =
    begun.pager.freeFrameCount + (begun.pager.tables.getAll pid).length
  attachedTo : ∀ other, next.pager.tlbs.attachedTo other =
    if pid = other then none else begun.pager.tlbs.attachedTo other
  unit : ∀ {other id}, pid ≠ other → begun.HasCache other id →
    next.pager.tlbs.unit id = begun.pager.tlbs.unit id

/-- What is in the cache of another process when the memory of a process is freed. -/
theorem CachesApart.unit_deallocate (apart : kernel.CachesApart) (different : pid ≠ other)
    (hasCache : kernel.HasCache other id) :
    (kernel.pager.deallocate pid).2.tlbs.unit id = kernel.pager.tlbs.unit id := by
  rw [tlbs_deallocate]
  cases found : kernel.pager.tlbs.attachedTo pid with
  | none => rfl
  | some freed =>
    have elsewhere : freed ≠ id := by
      rintro rfl
      rcases hasCache with isAttached | ⟨process, live, rfl⟩
      · exact different (apart.attaches.unique found isAttached)
      · exact different (apart.owned live found)
    exact (TlbBank.unit_change _).trans (if_neg elsewhere)

/-- A process that uses its own cache does not use that of another one. -/
theorem CachesApart.unit_change (apart : kernel.CachesApart) {present : UserProcess}
    (live : kernel.running pid = some present) (different : pid ≠ other)
    (hasCache : kernel.HasCache other id) (step : Tlb → Tlb) :
    (present.changeCache step kernel.pager).tlbs.unit id = kernel.pager.tlbs.unit id := by
  have elsewhere : present.tlb ≠ id := by
    rintro rfl
    rcases hasCache with isAttached | ⟨process, otherLive, same⟩
    · exact different (apart.owned live isAttached).symm
    · exact different (apart.unique live otherLive same.symm)
  exact (TlbBank.unit_change _).trans (if_neg elsewhere)

/-- No other memory than its own is concerned when a process ends that runs. -/
theorem CachesApart.exit_ended (apart : kernel.CachesApart)
    (accounts : Accounts config held kernel.pager) {present : UserProcess}
    (live : kernel.running pid = some present) (running : present.exited = false)
    (status : Int32) : Ended pid status kernel (kernel.exit pid status).2 := by
  obtain ⟨pool, tlbs, freed⟩ := exists_deallocate kernel.pager pid
  have free := accounts.isFree_deallocate pid
  have count := accounts.freeFrameCount_deallocate pid
  have attachedTo := attachedTo_deallocate kernel.pager pid
  have unit : ∀ {other id}, pid ≠ other → kernel.HasCache other id →
      (kernel.pager.deallocate pid).2.tlbs.unit id = kernel.pager.tlbs.unit id :=
    apart.unit_deallocate
  rw [Kernel.exit]
  cases removed : kernel.processes.remove pid status with
  | none => cases (ProcessTable.remove_eq_none removed).symm.trans live
  | some pair =>
    obtain ⟨process, processes⟩ := pair
    cases (ProcessTable.get_of_removed removed).symm.trans live
    have after : (present.exit kernel.pager).2.2 = (kernel.pager.deallocate pid).2 := by
      rw [UserProcess.exit, if_neg (running ▸ Bool.false_ne_true),
        apart.housed.named pid present live]
    simp only [after]
    rw [freed] at free count attachedTo unit ⊢
    exact {
      elsewhere := rfl
      running := ProcessTable.get_of_remove removed
      exitStatus := ProcessTable.exitStatus_of_remove removed
      get := PageTables.get_removeAll kernel.pager.tables pid
      isFree_iff := free
      freeFrameCount := count
      attachedTo := attachedTo
      unit := unit }

/-- A process may have taken a page out of its own cache before it ends. -/
theorem CachesApart.ended_of_gaveUp (apart : kernel.CachesApart)
    (accounts : Accounts config held kernel.pager) {present : UserProcess}
    (live : kernel.running pid = some present) {vpn : Vpn} {target : PageId} {after : Pager φ}
    (gaveUp : present.GaveUp vpn kernel.pager target after) (status : Int32) :
    Ended pid status kernel (({ kernel with pager := after } : Kernel φ).exit pid status).2 := by
  rcases gaveUp.left with rfl | rfl
  · exact apart.exit_ended accounts live gaveUp.running status
  · have apartAfter : ({ kernel with
        pager := (present.changeCache (fun tlb => (tlb.invalidate vpn).2) kernel.pager) } :
          Kernel φ).CachesApart :=
      apart.withPager (apart.now.of_fewer (TlbBank.size_change _).ge id)
    have ended := apartAfter.exit_ended (accounts.withTlbs _) live gaveUp.running status
    exact {
      elsewhere := ended.elsewhere
      running := ended.running
      exitStatus := ended.exitStatus
      get := ended.get
      isFree_iff := ended.isFree_iff
      freeFrameCount := ended.freeFrameCount
      attachedTo := ended.attachedTo
      unit := fun different hasCache =>
        (ended.unit different hasCache).trans (apart.unit_change live different hasCache _) }

/-- What ends in a fault at a page that is nowhere ends the process that asked for it. -/
theorem CachesApart.perform_ended {α : Type} (apart : kernel.CachesApart)
    (accounts : Accounts config held kernel.pager) (process : UserProcess)
    (operation : UserProcess → ProcessAction φ α) {vpn : Vpn}
    (segfaults : (operation (kernel.current process)).Ends kernel.pager fun result after =>
      ∀ target, result = .error (.segfault target) →
        (kernel.current process).GaveUp vpn kernel.pager target after) :
    (perform process operation).Ends kernel fun result next =>
      ∀ target, result = .error (.segfault target) →
        target = ⟨process.pid, vpn⟩ ∧ Ended process.pid faultExitStatus kernel next := by
  rw [ends_perform]
  apply Ends.mono segfaults
  intro result after told
  cases result with
  | ok => exact fun _ => no_cause
  | error cause =>
    intro target same
    cases same
    have gaveUp := told target rfl
    have named : (kernel.current process).pid = process.pid := apart.housed.named.current process
    refine ⟨gaveUp.here.trans (by rw [UserProcess.page, named]), ?_⟩
    cases live : kernel.running process.pid with
    | none =>
      have running := gaveUp.running
      rw [current, live] at running
      cases running
    | some present =>
      have same : kernel.current process = present := by simp only [current, live]
      rw [same] at gaveUp
      exact apart.ended_of_gaveUp accounts live gaveUp faultExitStatus

/-- An access that is a segmentation fault ends the process, and that is all it does. -/
theorem CachesApart.access_ended [FileSystem φ] (apart : kernel.CachesApart)
    (accounts : Accounts config held kernel.pager) (process : UserProcess) (page : PageAccess) :
    (perform process (·.access page)).Ends kernel fun result next =>
      ∀ target, result = .error (.segfault target) →
        target = ⟨process.pid, page.vpn⟩ ∧ Ended process.pid faultExitStatus kernel next := by
  apply apart.perform_ended accounts process (·.access page)
  apply Ends.mono (UserProcess.access_accessed accounts (kernel.current process) page)
  rintro _ after accessed target rfl
  exact accessed.gaveUp

/-- Accesses to pages leave the caches apart, and the books balanced. -/
theorem CachesApart.passed [FileSystem φ] (apart : kernel.CachesApart)
    (accounts : ∃ held, Accounts config held kernel.pager) {process : UserProcess}
    {pages : List PageAccess} {begun : Pager φ}
    (passed : process.Passed pages kernel.pager begun) :
    ({ kernel with pager := begun } : Kernel φ).CachesApart ∧
      ∃ held, Accounts config held begun := by
  have standing := passed.kept ((attaches_upheld config kernel.pager.tlbs.attachedTo
    kernel.pager.tlbs.units.size).keeps process) ⟨accounts, apart.now⟩
  exact ⟨apart.withPager standing.holds, standing.accounts⟩

/-- A process whose operation fails is told so before anything is done about it. -/
theorem outcome_perform_of_error {α : Type} (process : UserProcess)
    (operation : UserProcess → ProcessAction φ α) {cause : FaultError} {begun after : Pager φ}
    (failed : (operation (kernel.current process)).outcome begun = (.error cause, after)) :
    (perform process operation).outcome { kernel with pager := begun } =
      (.error cause, exitHook.afterFault process.pid cause { kernel with pager := after }) := by
  have ends := ends_perform.mp
    (ends_self (perform process operation) ({ kernel with pager := begun } : Kernel φ))
  change (operation (kernel.current process)).Ends begun _ at ends
  rw [Ends, failed] at ends
  exact ends

/-- Reading and writing may have brought in the pages before the one that is nowhere. -/
theorem CachesApart.serve_ended [FileSystem φ] (apart : kernel.CachesApart)
    (accounts : ∃ held, Accounts config held kernel.pager) (process : UserProcess)
    (access : MemoryAccess) :
    (perform process (·.serve access.request)).Ends kernel fun result next =>
      ∀ target, result = .error (.segfault target) →
        ∃ earlier failing later begun, access.pages = earlier ++ failing :: later ∧
          (kernel.current process).Passed earlier kernel.pager begun ∧
          (perform process (·.access failing)).outcome { kernel with pager := begun } =
            (.error (.segfault target), next) ∧
          target = ⟨process.pid, failing.vpn⟩ ∧
          Ended process.pid faultExitStatus { kernel with pager := begun } next := by
  rw [ends_perform, Ends]
  cases exited : (kernel.current process).exited with
  | true =>
    rw [UserProcess.serve_exited exited]
    intro target same
    cases same
  | false =>
    have parts := (kernel.current process).accessAll_ends access.pages kernel.pager
    rw [← UserProcess.serve_access exited, Ends, outcome_map] at parts
    generalize ((kernel.current process).serve access.request).outcome kernel.pager = served
      at parts ⊢
    obtain ⟨result, after⟩ := served
    cases result with
    | ok => exact fun _ => no_cause
    | error cause =>
      intro target same
      cases same
      obtain ⟨earlier, failing, later, begun, pages, passed, failed⟩ := parts
      obtain ⟨apartThen, held, accountsThen⟩ := apart.passed accounts passed
      have outcome := outcome_perform_of_error process (·.access failing) failed
      have ended := apartThen.access_ended accountsThen process failing
      exact ⟨earlier, failing, later, begun, pages, passed, outcome,
        ended.outcome outcome target rfl⟩

/-- A fault that is told by number is that of a live process. -/
theorem CachesApart.fault_ended [FileSystem φ] (apart : kernel.CachesApart)
    (accounts : Accounts config held kernel.pager) (pid : Pid) (address : UInt32) :
    (handleTranslationFault pid address).Ends kernel fun result next =>
      ∀ target, result = .error (.segfault target) →
        target = ⟨pid, address >>> 10⟩ ∧ Ended pid faultExitStatus kernel next := by
  simp only [handleTranslationFault, ends_bind, ends_get]
  cases live : kernel.running pid with
  | none =>
    intro target same
    cases same
  | some process =>
    have named : process.pid = pid := apart.housed.named pid process live
    rw [← named]
    apply apart.perform_ended accounts process (·.fault address)
    refine (UserProcess.resolve_resolved accounts (kernel.current process) (address >>> 10)).bind
      (fun _ _ _ _ => no_cause) ?_
    rintro _ after resolved target ⟨⟩
    exact resolved.gaveUp

end Kernel

namespace Machine

open Kernel

variable [FileSystem φ] {machine : Machine φ} {config : Config}

/-- A fault at a page that is nowhere costs nobody anything but the process that it ends, whether
an access to one page ends so, or a request, of which each page before was accessed with success,
or a fault that is told by the number of the process. -/
theorem segfault_cost (reachable : machine.Reachable config) :
    (∀ (process : UserProcess) (page : PageAccess),
      (perform process (·.access page)).Ends machine.kernel fun result next =>
        ∀ target, result = .error (.segfault target) →
          target = ⟨process.pid, page.vpn⟩ ∧
            Ended process.pid faultExitStatus machine.kernel next) ∧
    (∀ (process : UserProcess) (access : MemoryAccess),
      (perform process (·.serve access.request)).Ends machine.kernel fun result next =>
        ∀ target, result = .error (.segfault target) →
          ∃ earlier failing later begun, access.pages = earlier ++ failing :: later ∧
            (machine.kernel.current process).Passed earlier machine.kernel.pager begun ∧
            (perform process (·.access failing)).outcome
              { machine.kernel with pager := begun } = (.error (.segfault target), next) ∧
            target = ⟨process.pid, failing.vpn⟩ ∧
            Ended process.pid faultExitStatus { machine.kernel with pager := begun } next) ∧
    ∀ (pid : Pid) (address : UInt32),
      (handleTranslationFault pid address).Ends machine.kernel fun result next =>
        ∀ target, result = .error (.segfault target) →
          target = ⟨pid, address >>> 10⟩ ∧ Ended pid faultExitStatus machine.kernel next := by
  have apart := reachable.cachesApart
  obtain ⟨held, balanced⟩ := reachable.fitted.accounts
  exact ⟨apart.access_ended balanced, apart.serve_ended ⟨held, balanced⟩,
    apart.fault_ended balanced⟩

/-- Two processes, of which the second has stored to its stack. -/
def neighbours : List (MachineCall EphemeralFiles) :=
  [.kernel (.spawn 4), .kernel (.spawn 4),
    .kernel (.serve ⟨2, 4, 8, 1, false⟩ (.write 4096 [7]))]

/-- A process reads from the last bytes of its stack on. The first of the two pages is made, and
the second is nowhere: the frame that the first one took is free again. -/
theorem segfault_cost_two_frames :
    ∃ kernel : Kernel EphemeralFiles,
      Kernel.boot { Config.oneFrame with frames := 2 } .empty (.scripted []) (.seeded 0) =
          .ok kernel ∧
        let before := (run { kernel := kernel } neighbours).kernel
        let process : UserProcess := ⟨1, 4, 8, 0, false⟩
        let read := (perform process (·.serve (MemoryAccess.read 5116 8).request)).outcome before
        let fault := (handleTranslationFault 1 5120).outcome before
        read.1 = .error (.segfault ⟨1, 5⟩) ∧ fault.1 = .error (.segfault ⟨1, 5⟩) ∧
        (∃ earlier failing later begun,
          (MemoryAccess.read 5116 8).pages = earlier ++ failing :: later ∧
            (before.current process).Passed earlier before.pager begun ∧
            (perform process (·.access failing)).outcome { before with pager := begun } =
              (.error (.segfault ⟨1, 5⟩), read.2) ∧
            (⟨1, 5⟩ : PageId) = ⟨1, failing.vpn⟩ ∧
            Ended 1 faultExitStatus { before with pager := begun } read.2) ∧
        Ended 1 faultExitStatus before fault.2 := by
  have cost := segfault_cost (.run (.boot
    (rfl : Kernel.boot { Config.oneFrame with frames := 2 } (.empty : EphemeralFiles)
      (.scripted []) (.seeded 0) = .ok _)) neighbours)
  refine ⟨_, rfl, ?read, ?fault, cost.2.1 ⟨1, 4, 8, 0, false⟩ (.read 5116 8) ⟨1, 5⟩ ?read,
    (cost.2.2 1 5120 ⟨1, 5⟩ ?fault).2⟩
  case read => decide +kernel
  case fault => decide +kernel

end Machine

end VirtualMemory
