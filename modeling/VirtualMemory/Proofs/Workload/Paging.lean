/-
Module: VirtualMemory.Proofs.Workload.Paging
Purpose: Whatever load is put on a kernel, its books balance in the end, and no page is lost.
Main exports:
  Workload.Books.Balanced; Leads, Leads.orderly; faultTogether_shares_page,
  fillWithReclaim_loses_nothing, WriteReport.Clean, writeAndReadBack_clean

A load is a run of calls that processes and background reclamation make, so what these calls
keep, the load keeps.
-/
import VirtualMemory.Proofs.Kernel.PinBalance
import VirtualMemory.Proofs.Kernel.Shutdown
import VirtualMemory.Proofs.Pager.View
import VirtualMemory.Proofs.Process.Usage
import VirtualMemory.Workload.Paging

namespace VirtualMemory.Workload

open VirtualMemory.Action Pager

variable {φ : Type} {config : Config} {kernel next : Kernel φ} {process : UserProcess}

/-! ### Balanced books -/

/-- The page tables and the pool agree, and share out the frames between them. -/
structure Books.Balanced (frames : Nat) (books : Books) : Prop where
  consistent : books.consistency = .ok ()
  shared : books.resident + books.free = frames

/-- Nobody else holds a frame, so the books balance. -/
theorem balanced (accounts : Accounts config ∅ kernel.pager) :
    (booksOf kernel).Balanced config.frames where
  consistent := accounts.checkConsistency
  shared := by
    have all := accounts.card_eq
    rw [Finset.card_empty, Nat.add_zero, Nat.add_comm] at all
    exact all

variable [FileSystem φ]

/-! ### The calls of a load -/

/-- Whether a call is one that loads are made of. -/
def IsLoad : LifecycleCall φ → Prop
  | .spawn _ | .serve _ _ | .idle => True
  | _ => False

/-- A kernel comes about from another by calls that loads are made of. -/
def Leads (kernel next : Kernel φ) : Prop :=
  ∃ calls : List (LifecycleCall φ), (∀ call ∈ calls, IsLoad call) ∧ kernel.afterAll calls = next

namespace Leads

/-- Nothing is called for. -/
theorem refl (kernel : Kernel φ) : Leads kernel kernel :=
  ⟨[], fun _ listed => absurd listed List.not_mem_nil, rfl⟩

/-- One load follows another. -/
theorem trans {middle : Kernel φ} (first : Leads kernel middle) (second : Leads middle next) :
    Leads kernel next := by
  obtain ⟨calls, loads, rfl⟩ := first
  obtain ⟨others, otherLoads, rfl⟩ := second
  refine ⟨calls ++ others, fun call listed => ?_, List.foldl_append⟩
  exact (List.mem_append.mp listed).elim (loads call) (otherLoads call)

theorem call (call : LifecycleCall φ) (load : IsLoad call) : Leads kernel (kernel.after call) :=
  ⟨[call], fun _ listed => List.mem_singleton.mp listed ▸ load, rfl⟩

theorem spawn (stackTop : Vpn) : Leads kernel ((Kernel.spawn stackTop).outcome kernel).2 :=
  call (.spawn stackTop) trivial

theorem idle : Leads kernel kernel.reclaimInBackground :=
  call .idle trivial

/-- An operation that a request asks for is that request, whatever is made of its answer. -/
theorem perform {α : Type} (request : ProcessRequest) (word : α → ProcessAnswer)
    {operation : UserProcess → ProcessAction φ α}
    (same : ∀ present, present.serve request = word <$> operation present) :
    Leads kernel ((Kernel.perform process operation).outcome kernel).2 := by
  have served : kernel.after (.serve process request) =
      ((Kernel.perform process operation).outcome kernel).2 := by
    rw [Kernel.after, Kernel.snd_outcome_perform, Kernel.snd_outcome_perform, same, outcome_map]
    rcases (operation (kernel.current process)).outcome kernel.pager with ⟨_ | _, _⟩ <;> rfl
  exact served ▸ call (.serve process request) trivial

theorem fault (address : UInt32) :
    Leads kernel ((Kernel.perform process (·.fault address)).outcome kernel).2 :=
  perform (.fault address) (fun _ => .done) fun _ => rfl

theorem read (address : UInt32) (length : Nat) :
    Leads kernel ((Kernel.perform process (·.read address length)).outcome kernel).2 :=
  perform (.read address length) .bytes fun _ => rfl

theorem write (address : UInt32) (data : Bytes) :
    Leads kernel ((Kernel.perform process (·.write address data)).outcome kernel).2 :=
  perform (.write address data) .written fun _ => rfl

end Leads

/-! ### What such calls keep -/

section Kept

variable {holds : SwapDevice φ → Prop} {count : Nat}

/-- A call of a load leaves a kernel orderly and pins nothing for longer than it takes. -/
theorem orderly_after {call : LifecycleCall φ} (orderly : kernel.Orderly config holds)
    (lasting : SwapDevice.Lasting config.swapFile holds) (load : IsLoad call) :
    (kernel.after call).Orderly config holds ∧
      (kernel.after call).pager.pins = kernel.pager.pins := by
  refine ⟨?_, Kernel.pins_after orderly.settled.accounts call⟩
  cases call with
  | spawn stackTop => exact orderly.spawn lasting stackTop
  | serve process request => exact orderly.serve lasting process request
  | idle => exact orderly.reclaimInBackground lasting
  | _ => exact load.elim

/-- A load leaves a kernel orderly and pins nothing for longer than it takes. -/
theorem Leads.orderly (leads : Leads kernel next) (orderly : kernel.Orderly config holds)
    (lasting : SwapDevice.Lasting config.swapFile holds) :
    next.Orderly config holds ∧ next.pager.pins = kernel.pager.pins := by
  obtain ⟨calls, loads, rfl⟩ := leads
  induction calls generalizing kernel with
  | nil => exact ⟨orderly, rfl⟩
  | cons call calls hypothesis =>
    obtain ⟨load, others⟩ := List.forall_mem_cons.mp loads
    obtain ⟨after, same⟩ := orderly_after orderly lasting load
    obtain ⟨later, sameLater⟩ := hypothesis after others
    exact ⟨later, sameLater.trans same⟩

/-- A load numbers processes as they are made. -/
theorem Leads.numbered (leads : Leads kernel next) (numbered : Kernel.Numbered config count kernel) :
    ∃ more, Kernel.Numbered config (count + more) next := by
  obtain ⟨calls, _, rfl⟩ := leads
  exact ⟨_, (numbered.afterAll calls).1⟩

end Kept

/-! ### Loads as runs of calls -/

/-- Faults, one after another. -/
theorem faultAll_leads (process : UserProcess) (address : UInt32) (threads : Nat)
    (kernel : Kernel φ) : Leads kernel (faultAll process address threads kernel).2 := by
  induction threads generalizing kernel with
  | zero => exact .refl kernel
  | succ threads hypothesis => exact (Leads.fault address).trans (hypothesis _)

/-- Starts, whether they succeed or not. -/
theorem startProcesses_leads (stackTop : Vpn) (count : Nat) (kernel : Kernel φ) :
    Leads kernel (startProcesses stackTop count kernel).2 := by
  induction count generalizing kernel with
  | zero => exact .refl kernel
  | succ count hypothesis =>
    have first : Leads kernel ((Kernel.spawn stackTop).outcome kernel).2 := .spawn stackTop
    rw [startProcesses]
    split <;> rename_i spawned <;> rw [spawned] at first <;> exact first.trans (hypothesis _)

/-- A process writes, and reads back what it wrote, with reclamation after each. -/
theorem writeOnce_leads (process : UserProcess) (address : UInt32) (data : Bytes)
    (kernel : Kernel φ) : Leads kernel (writeOnce process address data kernel).2 :=
  (Leads.write address data).trans (Leads.idle.trans ((Leads.read address data.length).trans .idle))

/-- Every process writes once. -/
theorem writeRound_leads (round : Nat) (address : UInt32) (length : Nat)
    (writers : List (UserProcess × Bool)) (kernel : Kernel φ) :
    Leads kernel (writeRound round address length writers kernel).2 := by
  induction writers generalizing kernel with
  | nil => exact .refl kernel
  | cons writer writers hypothesis =>
    exact (writeOnce_leads writer.1 address _ kernel).trans (hypothesis _)

/-- Every process writes as often as there are rounds. -/
theorem writeRounds_leads (address : UInt32) (length rounds : Nat)
    (writers : List (UserProcess × Bool)) (kernel : Kernel φ) :
    Leads kernel (writeRounds address length rounds writers kernel).2 := by
  induction rounds generalizing writers kernel with
  | zero => exact .refl kernel
  | succ rounds hypothesis =>
    exact (writeRound_leads rounds address length writers kernel).trans (hypothesis _ _)

/-! ### Threads that need the same page -/

section Faults

variable {held : Finset Ppn} {pager after : Pager φ} {address : UInt32} {vpn : Vpn}
  {entry : TranslationEntry}

omit [FileSystem φ] in
/-- If only one page is mapped, one page is resident. -/
theorem residentPageCount_eq_one {page : PageId} (accounts : Accounts config held pager)
    (found : pager.tables.get page = some entry)
    (alone : ∀ other, page ≠ other → pager.tables.get other = none) :
    pager.residentPageCount = 1 := by
  have only : pager.tables.mappedFrames.toFinset = {entry.ppn} := by
    ext ppn
    rw [List.mem_toFinset, PageTables.mem_mappedFrames, Finset.mem_singleton]
    constructor
    · rintro ⟨other, owned⟩
      obtain ⟨there, mapped, same⟩ := accounts.tables.get_of_owner owned
      by_cases own : page = other
      · cases own
        cases found.symm.trans mapped
        exact same.symm
      · cases (alone other own).symm.trans mapped
    · rintro rfl
      exact ⟨page, accounts.tables.owner_of_get found⟩
  have one := congrArg Finset.card only
  rw [List.toFinset_card_of_nodup PageTables.nodup_mappedFrames, Finset.card_singleton] at one
  exact PageTables.length_mappedFrames.symm.trans one

/-- Whatever becomes of a fault, no other page becomes resident. -/
theorem faultedIn_absent {result : Except FaultError TranslationEntry}
    (faulted : UserProcess.FaultedIn process vpn pager result after) {other : PageId}
    (different : process.page vpn ≠ other) (absent : pager.tables.get other = none) :
    after.tables.get other = none := by
  cases faulted with
  | found broughtBack | missed broughtBack => exact broughtBack.absent_other different absent
  | grown _ _ backed | ungrown _ _ backed => exact backed.absent different absent
  | segfault => exact absent

/-- A fault of a live process, once it is answered, leaves its page resident and makes no other
page so. -/
theorem fault_ends (accounts : Accounts config held kernel.pager)
    (live : kernel.running process.pid = some process) (address : UInt32) :
    (Kernel.perform process (·.fault address)).Ends kernel fun result next =>
      result = .ok () → next.running = kernel.running ∧
        (∃ entry, next.pager.tables.get (process.page (address >>> 10)) = some entry) ∧
        ∀ other, process.page (address >>> 10) ≠ other →
          kernel.pager.tables.get other = none → next.pager.tables.get other = none := by
  have present : kernel.current process = process := by rw [Kernel.current, live]
  rw [Kernel.ends_perform, present, UserProcess.fault, ends_bind]
  apply Ends.mono (UserProcess.resolve_resolved accounts process (address >>> 10))
  intro result after resolved
  cases resolved with
  | exited | failed => exact no_answer
  | cached _ faulted =>
    exact fun _ => ⟨rfl, ⟨_, faulted.get_eq⟩, fun _ => faultedIn_absent faulted⟩

/-- The kernel once a process has cached an entry. -/
def withCached (process : UserProcess) (entry : TranslationEntry) (kernel : Kernel φ) : Kernel φ :=
  { kernel with pager :=
    { kernel.pager with tlbs := (kernel.pager.tlbs.install process.tlb entry).2 } }

/-- A fault of a page that is resident is answered, and moves no page. -/
theorem fault_of_resident (accounts : Accounts config held kernel.pager)
    (live : kernel.running process.pid = some process) (running : process.exited = false)
    (found : kernel.pager.tables.get (process.page (address >>> 10)) = some entry) :
    (Kernel.perform process (·.fault address)).outcome kernel =
      (.ok (), withCached process entry kernel) := by
  have present : kernel.current process = process := by rw [Kernel.current, live]
  suffices ends : (Kernel.perform process (·.fault address)).Ends kernel fun result next =>
      result = .ok () ∧ next = withCached process entry kernel from Prod.ext_iff.mpr ends
  rw [Kernel.ends_perform, present, UserProcess.fault, ends_bind]
  apply Ends.mono (UserProcess.resolve_resolved accounts process (address >>> 10))
  intro result after resolved
  obtain ⟨rfl, rfl⟩ := resolved.of_mapped running found
  exact ⟨rfl, rfl⟩

/-- Once the page is resident, every thread that needs it is answered, and no page moves. -/
theorem faultAll_of_resident (accounts : Accounts config held kernel.pager)
    (live : kernel.running process.pid = some process) (running : process.exited = false)
    (found : kernel.pager.tables.get (process.page (address >>> 10)) = some entry)
    (threads : Nat) :
    (faultAll process address threads kernel).1 = List.replicate threads (.ok ()) ∧
      (faultAll process address threads kernel).2.pager.tables = kernel.pager.tables := by
  induction threads generalizing kernel with
  | zero => exact ⟨rfl, rfl⟩
  | succ threads hypothesis =>
    have later : Accounts config held (withCached process entry kernel).pager :=
      accounts.withTlbs _
    obtain ⟨answered, same⟩ := hypothesis later live found
    simp only [faultAll, fault_of_resident accounts live running found, List.replicate_succ]
    exact ⟨congrArg _ answered, same⟩

end Faults

/-! ### What loads leave behind -/

section Spawning

variable {stackTop : Vpn}

/-- To start a process moves no page. -/
theorem spawn_tables (kernel : Kernel φ) (stackTop : Vpn) :
    (Kernel.spawn stackTop).Ends kernel fun result next =>
      next.pager.tables = kernel.pager.tables ∧ ∀ process, result = .ok process →
        process.exited = false ∧
          (kernel.running process.pid = none → next.running process.pid = some process) := by
  have numbered : ∀ pager : Pager φ, pager.tables = kernel.pager.tables →
      (Kernel.takePid >>= fun pid => Kernel.startProcess pid stackTop).Ends
        { kernel with pager := pager } fun result next =>
          next.pager.tables = kernel.pager.tables ∧ ∀ process, result = .ok process →
            process.exited = false ∧
              (kernel.running process.pid = none → next.running process.pid = some process) := by
    intro pager same
    rw [ends_bind, Kernel.ends_takePid]
    split
    · refine ⟨same, ?_⟩
      rintro process ⟨⟩
      refine ⟨rfl, fun fresh => (Kernel.running_startProcess _ _ _ _).trans ?_⟩
      exact (if_pos rfl).trans (congrArg (fun found => some (Option.getD found _)) fresh)
    · exact ⟨same, fun _ => no_answer⟩
  rw [Kernel.spawn, ends_bind, ends_get]
  simp only
  split
  · rw [ends_bind, Kernel.ends_onPager, ends_initializeSwap]
    split
    next result device opened =>
    cases result with
    | ok => exact numbered _ rfl
    | error cause => exact ⟨rfl, fun _ => no_answer⟩
  · exact numbered kernel.pager rfl

end Spawning

section Spec

variable {files : φ} {policy : Policy} {chance : Chance} {stackTop : Vpn} {address : UInt32}
  {threads : Nat} {outcomes : List (Except FaultError Unit)} {books : Books}

/-- What holds of any swap device lasts. -/
theorem lasting_trivial (name : String) : SwapDevice.Lasting (φ := φ) name fun _ => True where
  opened _ _ := trivial
  wrote _ _ _ := trivial
  loaded _ _ := trivial

/-- Every thread is answered. -/
theorem length_faultAll (process : UserProcess) (address : UInt32) (threads : Nat)
    (kernel : Kernel φ) : (faultAll process address threads kernel).1.length = threads := by
  induction threads generalizing kernel with
  | zero => rfl
  | succ threads hypothesis => exact congrArg (· + 1) (hypothesis _)

/-- If nothing is resident and the first thread is answered, the others are, and one page is
resident then. -/
theorem faultAll_shares_page (orderly : kernel.Orderly config fun _ => True)
    (live : kernel.running process.pid = some process) (running : process.exited = false)
    (blank : ∀ page, kernel.pager.tables.get page = none)
    (first : (faultAll process address threads kernel).1.head? = some (.ok ())) :
    (faultAll process address threads kernel).1 = List.replicate threads (.ok ()) ∧
      (booksOf (faultAll process address threads kernel).2).resident = 1 := by
  cases threads with
  | zero => cases first
  | succ threads =>
    have leads : Leads kernel ((Kernel.perform process (·.fault address)).outcome kernel).2 :=
      .fault address
    have accounts := (leads.orderly orderly (lasting_trivial _)).1.settled.accounts
    have ends := fault_ends orderly.settled.accounts live address
    simp only [Ends, faultAll] at ends first ⊢
    generalize (Kernel.perform process (·.fault address)).outcome kernel = asked at *
    obtain ⟨result, next⟩ := asked
    obtain rfl : result = .ok () := Option.some.inj first
    obtain ⟨same, ⟨entry, found⟩, others⟩ := ends rfl
    obtain ⟨answered, tables⟩ := faultAll_of_resident accounts (same ▸ live) running found threads
    refine ⟨congrArg _ answered, ?_⟩
    have one := residentPageCount_eq_one accounts found fun other different =>
      others other different (blank other)
    exact (congrArg PageTables.residentCount tables).trans one

/-- Threads of one process that fault at the same address are all answered, and the books balance
afterwards. If the first one succeeds, all do, and one page is resident. -/
theorem faultTogether_shares_page (booted : Kernel.boot config files policy chance = .ok kernel)
    (answered : faultTogether kernel stackTop address threads = .ok (outcomes, books)) :
    books.Balanced config.frames ∧ outcomes.length = threads ∧
      (outcomes.head? = some (.ok ()) →
        outcomes = List.replicate threads (.ok ()) ∧ books.resident = 1) := by
  have orderly : kernel.Orderly config fun _ => True := .boot booted trivial
  have nobody : ∀ pid, kernel.running pid = none := fun pid =>
    ((Kernel.Numbered.boot booted).unknown pid fun counted =>
      Nat.not_le_of_gt counted.1 counted.2).1
  have leads : Leads kernel ((Kernel.spawn stackTop).outcome kernel).2 := .spawn stackTop
  have ends := spawn_tables kernel stackTop
  rw [Ends] at ends
  rw [faultTogether] at answered
  generalize (Kernel.spawn stackTop).outcome kernel = asked at *
  obtain ⟨_ | process, started⟩ := asked
  · cases answered
  · cases answered
    obtain ⟨same, told⟩ := ends
    obtain ⟨running, live⟩ := told process rfl
    have orderlyStarted := (leads.orderly orderly (lasting_trivial _)).1
    have final := faultAll_leads process address threads started
    have orderlyFinal := (final.orderly orderlyStarted (lasting_trivial _)).1
    refine ⟨balanced orderlyFinal.settled.accounts, length_faultAll _ _ _ _, ?_⟩
    refine faultAll_shares_page orderlyStarted (live (nobody _)) running fun page => ?_
    rw [same]
    refine orderly.settled.absent page ?_
    rintro ⟨_, live, _⟩
    cases (nobody page.pid).symm.trans live

end Spec

/-! ### Pages that are made while frames are reclaimed -/

section Filling

variable [ByteFiles φ] {pages : Nat}

/-- The page of process 1 with a number. -/
def numberedPage (index : Nat) : PageId := { pid := 1, vpn := index.toUInt32 }

/-- So many pages were made, and each holds something still. -/
structure Filled (config : Config) (pages : Nat) (kernel : Kernel φ) : Prop where
  intact : Intact config ∅ kernel.pager
  reclaiming : kernel.reclaiming = true
  kept : ∀ index < pages, (kernel.pager.viewOf (numberedPage index)).isSome = true

/-- There are pages of so many numbers. -/
theorem vpn_numberedPage_le {index : Nat} (small : index < 4194304) :
    (numberedPage index).vpn ≤ lastPage := by
  have number : (numberedPage index).vpn.toNat = index :=
    Nat.mod_eq_of_lt (Nat.lt_of_lt_of_le small (by decide))
  rw [UInt32.le_iff_toNat_le, number]
  exact Nat.le_of_lt_succ small

/-- One more page is made, since a frame can be had for it. -/
theorem Filled.newPage (filled : Filled config pages kernel) (small : pages < 4194304)
    (faultless : ByteFiles.Faultless φ) :
    (Kernel.onPager (Pager.newPage (numberedPage pages) false)).Ends kernel fun _ next =>
      Filled config (pages + 1) next := by
  rw [Kernel.ends_onPager]
  apply Ends.mono (newPage_ends filled.intact.accounts (numberedPage pages) false)
  intro result pager backed
  obtain ⟨intact, views⟩ := backed.viewOf filled.intact
  cases result with
  | error cause =>
    rcases views.2 with ⟨beyond, _⟩ | ⟨_, _, faulty⟩
    · exact absurd (vpn_numberedPage_le small) (UInt32.not_le.mpr beyond)
    · exact absurd faultless faulty
  | ok entry =>
    refine ⟨intact, filled.reclaiming, fun index among => ?_⟩
    rw [views.2.2]
    split
    · rfl
    · next different =>
      have before : index ≠ pages := fun same => different (same ▸ rfl)
      exact filled.kept index (by omega)

/-- What is reclaimed in the background loses nothing. -/
theorem Filled.idle (filled : Filled config pages kernel) :
    Filled config pages kernel.reclaimInBackground := by
  have asked : Intact config ∅ { kernel.pager with reclaimRequested := false } :=
    filled.intact.of_same
      (filled.intact.accounts.of_same rfl rfl rfl filled.intact.accounts.pins rfl) rfl rfl
  refine Kernel.reclaimInBackground_ends filled (asked.reclaimOnce.mono fun _ pager unseen => ?_)
  refine ⟨unseen.intact, filled.reclaiming, fun index among => ?_⟩
  rw [unseen.same]
  exact filled.kept index among

/-- Page after page is made. -/
theorem Filled.fillPages (filled : Filled config pages kernel) (more : Nat)
    (small : pages + more ≤ 4194304) (faultless : ByteFiles.Faultless φ) :
    Filled config (pages + more) (Workload.fillPages pages more kernel) := by
  induction more generalizing pages kernel with
  | zero => exact filled
  | succ more hypothesis =>
    have made := filled.newPage (by omega) faultless
    have rest := hypothesis (Filled.idle made) (by omega)
    rw [Nat.add_right_comm] at rest
    exact rest

/-- What holds something is in memory or in swap. -/
theorem isSome_or_swapContains {pager : Pager φ} {page : PageId}
    (seen : (pager.viewOf page).isSome = true) :
    ((pager.translation page).isSome || pager.swapContains page) = true := by
  cases absent : pager.tables.get page with
  | some entry => rw [translation, absent, Option.isSome_some, Bool.true_or]
  | none =>
    cases known : pager.swapContains page with
    | true => exact Bool.or_true _
    | false =>
      rw [viewOf_of_unknown absent known] at seen
      cases seen

/-- However many pages are made while frames are reclaimed in the background, every page is in
memory or in swap, and the books balance. -/
theorem fillWithReclaim_loses_nothing {files : φ} {policy : Policy} {chance : Chance} {pager : Pager φ}
    (booted : Pager.boot config files policy chance = .ok pager)
    (demand : config.paging = .demand) (faultless : ByteFiles.Faultless φ)
    (small : pages ≤ 4194304) :
    (fillWithReclaim pager pages).nothingLost = true ∧
      (fillWithReclaim pager pages).books.Balanced config.frames ∧
      (fillWithReclaim pager pages).runningBefore = true := by
  obtain ⟨intact, _⟩ := Intact.boot booted demand
  have start : Filled config 0 { pager := pager, reclaiming := true } :=
    ⟨intact, rfl, fun _ impossible => absurd impossible (Nat.not_lt_zero _)⟩
  have filled := start.fillPages pages (by omega) faultless
  rw [Nat.zero_add] at filled
  refine ⟨List.all_eq_true.mpr fun index among => ?_, ?_, filled.reclaiming⟩
  · exact isSome_or_swapContains (filled.kept index (List.mem_range.mp among))
  · exact balanced filled.intact.accounts

end Filling

/-! ### Processes that write and read back -/

section Writing

variable {count : Nat} {stackTop : Vpn}

/-- Processes that are started have numbers that are given out. -/
theorem startProcesses_counted (numbered : Kernel.Numbered config count kernel) (wanted : Nat) :
    ∃ more, Kernel.Numbered config (count + more) (startProcesses stackTop wanted kernel).2 ∧
      ∀ process ∈ (startProcesses stackTop wanted kernel).1,
        Kernel.Counted (count + more) process.pid := by
  induction wanted generalizing kernel count with
  | zero => exact ⟨0, numbered, fun _ listed => absurd listed List.not_mem_nil⟩
  | succ wanted hypothesis =>
    have spawned := numbered.spawn stackTop
    rw [Ends] at spawned
    rw [startProcesses]
    generalize (Kernel.spawn stackTop).outcome kernel = asked at *
    obtain ⟨_ | process, next⟩ := asked
    · exact hypothesis (numbered.refused spawned).1
    · obtain ⟨later, number, _⟩ := numbered.spawned spawned
      obtain ⟨more, final, counted⟩ := hypothesis later
      rw [Nat.add_assoc] at final counted
      refine ⟨1 + more, final, List.forall_mem_cons.mpr ⟨?_, counted⟩⟩
      have own : process.pid.toNat = count + 1 := number ▸ numbered.nextPid
      exact ⟨by omega, by omega⟩

/-- A report of processes that left nothing behind. -/
structure WriteReport.Clean (frames : Nat) (report : WriteReport) : Prop where
  pinned : report.pinned = 0
  consistent : report.consistency = .ok ()
  shutdown : report.shutdown = .ok ()
  /-- Every process has ended. -/
  ended : ∀ status ∈ report.statuses, status.isSome = true
  free : report.free = frames
  swapExists : report.swapExists = false

/-- A process that was numbered has a status once the kernel is shut down. -/
theorem exitStatus_of_shutDown {kernel after : Kernel EphemeralFiles} {pid : Pid}
    (numbered : Kernel.Numbered config count kernel) (counted : Kernel.Counted count pid)
    (shutDown : kernel.ShutDown config after) : (after.exitStatus pid).isSome = true := by
  have known := numbered.known pid counted
  cases live : kernel.running pid with
  | some process => rw [shutDown.ended pid (congrArg Option.isSome live), Option.isSome_some]
  | none =>
    rw [live, Option.isSome_none] at known
    rw [shutDown.kept pid live, ← Option.not_isNone, ← known, Bool.not_false]

/-- However many processes write and read back, and however often, they leave nothing behind. -/
theorem writeAndReadBack_clean {files : EphemeralFiles} {policy : Policy} {chance : Chance}
    {kernel : Kernel EphemeralFiles}
    (booted : Kernel.boot config files policy chance = .ok kernel) (stackTop : Vpn)
    (threads rounds pages : Nat) :
    (writeAndReadBack kernel stackTop threads rounds pages).Clean config.frames := by
  have orderly : kernel.Orderly config (SwapDevice.Removable config.swapFile) :=
    .boot booted trivial
  have lasting := SwapDevice.removable_lasting config.swapFile
  obtain ⟨given, numbered, counted⟩ := startProcesses_counted (.boot booted) threads
  have unpinned : kernel.pager.pins = .empty := by
    obtain ⟨pager, set, rfl⟩ := Kernel.exists_boot booted
    obtain ⟨_, rfl⟩ := eq_of_boot set
    rfl
  have started := startProcesses_leads stackTop threads kernel
  rw [writeAndReadBack]
  generalize startProcesses stackTop threads kernel = start at *
  obtain ⟨processes, running⟩ := start
  have works := writeRounds_leads (VirtualAddress.ofParts (stackTop + 1 - pages.toUInt32) 0).raw
    (pages * pageBytes) rounds (processes.map fun process => (process, true)) running
  dsimp only
  generalize writeRounds (VirtualAddress.ofParts (stackTop + 1 - pages.toUInt32) 0).raw
    (pages * pageBytes) rounds (processes.map fun process => (process, true)) running = work at *
  obtain ⟨writers, worked⟩ := work
  obtain ⟨more, numberedLater⟩ := works.numbered numbered
  obtain ⟨settled, pins⟩ := (started.trans works).orderly orderly lasting
  obtain ⟨after, shut, shutDown, _⟩ := Kernel.Tended.shutDown ⟨⟨_, numberedLater⟩, settled⟩
  dsimp only
  rw [shut]
  exact {
    pinned := by
      rw [Pager.pinnedFrameCount, pins, unpinned]
      rfl
    consistent := settled.settled.accounts.checkConsistency
    shutdown := rfl
    ended := by
      intro status listed
      obtain ⟨process, among, rfl⟩ := List.mem_map.mp listed
      obtain ⟨positive, atMost⟩ := counted process among
      exact exitStatus_of_shutDown numberedLater ⟨positive, by omega⟩ shutDown
    free := shutDown.freeFrameCount_eq
    swapExists := shutDown.swapExists_eq }

end Writing

end VirtualMemory.Workload
