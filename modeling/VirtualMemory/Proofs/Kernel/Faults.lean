/-
Module: VirtualMemory.Proofs.Kernel.Faults
Purpose: How a translation fault is answered, told from what there was before it.
Main exports:
  SwapFile.readFailure, Pager.slotFailure; UserProcess.faultAnswer, FaultedIn.answer,
  UserProcess.FaultOutcome; TerminationHook.ran, UserProcess.ends_hooked;
  Machine.fault_outcome

A page that is not in memory is in swap, or on the stack, or nowhere. Two kinds of failures of
swap are told apart on the way: the frame for the page may cost another page a write that fails,
which is the kernel's trouble, and the page's own slot may not be readable, which its process does
not survive.
-/
import VirtualMemory.Proofs.Kernel.Reachable

namespace VirtualMemory

open VirtualMemory.Action FileSystem Pager

variable {φ : Type} [FileSystem φ] {config : Config} {held : Finset Ppn}

/-! ### Slots that cannot be read -/

/-- Why a slot cannot be read in full, if so. -/
def SwapFile.readFailure (swap : SwapFile φ) (slot : SwapSlot) : Option SwapError :=
  match swap.handle with
  | none => some .closed
  | some handle =>
      match ((readFile handle slot.offset pageBytes).outcome swap.files).1 with
      | .error cause => some (.files cause)
      | .ok bytes =>
          if bytes.length = pageBytes then none
          else some (.shortRead slot.offset bytes.length)

/-- Why the slot of a page cannot be read in full, if there is a slot and it cannot. -/
def Pager.slotFailure (pager : Pager φ) (page : PageId) : Option SwapError := do
  let swap ← pager.device.swap?
  let slot ← swap.slot page
  swap.readFailure slot

/-- A page is read back if its slot can be read, and else it is told why not. -/
theorem SwapFile.Loaded.readFailure_eq {swap after : SwapFile φ} {page : PageId}
    {slot : SwapSlot} {result : Except SwapError (Option (Page × Bool))}
    (loaded : swap.Loaded page result after) (known : swap.slot page = some slot) :
    swap.readFailure slot =
      match result with
      | .ok _ => none
      | .error cause => some cause := by
  cases loaded with
  | absent unknown =>
    rw [unknown] at known
    cases known
  | closed _ gone => simp only [readFailure, gone]
  | failed found isOpen read =>
    rw [found] at known
    cases known
    simp only [readFailure, isOpen, read]
  | short found isOpen read part =>
    rw [found] at known
    cases known
    simp only [readFailure, isOpen, read, if_neg part]
  | @whole _ _ contents _ found isOpen read =>
    rw [found] at known
    cases known
    simp only [readFailure, isOpen, read, if_pos contents.length_bytes]

theorem SwapFile.Loaded.slotFailure_eq {pager : Pager φ} {swap after : SwapFile φ}
    {page : PageId} {result : Except SwapError (Option (Page × Bool))}
    (loaded : swap.Loaded page result after) (used : pager.device = .inUse swap)
    (known : (swap.slot page).isSome = true) :
    pager.slotFailure page =
      match result with
      | .ok _ => none
      | .error cause => some cause := by
  obtain ⟨slot, found⟩ := Option.isSome_iff_exists.mp known
  simp only [slotFailure, used, SwapDevice.swap?, found, Option.bind_eq_bind, Option.bind_some]
  exact loaded.readFailure_eq found

namespace UserProcess

variable {process : UserProcess} {pager after : Pager φ} {vpn : Vpn}

/-! ### What a fault answers -/

/-- The answer to a fault, as it is told beforehand. -/
def faultAnswer (process : UserProcess) (vpn : Vpn) (pager : Pager φ) :
    Except FaultError Unit :=
  if process.exited then .error (.exited process.pid)
  else if (pager.tables.get (process.page vpn)).isSome then .ok ()
  else if pager.swapContains (process.page vpn) then
    match getFreeFrame.outcome pager with
    | (.error cause, _) => .error (.kernel cause)
    | (.ok _, middle) =>
        match middle.slotFailure (process.page vpn) with
        | some cause => .error (.pageIn (process.page vpn) cause)
        | none => .ok ()
  else if (process.stackTop.toNat : Int) - process.stackPages.toNat ≤ vpn.toNat ∧
      (vpn.toNat : Int) ≤ process.stackTop.toNat then
    match ((newPage (process.page vpn) false).outcome pager).1 with
    | .error cause => .error (.kernel cause)
    | .ok _ => .ok ()
  else .error (.segfault (process.page vpn))

omit [FileSystem φ] in
/-- The stack goes from its topmost page so many pages down, below page 0 if need be. -/
theorem isStackPage_iff (process : UserProcess) (vpn : Vpn) :
    process.isStackPage vpn = true ↔
      (process.stackTop.toNat : Int) - process.stackPages.toNat ≤ vpn.toNat ∧
        (vpn.toNat : Int) ≤ process.stackTop.toNat := by
  simp only [isStackPage, Bool.and_eq_true, decide_eq_true_eq]
  by_cases below : vpn ≤ process.stackTop
  · have depth := UInt32.toNat_sub_of_le _ _ below
    rw [UInt32.le_iff_toNat_le] at below
    simp only [UInt32.le_iff_toNat_le, depth]
    omega
  · rw [UInt32.le_iff_toNat_le] at below
    simp only [UInt32.le_iff_toNat_le, below, false_and, false_iff]
    omega

/-- A frame that could not be had is never the fault of the slot of the page that it was
for. -/
theorem pageInFailure_of_obtained {page : PageId} {cause : PagingError}
    (obtained : Obtained pager (.error cause) after) (accounts : Accounts config held pager) :
    pageInFailure page cause = .kernel cause := by
  cases obtained with
  | failed _ evicted =>
    cases evicted with
    | refused | withoutFile | unwritten => rfl
    | withoutVictim _ searched =>
      obtain ⟨_, same⟩ :=
        cause_of_selectVictim accounts.frameCount_pos accounts.rounds_ne_zero searched
      rw [same]
      split <;> rfl

/-- A page is found or made as its answer tells, if there is such a page. -/
theorem FaultedIn.answer {result : Except FaultError TranslationEntry}
    (faulted : FaultedIn process vpn pager result after) (accounts : Accounts config held pager)
    (running : process.exited = false) (inside : vpn ≤ lastPage) :
    result.map (fun _ => ()) = process.faultAnswer vpn pager := by
  simp only [faultAnswer, running, Bool.false_eq_true, if_false]
  cases faulted with
  | found broughtBack =>
    cases broughtBack with
    | resident found =>
      simp only [found, Option.isSome_some, if_true]
      rfl
    | loaded absent obtained restored known asked =>
      obtain ⟨swap, used, slot⟩ := swapContains_iff.mp (obtained.swapContains known)
      cases restored with
      | mapped _ sameSwap loaded =>
        rw [used] at sameSwap
        cases sameSwap
        simp only [absent, known, asked, loaded.slotFailure_eq used slot, Option.isSome_none,
          Bool.false_eq_true, if_false, if_true]
        rfl
  | missed broughtBack =>
    cases broughtBack with
    | noFrame absent known obtained asked =>
      simp only [absent, known, asked, pageInFailure_of_obtained obtained accounts,
        Option.isSome_none, Bool.false_eq_true, if_false, if_true]
      rfl
    | failed absent known obtained restored _ asked =>
      obtain ⟨swap, used, slot⟩ := swapContains_iff.mp (obtained.swapContains known)
      cases restored with
      | unread sameSwap loaded =>
        rw [used] at sameSwap
        cases sameSwap
        simp only [absent, known, asked, loaded.slotFailure_eq used slot, Option.isSome_none,
          Bool.false_eq_true, if_false, if_true]
        rfl
      | outside beyond => exact absurd inside (UInt32.not_le.mpr beyond)
  | grown broughtBack onStack _ asked | ungrown broughtBack onStack _ asked =>
    cases broughtBack with
    | neverWritten absent unknown =>
      simp only [absent, unknown, asked, (process.isStackPage_iff vpn).mp onStack,
        Option.isSome_none, Bool.false_eq_true, if_false, and_self, if_true]
      rfl
  | segfault broughtBack offStack =>
    cases broughtBack with
    | neverWritten absent unknown =>
      have off : ¬ ((process.stackTop.toNat : Int) - process.stackPages.toNat ≤ vpn.toNat ∧
          (vpn.toNat : Int) ≤ process.stackTop.toNat) := by
        rw [← isStackPage_iff, offStack]
        exact Bool.false_ne_true
      simp only [absent, unknown, if_neg off, Option.isSome_none, Bool.false_eq_true, if_false]
      rfl

/-- Only a process that has exited is told that it has. -/
theorem faultAnswer_eq_exited_iff {pid : Pid} :
    process.faultAnswer vpn pager = .error (.exited pid) ↔
      process.exited = true ∧ process.pid = pid := by
  rw [faultAnswer]
  split
  · next exited => simp [exited]
  · next running =>
    apply iff_of_false _ fun told => running told.1
    split
    · exact nofun
    · split
      · split
        · exact nofun
        · split <;> exact nofun
      · split
        · split <;> exact nofun
        · exact nofun

/-! ### What a fault leaves behind -/

/-- How a fault of a page ends, and what it leaves behind, told from what there was before. -/
structure FaultOutcome (process : UserProcess) (vpn : Vpn) (pager : Pager φ)
    (result : Except FaultError Unit) (after : Pager φ) : Prop where
  answer : result = process.faultAnswer vpn pager
  exited_iff : (∃ pid, result = .error (.exited pid)) ↔ process.exited = true
  unchanged : process.exited = true → after = pager
  /-- The page is mapped, and the process has cached what its entry says, not used yet. -/
  mapped : result = .ok () → ∃ entry, after.tables.get (process.page vpn) = some entry ∧
    entry.vpn = vpn ∧ entry.flags.valid = true ∧
    (process.cache after).lookup vpn =
      some { entry with flags := { entry.flags with used := false } }

/-- What every part of an operation upholds, finding or making a page preserves. -/
theorem FaultedIn.standing {property : Pager φ → Prop}
    {result : Except FaultError TranslationEntry}
    (faulted : FaultedIn process vpn pager result after) (upheld : Upheld config property)
    (standing : Standing config property pager) : Standing config property after := by
  have keeps := upheld.keeps process
  cases faulted with
  | found broughtBack | missed broughtBack => exact keeps.broughtBack standing broughtBack
  | grown _ _ backed | ungrown _ _ backed => exact keeps.backed standing backed
  | segfault => exact standing

omit [FileSystem φ] in
/-- The entry of a page is found in its process's cache once it was cached there. -/
theorem lookup_cached {entry : TranslationEntry}
    (standing : Standing config (Fitted config (process.tlb + 1)) pager)
    (found : pager.tables.get (process.page vpn) = some entry) :
    entry.vpn = vpn ∧ entry.flags.valid = true ∧
      (process.cache { pager with tlbs := (pager.tlbs.install process.tlb entry).2 }).lookup vpn =
        some { entry with flags := { entry.flags with used := false } } := by
  obtain ⟨⟨held, accounts⟩, fitted⟩ := standing
  have slots : ∀ tlb, pager.tlbs.unit process.tlb = some tlb → 0 < tlb.size := by
    intro tlb present
    rw [fitted.sized _ tlb present]
    exact Nat.pos_of_ne_zero (Config.sizes_ne_zero accounts.valid).2.1
  obtain ⟨tlb, present, cached⟩ := TlbBank.exists_lookup_install fitted.made_le slots
    (accounts.tables.valid_of_get found)
  have samePage : entry.vpn = vpn := accounts.tables.vpn_of_get found
  refine ⟨samePage, accounts.tables.valid_of_get found, ?_⟩
  rw [cache, present, Option.getD_some, ← samePage]
  exact cached

/-- An address is on a page that there is. -/
theorem page_le_lastPage (address : UInt32) : address >>> 10 ≤ lastPage := by
  have shifted : (address >>> 10).toNat = address.toNat / 1024 := by
    rw [UInt32.toNat_shiftRight]
    exact Nat.shiftRight_eq_div_pow address.toNat 10
  have bound := address.toNat_lt
  rw [UInt32.le_iff_toNat_le, shifted]
  exact Nat.le_of_lt_succ (Nat.div_lt_of_lt_mul bound)

/-- A process that has exited is refused, and that is all. -/
theorem fault_ends_of_exited (exited : process.exited = true) (address : UInt32) :
    (process.fault address).Ends pager (process.FaultOutcome (address >>> 10) pager) := by
  have refused : (process.fault address : ProcessAction φ Unit).outcome pager =
      (.error (.exited process.pid), pager) := by
    rw [fault, resolve, ensureRunning, if_pos exited]
    rfl
  have told : process.faultAnswer (address >>> 10) pager = .error (.exited process.pid) :=
    faultAnswer_eq_exited_iff.mpr ⟨exited, rfl⟩
  rw [Ends, refused]
  exact {
    answer := told.symm
    exited_iff := iff_of_true ⟨process.pid, rfl⟩ exited
    unchanged := fun _ => rfl
    mapped := no_answer }

/-- A process that runs is answered, and finds its page mapped and cached if the answer is
good. -/
theorem fault_ends_of_running (running : process.exited = false)
    (standing : Standing config (Fitted config (process.tlb + 1)) pager) (address : UInt32) :
    (process.fault address).Ends pager (process.FaultOutcome (address >>> 10) pager) := by
  obtain ⟨held, accounts⟩ := standing.accounts
  rw [fault, resolve, bind_assoc, ends_ensureRunning running, bind_assoc, ends_bind]
  apply Ends.mono (faultIn_ends accounts process (address >>> 10))
  intro result after faulted
  have answer := faulted.answer accounts running (page_le_lastPage address)
  have notExited : ¬ process.exited = true := running ▸ Bool.false_ne_true
  have notTold : ¬ ∃ pid, result.map (fun _ => ()) = .error (.exited pid) := by
    rintro ⟨pid, told⟩
    exact notExited (faultAnswer_eq_exited_iff.mp (answer ▸ told)).1
  cases result with
  | error cause =>
    exact {
      answer := answer
      exited_iff := iff_of_false notTold notExited
      unchanged := fun exited => absurd exited notExited
      mapped := no_answer }
  | ok entry =>
    have found := faulted.get_eq
    have cached := lookup_cached (faulted.standing (fitted_upheld config _) standing) found
    exact {
      answer := answer
      exited_iff := iff_of_false notTold notExited
      unchanged := fun exited => absurd exited notExited
      mapped := fun _ => ⟨entry, found, cached⟩ }

theorem fault_ends (standing : Standing config (Fitted config (process.tlb + 1)) pager)
    (address : UInt32) :
    (process.fault address).Ends pager (process.FaultOutcome (address >>> 10) pager) := by
  cases exited : process.exited with
  | true => exact fault_ends_of_exited exited address
  | false => exact fault_ends_of_running exited standing address

end UserProcess

/-! ### The end of a process -/

/-- What a process's hook makes of a state when an operation of the process ended so. It is
run once, with the number of the process and status -1, if a page was nowhere or could not be
read, and it is not run otherwise. -/
def TerminationHook.ran {σ α : Type} (hook : TerminationHook σ) (pid : Pid) (state : σ) :
    Except FaultError α → σ
  | .error (.segfault _) | .error (.pageIn _ _) => hook pid (-1) state
  | .error (.kernel _) | .error (.exited _) | .ok _ => state

section Hook

variable {σ α : Type} {hook : TerminationHook σ} {pid : Pid} {state : σ}

/-- A failure runs the hook exactly if it is one of those that a process does not survive. -/
theorem TerminationHook.ran_error (cause : FaultError) :
    hook.ran pid state (.error cause : Except FaultError α) = hook.afterFault pid cause state := by
  cases cause <;> rfl

omit [FileSystem φ] in
/-- An operation with a hook ends as it does without one, and then its hook is run or not. -/
theorem UserProcess.ends_hooked {process : UserProcess} {part : σ → Pager φ}
    {replace : σ → Pager φ → σ} {operation : ProcessAction φ α}
    {post : Except FaultError α → σ → Prop} :
    (process.hooked part replace hook operation).Ends state post ↔
      operation.Ends (part state) fun result pager =>
        post result (hook.ran process.pid (replace state pager) result) := by
  simp only [Ends, outcome, hooked]
  cases operation (part state) with
  | ok answer pager => rfl
  | error cause pager => rw [TerminationHook.ran_error]

end Hook

namespace Kernel

variable {kernel : Kernel φ}

omit [FileSystem φ] in
/-- What an operation of a process does to the kernel is what it does to the pager, and then
what the kernel's hook does. -/
theorem ends_perform_ran {α : Type} {process : UserProcess}
    {operation : UserProcess → ProcessAction φ α}
    {post : Except FaultError α → Kernel φ → Prop} :
    (perform process operation).Ends kernel post ↔
      (operation (kernel.current process)).Ends kernel.pager fun result pager =>
        post result (exitHook.ran process.pid { kernel with pager := pager } result) :=
  UserProcess.ends_hooked

/-- A process that is not live counts as exited. -/
theorem fault_current (standing : Standing config (Fitted config 0) kernel.pager)
    (housed : kernel.Housed) (process : UserProcess) (address : UInt32) :
    ((kernel.current process).fault address).Ends kernel.pager
      ((kernel.current process).FaultOutcome (address >>> 10) kernel.pager) := by
  obtain ⟨accounts, fitted⟩ := standing
  rw [current]
  cases live : kernel.running process.pid with
  | none => exact UserProcess.fault_ends_of_exited rfl address
  | some present =>
    have made : Standing config (Fitted config (present.tlb + 1)) kernel.pager :=
      ⟨accounts, { fitted with made_le := housed.made live }⟩
    exact UserProcess.fault_ends made address

end Kernel

namespace Machine

variable {machine : Machine φ}

/-- Whatever happened before and however the file system fails, a fault of a process is answered
as it is told from what there was before. Whatever hook the process has, on whatever state around
the pager: it is run once, with the number of the process and status -1, if the page is nowhere or
cannot be read, and never otherwise. The hook that the kernel gives its processes ends them. -/
theorem fault_outcome (reachable : machine.Reachable config) (process : UserProcess)
    (address : UInt32) :
    (process.tlb < machine.kernel.pager.tlbs.units.size →
      (process.fault address).Ends machine.kernel.pager
        (process.FaultOutcome (address >>> 10) machine.kernel.pager) ∧
      ∀ {σ : Type} (part : σ → Pager φ) (replace : σ → Pager φ → σ) (hook : TerminationHook σ)
        (state : σ), part state = machine.kernel.pager →
        (process.hooked part replace hook (process.fault address)).Ends state fun result next =>
          ∃ pager, process.FaultOutcome (address >>> 10) machine.kernel.pager result pager ∧
            next = hook.ran process.pid (replace state pager) result) ∧
    (Kernel.perform process (·.fault address)).Ends machine.kernel fun result next =>
      ∃ pager, (machine.kernel.current process).FaultOutcome (address >>> 10)
          machine.kernel.pager result pager ∧
        next = TerminationHook.ran (fun pid status kernel => (kernel.exit pid status).2)
          process.pid { machine.kernel with pager := pager } result := by
  constructor
  · intro made
    have ends := UserProcess.fault_ends (reachable.fitted_made made) address
    refine ⟨ends, fun part replace hook state around => ?_⟩
    rw [UserProcess.ends_hooked, around]
    apply Ends.mono ends
    intro result pager outcome
    exact ⟨pager, outcome, rfl⟩
  · rw [Kernel.ends_perform_ran]
    apply Ends.mono (Kernel.fault_current reachable.fitted reachable.housed process address)
    intro result pager outcome
    exact ⟨pager, outcome, rfl⟩

/-- A process has the only frame for one page of its stack, and another one is in swap. -/
def crampedStack : List (MachineCall (FaultyFiles EphemeralFiles)) :=
  [.kernel (.spawn 4), .pager (.newPage ⟨1, 4⟩ false), .pager (.newPage ⟨1, 3⟩ false)]

/-- A hook that keeps a log of its calls beside the pager. -/
def loggingHook : TerminationHook (Pager φ × List (Pid × Int32)) :=
  fun pid status state => (state.1, state.2 ++ [(pid, status)])

/-- Swap is written but never read back: the page that is in memory is found, and the one that
is not costs the process its life, as one that is nowhere does. The hook of the process is then
called, once. -/
theorem fault_outcome_one_frame :
    ∃ kernel : Kernel (FaultyFiles EphemeralFiles),
      Kernel.boot .oneFrame { base := .empty, onRead := .after 0 (.fail .noSpace) }
          (.scripted []) (.seeded 0) = .ok kernel ∧
        let before := (run { kernel := kernel } crampedStack).kernel
        let process : UserProcess := { pid := 1, stackTop := 4, stackPages := 8, tlb := 0 }
        let logged (address : UInt32) := (process.hooked Prod.fst
          (fun state pager => (pager, state.2)) loggingHook (process.fault address)).outcome
            (before.pager, [])
        process.tlb < before.pager.tlbs.units.size ∧
        process.faultAnswer 3 before.pager = .ok () ∧
        process.faultAnswer 4 before.pager = .error (.pageIn ⟨1, 4⟩ (.files .noSpace)) ∧
        process.faultAnswer 5 before.pager = .error (.segfault ⟨1, 5⟩) ∧
        (logged 3072).2.2 = [] ∧ (logged 4096).2.2 = [(1, -1)] ∧
        (process.fault 4096).Ends before.pager (process.FaultOutcome 4 before.pager) ∧
        ((process.hooked Prod.fst (fun state pager => (pager, state.2)) loggingHook
          (process.fault 4096)).Ends (before.pager, []) fun result next =>
            ∃ pager, process.FaultOutcome 4 before.pager result pager ∧
              next = loggingHook.ran 1 (pager, []) result) ∧
        (Kernel.perform process (·.fault 4096)).Ends before fun result next =>
          ∃ pager, (before.current process).FaultOutcome 4 before.pager result pager ∧
            next = TerminationHook.ran (fun pid status kernel => (kernel.exit pid status).2) 1
              { before with pager := pager } result := by
  have answered := fault_outcome (.run (.boot
    (rfl : Kernel.boot .oneFrame
      ({ base := .empty, onRead := .after 0 (.fail .noSpace) } : FaultyFiles EphemeralFiles)
      (.scripted []) (.seeded 0) = .ok _)) crampedStack)
    { pid := 1, stackTop := 4, stackPages := 8, tlb := 0 } 4096
  refine ⟨_, rfl, ?made, by decide +kernel, by decide +kernel, by decide +kernel,
    by decide +kernel, by decide +kernel, (answered.1 ?made).1,
    (answered.1 ?made).2 Prod.fst (fun state pager => (pager, state.2)) loggingHook (_, []) ?around,
    answered.2⟩
  case made => decide +kernel
  case around => dsimp only

end Machine

end VirtualMemory
