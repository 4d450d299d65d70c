/-
Module: VirtualMemory.Proofs.Kernel.Reachable
Purpose: What is known of every machine that comes about from one that was booted.
Main exports:
  PagerSession.standing_step, Kernel.Housed; Machine.Reachable, Reachable.standing,
  Reachable.fitted, Reachable.housed

Frames and guards may be with others for as long as they like. Others may pin and let go of
any frame, store to any frame, and use the caches of processes. A property that every part of
an operation upholds is a property of every machine that comes about.
-/
import VirtualMemory.Proofs.Kernel.Resident
import VirtualMemory.Proofs.Pager.Fitted

namespace VirtualMemory

open VirtualMemory.Action Pager

variable {φ : Type} [FileSystem φ] {config : Config} {property : Pager φ → Prop}

/-- What every part of an operation upholds, every call of the pager preserves. -/
theorem PagerSession.standing_step {session : PagerSession φ} (upheld : Upheld config property)
    (standing : Standing config property session.pager) (call : PagerCall φ) :
    Standing config property (session.step call).pager := by
  cases call with
  | getFreeFrame => exact upheld.getFreeFrame _ standing
  | returnFrame ppn => exact upheld.returnFrame ppn _ standing
  | newPage page readOnly => exact upheld.newPage page readOnly _ standing
  | newPagePinned page readOnly =>
    rw [step, pager_afterGuarding, snd_outcome_map]
    exact upheld.newPagePinned page readOnly _ standing
  | putTranslation pid entry => exact upheld.putTranslation pid entry _ standing
  | getTranslation page => exact standing
  | getTranslationPinned page =>
    rw [step, pager_afterGuarding]
    exact upheld.getTranslationPinned page _ standing
  | dropGuard index =>
    rw [step]
    split
    · exact standing
    · exact ⟨standing.accounts.imp fun _ accounts => accounts.unpin _,
        upheld.pinned _ standing.holds⟩
  | loadFromSwap page => exact upheld.loadFromSwap page _ standing
  | evictPage => exact upheld.evictPage _ standing
  | deallocate pid => exact upheld.deallocate standing pid
  | reclaimOnce => exact upheld.reclaimOnce _ standing
  | initializeSwap => exact upheld.initializeSwap _ standing
  | terminate => exact upheld.terminate _ standing
  | start pid stackTop => exact upheld.start standing pid stackTop
  | serve process request => exact (upheld.keeps process).serve request _ standing
  | exit process => exact upheld.exit standing process
  | disturb change => exact upheld.disturb standing _

namespace Kernel

variable {kernel next : Kernel φ}

/-- Every live process is known by its own number, and has one of the caches that were made. -/
structure Housed (kernel : Kernel φ) : Prop where
  named : kernel.Named
  made : ∀ {pid process}, kernel.running pid = some process →
    process.tlb < kernel.pager.tlbs.units.size

namespace Housed

omit [FileSystem φ] in
/-- Processes keep their numbers and their caches, and no cache is unmade. -/
theorem of_before (housed : kernel.Housed)
    (before : ∀ {pid process}, next.running pid = some process →
      ∃ present, kernel.running pid = some present ∧ process.pid = present.pid ∧
        process.tlb = present.tlb)
    (more : kernel.pager.tlbs.units.size ≤ next.pager.tlbs.units.size) : next.Housed where
  named pid process live := by
    obtain ⟨present, found, samePid, _⟩ := before live
    exact samePid.trans (housed.named pid present found)
  made live := by
    obtain ⟨present, found, _, sameTlb⟩ := before live
    exact Nat.lt_of_lt_of_le (sameTlb ▸ housed.made found) more

omit [FileSystem φ] in
theorem withPager (housed : kernel.Housed) {pager : Pager φ}
    (more : kernel.pager.tlbs.units.size ≤ pager.tlbs.units.size) :
    ({ kernel with pager := pager } : Kernel φ).Housed :=
  housed.of_before (fun live => ⟨_, live, rfl, rfl⟩) more

omit [FileSystem φ] in
theorem boot {files : φ} {policy : Policy} {chance : Chance}
    (booted : Kernel.boot config files policy chance = .ok kernel) : kernel.Housed where
  named := (Numbered.boot booted).named
  made live := by
    cases ((Numbered.boot booted).unknown _ fun counted =>
      Nat.not_le_of_gt counted.1 counted.2).1.symm.trans live

/-- A new process has a cache that was made for it. -/
theorem spawn (housed : kernel.Housed)
    (standing : Standing config (Fitted config kernel.pager.tlbs.units.size) kernel.pager)
    (stackTop : Vpn) : (kernel.after (.spawn stackTop)).Housed := by
  have more := (standing_after (fitted_upheld config _) standing (.spawn stackTop)).holds.made_le
  have equipped : Equipped config False kernel.pager := ⟨standing.accounts, False.elim⟩
  have spawned := spawn_ends equipped False.elim stackTop
  rw [Ends] at spawned
  rw [Kernel.after] at more ⊢
  generalize ((Kernel.spawn stackTop).outcome kernel).1 = result at spawned
  generalize ((Kernel.spawn stackTop).outcome kernel).2 = next at spawned more ⊢
  cases spawned with
  | withoutFile | exhausted => exact housed.withPager more
  | @started pager =>
    constructor
    case named => exact housed.named.startProcess pager stackTop
    case made =>
      intro pid process live
      rcases live_startProcess live with rfl | before
      · have grown : pager.tlbs.units.size < (pager.tlbs.units.push (Tlb.empty
            pager.config.tlbEntries)).size := by
          rw [Array.size_push]
          exact Nat.lt_succ_self _
        exact grown
      · exact Nat.lt_of_lt_of_le (housed.made before) more

theorem after (housed : kernel.Housed)
    (standing : Standing config (Fitted config kernel.pager.tlbs.units.size) kernel.pager)
    (call : LifecycleCall φ) : (kernel.after call).Housed := by
  by_cases isSpawn : ∃ stackTop, call = .spawn stackTop
  · obtain ⟨stackTop, rfl⟩ := isSpawn
    exact housed.spawn standing stackTop
  · have notSpawn : ∀ stackTop, call ≠ .spawn stackTop := fun stackTop same =>
      isSpawn ⟨stackTop, same⟩
    have retired := Retired.after kernel call housed.named notSpawn
    have more := (standing_after (fitted_upheld config _) standing call).holds.made_le
    exact housed.of_before (fun live => retired.named _ _ live) more

end Housed

end Kernel

namespace Machine

variable {machine : Machine φ}

omit [FileSystem φ] in
/-- The machine with its pager replaced. -/
def withPager (machine : Machine φ) (pager : Pager φ) : Machine φ :=
  { machine with kernel := { machine.kernel with pager := pager } }

/-- The machines that come about from a boot, whatever is called for, however the calls end,
and whatever others do with the frames and caches that they can reach. -/
inductive Reachable (config : Config) : Machine φ → Prop where
  | boot {files : φ} {policy : Policy} {chance : Chance} {kernel : Kernel φ}
      (booted : Kernel.boot config files policy chance = .ok kernel) :
      Reachable config { kernel := kernel }
  | call {machine : Machine φ} (reachable : Reachable config machine)
      (call : MachineCall φ) : Reachable config (machine.step call)
  /-- Frames are pinned, and guards are dropped. -/
  | pinned {machine : Machine φ} {pins : PinSet} (reachable : Reachable config machine)
      (sound : pins.Sound) :
      Reachable config (machine.withPager { machine.kernel.pager with pins := pins })
  /-- Something is stored to frames. -/
  | stored {machine : Machine φ} {memory : PhysicalMemory} (reachable : Reachable config machine)
      (same : memory.size = machine.kernel.pager.memory.size) :
      Reachable config (machine.withPager { machine.kernel.pager with memory := memory })
  /-- A cache is used, of whatever process. -/
  | cached {machine : Machine φ} (reachable : Reachable config machine) (id : TlbId)
      {step : Tlb → Tlb} (keeps : ∀ tlb, (step tlb).size = tlb.size) :
      Reachable config (machine.withPager
        { machine.kernel.pager with tlbs := machine.kernel.pager.tlbs.change id step })

/-- What every part of an operation upholds, every call of a machine preserves. -/
theorem standing_step (upheld : Upheld config property)
    (standing : Standing config property machine.kernel.pager) (call : MachineCall φ) :
    Standing config property (machine.step call).kernel.pager := by
  cases call with
  | pager call =>
    have session : Standing config property machine.session.pager := standing
    exact PagerSession.standing_step upheld session call
  | kernel call => exact Kernel.standing_after upheld standing call

/-- A property that holds at boot and is upheld holds of every machine that comes about. -/
theorem Reachable.standing (reachable : machine.Reachable config)
    (upheld : Upheld config property)
    (atBoot : ∀ {files policy chance pager}, Pager.boot config files policy chance = .ok pager →
      property pager) :
    Standing config property machine.kernel.pager := by
  induction reachable with
  | boot booted =>
    obtain ⟨pager, set, rfl⟩ := Kernel.exists_boot booted
    exact ⟨⟨∅, Accounts.boot set⟩, atBoot set⟩
  | call reachable call standing => exact standing_step upheld standing call
  | pinned reachable sound standing =>
    exact ⟨standing.accounts.imp fun _ accounts => accounts.of_same rfl rfl rfl sound rfl,
      upheld.pinned _ standing.holds⟩
  | stored reachable same standing =>
    exact ⟨standing.accounts.imp fun _ accounts =>
      accounts.of_same rfl rfl rfl accounts.pins same, upheld.filled _ same standing.holds⟩
  | cached reachable id keeps standing =>
    exact ⟨standing.accounts.imp fun _ accounts => accounts.withTlbs _,
      upheld.changed id _ keeps standing.holds⟩

/-- The books of every machine balance, its swap slots do not overlap, and its caches are of
the size that is configured. -/
theorem Reachable.fitted (reachable : machine.Reachable config) :
    Standing config (Fitted config 0) machine.kernel.pager :=
  reachable.standing (fitted_upheld config 0) Fitted.boot

/-- As many caches as there are were made. -/
theorem Reachable.fitted_made (reachable : machine.Reachable config) {made : Nat}
    (enough : made ≤ machine.kernel.pager.tlbs.units.size) :
    Standing config (Fitted config made) machine.kernel.pager := by
  obtain ⟨accounts, fitted⟩ := reachable.fitted
  exact ⟨accounts, { fitted with made_le := enough }⟩

theorem Reachable.housed (reachable : machine.Reachable config) : machine.kernel.Housed := by
  induction reachable with
  | boot booted => exact .boot booted
  | @call machine reachable call housed =>
    have standing := reachable.fitted_made (Nat.le_refl machine.kernel.pager.tlbs.units.size)
    cases call with
    | pager call =>
      apply housed.withPager
      exact (standing_step (fitted_upheld config _) standing (.pager call)).holds.made_le
    | kernel call => exact housed.after standing call
  | pinned reachable sound housed => exact housed.withPager (Nat.le_refl _)
  | stored reachable same housed => exact housed.withPager (Nat.le_refl _)
  | cached reachable id keeps housed =>
    apply housed.withPager
    rw [TlbBank.size_change]

/-- What a run reaches from a reachable machine is reachable. -/
theorem Reachable.run (reachable : machine.Reachable config) (calls : List (MachineCall φ)) :
    (machine.run calls).Reachable config := by
  induction calls generalizing machine with
  | nil => exact reachable
  | cons call rest hypothesis => exact hypothesis (reachable.call call)

end Machine

end VirtualMemory
