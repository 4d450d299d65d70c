/-
Module: VirtualMemory.Proofs.Kernel.Ownership
Purpose: Whose translation cache is whose: no two processes share one.
Main exports:
  Pager.Attaches, Pager.attaches_upheld; Kernel.CachesApart, Machine.cachesApart_step,
  Machine.Reachable.cachesApart

Caches are counted up and attached to a process when it starts, and never to another one.
-/
import VirtualMemory.Proofs.Kernel.Reachable

namespace VirtualMemory

open VirtualMemory.Action

variable {φ : Type}

namespace Pager

variable {pager next : Pager φ} {attached : Pid → Option TlbId} {made : Nat} {pid other : Pid}
  {id : TlbId}

/-- Caches that are attached were made, each is attached to one process, and those that are not
attached as `attached` says were not among the first `made` ones. -/
structure Attaches (attached : Pid → Option TlbId) (made : Nat) (pager : Pager φ) : Prop where
  more : made ≤ pager.tlbs.units.size
  lt : ∀ {pid id}, pager.tlbs.attachedTo pid = some id → id < pager.tlbs.units.size
  unique : ∀ {pid other id}, pager.tlbs.attachedTo pid = some id →
    pager.tlbs.attachedTo other = some id → pid = other
  known_or_new : ∀ {pid id}, pager.tlbs.attachedTo pid = some id →
    attached pid = some id ∨ made ≤ id

namespace Attaches

theorem of_fewer (attaches : Attaches attached made pager)
    (more : pager.tlbs.units.size ≤ next.tlbs.units.size)
    (fewer : ∀ {pid id}, next.tlbs.attachedTo pid = some id →
      pager.tlbs.attachedTo pid = some id) : Attaches attached made next where
  more := attaches.more.trans more
  lt isAttached := (attaches.lt (fewer isAttached)).trans_le more
  unique one two := attaches.unique (fewer one) (fewer two)
  known_or_new isAttached := attaches.known_or_new (fewer isAttached)

theorem of_same (attaches : Attaches attached made pager) (same : next.tlbs = pager.tlbs) :
    Attaches attached made next :=
  attaches.of_fewer (same ▸ Nat.le_refl _) (same ▸ id)

/-- A page may be taken out of the caches. -/
theorem shotDown (attaches : Attaches attached made pager)
    (tlbs : next.tlbs = pager.tlbs ∨ ∃ page, next.tlbs = pager.tlbs.shootDown page) :
    Attaches attached made next := by
  rcases tlbs with same | ⟨page, dropped⟩
  · exact attaches.of_same same
  · apply attaches.of_fewer
    · rw [dropped, TlbBank.size_shootDown]
    · rw [dropped, TlbBank.attachedTo_shootDown]
      exact id

theorem boot {config : Config} {files : φ} {policy : Policy} {chance : Chance}
    (booted : Pager.boot config files policy chance = .ok pager) :
    Attaches attached 0 pager := by
  have nobody : ∀ {pid id}, pager.tlbs.attachedTo pid ≠ some id := by
    obtain ⟨-, rfl⟩ := eq_of_boot booted
    intro pid id isAttached
    cases Std.ExtTreeMap.getElem?_empty.symm.trans isAttached
  exact ⟨Nat.zero_le _, fun isAttached => absurd isAttached nobody,
    fun isAttached => absurd isAttached nobody, fun isAttached => absurd isAttached nobody⟩

/-- A process that starts has the cache that was made last, and nobody else has. -/
theorem start (attaches : Attaches attached made pager) (pid : Pid) (stackTop : Vpn) :
    Attaches attached made (UserProcess.start pager pid stackTop).2 := by
  have size : (UserProcess.start pager pid stackTop).2.tlbs.units.size =
      pager.tlbs.units.size + 1 := Array.size_push _
  have whose : ∀ {other id},
      (UserProcess.start pager pid stackTop).2.tlbs.attachedTo other = some id →
      pid = other ∧ pager.tlbs.units.size = id ∨
        pid ≠ other ∧ pager.tlbs.attachedTo other = some id := by
    intro other id isAttached
    have inserted := TlbBank.attachedTo_attach.symm.trans isAttached
    split at inserted
    · next same => exact Or.inl ⟨same, Option.some.inj inserted⟩
    · next different => exact Or.inr ⟨different, inserted⟩
  constructor
  case more => exact attaches.more.trans (size ▸ Nat.le_succ _)
  case lt =>
    intro other id isAttached
    rw [size]
    rcases whose isAttached with ⟨_, rfl⟩ | ⟨_, before⟩
    · exact Nat.lt_succ_self _
    · exact Nat.lt_succ_of_lt (attaches.lt before)
  case unique =>
    intro one two id isAttached alsoAttached
    rcases whose isAttached with ⟨rfl, rfl⟩ | ⟨_, before⟩
    · rcases whose alsoAttached with ⟨rfl, _⟩ | ⟨_, before⟩
      · rfl
      · exact absurd (attaches.lt before) (Nat.lt_irrefl _)
    · rcases whose alsoAttached with ⟨_, rfl⟩ | ⟨_, alsoBefore⟩
      · exact absurd (attaches.lt before) (Nat.lt_irrefl _)
      · exact attaches.unique before alsoBefore
  case known_or_new =>
    intro other id isAttached
    rcases whose isAttached with ⟨_, rfl⟩ | ⟨_, before⟩
    · exact Or.inr attaches.more
    · exact attaches.known_or_new before

end Attaches

variable [FileSystem φ]

/-- Only a process that starts has a cache attached. -/
theorem attaches_upheld (config : Config) (attached : Pid → Option TlbId) (made : Nat) :
    Upheld config (Attaches (φ := φ) attached made) where
  pooled _ _ attaches := attaches.of_same rfl
  pinned _ attaches := attaches.of_same rfl
  filled _ _ attaches := attaches.of_same rfl
  opened attaches _ := attaches.of_same rfl
  reread attaches _ _ := attaches.of_same rfl
  evicted := by
    intro held pager result after _ attaches evicted
    cases evicted with
    | refused | withoutFile | withoutVictim => exact attaches.of_same rfl
    | unwritten | written => exact attaches.shotDown (.inr ⟨_, rfl⟩)
  settled pid entry contents _ attaches := attaches.shotDown (tlbs_settle _ pid entry contents)
  accessed _ _ attaches := attaches.of_same rfl
  put := by
    intro held pager pid entry accounts attaches
    apply Ends.mono (putTranslation_ends accounts pid entry)
    intro result next told
    obtain ⟨tables, pool, tlbs, rfl, dropped, _⟩ := told
    exact attaches.shotDown dropped
  deallocated := by
    intro pager pid attaches
    apply attaches.of_fewer (size_deallocate pager pid).ge
    intro other id isAttached
    rw [attachedTo_deallocate] at isAttached
    split at isAttached
    · cases isAttached
    · exact isAttached
  started pid stackTop _ attaches := attaches.start pid stackTop
  terminated := by
    intro pager attaches
    apply Ends.mono (terminate_ends pager)
    rintro result next ⟨device, rfl⟩
    refine attaches.of_fewer (by exact Nat.le_refl _) fun isAttached => ?_
    cases Std.ExtTreeMap.getElem?_empty.symm.trans isAttached
  cached _ _ attaches := by
    apply attaches.of_fewer TlbBank.size_install.ge
    rw [TlbBank.attachedTo_install]
    exact id
  changed _ step _ attaches := attaches.of_fewer (TlbBank.size_change step).ge id
  disturbed _ attaches := attaches.of_same rfl

end Pager

namespace Kernel

open Pager

variable {kernel next : Kernel φ} {config : Config}

/-- Each cache is attached to one process at most, each live process has its own, and nobody
else has that one attached. -/
structure CachesApart (kernel : Kernel φ) : Prop where
  housed : kernel.Housed
  attaches : Attaches (fun _ => none) 0 kernel.pager
  owned : ∀ {pid process owner}, kernel.running pid = some process →
    kernel.pager.tlbs.attachedTo owner = some process.tlb → owner = pid
  unique : ∀ {pid other process otherProcess}, kernel.running pid = some process →
    kernel.running other = some otherProcess → process.tlb = otherProcess.tlb → pid = other

namespace CachesApart

/-- Processes keep their numbers and their caches, and others are attached only if they were
made in the meantime. -/
theorem of_before (apart : kernel.CachesApart)
    (before : ∀ {pid process}, next.running pid = some process →
      ∃ present, kernel.running pid = some present ∧ process.pid = present.pid ∧
        process.tlb = present.tlb)
    (attaches : Attaches kernel.pager.tlbs.attachedTo kernel.pager.tlbs.units.size next.pager) :
    next.CachesApart where
  housed := apart.housed.of_before before attaches.more
  attaches := ⟨Nat.zero_le _, attaches.lt, attaches.unique, fun _ => .inr (Nat.zero_le _)⟩
  owned live isAttached := by
    obtain ⟨present, wasLive, _, sameTlb⟩ := before live
    rw [sameTlb] at isAttached
    rcases attaches.known_or_new isAttached with known | isNew
    · exact apart.owned wasLive known
    · exact absurd (apart.housed.made wasLive) (Nat.not_lt.mpr isNew)
  unique live otherLive same := by
    obtain ⟨present, wasLive, _, sameTlb⟩ := before live
    obtain ⟨otherPresent, otherWasLive, _, otherSameTlb⟩ := before otherLive
    exact apart.unique wasLive otherWasLive (sameTlb.symm.trans (same.trans otherSameTlb))

theorem withPager (apart : kernel.CachesApart) {pager : Pager φ}
    (attaches : Attaches kernel.pager.tlbs.attachedTo kernel.pager.tlbs.units.size pager) :
    ({ kernel with pager := pager } : Kernel φ).CachesApart :=
  apart.of_before (fun live => ⟨_, live, rfl, rfl⟩) attaches

/-- What is attached at the moment, told for what comes after. -/
theorem now (apart : kernel.CachesApart) :
    Attaches kernel.pager.tlbs.attachedTo kernel.pager.tlbs.units.size kernel.pager :=
  ⟨Nat.le_refl _, apart.attaches.lt, apart.attaches.unique, .inl⟩

/-- In a booted kernel no two processes have one cache. -/
theorem boot {files : φ} {policy : Policy} {chance : Chance}
    (booted : Kernel.boot config files policy chance = .ok kernel) : kernel.CachesApart := by
  have housed := Housed.boot booted
  have nobody : ∀ {pid process}, kernel.running pid ≠ some process := by
    intro pid process live
    cases ((Numbered.boot booted).unknown _ fun counted =>
      Nat.not_le_of_gt counted.1 counted.2).1.symm.trans live
  obtain ⟨pager, set, rfl⟩ := exists_boot booted
  exact ⟨housed, .boot set, fun live => absurd live nobody, fun live => absurd live nobody⟩

/-- A process that starts has the cache that was made for it. -/
theorem startProcess (apart : kernel.CachesApart) (pid : Pid) (stackTop : Vpn) :
    ((Kernel.startProcess pid stackTop).outcome kernel).2.CachesApart := by
  have started := apart.now.start pid stackTop
  have size : (UserProcess.start kernel.pager pid stackTop).2.tlbs.units.size =
      kernel.pager.tlbs.units.size + 1 := Array.size_push _
  -- A live process is the new one, under its own number, or was there before.
  have live_cases : ∀ {other process},
      ((Kernel.startProcess pid stackTop).outcome kernel).2.running other = some process →
      pid = other ∧ process = (UserProcess.start kernel.pager pid stackTop).1 ∨
        kernel.running other = some process := by
    intro other process live
    rw [running_startProcess] at live
    split at live
    · next same =>
      cases found : kernel.running pid with
      | none =>
        rw [found] at live
        cases live
        exact Or.inl ⟨same, rfl⟩
      | some present =>
        rw [found] at live
        cases live
        exact Or.inr (same ▸ found)
    · exact Or.inr live
  have attached_cases : ∀ {owner id},
      (UserProcess.start kernel.pager pid stackTop).2.tlbs.attachedTo owner = some id →
      pid = owner ∧ kernel.pager.tlbs.units.size = id ∨
        kernel.pager.tlbs.attachedTo owner = some id := by
    intro owner id isAttached
    have inserted := TlbBank.attachedTo_attach.symm.trans isAttached
    split at inserted
    · next same => exact Or.inl ⟨same, Option.some.inj inserted⟩
    · exact Or.inr inserted
  constructor
  case housed =>
    constructor
    case named =>
      intro other process live
      rcases live_cases live with ⟨rfl, rfl⟩ | before
      · rfl
      · exact apart.housed.named other process before
    case made =>
      intro other process live
      change process.tlb < (UserProcess.start kernel.pager pid stackTop).2.tlbs.units.size
      rw [size]
      rcases live_cases live with ⟨_, rfl⟩ | before
      · exact Nat.lt_succ_self _
      · exact Nat.lt_succ_of_lt (apart.housed.made before)
  case attaches =>
    exact ⟨Nat.zero_le _, started.lt, started.unique, fun _ => .inr (Nat.zero_le _)⟩
  case owned =>
    intro other process owner live isAttached
    rcases live_cases live with ⟨rfl, rfl⟩ | before
    · rcases attached_cases isAttached with ⟨same, _⟩ | wasAttached
      · exact same.symm
      · exact absurd (apart.attaches.lt wasAttached) (Nat.lt_irrefl _)
    · rcases attached_cases isAttached with ⟨_, same⟩ | wasAttached
      · exact absurd (same ▸ apart.housed.made before) (Nat.lt_irrefl _)
      · exact apart.owned before wasAttached
  case unique =>
    intro one two process otherProcess live otherLive same
    rcases live_cases live with ⟨rfl, rfl⟩ | before
    · rcases live_cases otherLive with ⟨rfl, _⟩ | otherBefore
      · rfl
      · exact absurd (same ▸ apart.housed.made otherBefore) (Nat.lt_irrefl _)
    · rcases live_cases otherLive with ⟨rfl, rfl⟩ | otherBefore
      · exact absurd (same ▸ apart.housed.made before) (Nat.lt_irrefl _)
      · exact apart.unique before otherBefore same

variable [FileSystem φ]

theorem spawn (apart : kernel.CachesApart)
    (accounts : ∃ held, Accounts config held kernel.pager) (stackTop : Vpn) :
    (Kernel.spawn stackTop).Ends kernel fun _ next => next.CachesApart := by
  have numbered : (takePid >>= fun pid => Kernel.startProcess pid stackTop).Preserves
      (CachesApart (φ := φ)) := by
    refine Preserves.bind ?_ fun pid kernel apart => apart.startProcess pid stackTop
    intro kernel apart
    rw [ends_takePid]
    split
    · exact apart.of_before (fun live => ⟨_, live, rfl, rfl⟩) apart.now
    · exact apart
  rw [Kernel.spawn, ends_bind, ends_get]
  simp only
  split
  · rw [ends_bind, ends_onPager]
    have standing : Standing config (Attaches kernel.pager.tlbs.attachedTo
        kernel.pager.tlbs.units.size) kernel.pager := ⟨accounts, apart.now⟩
    apply Ends.mono ((attaches_upheld config _ _).initializeSwap kernel.pager standing)
    intro result pager prepared
    cases result with
    | ok => exact numbered _ (apart.withPager prepared.holds)
    | error cause => exact apart.withPager prepared.holds
  · exact numbered kernel apart

/-- The caches stay apart whatever is called. -/
theorem after (apart : kernel.CachesApart)
    (accounts : ∃ held, Accounts config held kernel.pager) (call : LifecycleCall φ) :
    (kernel.after call).CachesApart := by
  by_cases isSpawn : ∃ stackTop, call = .spawn stackTop
  · obtain ⟨stackTop, rfl⟩ := isSpawn
    exact apart.spawn accounts stackTop
  · have notSpawn : ∀ stackTop, call ≠ .spawn stackTop := fun stackTop same =>
      isSpawn ⟨stackTop, same⟩
    have retired := Retired.after kernel call apart.housed.named notSpawn
    have standing := standing_after (attaches_upheld config kernel.pager.tlbs.attachedTo
      kernel.pager.tlbs.units.size) ⟨accounts, apart.now⟩ call
    exact apart.of_before (fun live => retired.named _ _ live) standing.holds

end CachesApart

end Kernel

namespace Machine

variable [FileSystem φ] {config : Config} {machine : Machine φ}

/-- Calls of the pager attach no cache, but to a process that starts. -/
theorem cachesApart_step (apart : machine.kernel.CachesApart)
    (accounts : ∃ held, Pager.Accounts config held machine.kernel.pager) (call : MachineCall φ) :
    (machine.step call).kernel.CachesApart := by
  cases call with
  | pager call =>
    apply apart.withPager
    exact (standing_step (Pager.attaches_upheld config _ _) ⟨accounts, apart.now⟩
      (.pager call)).holds
  | kernel call => exact apart.after accounts call

/-- No two processes of a machine share a cache. -/
theorem Reachable.cachesApart (reachable : machine.Reachable config) :
    machine.kernel.CachesApart := by
  induction reachable with
  | boot booted => exact .boot booted
  | call reachable call apart => exact cachesApart_step apart reachable.fitted.accounts call
  | pinned _ _ apart | stored _ _ apart => exact apart.withPager (apart.now.of_same rfl)
  | cached _ _ _ apart =>
    exact apart.withPager (apart.now.of_fewer (TlbBank.size_change _).ge id)

end Machine

end VirtualMemory
