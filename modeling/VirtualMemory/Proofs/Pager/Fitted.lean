/-
Module: VirtualMemory.Proofs.Pager.Fitted
Purpose: Swap slots never overlap, caches keep their number of slots, and no cache is
  ever unmade.
Main exports:
  SwapDevice.Spaced, SwapDevice.slot, Pager.Fitted, Pager.fitted_upheld
-/
import VirtualMemory.Proofs.Pager.Caches
import VirtualMemory.Proofs.Pager.Upheld

namespace VirtualMemory

open VirtualMemory.Action

variable {φ : Type}

namespace SwapDevice

/-- The slots of a swap file, once it is made, do not overlap. -/
def Spaced : SwapDevice φ → Prop
  | unused _ => True
  | inUse swap => swap.Spaced

theorem Spaced.withFiles {device : SwapDevice φ} (spaced : device.Spaced) (files : φ) :
    (device.withFiles files).Spaced := by
  cases device with
  | unused => trivial
  | inUse swap =>
    have slots : swap.Spaced := spaced
    exact slots.of_same rfl rfl

/-- The slot of a page. Without a swap file, there are no slots. -/
def slot (device : SwapDevice φ) (page : PageId) : Option SwapSlot :=
  device.swap?.bind (·.slot page)

@[simp] theorem slot_inUse (swap : SwapFile φ) (page : PageId) :
    (inUse swap).slot page = swap.slot page := rfl

/-- Making the swap file hands out no slot. -/
theorem slot_opened [FileSystem φ] {device next : SwapDevice φ} {name : String}
    {result : Except SwapError Unit} (opened : device.opened name = (result, next))
    (page : PageId) : next.slot page = device.slot page := by
  cases device with
  | inUse swap =>
    cases opened
    rfl
  | unused files =>
    cases opened_unused opened with
    | inl failed =>
      obtain ⟨cause, after, _, _, rfl⟩ := failed
      rfl
    | inr made =>
      obtain ⟨handle, after, _, _, rfl⟩ := made
      exact Std.ExtTreeMap.getElem?_empty

/-- A swap file that was just made has no slots. -/
theorem Spaced.opened [FileSystem φ] {device next : SwapDevice φ} {name : String}
    {result : Except SwapError Unit} (spaced : device.Spaced)
    (opened : device.opened name = (result, next)) : next.Spaced := by
  cases device with
  | inUse swap =>
    cases opened
    exact spaced
  | unused files =>
    cases opened_unused opened with
    | inl failed =>
      obtain ⟨cause, after, _, _, rfl⟩ := failed
      trivial
    | inr made =>
      obtain ⟨handle, after, _, _, rfl⟩ := made
      exact SwapFile.Spaced.fresh _ _ _

end SwapDevice

namespace Pager

variable {pager : Pager φ} {config : Config} {held : Finset Ppn}

/-- Swap slots do not overlap, all caches are of the size that is configured, and so
many of them were made at least. -/
structure Fitted (config : Config) (made : Nat) (pager : Pager φ) : Prop where
  spaced : pager.device.Spaced
  sized : pager.tlbs.Sized config.tlbEntries
  made_le : made ≤ pager.tlbs.units.size

namespace Fitted

variable {made : Nat}

theorem of_same (fitted : Fitted config made pager) {next : Pager φ}
    (sameDevice : next.device = pager.device) (sameTlbs : next.tlbs = pager.tlbs) :
    Fitted config made next where
  spaced := sameDevice ▸ fitted.spaced
  sized := sameTlbs ▸ fitted.sized
  made_le := sameTlbs ▸ fitted.made_le

theorem withDevice (fitted : Fitted config made pager) {device : SwapDevice φ}
    (spaced : device.Spaced) : Fitted config made { pager with device := device } :=
  ⟨spaced, fitted.sized, fitted.made_le⟩

theorem withSwap (fitted : Fitted config made pager) {swap : SwapFile φ}
    (spaced : swap.Spaced) : Fitted config made { pager with device := .inUse swap } :=
  fitted.withDevice spaced

/-- A page may be taken out of the caches. -/
theorem shotDown (fitted : Fitted config made pager) {next : Pager φ}
    (sameDevice : next.device = pager.device)
    (tlbs : next.tlbs = pager.tlbs ∨ ∃ page, next.tlbs = pager.tlbs.shootDown page) :
    Fitted config made next := by
  cases tlbs with
  | inl same => exact fitted.of_same sameDevice same
  | inr dropped =>
    obtain ⟨page, dropped⟩ := dropped
    constructor
    case spaced => exact sameDevice ▸ fitted.spaced
    case sized => exact dropped ▸ fitted.sized.shootDown page
    case made_le =>
      rw [dropped, TlbBank.size_shootDown]
      exact fitted.made_le

theorem boot {files : φ} {policy : Policy} {chance : Chance}
    (booted : Pager.boot config files policy chance = .ok pager) : Fitted config 0 pager := by
  obtain ⟨_, rfl⟩ := eq_of_boot booted
  constructor
  case spaced => trivial
  case sized =>
    intro id tlb present
    simp [TlbBank.unit] at present
  case made_le => exact Nat.zero_le _

end Fitted

variable [FileSystem φ]

theorem Evicted.fitted {made : Nat} {result : Except PagingError Ppn} {after : Pager φ}
    (evicted : Evicted pager result after) (fitted : Fitted config made pager) :
    Fitted config made after := by
  cases evicted with
  | refused => exact fitted
  | withoutFile opened => exact fitted.withDevice (fitted.spaced.opened opened)
  | withoutVictim opened =>
    exact (fitted.withDevice (fitted.spaced.opened opened)).of_same rfl rfl
  | unwritten opened _ _ _ _ wrote | written opened _ _ _ _ wrote =>
    have made := fitted.spaced.opened opened
    exact (fitted.withSwap (wrote.spaced made)).shotDown rfl (.inr ⟨_, rfl⟩)

/-- Nothing that happens to a pager lets slots overlap or caches shrink. -/
theorem fitted_upheld (config : Config) (made : Nat) :
    Upheld config (Fitted (φ := φ) config made) where
  pooled _ _ fitted := fitted.of_same rfl rfl
  pinned _ fitted := fitted.of_same rfl rfl
  filled _ _ fitted := fitted.of_same rfl rfl
  opened fitted opened := fitted.withDevice (fitted.spaced.opened opened)
  reread := by
    intro pager swap after page result fitted used loaded
    have spaced := fitted.spaced
    rw [used] at spaced
    exact fitted.withSwap (loaded.spaced spaced)
  evicted _ fitted evicted := evicted.fitted fitted
  settled := by
    intro held pager pid entry contents _ fitted
    apply fitted.shotDown _ (tlbs_settle pager pid entry contents)
    obtain ⟨pool, tlbs, settled⟩ := exists_settle pager pid entry contents
    rw [settled]
  accessed _ _ fitted := fitted.of_same rfl rfl
  put := by
    intro held pager pid entry accounts fitted
    apply Ends.mono (putTranslation_ends accounts pid entry)
    intro result next told
    obtain ⟨tables, pool, tlbs, rfl, dropped, _⟩ := told
    exact fitted.shotDown rfl dropped
  deallocated := by
    intro pager pid fitted
    obtain ⟨pool, released⟩ := exists_releaseAll (pager.tables.removeAll pid).1
      { pager with tables := (pager.tables.removeAll pid).2 }
    simp only [Pager.deallocate, released, Pager.forgetTlb]
    split
    · exact fitted.of_same rfl rfl
    · next id _ =>
      have detached : (pager.tlbs.detach pid).Sized config.tlbEntries := fitted.sized
      exact ⟨fitted.spaced, detached.change id Tlb.size_invalidateAll,
        fitted.made_le.trans_eq (TlbBank.size_change _).symm⟩
  started := by
    intro held pager pid stackTop accounts fitted
    constructor
    case spaced => exact fitted.spaced
    case sized =>
      rw [UserProcess.start, accounts.config_eq]
      exact fitted.sized.make
    case made_le =>
      apply fitted.made_le.trans
      simp only [UserProcess.start, TlbBank.attach, TlbBank.make, Array.size_push, Nat.le_succ]
  terminated := by
    intro pager fitted
    have forgotten : Fitted config made { pager with tlbs := pager.tlbs.detachAll } :=
      ⟨fitted.spaced, fitted.sized, fitted.made_le⟩
    simp only [Pager.terminate, ends_bind, ends_modify, ends_get]
    split
    · exact forgotten
    · next swap used =>
      have spaced := forgotten.spaced
      rw [used] at spaced
      refine (ends_onSwap (by exact used)).mpr ?_
      rw [ends_causing]
      apply Ends.mono SwapFile.terminate_ends
      intro result after same
      exact forgotten.withSwap (SwapFile.Spaced.of_same spaced same.1 same.2.1)
  cached id entry fitted := ⟨fitted.spaced, fitted.sized.install id entry,
    fitted.made_le.trans_eq TlbBank.size_install.symm⟩
  changed id step keeps fitted := ⟨fitted.spaced, fitted.sized.change id keeps,
    fitted.made_le.trans_eq (TlbBank.size_change step).symm⟩
  disturbed files fitted := fitted.withDevice (fitted.spaced.withFiles files)

end Pager

end VirtualMemory
