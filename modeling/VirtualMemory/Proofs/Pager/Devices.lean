/-
Module: VirtualMemory.Proofs.Pager.Devices
Purpose: What making the swap file, writing pages and reading them do not change of the swap
  device, no operation of the pager and no process changes.
Main exports:
  SwapDevice.Lasting; Evicted.lasting, Obtained.lasting, Restored.lasting,
  BroughtBack.lasting, Backed.lasting; keeps_lasting, upheld_of_lasting

The swap device is behind everything that pages, but it is only used in three ways. Forgetting
slots, deleting the file and what happens to files from outside are none of them.
-/
import VirtualMemory.Proofs.Pager.Upheld

namespace VirtualMemory

open VirtualMemory.Action

variable {φ : Type} [FileSystem φ]

/-- A property of swap devices that lasts as long as the device is only used: a swap file is made
with a name, and pages are written and read. -/
structure SwapDevice.Lasting (name : String) (holds : SwapDevice φ → Prop) : Prop where
  opened : ∀ {device next : SwapDevice φ} {result}, holds device →
    device.opened name = (result, next) → holds next
  wrote : ∀ {swap after : SwapFile φ} {page readOnly contents result}, holds (.inUse swap) →
    page.vpn ≤ lastPage → swap.Wrote page readOnly contents result after → holds (.inUse after)
  loaded : ∀ {swap after : SwapFile φ} {page result}, holds (.inUse swap) →
    swap.Loaded page result after → holds (.inUse after)

namespace Pager

variable {pager after : Pager φ} {config : Config} {held : Finset Ppn} {page : PageId}
  {ppn : Ppn} {holds : SwapDevice φ → Prop}

omit [FileSystem φ] in
@[simp] theorem device_settle (pager : Pager φ) (pid : Pid) (entry : TranslationEntry)
    (contents : Page) : (pager.settle pid entry contents).device = pager.device := by
  obtain ⟨pool, tlbs, settled⟩ := exists_settle pager pid entry contents
  rw [settled]

theorem Evicted.lasting {result : Except PagingError Ppn} (evicted : Evicted pager result after)
    (lasting : SwapDevice.Lasting config.swapFile holds) (accounts : Accounts config held pager)
    (before : holds pager.device) : holds after.device := by
  have opens : ∀ {result device},
      pager.device.opened pager.config.swapFile = (result, device) → holds device := by
    intro result device opened
    rw [accounts.config_eq] at opened
    exact lasting.opened before opened
  cases evicted with
  | refused => exact before
  | withoutFile opened | withoutVictim opened => exact opens opened
  | unwritten opened _ found _ _ wrote | written opened _ found _ _ wrote =>
    exact lasting.wrote (opens opened) (accounts.tables.inside_of_get found) wrote

theorem Obtained.lasting {result : Except PagingError Ppn} (obtained : Obtained pager result after)
    (lasting : SwapDevice.Lasting config.swapFile holds) (accounts : Accounts config held pager)
    (before : holds pager.device) : holds after.device := by
  cases obtained with
  | fromPool =>
    rw [device_requestReclaim]
    exact before
  | byEviction _ evicted =>
    rw [device_requestReclaim]
    exact evicted.lasting lasting accounts before
  | failed _ evicted => exact evicted.lasting lasting accounts before

theorem Restored.lasting {result : Except PagingError (Option TranslationEntry)}
    (restored : Restored pager page ppn result after)
    (lasting : SwapDevice.Lasting config.swapFile holds) (before : holds pager.device) :
    holds after.device := by
  cases restored with
  | unread used loaded | outside _ used loaded => exact lasting.loaded (used ▸ before) loaded
  | mapped _ used loaded =>
    rw [device_settle]
    exact lasting.loaded (used ▸ before) loaded

theorem BroughtBack.lasting {result : Except PagingError (Option TranslationEntry)}
    (broughtBack : BroughtBack pager page result after)
    (lasting : SwapDevice.Lasting config.swapFile holds) (accounts : Accounts config held pager)
    (before : holds pager.device) : holds after.device := by
  cases broughtBack with
  | resident | neverWritten => exact before
  | noFrame _ _ obtained => exact obtained.lasting lasting accounts before
  | failed _ _ obtained restored | loaded _ obtained restored =>
    exact restored.lasting lasting (obtained.lasting lasting accounts before)

theorem Backed.lasting {readOnly : Bool} {result : Except PagingError TranslationEntry}
    (backed : Backed pager page readOnly result after)
    (lasting : SwapDevice.Lasting config.swapFile holds) (accounts : Accounts config held pager)
    (before : holds pager.device) : holds after.device := by
  cases backed with
  | outside => exact before
  | noFrame _ obtained => exact obtained.lasting lasting accounts before
  | fresh _ obtained =>
    rw [device_settle]
    exact obtained.lasting lasting accounts before

/-- No process changes what lasts. -/
theorem keeps_lasting (process : UserProcess)
    (lasting : SwapDevice.Lasting config.swapFile holds) :
    process.Keeps fun pager => Accounts config held pager ∧ holds pager.device :=
  have keeps := Accounts.keeps (φ := φ) process config held
  { accounts := fun both => ⟨config, held, both.1⟩
    broughtBack := fun both how =>
      ⟨keeps.broughtBack both.1 how, how.lasting lasting both.1 both.2⟩
    backed := fun both how => ⟨keeps.backed both.1 how, how.lasting lasting both.1 both.2⟩
    cached := fun running both found => ⟨keeps.cached running both.1 found, both.2⟩
    accessed := fun both => ⟨keeps.accessed both.1, both.2⟩
    marked := fun both => ⟨keeps.marked both.1, both.2⟩
    dropped := fun both => ⟨keeps.dropped both.1, both.2⟩
    emptied := fun both => ⟨keeps.emptied both.1, both.2⟩
    pinned := fun both => ⟨keeps.pinned both.1, both.2⟩
    unpinned := fun both => ⟨keeps.unpinned both.1, both.2⟩
    stored := fun both same => ⟨keeps.stored both.1 same, both.2⟩ }

/-- What lasts whatever the swap file is called, and survives its end and whatever happens to
files, every operation of the pager upholds. -/
theorem upheld_of_lasting (lasting : ∀ name, SwapDevice.Lasting name holds)
    (ended : ∀ {swap : SwapFile φ}, holds (.inUse swap) →
      (SwapFile.terminate : Action (SwapFile φ) SwapError Unit).Ends swap
        fun _ after => holds (.inUse after))
    (disturbed : ∀ {device : SwapDevice φ} files, holds device → holds (device.withFiles files)) :
    Upheld config fun pager : Pager φ => holds pager.device where
  pooled _ _ before := before
  pinned _ before := before
  filled _ _ before := before
  opened before opened := (lasting _).opened before opened
  reread before used loaded := (lasting config.swapFile).loaded (used ▸ before) loaded
  evicted accounts before evicted := evicted.lasting (lasting _) accounts before
  settled := by
    intro held pager pid entry contents _ before
    rw [device_settle]
    exact before
  accessed _ _ before := before
  put := by
    intro held pager pid entry accounts before
    apply Ends.mono (putTranslation_ends accounts pid entry)
    intro result next told
    obtain ⟨tables, pool, tlbs, rfl, _⟩ := told
    exact before
  deallocated := by
    intro pager pid before
    obtain ⟨pool, tlbs, freed⟩ := exists_deallocate pager pid
    rw [freed]
    exact before
  started _ _ _ before := before
  terminated := by
    intro pager before
    simp only [Pager.terminate, ends_bind, ends_modify, ends_get]
    split
    · exact before
    · next swap used =>
      refine (ends_onSwap (by exact used)).mpr ?_
      rw [ends_causing]
      exact ended (used ▸ before)
  cached _ _ before := before
  changed _ _ _ before := before
  disturbed files before := disturbed files before

end Pager

end VirtualMemory
