/-
Module: VirtualMemory.Proofs.Kernel.FailedEviction
Purpose: An operation that fails for want of a frame leaves every page where it was.
Main exports:
  SwapFile.Torn, Wrote.torn; Pager.Traces, Pager.Unharmed, Evicted.unharmed,
  Machine.failed_eviction_changes_nothing

An eviction goes through swap, policy, pins, caches, file and tables one after another, and may
end between any two of them. What it may leave behind is little: the swap file that it made, the
policy's next proposals, a cached translation less, and bytes where no other page has its slot.
-/
import VirtualMemory.Proofs.Kernel.Reachable
import VirtualMemory.Proofs.Storage.Slots

namespace VirtualMemory

open VirtualMemory.Action FileSystem

variable {φ : Type} [FileSystem φ]

/-! ### A page that is not written out in full -/

namespace SwapFile

variable {swap after : SwapFile φ} {page : PageId} {contents : Page}

/-- What is left of a swap file to which a page was written in part, or not at all. -/
structure Torn (swap : SwapFile φ) (page : PageId) (after : SwapFile φ) : Prop where
  /-- Name, handle and slots are as they were. -/
  same : after = { swap with files := after.files }
  /-- The file system was asked to write the bytes of one page to one place, if anything. -/
  asked : after.files = swap.files ∨ ∃ handle contents, swap.handle = some handle ∧
    after.files =
      ((writeFile handle (swap.offsetFor page) (Page.bytes contents)).outcome swap.files).2
  /-- This place is the page's own slot, or lies past all slots. -/
  place : (∃ slot, swap.slot page = some slot ∧ swap.offsetFor page = slot.offset) ∨
    swap.slot page = none ∧ swap.offsetFor page = swap.finish ∧
      ∀ other slot, swap.slot other = some slot → slot.offset + pageBytes ≤ swap.offsetFor page
  apart : ∀ {other slot}, swap.slot other = some slot → page ≠ other →
    swap.offsetFor page + pageBytes ≤ slot.offset ∨
      slot.offset + pageBytes ≤ swap.offsetFor page
  /-- Where the file system keeps the bytes of files, all others are as they were. -/
  kept : ∀ [ByteFiles φ] {bytes}, swap.contents = some bytes →
    ∃ next, after.contents = some next ∧ ∀ position,
      position < swap.offsetFor page ∨ swap.offsetFor page + pageBytes ≤ position →
        next.byteAt position = bytes.byteAt position

theorem Wrote.torn {readOnly : Bool} {cause : SwapError}
    (wrote : swap.Wrote page readOnly contents (.error cause) after) (spaced : swap.Spaced) :
    swap.Torn page after := by
  have place := @spaced.offsetFor_cases φ swap page
  cases wrote with
  | closed gone =>
    exact {
      same := rfl
      asked := Or.inl rfl
      place := place
      apart := spaced.offsetFor_apart
      kept := fun holds => ⟨_, holds, fun _ _ => rfl⟩ }
  | failed isOpen wrote | short isOpen wrote =>
    exact {
      same := rfl
      asked := Or.inr ⟨_, contents, isOpen, by rw [wrote]⟩
      place := place
      apart := spaced.offsetFor_apart
      kept := fun holds => by
        obtain ⟨next, now, _, same, _⟩ :=
          (written_ends isOpen holds page contents).outcome wrote
        exact ⟨next, (contents_withFiles isOpen _).trans now, same⟩ }

end SwapFile

/-! ### What a failure leaves behind -/

namespace Pager

variable {pager after : Pager φ} {config : Config} {made : Nat} {cause : PagingError}

/-- What a failed eviction may have done to the swap device and to the caches. -/
inductive Traces (pager : Pager φ) : SwapDevice φ → TlbBank → Prop where
  | nothing : Traces pager pager.device pager.tlbs
  /-- There is a swap file now, still empty, in place of any other file of its name; or it could
  not be made. -/
  | opened {result : Except SwapError Unit} {device : SwapDevice φ}
      (opened : pager.device.opened pager.config.swapFile = (result, device)) :
      Traces pager device pager.tlbs
  /-- The cache of its process has dropped the translation of a page that may be evicted, and the
  page was not written out in full. -/
  | torn {swap after : SwapFile φ} {victim : Victim} {tlbs : TlbBank}
      (opened : pager.device.opened pager.config.swapFile = (.ok (), .inUse swap))
      (eligible : victim.Eligible pager.tables pager.pins)
      (dropped : pager.tlbs.DropsOnly victim.owner tlbs)
      (torn : swap.Torn victim.owner after) : Traces pager (.inUse after) tlbs

/-- What a failed eviction leaves of a pager. -/
structure Unharmed (pager after : Pager φ) : Prop where
  /-- Page tables, core map, pool, pins, contents of frames and counts are as they were. -/
  same : after =
    { pager with device := after.device, policy := after.policy, tlbs := after.tlbs }
  policy : ∃ draws, after.policy = pager.policy.after draws
  /-- No slot is handed out, moved or marked otherwise. -/
  slots : ∀ page, after.device.slot page = pager.device.slot page
  traces : pager.Traces after.device after.tlbs

namespace Unharmed

theorem refl (pager : Pager φ) : pager.Unharmed pager where
  same := rfl
  policy := ⟨0, rfl⟩
  slots _ := rfl
  traces := .nothing

end Unharmed

theorem Evicted.unharmed (evicted : Evicted pager (.error cause) after)
    (fitted : Fitted config made pager) : pager.Unharmed after := by
  cases evicted with
  | refused => exact .refl pager
  | withoutFile opened =>
    exact {
      same := rfl
      policy := ⟨0, rfl⟩
      slots := SwapDevice.slot_opened opened
      traces := .opened opened }
  | withoutVictim opened =>
    exact {
      same := rfl
      policy := ⟨_, rfl⟩
      slots := SwapDevice.slot_opened opened
      traces := .opened opened }
  | unwritten opened eligible _ _ _ wrote =>
    have spaced := fitted.spaced.opened opened
    exact {
      same := rfl
      policy := ⟨_, rfl⟩
      slots := fun page => by
        rw [← SwapDevice.slot_opened opened, SwapDevice.slot_inUse, SwapDevice.slot_inUse,
          SwapFile.slot, wrote.slots_eq, SwapFile.slot]
      traces := .torn opened eligible (TlbBank.dropsOnly_shootDown _ _) (wrote.torn spaced) }

theorem Obtained.unharmed (obtained : Obtained pager (.error cause) after)
    (fitted : Fitted config made pager) : pager.Unharmed after := by
  cases obtained with
  | failed _ evicted => exact evicted.unharmed fitted

theorem Backed.unharmed {page : PageId} {readOnly : Bool}
    (backed : Backed pager page readOnly (.error cause) after)
    (fitted : Fitted config made pager) : pager.Unharmed after := by
  cases backed with
  | outside => exact .refl pager
  | noFrame _ obtained => exact obtained.unharmed fitted

end Pager

/-! ### Every machine -/

namespace Machine

open Pager

variable {machine : Machine φ} {config : Config}

/-- Whatever happened before, whichever frames are pinned, whatever the policy proposes and
however the file system fails: evicting a page, handing out a frame and backing a page leave
everything as it was when they fail, but for what a failed eviction leaves behind. -/
theorem failed_eviction_changes_nothing (reachable : machine.Reachable config) :
    (∀ cause after, evictPage.outcome machine.kernel.pager = (.error cause, after) →
      machine.kernel.pager.Unharmed after) ∧
    (∀ cause after, getFreeFrame.outcome machine.kernel.pager = (.error cause, after) →
      machine.kernel.pager.Unharmed after) ∧
    ∀ page readOnly cause after,
      (newPage page readOnly).outcome machine.kernel.pager = (.error cause, after) →
        machine.kernel.pager.Unharmed after := by
  obtain ⟨⟨held, accounts⟩, fitted⟩ := reachable.fitted
  refine ⟨?_, ?_, ?_⟩
  · intro cause after failed
    exact ((evictPage_ends accounts).outcome failed).unharmed fitted
  · intro cause after failed
    exact ((getFreeFrame_ends accounts).outcome failed).unharmed fitted
  · intro page readOnly cause after failed
    exact ((newPage_ends accounts page readOnly).outcome failed).unharmed fitted

/-- A process has the only frame, and the second page that is written out is cut short. -/
def crampedSwap : List (MachineCall (FaultyFiles EphemeralFiles)) :=
  [.kernel (.spawn 4), .pager (.newPage ⟨1, 4⟩ false), .pager (.newPage ⟨1, 3⟩ true)]

/-- Every way to a frame is closed, and the page that has it stays. -/
theorem failed_eviction_changes_nothing_one_frame :
    ∃ kernel : Kernel (FaultyFiles EphemeralFiles),
      Kernel.boot .oneFrame { base := .empty, onWrite := .after 1 (.shorten 9) } (.scripted [])
          (.seeded 0) = .ok kernel ∧
        let pager := (run { kernel := kernel } crampedSwap).kernel.pager
        (evictPage.outcome pager).1 = .error (.swap (.shortWrite 1024 9)) ∧
        (getFreeFrame.outcome pager).1 = .error (.swap (.shortWrite 1024 9)) ∧
        ((newPage ⟨2, 9⟩ false).outcome pager).1 = .error (.swap (.shortWrite 1024 9)) ∧
        ∀ page readOnly cause after, (newPage page readOnly).outcome pager =
          (.error cause, after) → pager.Unharmed after := by
  refine ⟨_, rfl, by decide +kernel, by decide +kernel, by decide +kernel, ?_⟩
  exact (failed_eviction_changes_nothing (.run (.boot
    (rfl : Kernel.boot .oneFrame
      ({ base := .empty, onWrite := .after 1 (.shorten 9) } : FaultyFiles EphemeralFiles)
      (.scripted []) (.seeded 0) = .ok _)) crampedSwap)).2.2

end Machine

end VirtualMemory
