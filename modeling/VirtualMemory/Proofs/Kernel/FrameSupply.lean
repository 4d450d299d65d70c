/-
Module: VirtualMemory.Proofs.Kernel.FrameSupply
Purpose: Where the frame comes from that a pager hands out, as long as swap can be used.
Main exports:
  Pager.SwapWorks, Pager.TakenFromPool, Pager.Vacated, Evicted.vacated; Pager.Supplied,
  Machine.frame_supply_exact

A frame comes from the pool, or a page leaves its frame for swap, and it fails only if there is
neither: no page at all, or none that is not pinned.
-/
import VirtualMemory.Proofs.Kernel.Reachable
import VirtualMemory.Proofs.Storage.Slots

namespace VirtualMemory

open VirtualMemory.Action FileSystem Eviction

variable {φ : Type} [FileSystem φ]

/-- A page that the file system takes in full is written. -/
theorem SwapFile.Wrote.ok_of_taken {swap after : SwapFile φ} {page : PageId} {readOnly : Bool}
    {contents : Page} {result : Except SwapError Unit} {handle : FileHandle}
    (wrote : swap.Wrote page readOnly contents result after)
    (isOpen : swap.handle = some handle)
    (taken : ((writeFile handle (swap.offsetFor page) contents.bytes).outcome swap.files).1 =
      .ok pageBytes) : result = .ok () := by
  cases wrote with
  | closed gone =>
    rw [isOpen] at gone
    cases gone
  | failed otherOpen wrote =>
    rw [isOpen] at otherOpen
    cases otherOpen
    rw [wrote] at taken
    cases taken
  | short otherOpen wrote torn =>
    rw [isOpen] at otherOpen
    cases otherOpen
    rw [wrote] at taken
    exact absurd (Except.ok.inj taken) torn
  | whole => rfl

namespace Pager

variable {pager after : Pager φ} {config : Config} {held : Finset Ppn} {made : Nat} {ppn : Ppn}
  {result : Except PagingError Ppn} {victim : Victim} {entry : TranslationEntry} {contents : Page}

/-- Swap can be used: the swap file is there or can be made, it is open, and it takes any page in
full. -/
def SwapWorks (pager : Pager φ) : Prop :=
  ∃ swap handle, pager.device.opened pager.config.swapFile = (.ok (), .inUse swap) ∧
    swap.handle = some handle ∧ ∀ page contents,
      ((writeFile handle (swap.offsetFor page) (Page.bytes contents)).outcome swap.files).1 =
        .ok pageBytes

/-- Without faults, swap can be used as long as the swap file is as the pager left it. -/
theorem swapWorks_of_faultless [ByteFiles φ] (sound : pager.device.Sound)
    (faultless : ByteFiles.Faultless φ) : pager.SwapWorks := by
  cases opened : pager.device.opened pager.config.swapFile with
  | mk result device =>
    cases SwapDevice.opened_of_faultless opened faultless
    obtain ⟨swap, rfl⟩ := SwapDevice.inUse_of_opened opened
    have made : swap.Sound := (SwapDevice.opened_kept opened sound).1
    obtain ⟨handle, _, isOpen, _, _⟩ := made.toLaid.exists_handle
    refine ⟨swap, handle, opened, isOpen, ?_⟩
    intro page contents
    exact SwapFile.written_of_faultless made.toLaid isOpen page contents faultless

/-! ### A frame of the pool -/

/-- A frame was free and is free no more, and all else is as it was. -/
structure TakenFromPool (pager : Pager φ) (ppn : Ppn) (after : Pager φ) : Prop where
  others : after =
    { pager with frames := after.frames, reclaimRequested := after.reclaimRequested }
  wasFree : pager.frames.isFree ppn = true
  free_iff : ∀ other, after.frames.isFree other = (pager.frames.isFree other && ppn != other)
  fewer : after.freeFrameCount + 1 = pager.freeFrameCount

omit [FileSystem φ] in
/-- A frame from the pool is taken from it, and that is all. -/
theorem takenFromPool {pool : FramePool} (accounts : Accounts config held pager)
    (taken : pager.frames.allocate = some (ppn, pool)) :
    pager.TakenFromPool ppn (requestReclaim { pager with frames := pool }) where
  others := by
    rw [requestReclaim]
    split <;> rfl
  wasFree := FramePool.isFree_of_allocate_self accounts.pool taken
  free_iff := by
    rw [frames_requestReclaim]
    exact FramePool.isFree_of_allocate taken
  fewer := by
    rw [freeFrameCount, frames_requestReclaim, freeFrameCount]
    simp only [FramePool.allocate] at taken
    split at taken
    · cases taken
    · next first rest listed =>
      cases taken
      rw [FramePool.freeCount, FramePool.freeCount, listed, List.length_cons]

/-! ### A frame that a page leaves -/

/-- A victim's page left its frame for its slot, and all else is as it was. -/
structure Vacated (pager : Pager φ) (victim : Victim) (after : Pager φ) : Prop where
  others : after =
    { pager with
      device := after.device
      policy := after.policy
      tables := after.tables
      tlbs := after.tlbs
      reclaimRequested := after.reclaimRequested
      evictions := pager.evictions + 1 }
  /-- The page is in no frame, the frame holds no page, and every other page is where it was. -/
  unmapped : after.tables.get victim.owner = none
  unowned : ∀ ppn, after.tables.owner ppn =
    if ppn = victim.frame then none else pager.tables.owner ppn
  elsewhere : ∀ page, page ≠ victim.owner → after.tables.get page = pager.tables.get page
  /-- The process of the page has no translation of it cached, and no other slot of a cache
  changed. -/
  dropped : pager.tlbs.DropsOnly victim.owner after.tlbs
  uncached : ∀ id tlb, pager.tlbs.attachedTo victim.owner.pid = some id →
    after.tlbs.unit id = some tlb → tlb.lookup victim.owner.vpn = none
  /-- The page has the slot that it had, or a new one, marked as its entry was. -/
  slot : ∃ entry offset, pager.tables.get victim.owner = some entry ∧
    entry.ppn = victim.frame ∧
    after.device.slot victim.owner = some { offset := offset, readOnly := entry.readOnly } ∧
    ∀ slot, pager.device.slot victim.owner = some slot → slot.offset = offset
  slots : ∀ page, page ≠ victim.owner → after.device.slot page = pager.device.slot page
  /-- The slot holds what the frame holds, and every other slot what it held. -/
  stored : ∀ [ByteFiles φ] [OpenFilesOnly φ], ∃ entry contents,
    pager.tables.get victim.owner = some entry ∧
    pager.memory.copyOut victim.frame = .ok contents ∧
    after.device.stored victim.owner = some ⟨contents, entry.readOnly⟩
  storedElsewhere : ∀ [ByteFiles φ] [OpenFilesOnly φ] (page : PageId), page ≠ victim.owner →
    after.device.stored page = pager.device.stored page

/-- A request for reclamation is nothing to a page that left. -/
theorem Vacated.requestReclaim (vacated : pager.Vacated victim after) :
    pager.Vacated victim (requestReclaim after) := by
  rw [Pager.requestReclaim]
  split
  · exact { vacated with others := congrArg (fun next : Pager φ =>
      { next with reclaimRequested := true }) vacated.others }
  · exact vacated

theorem vacated_of_wrote {swap last : SwapFile φ} (draws : Nat)
    (accounts : Accounts config held pager) (fitted : Fitted config made pager)
    (opened : pager.device.opened pager.config.swapFile = (.ok (), .inUse swap))
    (found : pager.tables.get victim.owner = some entry) (atFrame : entry.ppn = victim.frame)
    (copied : pager.memory.copyOut victim.frame = .ok contents)
    (wrote : swap.Wrote victim.owner entry.readOnly contents (.ok ()) last) :
    pager.Vacated victim
      { pager.shootDown victim.owner with
        device := .inUse last
        policy := pager.policy.after draws
        tables := (pager.tables.remove victim.owner).2
        evictions := pager.evictions + 1 } := by
  have sameSlot := SwapDevice.slot_opened opened
  have spaced : swap.Spaced := fitted.spaced.opened opened
  have slots : ∀ page, last.slot page =
      if victim.owner = page then
        some { offset := swap.offsetFor victim.owner, readOnly := entry.readOnly }
      else swap.slot page := by
    intro page
    cases wrote with
    | whole => exact SwapFile.slot_claim _ _ _ _
  constructor
  case others => rfl
  case unmapped => rw [PageTables.get_remove, if_pos rfl]
  case unowned =>
    intro ppn
    rw [PageTables.owner_remove accounts.tables]
    have alone : pager.tables.owner ppn = some victim.owner ↔ ppn = victim.frame := by
      rw [accounts.tables.owner_eq_some_iff, found, ← atFrame]
      simp only [Option.some.injEq, exists_eq_left', eq_comm]
    simp only [alone]
  case elsewhere =>
    intro page different
    rw [PageTables.get_remove, if_neg (Ne.symm different)]
  case dropped => exact TlbBank.dropsOnly_shootDown _ _
  case uncached =>
    intro id tlb attached present
    obtain ⟨_, _, _, dropped⟩ := TlbBank.unit_shootDown present
    exact Tlb.lookup_eq_none (dropped attached)
  case slot =>
    refine ⟨entry, swap.offsetFor victim.owner, found, atFrame, ?_, ?_⟩
    · rw [SwapDevice.slot_inUse, slots, if_pos rfl]
    · intro slot known
      rw [← sameSlot, SwapDevice.slot_inUse] at known
      rw [SwapFile.offsetFor, known]
  case slots =>
    intro page different
    rw [SwapDevice.slot_inUse, slots, if_neg (Ne.symm different), ← sameSlot,
      SwapDevice.slot_inUse]
  case stored =>
    intro _ _
    obtain ⟨bytes, holds⟩ := wrote.readable
    exact ⟨entry, contents, found, copied, wrote.stored_whole holds⟩
  case storedElsewhere =>
    intro _ _ page different
    obtain ⟨bytes, holds⟩ := wrote.readable
    rw [← SwapDevice.stored_opened opened]
    exact wrote.stored_apart spaced holds (Ne.symm different)

/-- As long as swap can be used, an eviction makes a page leave that is not pinned, and fails
only if there is none. -/
theorem Evicted.vacated (evicted : Evicted pager result after)
    (accounts : Accounts config held pager) (fitted : Fitted config made pager)
    (demand : pager.usesSwap = true) (works : pager.SwapWorks) :
    (∃ victim : Victim, victim.Eligible pager.tables pager.pins ∧ result = .ok victim.frame ∧
      pager.Vacated victim after) ∨
    (∀ ppn, evictable pager.tables pager.pins ppn = false) ∧
      result = .error (if pager.tables.residentCount = 0 then .outOfMemory
        else .evictionStalled pager.config.evictionRounds) := by
  obtain ⟨swap, handle, made, isOpen, takes⟩ := works
  cases evicted with
  | refused resident =>
    rw [resident] at demand
    cases demand
  | withoutFile opened =>
    rw [made] at opened
    cases opened
  | withoutVictim _ searched =>
    obtain ⟨pinned, same⟩ :=
      cause_of_selectVictim accounts.frameCount_pos accounts.rounds_ne_zero searched
    exact Or.inr ⟨pinned, congrArg Except.error same⟩
  | unwritten opened _ _ _ _ wrote =>
    rw [made] at opened
    cases opened
    cases wrote.ok_of_taken isOpen (takes _ _)
  | written opened eligible found atFrame copied wrote =>
    exact Or.inl ⟨_, eligible, rfl,
      vacated_of_wrote _ accounts fitted opened found atFrame copied wrote⟩

/-! ### Handing out a frame -/

/-- How handing out a frame ends, and what it leaves behind, told from what there was before. -/
structure Supplied (pager : Pager φ) (result : Except PagingError Ppn) (after : Pager φ) :
    Prop where
  fromPool : pager.freeFrameCount ≠ 0 →
    ∃ ppn, result = .ok ppn ∧ pager.TakenFromPool ppn after
  byEviction : pager.freeFrameCount = 0 →
    (∃ ppn, evictable pager.tables pager.pins ppn = true) →
      ∃ victim : Victim, victim.Eligible pager.tables pager.pins ∧ result = .ok victim.frame ∧
        pager.Vacated victim after
  nothingResident : pager.freeFrameCount = 0 → pager.residentPageCount = 0 →
    result = .error .outOfMemory
  allPinned : pager.freeFrameCount = 0 → pager.residentPageCount ≠ 0 →
    (∀ ppn, evictable pager.tables pager.pins ppn = false) →
      result = .error (.evictionStalled pager.config.evictionRounds)

omit [FileSystem φ] in
/-- Where no page is resident, no frame can be made free. -/
theorem evictable_eq_false_of_residentPageCount (none : pager.residentPageCount = 0)
    (ppn : Ppn) : evictable pager.tables pager.pins ppn = false := by
  rw [evictable, PageTables.residentCount_eq_zero_iff.mp none ppn]
  rfl

/-- With an empty pool, a frame comes from an eviction or not at all. -/
theorem supplied_of_empty (empty : pager.freeFrameCount = 0)
    (told : (∃ victim : Victim, victim.Eligible pager.tables pager.pins ∧
        result = .ok victim.frame ∧ pager.Vacated victim after) ∨
      (∀ ppn, evictable pager.tables pager.pins ppn = false) ∧
        result = .error (if pager.tables.residentCount = 0 then .outOfMemory
          else .evictionStalled pager.config.evictionRounds)) :
    pager.Supplied result after where
  fromPool full := absurd empty full
  byEviction _ some := by
    cases told with
    | inl evicted => exact evicted
    | inr failed =>
      obtain ⟨ppn, chosen⟩ := some
      rw [failed.1 ppn] at chosen
      cases chosen
  nothingResident _ none := by
    cases told with
    | inl evicted =>
      obtain ⟨victim, eligible, _⟩ := evicted
      have chosen := evictable_of_eligible eligible
      rw [evictable_eq_false_of_residentPageCount none] at chosen
      cases chosen
    | inr failed => exact failed.2.trans (congrArg Except.error (if_pos none))
  allPinned _ some pinned := by
    cases told with
    | inl evicted =>
      obtain ⟨victim, eligible, _⟩ := evicted
      have chosen := evictable_of_eligible eligible
      rw [pinned] at chosen
      cases chosen
    | inr failed => exact failed.2.trans (congrArg Except.error (if_neg some))

/-- However a frame is got, the supply is as told. -/
theorem Obtained.supplied (obtained : Obtained pager result after)
    (accounts : Accounts config held pager) (fitted : Fitted config made pager)
    (demand : pager.usesSwap = true) (works : pager.SwapWorks) : pager.Supplied result after := by
  cases obtained with
  | @fromPool ppn pool taken =>
    have full : pager.freeFrameCount ≠ 0 := by
      intro empty
      rw [FramePool.allocate_eq_none_iff.mpr empty] at taken
      cases taken
    exact {
      fromPool := fun _ => ⟨ppn, rfl, takenFromPool accounts taken⟩
      byEviction := fun empty => absurd empty full
      nothingResident := fun empty => absurd empty full
      allPinned := fun empty => absurd empty full }
  | byEviction empty evicted =>
    apply supplied_of_empty (FramePool.allocate_eq_none_iff.mp empty)
    cases evicted.vacated accounts fitted demand works with
    | inl left =>
      obtain ⟨victim, eligible, same, vacated⟩ := left
      exact Or.inl ⟨victim, eligible, same, vacated.requestReclaim⟩
    | inr failed => exact Or.inr failed
  | failed empty evicted =>
    apply supplied_of_empty (FramePool.allocate_eq_none_iff.mp empty)
    exact evicted.vacated accounts fitted demand works

end Pager

namespace Machine

open Pager

variable {machine : Machine φ} {config : Config}

/-- Whatever happened before, whoever holds frames and pins, and whatever the policy proposes: as
long as swap can be used, it is told from the pool, the tables and the pins where a frame comes
from, or why there is none. -/
theorem frame_supply_exact (reachable : machine.Reachable config)
    (demand : config.paging = .demand) (works : machine.kernel.pager.SwapWorks) :
    getFreeFrame.Ends machine.kernel.pager machine.kernel.pager.Supplied := by
  obtain ⟨⟨held, accounts⟩, fitted⟩ := reachable.fitted
  have swaps : machine.kernel.pager.usesSwap = true := by
    rw [usesSwap, accounts.config_eq, demand]
    rfl
  apply Ends.mono (getFreeFrame_ends accounts)
  intro result after obtained
  exact obtained.supplied accounts fitted swaps works

/-- A page has the only frame, and leaves it to whoever asks. -/
theorem frame_supply_exact_one_frame :
    ∃ kernel : Kernel EphemeralFiles,
      Kernel.boot .oneFrame .empty (.scripted []) (.seeded 0) = .ok kernel ∧
        let pager := (run { kernel := kernel } [.pager (.newPage ⟨1, 4⟩ false)]).kernel.pager
        pager.SwapWorks ∧ pager.freeFrameCount = 0 ∧
          evictable pager.tables pager.pins 0 = true ∧
          (getFreeFrame.outcome pager).1 = .ok 0 ∧
          getFreeFrame.Ends pager pager.Supplied := by
  refine ⟨_, rfl, swapWorks_of_faultless trivial trivial, by decide +kernel,
    by decide +kernel, by decide +kernel, ?_⟩
  exact frame_supply_exact (.run (.boot
    (rfl : Kernel.boot .oneFrame EphemeralFiles.empty (.scripted []) (.seeded 0) = .ok _)) _) rfl
    (swapWorks_of_faultless trivial trivial)

end Machine

end VirtualMemory
