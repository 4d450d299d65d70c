/-
Module: VirtualMemory.Proofs.Kernel.SwapIn
Purpose: A page comes back from swap in full, or nothing of it does.
Main exports:
  Pager.SlotsInside, slotsInside_upheld; Pager.Arrived, Restored.arrived; Pager.SwappedIn,
  loadFromSwap_swappedIn; Machine.swap_in_all_or_nothing

A page that comes back needs a frame, and another page may have to leave for it. It has left for
good when the page's own slot turns out not to be readable, and its frame is free then.
-/
import VirtualMemory.Proofs.Kernel.Departures
import VirtualMemory.Proofs.Kernel.Faults
import VirtualMemory.Proofs.Pager.Devices

namespace VirtualMemory

open VirtualMemory.Action FileSystem

variable {φ : Type} [FileSystem φ]

/-! ### Only pages of the address space have slots -/

/-- Only pages of the address space have slots. -/
def SwapDevice.SlotsInside (device : SwapDevice φ) : Prop :=
  ∀ page slot, device.slot page = some slot → page.vpn ≤ lastPage

namespace SwapDevice

omit [FileSystem φ] in
theorem SlotsInside.of_same {device next : SwapDevice φ} (inside : device.SlotsInside)
    (same : ∀ page, next.slot page = device.slot page) : next.SlotsInside :=
  fun page slot known => inside page slot ((same page).symm.trans known)

theorem slotsInside_lasting (name : String) : Lasting name (SlotsInside (φ := φ)) where
  opened inside opened := inside.of_same (slot_opened opened)
  wrote inside pageInside wrote page slot known := by
    rcases wrote.slot_cases known with ⟨rfl, _⟩ | before
    · exact pageInside
    · exact inside page slot before
  loaded inside loaded := inside.of_same fun page => by
    rw [slot_inUse, slot_inUse, SwapFile.slot, SwapFile.slot, loaded.slots_eq]

end SwapDevice

namespace Pager

variable {pager middle after : Pager φ} {config : Config} {held : Finset Ppn} {made : Nat}
  {ppn : Ppn} {page : PageId} {slot : SwapSlot} {entry : TranslationEntry}
  {left : List PageId} {cause : PagingError}

/-- All paging upholds that slots are inside the address space. -/
theorem slotsInside_upheld (config : Config) :
    Upheld config fun pager : Pager φ => pager.device.SlotsInside := by
  refine upheld_of_lasting SwapDevice.slotsInside_lasting (fun {swap} inside => ?_) ?_
  · refine SwapFile.terminate_ends.mono fun result after same => inside.of_same fun page => ?_
    rw [SwapDevice.slot_inUse, SwapDevice.slot_inUse, SwapFile.slot, SwapFile.slot, same.1]
  · intro device files inside
    refine inside.of_same fun page => ?_
    cases device <;> rfl

/-! ### A page that comes back -/

/-- The bytes of a page were read in full from its slot. Where the file system keeps the bytes of
files, they are what the slot held. -/
def ReadFrom (pager : Pager φ) (page : PageId) (slot : SwapSlot) (contents : Page) : Prop :=
  (∃ swap handle, pager.device = .inUse swap ∧ swap.handle = some handle ∧
    ((readFile handle slot.offset pageBytes).outcome swap.files).1 = .ok contents.bytes) ∧
  ∀ [ByteFiles φ] {view}, pager.device.stored page = some view →
    view = ⟨contents, slot.readOnly⟩

/-- A page came back from its slot to a frame of the pool. -/
structure Arrived (pager : Pager φ) (page : PageId) (slot : SwapSlot)
    (entry : TranslationEntry) (after : Pager φ) : Prop where
  /-- The entry is valid, not used and clean, and stores are refused as the slot says. -/
  entry_eq : entry =
    { vpn := page.vpn
      ppn := entry.ppn
      flags := { valid := true, readOnly := slot.readOnly, used := false, dirty := false } }
  /-- Pins, caches, policy and configuration are as they were. -/
  others : after =
    { pager with
      memory := after.memory
      device := after.device
      tables := after.tables
      frames := after.frames
      reclaimRequested := after.reclaimRequested }
  wasFree : pager.frames.isFree entry.ppn = true
  isFree_iff : ∀ ppn, after.frames.isFree ppn = true ↔
    pager.frames.isFree ppn = true ∧ entry.ppn ≠ ppn
  get_eq : ∀ other, after.tables.get other =
    if page = other then some entry else pager.tables.get other
  owner_eq : ∀ ppn, after.tables.owner ppn =
    if entry.ppn = ppn then some page else pager.tables.owner ppn
  filled : ∃ contents, after.memory.copyOut entry.ppn = .ok contents ∧
    pager.ReadFrom page slot contents
  memory : ∀ ppn, entry.ppn ≠ ppn → after.memory.copyOut ppn = pager.memory.copyOut ppn
  slots : ∀ other, after.device.slot other = pager.device.slot other
  stored : ∀ [ByteFiles φ] {other view}, pager.device.stored other = some view →
    after.device.stored other = some view

/-- What reading does to a swap device. -/
theorem slot_of_loaded {swap last : SwapFile φ} {result : Except SwapError (Option (Page × Bool))}
    (used : pager.device = .inUse swap) (loaded : swap.Loaded page result last) (other : PageId) :
    (SwapDevice.inUse last).slot other = pager.device.slot other := by
  rw [used, SwapDevice.slot_inUse, SwapDevice.slot_inUse, SwapFile.slot, SwapFile.slot,
    loaded.slots_eq]

/-- A load changes nothing that is stored. -/
theorem stored_of_loaded [ByteFiles φ] {swap last : SwapFile φ}
    {result : Except SwapError (Option (Page × Bool))} {other : PageId} {view : PageView}
    (used : pager.device = .inUse swap) (loaded : swap.Loaded page result last)
    (before : pager.device.stored other = some view) :
    (SwapDevice.inUse last).stored other = some view := by
  rw [used] at before
  obtain ⟨bytes, holds⟩ := SwapFile.exists_contents_of_stored before
  exact (loaded.stored_same holds other).trans before

/-- What is loaded of a page was read from its slot. -/
theorem readFrom_of_loaded {swap last : SwapFile φ} {contents : Page} {readOnly : Bool}
    (used : pager.device = .inUse swap) (known : pager.device.slot page = some slot)
    (loaded : swap.Loaded page (.ok (some (contents, readOnly))) last) :
    pager.ReadFrom page slot contents ∧ readOnly = slot.readOnly := by
  rw [used, SwapDevice.slot_inUse] at known
  have same : readOnly = slot.readOnly ∧ ∃ handle, swap.handle = some handle ∧
      ((readFile handle slot.offset pageBytes).outcome swap.files).1 = .ok contents.bytes := by
    cases loaded with
    | whole found isOpen read =>
      rw [known] at found
      cases found
      exact ⟨rfl, _, isOpen, congrArg Prod.fst read⟩
  obtain ⟨rfl, handle, isOpen, read⟩ := same
  refine ⟨⟨⟨swap, handle, used, isOpen, read⟩, ?_⟩, rfl⟩
  intro _ view before
  rw [used] at before
  obtain ⟨bytes, holds⟩ := SwapFile.exists_contents_of_stored before
  have stored : swap.stored page = some ⟨contents, slot.readOnly⟩ := loaded.stored_read holds
  exact Option.some.inj (before.symm.trans stored)

/-- A page that is restored to a frame just taken from the pool has arrived. -/
theorem Restored.arrived {pool : FramePool} {requested : Bool}
    (restored : Restored { middle with frames := pool, reclaimRequested := requested } page ppn
      (.ok (some entry)) after)
    (taken : middle.frames.allocate = some (ppn, pool))
    (accounts : Accounts config held middle) (absent : middle.tables.get page = none)
    (known : middle.device.slot page = some slot) : middle.Arrived page slot entry after := by
  have wasFree := FramePool.isFree_of_allocate_self accounts.pool taken
  have inside := accounts.isFree_lt wasFree
  cases restored with
  | @mapped swap last contents readOnly _ used loaded =>
    have sameDevice : middle.device = .inUse swap := used
    obtain ⟨readFrom, rfl⟩ := readFrom_of_loaded sameDevice known loaded
    rw [settle_of_absent absent]
    constructor
    case entry_eq => rfl
    case others => rfl
    case wasFree => exact wasFree
    case isFree_iff =>
      intro other
      rw [FramePool.isFree_of_allocate taken, Bool.and_eq_true, bne_iff_ne]
      rfl
    case get_eq =>
      intro other
      rw [PageTables.get_replace, TranslationEntry.page_fresh]
    case owner_eq =>
      intro other
      have notOwned : middle.tables.owner other ≠ some page := by
        intro owned
        obtain ⟨old, found, _⟩ := accounts.tables.get_of_owner owned
        rw [absent] at found
        cases found
      rw [PageTables.owner_replace accounts.tables (accounts.size_tables.symm ▸ inside),
        TranslationEntry.page_fresh, if_neg notOwned]
    case filled =>
      refine ⟨contents, ?_, readFrom⟩
      simp [PhysicalMemory.copyOut, PhysicalMemory.store, TranslationEntry.fresh,
        Array.getElem?_setIfInBounds_self_of_lt (accounts.size_memory.symm ▸ inside)]
    case memory =>
      intro other different
      simp only [PhysicalMemory.copyOut, PhysicalMemory.store,
        Array.getElem?_setIfInBounds_ne different]
    case slots => exact slot_of_loaded sameDevice loaded
    case stored => exact stored_of_loaded sameDevice loaded

/-! ### How bringing a page back ends -/

/-- A page is in memory again, as its slot has it, and its slot is kept. For its frame one other
page may have left. -/
structure CameBack (pager : Pager φ) (page : PageId) (slot : SwapSlot)
    (entry : TranslationEntry) (after : Pager φ) : Prop where
  entry_eq : entry =
    { vpn := page.vpn
      ppn := entry.ppn
      flags := { valid := true, readOnly := slot.readOnly, used := false, dirty := false } }
  get_eq : after.tables.get page = some entry
  slot_eq : after.device.slot page = some slot
  holds : ∀ [ByteFiles φ] {view}, pager.device.stored page = some view →
    after.memory.copyOut entry.ppn = .ok view.contents ∧ after.device.stored page = some view
  steps : ∃ left middle, left.length ≤ 1 ∧ pager.Departed left none middle ∧
    middle.Arrived page slot entry after

/-- A page is in swap still, and nothing else has changed but that one other page may have left,
whose frame is free. -/
structure StayedAway (pager : Pager φ) (page : PageId) (slot : SwapSlot) (after : Pager φ) :
    Prop where
  absent : after.tables.get page = none
  slot_eq : after.device.slot page = some slot
  holds : ∀ [ByteFiles φ] {view}, pager.device.stored page = some view →
    after.device.stored page = some view
  steps : ∃ left torn, left.length ≤ 1 ∧ page ∉ left ∧ pager.Departed left torn after

/-- What bringing back a page that is in swap answers, as it is told beforehand. -/
def swapInAnswer (pager : Pager φ) (page : PageId) : Except PagingError Unit :=
  match getFreeFrame.outcome pager with
  | (.error cause, _) => .error cause
  | (.ok _, middle) =>
      match middle.slotFailure page with
      | some cause => .error (.swapRead page cause)
      | none => .ok ()

/-- Everything that bringing a page back can do. -/
structure SwappedIn (pager : Pager φ) (page : PageId)
    (result : Except PagingError (Option TranslationEntry)) (after : Pager φ) : Prop where
  resident : ∀ entry, pager.tables.get page = some entry →
    result = .ok (some entry) ∧ after = pager
  slotless : pager.tables.get page = none → pager.device.slot page = none →
    result = .ok none ∧ after = pager
  cameBack : ∀ slot found, pager.tables.get page = none → pager.device.slot page = some slot →
    result = .ok found → ∃ entry, found = some entry ∧ pager.CameBack page slot entry after
  stayedAway : ∀ slot cause, pager.tables.get page = none →
    pager.device.slot page = some slot → result = .error cause → pager.StayedAway page slot after
  answer : pager.tables.get page = none → (pager.device.slot page).isSome = true →
    result.map (fun _ => ()) = pager.swapInAnswer page
  swapRead_iff : ∀ target cause, result = .error (.swapRead target cause) ↔
    pager.tables.get page = none ∧ (pager.device.slot page).isSome = true ∧ target = page ∧
      ∃ ppn middle, getFreeFrame.outcome pager = (.ok ppn, middle) ∧
        middle.slotFailure page = some cause
  pins_eq : after.pins = pager.pins

/-- A page that was not there stays away while others depart. -/
theorem Departed.stayedAway {torn : Option PageId} (departed : pager.Departed left torn after)
    (few : left.length ≤ 1) (absent : pager.tables.get page = none)
    (known : pager.device.slot page = some slot) : pager.StayedAway page slot after := by
  have stays := departed.notMem_of_absent absent
  constructor
  case absent =>
    rw [Option.eq_none_iff_forall_ne_some]
    intro entry found
    rw [((departed.get_iff page entry).mp found).1] at absent
    cases absent
  case slot_eq => exact (departed.slots page stays).trans known
  case holds => exact fun before => departed.stored stays (departed.torn_ne_of_absent absent) before
  case steps => exact ⟨left, torn, few, stays, departed⟩

/-- A page that arrives after others departed has come back. -/
theorem Arrived.cameBack (departed : pager.Departed left none middle) (few : left.length ≤ 1)
    (arrived : middle.Arrived page slot entry after) (absent : pager.tables.get page = none)
    (known : pager.device.slot page = some slot) : pager.CameBack page slot entry after := by
  have stayed := departed.stayedAway few absent known
  constructor
  case entry_eq => exact arrived.entry_eq
  case get_eq => rw [arrived.get_eq, if_pos rfl]
  case slot_eq => exact (arrived.slots page).trans stayed.slot_eq
  case holds =>
    intro _ view before
    obtain ⟨contents, copied, readFrom⟩ := arrived.filled
    obtain rfl := readFrom.2 (stayed.holds before)
    exact ⟨copied, arrived.stored (stayed.holds before)⟩
  case steps => exact ⟨left, middle, few, departed, arrived⟩

omit [FileSystem φ] in
theorem swapContains_eq : pager.swapContains page = (pager.device.slot page).isSome := by
  cases used : pager.device with
  | unused files => simp only [swapContains, used, SwapDevice.slot, SwapDevice.swap?]; rfl
  | inUse swap =>
    simp only [swapContains, used, SwapDevice.swap?, SwapDevice.slot_inUse,
      SwapFile.contains_eq_isSome]

/-- A frame that could not be had is not the fault of any slot that should be read. -/
theorem Obtained.ne_swapRead (obtained : Obtained pager (.error cause) after)
    (accounts : Accounts config held pager) (target : PageId) (reason : SwapError) :
    cause ≠ .swapRead target reason := by
  rintro rfl
  have told : UserProcess.pageInFailure target (.swapRead target reason) =
      .kernel (.swapRead target reason) :=
    UserProcess.pageInFailure_of_obtained obtained accounts
  cases told

/-- The frame that was handed out, if one was, is the only one that there is to tell of. -/
theorem slotFailure_iff_of_asked (asked : getFreeFrame.outcome pager = (.ok ppn, middle))
    (reason : SwapError) :
    (∃ ppn middle, getFreeFrame.outcome pager = (.ok ppn, middle) ∧
      middle.slotFailure page = some reason) ↔ middle.slotFailure page = some reason := by
  simp only [asked, Prod.mk.injEq, Except.ok.injEq]
  constructor
  · rintro ⟨_, _, ⟨rfl, rfl⟩, failed⟩
    exact failed
  · exact fun failed => ⟨ppn, middle, ⟨rfl, rfl⟩, failed⟩

/-- A frame that is given back when a slot was not read leaves the pool as it was. -/
theorem Restored.departed_of_failed {pool next : FramePool} {requested : Bool}
    (restored : Restored { middle with frames := pool, reclaimRequested := requested } page ppn
      (.error cause) after)
    (inside : page.vpn ≤ lastPage) (taken : middle.frames.allocate = some (ppn, pool))
    (sound : middle.frames.Sound) (released : after.frames.release ppn = .ok next) :
    middle.Departed [] none { after with frames := next } := by
  have whole := FramePool.release_of_allocate sound taken
  cases restored with
  | outside beyond => exact absurd inside (UInt32.not_le.mpr beyond)
  | @unread swap last _ used loaded =>
    have sameDevice : middle.device = .inUse swap := used
    have same : pool.release ppn = .ok next := released
    rw [whole] at same
    cases same
    exact .of_nobody (by simp) (slot_of_loaded sameDevice loaded)
      fun _ before => stored_of_loaded sameDevice loaded before

/-- A page that is in swap ends up in memory or stays away, and it is told beforehand which. -/
theorem swappedIn_of_known {result : Except PagingError (Option TranslationEntry)}
    (absent : pager.tables.get page = none) (known : pager.device.slot page = some slot)
    (cameBack : ∀ found, result = .ok found →
      ∃ entry, found = some entry ∧ pager.CameBack page slot entry after)
    (stayedAway : ∀ cause, result = .error cause → pager.StayedAway page slot after)
    (answer : result.map (fun _ => ()) = pager.swapInAnswer page)
    (ownFailure : ∀ target cause, result = .error (.swapRead target cause) ↔ target = page ∧
      ∃ ppn middle, getFreeFrame.outcome pager = (.ok ppn, middle) ∧
        middle.slotFailure page = some cause)
    (pins_eq : after.pins = pager.pins) : pager.SwappedIn page result after where
  resident entry found := by
    rw [absent] at found
    cases found
  slotless _ unknown := by
    rw [known] at unknown
    cases unknown
  cameBack other found _ same done := by
    rw [known] at same
    cases same
    exact cameBack found done
  stayedAway other cause _ same failed := by
    rw [known] at same
    cases same
    exact stayedAway cause failed
  answer _ _ := answer
  swapRead_iff target cause := by
    rw [ownFailure, and_iff_right absent, known, and_iff_right Option.isSome_some]
  pins_eq := pins_eq

/-- A page that is in memory, or nowhere, is answered and nothing happens. -/
theorem swappedIn_of_unneeded {answer : Option TranslationEntry}
    (told : answer = pager.tables.get page)
    (needless : answer = none → pager.device.slot page = none) :
    pager.SwappedIn page (.ok answer) pager := by
  subst told
  have settled : ∀ {slot}, pager.tables.get page = none → pager.device.slot page ≠ some slot := by
    intro slot absent
    rw [needless absent]
    exact (Option.some_ne_none slot).symm
  constructor
  case resident => exact fun entry found => ⟨congrArg Except.ok found, rfl⟩
  case slotless => exact fun absent _ => ⟨congrArg Except.ok absent, rfl⟩
  case cameBack => exact fun slot found absent known => absurd known (settled absent)
  case stayedAway => exact fun slot cause absent known => absurd known (settled absent)
  case answer =>
    intro absent known
    obtain ⟨slot, known⟩ := Option.isSome_iff_exists.mp known
    exact absurd known (settled absent)
  case swapRead_iff =>
    refine fun target cause => iff_of_false nofun ?_
    rintro ⟨absent, known, _⟩
    obtain ⟨slot, known⟩ := Option.isSome_iff_exists.mp known
    exact settled absent known
  case pins_eq => rfl

/-- However a page is brought back, it came back from its slot, stays away, or was never saved. -/
theorem BroughtBack.swappedIn {result : Except PagingError (Option TranslationEntry)}
    (broughtBack : BroughtBack pager page result after) (accounts : Accounts config held pager)
    (fitted : Fitted config made pager) (inside : pager.device.SlotsInside) :
    pager.SwappedIn page result after := by
  cases broughtBack with
  | resident found => exact swappedIn_of_unneeded found.symm nofun
  | neverWritten absent unknown =>
    rw [swapContains_eq, Option.isSome_eq_false_iff, Option.isNone_iff_eq_none] at unknown
    exact swappedIn_of_unneeded absent.symm fun _ => unknown
  | @noFrame cause _ absent known obtained asked =>
    rw [swapContains_eq] at known
    obtain ⟨slot, known⟩ := Option.isSome_iff_exists.mp known
    have away : pager.StayedAway page slot after ∧ after.pins = pager.pins := by
      cases obtained with
      | failed _ evicted =>
        obtain ⟨torn, departed⟩ := evicted.departed_of_failed fitted
        exact ⟨departed.stayedAway (Nat.zero_le 1) absent known, departed.pins_eq⟩
    refine swappedIn_of_known absent known nofun (fun _ _ => away.1) ?_ ?_ away.2
    · simp only [swapInAnswer, asked]
      rfl
    · intro target reason
      refine iff_of_false (fun same => ?_) ?_
      · exact obtained.ne_swapRead accounts target reason (Except.error.inj same)
      · rintro ⟨_, ppn, middle, handed, _⟩
        rw [asked] at handed
        cases handed
  | failed absent known obtained restored released asked =>
    obtain ⟨swap, used, there⟩ := swapContains_iff.mp (obtained.swapContains known)
    rw [swapContains_eq] at known
    obtain ⟨slot, known⟩ := Option.isSome_iff_exists.mp known
    obtain ⟨left, before, pool, requested, few, departed, books, taken, rfl⟩ :=
      obtained.departed accounts fitted
    have away := departed.trans
      (restored.departed_of_failed (inside page slot known) taken books.pool released)
    rw [List.append_nil] at away
    cases restored with
    | outside beyond => exact absurd (inside page slot known) (UInt32.not_le.mpr beyond)
    | @unread _ _ cause sameSwap loaded =>
      rw [used] at sameSwap
      cases sameSwap
      have unread := loaded.slotFailure_eq used there
      refine swappedIn_of_known absent known nofun
        (fun _ _ => away.stayedAway few absent known) ?_ ?_ away.pins_eq
      · simp only [swapInAnswer, asked, unread]
        rfl
      · intro target reason
        rw [slotFailure_iff_of_asked asked, unread, Except.error.injEq,
          PagingError.swapRead.injEq, Option.some.injEq, eq_comm (a := page)]
  | loaded absent obtained restored known asked =>
    obtain ⟨swap, used, there⟩ := swapContains_iff.mp (obtained.swapContains known)
    rw [swapContains_eq] at known
    obtain ⟨slot, known⟩ := Option.isSome_iff_exists.mp known
    obtain ⟨left, before, pool, requested, few, departed, books, taken, rfl⟩ :=
      obtained.departed accounts fitted
    have stayed := departed.stayedAway few absent known
    have arrived := restored.arrived taken books stayed.absent stayed.slot_eq
    have back := arrived.cameBack departed few absent known
    have read : Pager.slotFailure
        { before with frames := pool, reclaimRequested := requested } page = none := by
      cases restored with
      | mapped _ sameSwap loaded =>
        rw [used] at sameSwap
        cases sameSwap
        exact loaded.slotFailure_eq used there
    refine swappedIn_of_known absent known ?_ nofun ?_ ?_ ?_
    · rintro found ⟨⟩
      exact ⟨_, rfl, back⟩
    · simp only [swapInAnswer, asked, read]
      rfl
    · intro target reason
      rw [slotFailure_iff_of_asked asked, read]
      exact iff_of_false nofun nofun
    · exact (congrArg Pager.pins arrived.others).trans departed.pins_eq

end Pager

namespace Machine

open Pager

variable {machine : Machine φ} {config : Config}

/-- Whatever happened before and however the file system fails: a page is brought back in full or
not at all, and it is told beforehand which. A page that is in memory or has no slot costs
nothing. -/
theorem swap_in_all_or_nothing (reachable : machine.Reachable config) (page : PageId) :
    (loadFromSwap page).Ends machine.kernel.pager (machine.kernel.pager.SwappedIn page) := by
  obtain ⟨⟨held, accounts⟩, fitted⟩ := reachable.fitted
  have inside := (reachable.standing (slotsInside_upheld config) fun booted => by
    obtain ⟨_, rfl⟩ := eq_of_boot booted
    exact nofun).holds
  apply Ends.mono (loadFromSwap_ends accounts page)
  intro result after broughtBack
  exact broughtBack.swappedIn accounts fitted inside

/-- Swap is written but never read back. The page in the only frame leaves for one that cannot
be read, and the frame is free then. -/
theorem swap_in_all_or_nothing_one_frame :
    ∃ kernel : Kernel (FaultyFiles EphemeralFiles),
      Kernel.boot .oneFrame { base := .empty, onRead := .after 0 (.fail .noSpace) }
          (.scripted []) (.seeded 0) = .ok kernel ∧
        let calls : List (MachineCall (FaultyFiles EphemeralFiles)) :=
          [.pager (.newPage ⟨1, 4⟩ true), .pager (.newPage ⟨1, 3⟩ false)]
        let before := (run { kernel := kernel } calls).kernel.pager
        let loaded := (loadFromSwap ⟨1, 4⟩).outcome before
        before.SwappedIn ⟨1, 4⟩ loaded.1 loaded.2 ∧
          before.device.slot ⟨1, 4⟩ = some { offset := 0, readOnly := true } ∧
          loaded.1 = .error (.swapRead ⟨1, 4⟩ (.files .noSpace)) ∧
          loaded.2.device.slot ⟨1, 3⟩ = some { offset := 1024, readOnly := false } ∧
          loaded.2.residentPageCount = 0 ∧ loaded.2.freeFrameCount = 1 := by
  refine ⟨_, rfl, ?_, by decide +kernel, by decide +kernel, by decide +kernel, by decide +kernel,
    by decide +kernel⟩
  exact swap_in_all_or_nothing (.run (.boot
    (rfl : Kernel.boot .oneFrame
      ({ base := .empty, onRead := .after 0 (.fail .noSpace) } : FaultyFiles EphemeralFiles)
      (.scripted []) (.seeded 0) = .ok _))
    [.pager (.newPage ⟨1, 4⟩ true), .pager (.newPage ⟨1, 3⟩ false)]) ⟨1, 4⟩

end Machine

end VirtualMemory
