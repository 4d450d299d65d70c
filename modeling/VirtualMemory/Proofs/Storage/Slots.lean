/-
Module: VirtualMemory.Proofs.Storage.Slots
Purpose: The slot of a page holds what was last written to it in full, whatever happens
  to other slots.
Main exports:
  SwapFile.stored, SwapFile.Laid, with a lemma for each way of writing and reading;
  SwapFile.Sound; SwapDevice.stored, SwapDevice.Sound

A write that fails half way leaves a slot torn. This module says nothing of that slot:
its page has not left memory, and a page is read back only after it was written in full.
-/
import Mathlib.Data.Finset.Card
import VirtualMemory.Proofs.Flat.Memory
import VirtualMemory.Proofs.Pager.Effects
import VirtualMemory.Proofs.Storage.Bytes

namespace VirtualMemory

open VirtualMemory.Action FileSystem

/-- The number of a page among all pages of all processes. -/
def PageId.code (page : PageId) : Nat := page.pid.toNat * 2 ^ 32 + page.vpn.toNat

/-- The code of a page fits in 48 bits. -/
theorem PageId.code_lt (page : PageId) : page.code < 2 ^ 48 := by
  have pidLt := page.pid.toNat_lt
  have vpnLt := page.vpn.toNat_lt
  simp only [code]
  omega

/-- No two pages have the same code. -/
theorem PageId.code_injective : Function.Injective PageId.code := by
  intro first second same
  have firstLt := first.vpn.toNat_lt
  have secondLt := second.vpn.toNat_lt
  simp only [code] at same
  have samePid : first.pid = second.pid := UInt16.toNat_inj.mp (by omega)
  have sameVpn : first.vpn = second.vpn := UInt32.toNat_inj.mp (by omega)
  cases first
  cases second
  cases samePid
  cases sameVpn
  rfl

/-- There are not more slots than pages. -/
theorem SwapFile.slotCount_le {φ : Type} (swap : SwapFile φ) : swap.slotCount ≤ 2 ^ 48 := by
  have distinct : (swap.slots.keys.map PageId.code).Nodup :=
    Std.ExtTreeMap.nodup_keys.map PageId.code_injective
  have within : (swap.slots.keys.map PageId.code).toFinset ⊆ Finset.range (2 ^ 48) := by
    intro code listed
    obtain ⟨page, _, rfl⟩ := List.mem_map.mp (List.mem_toFinset.mp listed)
    exact Finset.mem_range.mpr page.code_lt
  have count := Finset.card_le_card within
  rw [List.toFinset_card_of_nodup distinct, List.length_map, Std.ExtTreeMap.length_keys,
    Finset.card_range] at count
  exact count

namespace SwapFile

variable {φ : Type} [FileSystem φ] [ByteFiles φ] {swap after : SwapFile φ}
  {page other : PageId} {bytes : FileContents}

/-- The bytes of the file, as long as it is open. -/
def contents (swap : SwapFile φ) : Option FileContents :=
  swap.handle.bind (ByteFiles.contents swap.files)

/-- What the slot of a page holds. -/
def stored (swap : SwapFile φ) (page : PageId) : Option PageView := do
  let slot ← swap.slot page
  let bytes ← swap.contents
  return ⟨bytes.pageAt slot.offset, slot.readOnly⟩

/-- Slots lie one beside another within the bytes of an open file. -/
structure Laid (swap : SwapFile φ) : Prop where
  readable : ∃ bytes, swap.contents = some bytes
  covered : ∀ {page slot bytes}, swap.slot page = some slot → swap.contents = some bytes →
    slot.offset + pageBytes ≤ bytes.length
  before_finish : ∀ {page slot}, swap.slot page = some slot →
    slot.offset + pageBytes ≤ swap.finish
  apart : ∀ {page other slot otherSlot}, swap.slot page = some slot →
    swap.slot other = some otherSlot → page ≠ other →
    slot.offset + pageBytes ≤ otherSlot.offset ∨ otherSlot.offset + pageBytes ≤ slot.offset
  finish_eq : swap.finish = pageBytes * swap.slotCount

/-- Slots are laid out well, and only pages of the address space have any. -/
structure Sound (swap : SwapFile φ) : Prop extends Laid swap where
  inside : ∀ {page slot}, swap.slot page = some slot → page.vpn ≤ lastPage

/-- The contents of a swap file that is open are those of its handle. -/
theorem contents_eq {handle : FileHandle} (isOpen : swap.handle = some handle) :
    swap.contents = ByteFiles.contents swap.files handle := by
  simp only [contents, isOpen, Option.bind_some]

/-- With other files the swap file has the contents that its handle has there. -/
theorem contents_withFiles {handle : FileHandle} (isOpen : swap.handle = some handle)
    (files : φ) :
    ({ swap with files := files } : SwapFile φ).contents = ByteFiles.contents files handle := by
  simp only [contents, isOpen, Option.bind_some]

/-- What is stored of a page is read from its slot. -/
theorem stored_eq {slot : SwapSlot} (known : swap.slot page = some slot)
    (holds : swap.contents = some bytes) :
    swap.stored page = some ⟨bytes.pageAt slot.offset, slot.readOnly⟩ := by
  simp only [stored, known, holds, Option.bind_eq_bind, Option.bind_some]
  rfl

/-- Nothing is stored of a page without a slot. -/
theorem stored_of_slot_eq_none (unknown : swap.slot page = none) : swap.stored page = none := by
  simp only [stored, unknown, Option.bind_eq_bind, Option.bind_none]

/-- Something is stored only in a file that is open. -/
theorem exists_contents_of_stored {view : PageView} (stored : swap.stored page = some view) :
    ∃ bytes, swap.contents = some bytes := by
  cases holds : swap.contents with
  | some bytes => exact ⟨bytes, rfl⟩
  | none => simp [SwapFile.stored, holds] at stored

/-- Where the slots are laid, each page with a slot is stored. -/
theorem Laid.isSome_stored (laid : swap.Laid) (page : PageId) :
    (swap.stored page).isSome = (swap.slot page).isSome := by
  obtain ⟨bytes, holds⟩ := laid.readable
  cases known : swap.slot page with
  | none => rw [stored_of_slot_eq_none known]; rfl
  | some slot => rw [stored_eq known holds]; rfl

/-- A swap file that was just made has no slots. -/
theorem sound_fresh {files : φ} {handle : FileHandle} (name : String)
    (holds : ByteFiles.contents files handle = some bytes) :
    (fresh files name handle).Sound where
  readable := ⟨bytes, holds⟩
  covered known := by simp [slot, fresh] at known
  before_finish known := by simp [slot, fresh] at known
  apart known := by simp [slot, fresh] at known
  finish_eq := by simp [fresh, slotCount]
  inside known := by simp [slot, fresh] at known

/-! ### Where a page is written -/

namespace Laid

/-- Where the slots are laid, the file is open. -/
theorem exists_handle (laid : swap.Laid) :
    ∃ handle bytes, swap.handle = some handle ∧ swap.contents = some bytes ∧
      ByteFiles.contents swap.files handle = some bytes := by
  obtain ⟨bytes, holds⟩ := laid.readable
  obtain ⟨handle, isOpen, there⟩ := Option.bind_eq_some_iff.mp holds
  exact ⟨handle, bytes, isOpen, holds, there⟩

/-- Slots that are laid do not overlap. -/
theorem spaced (laid : swap.Laid) : swap.Spaced where
  before_finish := laid.before_finish
  apart := laid.apart

/-- There is space for one more page. -/
theorem offsetFor_lt (laid : swap.Laid) (page : PageId) :
    swap.offsetFor page + pageBytes < EphemeralFiles.lengthLimit := by
  have before := laid.spaced.offsetFor_le page
  have count := swap.slotCount_le
  rw [laid.finish_eq] at before
  simp only [EphemeralFiles.lengthLimit, pageBytes] at before ⊢
  omega

/-- What happens to the files matters only as far as it changes the bytes of the swap
file. -/
theorem withFiles (laid : swap.Laid) {handle : FileHandle} {files : φ}
    {next : FileContents} (isOpen : swap.handle = some handle)
    (holds : swap.contents = some bytes)
    (now : ByteFiles.contents files handle = some next) (longer : bytes.length ≤ next.length) :
    ({ swap with files := files } : SwapFile φ).Laid := by
  have opened : ({ swap with files := files } : SwapFile φ).contents = some next :=
    (contents_withFiles isOpen files).trans now
  exact
    { laid with
      readable := ⟨next, opened⟩
      covered := by
        intro page slot present known holdsNow
        have before := laid.covered known holds
        rw [opened] at holdsNow
        cases holdsNow
        exact Nat.le_trans before longer }

/-- A slot is claimed once its bytes are there. -/
theorem claim (laid : swap.Laid) (holds : swap.contents = some bytes)
    (there : swap.offsetFor page + pageBytes ≤ bytes.length) (readOnly : Bool) :
    (swap.claim page readOnly).Laid := by
  have spaced := laid.spaced.claim page readOnly
  refine ⟨⟨bytes, holds⟩, ?_, spaced.before_finish, spaced.apart, ?_⟩
  · intro other slot present known holdsNow
    have same : some bytes = some present := holds.symm.trans holdsNow
    cases same
    rw [slot_claim] at known
    split at known
    · cases known
      exact there
    · exact laid.covered known holds
  · rw [finish_claim, slotCount_claim, laid.finish_eq]
    split
    · rfl
    · rw [Nat.mul_add, Nat.mul_one]

end Laid

/-! ### What writing and reading do to what is stored -/

theorem stored_withFiles {handle : FileHandle} {files : φ} {next : FileContents}
    (isOpen : swap.handle = some handle) (holds : swap.contents = some bytes)
    (now : ByteFiles.contents files handle = some next)
    (same : ∀ slot, swap.slot page = some slot →
      next.pageAt slot.offset = bytes.pageAt slot.offset) :
    ({ swap with files := files } : SwapFile φ).stored page = swap.stored page := by
  cases known : swap.slot page with
  | none => rw [stored_of_slot_eq_none known, stored_of_slot_eq_none (by exact known)]
  | some slot =>
    have opened : ({ swap with files := files } : SwapFile φ).contents = some next :=
      (contents_withFiles isOpen files).trans now
    rw [stored_eq known holds, stored_eq (by exact known) opened, same slot known]

/-- A claim gives the page what the file has at its place, and leaves the others what they had. -/
theorem stored_claim (holds : swap.contents = some bytes) (page other : PageId)
    (readOnly : Bool) :
    (swap.claim page readOnly).stored other =
      if page = other then some ⟨bytes.pageAt (swap.offsetFor page), readOnly⟩
      else swap.stored other := by
  have same : (swap.claim page readOnly).contents = some bytes := holds
  simp only [stored, same, holds, slot_claim]
  split <;> rfl

/-- What a write of a page leaves in the file: some start of the page in its place, and around
it what was there. -/
theorem written_ends {handle : FileHandle} (isOpen : swap.handle = some handle)
    (holds : swap.contents = some bytes) (page : PageId) (contents : Page) :
    (writeFile handle (swap.offsetFor page) contents.bytes).Ends swap.files fun result files =>
      ∃ next, ByteFiles.contents files handle = some next ∧ bytes.length ≤ next.length ∧
        (∀ position,
          position < swap.offsetFor page ∨ swap.offsetFor page + pageBytes ≤ position →
            next.byteAt position = bytes.byteAt position) ∧
        (result = .ok pageBytes →
          swap.offsetFor page + pageBytes ≤ next.length ∧
            next.pageAt (swap.offsetFor page) = contents) := by
  have before := (contents_eq isOpen).symm.trans holds
  have size := contents.length_bytes
  apply Ends.mono (ByteFiles.written before (swap.offsetFor page) contents.bytes)
  intro result files told
  cases result with
  | error cause => exact ⟨bytes, told.1, Nat.le_refl _, fun _ _ => rfl, no_answer⟩
  | ok count =>
    obtain ⟨fewer, stored, _⟩ := told
    refine ⟨_, stored, ?_, ?_, ?_⟩
    · rw [FileContents.length_write]
      exact Nat.le_max_left _ _
    · intro position outside
      rw [FileContents.byteAt_write, List.length_take, size, if_neg (by omega)]
    · intro answered
      cases answered
      rw [List.take_of_length_le (Nat.le_of_eq size), FileContents.length_write, size]
      exact ⟨Nat.le_max_right _ _, FileContents.pageAt_write_same _ _ _⟩

/-- Without faults a page is always written in full: there is space for it. -/
theorem written_of_faultless (laid : swap.Laid) {handle : FileHandle}
    (isOpen : swap.handle = some handle) (page : PageId) (contents : Page)
    (faultless : ByteFiles.Faultless φ) :
    (writeFile handle (swap.offsetFor page) contents.bytes).Ends swap.files
      fun result _ => result = .ok pageBytes := by
  obtain ⟨bytes, holds⟩ := laid.readable
  have before := (contents_eq isOpen).symm.trans holds
  have size := contents.length_bytes
  apply Ends.mono (ByteFiles.written before (swap.offsetFor page) contents.bytes)
  intro result files told
  cases result with
  | error cause =>
    have beyond := told.2 faultless
    have space := laid.offsetFor_lt page
    rw [size] at beyond
    exact absurd space (Nat.not_lt.mpr beyond)
  | ok count => rw [told.2.2 faultless, size]

namespace Wrote

variable {readOnly : Bool} {contents : Page} {result : Except SwapError Unit}

/-- The slots stay laid after a write, also where the write was cut short. -/
theorem laid (wrote : swap.Wrote page readOnly contents result after) (laid : swap.Laid) :
    after.Laid := by
  obtain ⟨bytes, holds⟩ := laid.readable
  cases wrote with
  | closed gone => exact laid
  | failed isOpen wrote | short isOpen wrote torn =>
    obtain ⟨next, now, longer, _, _⟩ := (written_ends isOpen holds page contents).outcome wrote
    exact laid.withFiles isOpen holds now longer
  | whole isOpen wrote =>
    obtain ⟨next, now, longer, _, there⟩ :=
      (written_ends isOpen holds page contents).outcome wrote
    exact (laid.withFiles isOpen holds now longer).claim
      ((contents_withFiles isOpen _).trans now) (there rfl).1 readOnly

theorem sound (wrote : swap.Wrote page readOnly contents result after) (sound : swap.Sound)
    (inside : page.vpn ≤ lastPage) : after.Sound where
  toLaid := wrote.laid sound.toLaid
  inside := by
    intro other slot known
    rcases wrote.slot_cases known with ⟨rfl, _⟩ | before
    · exact inside
    · exact sound.inside before

/-- No write reaches the slot of another page, whatever is in the file. -/
theorem stored_apart (wrote : swap.Wrote page readOnly contents result after)
    (spaced : swap.Spaced) (holds : swap.contents = some bytes) (different : page ≠ other) :
    after.stored other = swap.stored other := by
  have sameAt : ∀ {next : FileContents} {slot}, swap.slot other = some slot →
      (∀ position, position < swap.offsetFor page ∨ swap.offsetFor page + pageBytes ≤ position →
        next.byteAt position = bytes.byteAt position) →
      next.pageAt slot.offset = bytes.pageAt slot.offset := by
    intro next slot known same
    apply FileContents.pageAt_congr
    intro position notBefore notAfter
    have apart := spaced.offsetFor_apart known different
    exact same position (by omega)
  cases wrote with
  | closed gone => rfl
  | failed isOpen wrote | short isOpen wrote torn =>
    obtain ⟨next, now, _, same, _⟩ := (written_ends isOpen holds page contents).outcome wrote
    exact stored_withFiles isOpen holds now fun slot known => sameAt known same
  | whole isOpen wrote =>
    obtain ⟨next, now, _, same, _⟩ := (written_ends isOpen holds page contents).outcome wrote
    rw [stored_claim ((contents_withFiles isOpen _).trans now), if_neg different]
    exact stored_withFiles isOpen holds now fun slot known => sameAt known same

/-- A write changes nothing that is stored of other pages. -/
theorem stored_other (wrote : swap.Wrote page readOnly contents result after)
    (laid : swap.Laid) (different : page ≠ other) :
    after.stored other = swap.stored other := by
  obtain ⟨bytes, holds⟩ := laid.readable
  exact wrote.stored_apart laid.spaced holds different

/-- Whatever takes a page in full is an open file. -/
theorem readable [OpenFilesOnly φ] (wrote : swap.Wrote page readOnly contents (.ok ()) after) :
    ∃ bytes, swap.contents = some bytes := by
  cases wrote with
  | whole isOpen wrote =>
    cases holds : ByteFiles.contents swap.files _ with
    | some bytes => exact ⟨bytes, (contents_eq isOpen).trans holds⟩
    | none =>
      obtain ⟨cause, impossible⟩ :=
        (OpenFilesOnly.refused holds _ contents.bytes).outcome wrote
      cases impossible

/-- A page that was written in full is stored, whatever was in the file. -/
theorem stored_whole (wrote : swap.Wrote page readOnly contents (.ok ()) after)
    (holds : swap.contents = some bytes) :
    after.stored page = some ⟨contents, readOnly⟩ := by
  cases wrote with
  | whole isOpen wrote =>
    obtain ⟨next, now, _, _, there⟩ := (written_ends isOpen holds page contents).outcome wrote
    rw [stored_claim ((contents_withFiles isOpen _).trans now), if_pos rfl]
    exact congrArg some (congrArg (PageView.mk · readOnly) (there rfl).2)

/-- A page that was written is stored. -/
theorem stored_self (wrote : swap.Wrote page readOnly contents (.ok ()) after)
    (laid : swap.Laid) : after.stored page = some ⟨contents, readOnly⟩ := by
  obtain ⟨bytes, holds⟩ := laid.readable
  exact wrote.stored_whole holds

/-- Without faults every write succeeds. -/
theorem ok_of_faultless (wrote : swap.Wrote page readOnly contents result after)
    (laid : swap.Laid) (faultless : ByteFiles.Faultless φ) : result = .ok () := by
  cases wrote with
  | closed gone =>
    obtain ⟨bytes, holds⟩ := laid.readable
    simp [SwapFile.contents, gone] at holds
  | failed isOpen wrote =>
    cases (written_of_faultless laid isOpen page contents faultless).outcome wrote
  | short isOpen wrote torn =>
    have full := (written_of_faultless laid isOpen page contents faultless).outcome wrote
    exact absurd (Except.ok.inj full) torn
  | whole isOpen wrote => rfl

end Wrote

namespace Loaded

variable {result : Except SwapError (Option (Page × Bool))}

/-- Reading leaves the bytes of the file as they are. -/
theorem contents_eq (loaded : swap.Loaded page result after) (holds : swap.contents = some bytes) :
    after.contents = some bytes := by
  have reread : ∀ {handle : FileHandle} {slot : SwapSlot} {files : φ}
      {result : Except FileError Bytes}, swap.handle = some handle →
      (readFile handle slot.offset pageBytes).outcome swap.files = (result, files) →
      ({ swap with files := files } : SwapFile φ).contents = some bytes := by
    intro handle slot files result isOpen read
    have before := (SwapFile.contents_eq isOpen).symm.trans holds
    have now := ((ByteFiles.read before slot.offset pageBytes).outcome read).1
    exact (contents_withFiles isOpen files).trans now
  cases loaded with
  | absent | closed => exact holds
  | failed _ isOpen read | short _ isOpen read | whole _ isOpen read => exact reread isOpen read

omit [ByteFiles φ] in
/-- Reading hands out no slot and takes none away. -/
theorem slots_eq (loaded : swap.Loaded page result after) : after.slots = swap.slots := by
  cases loaded <;> rfl

/-- Reading leaves what every slot holds as it is. -/
theorem stored_same (loaded : swap.Loaded page result after) (holds : swap.contents = some bytes)
    (other : PageId) : after.stored other = swap.stored other := by
  simp only [stored, SwapFile.slot, loaded.slots_eq, loaded.contents_eq holds, holds]

/-- Reading leaves every slot as it is. -/
theorem kept (loaded : swap.Loaded page result after) (laid : swap.Laid) :
    after.Laid ∧ ∀ other, after.stored other = swap.stored other := by
  obtain ⟨handle, bytes, isOpen, holds, _⟩ := laid.exists_handle
  refine ⟨?_, loaded.stored_same holds⟩
  have same : after = { swap with files := after.files } := by
    cases loaded <;> rfl
  have now := loaded.contents_eq holds
  rw [same] at now ⊢
  exact laid.withFiles isOpen holds ((contents_withFiles isOpen _).symm.trans now) (Nat.le_refl _)

theorem sound (loaded : swap.Loaded page result after) (sound : swap.Sound) : after.Sound where
  toLaid := (loaded.kept sound.toLaid).1
  inside := by
    intro other slot known
    rw [SwapFile.slot, loaded.slots_eq] at known
    exact sound.inside known

/-- A page that is read back from an open file is the one that is stored. -/
theorem stored_read {contents : Page} {readOnly : Bool}
    (loaded : swap.Loaded page (.ok (some (contents, readOnly))) after)
    (holds : swap.contents = some bytes) : swap.stored page = some ⟨contents, readOnly⟩ := by
  cases loaded with
  | whole known isOpen read =>
    have before := (SwapFile.contents_eq isOpen).symm.trans holds
    obtain ⟨_, asked, _, answered, _⟩ :=
      (ByteFiles.read before _ pageBytes).outcome read
    rw [SwapFile.stored_eq known holds, FileContents.pageAt_of_read answered.symm]

/-- A page is loaded as it is stored. -/
theorem stored_eq {contents : Page} {readOnly : Bool}
    (loaded : swap.Loaded page (.ok (some (contents, readOnly))) after) (laid : swap.Laid) :
    swap.stored page = some ⟨contents, readOnly⟩ := by
  obtain ⟨bytes, holds⟩ := laid.readable
  exact loaded.stored_read holds

/-- Without faults a slot can always be read. -/
theorem not_faultless {cause : SwapError} (loaded : swap.Loaded page (.error cause) after)
    (laid : swap.Laid) : ¬ ByteFiles.Faultless φ := by
  intro faultless
  obtain ⟨bytes, holds⟩ := laid.readable
  cases loaded with
  | closed known gone => simp [SwapFile.contents, gone] at holds
  | failed known isOpen read =>
    have before := (SwapFile.contents_eq isOpen).symm.trans holds
    exact ((ByteFiles.read before _ pageBytes).outcome read).2 faultless
  | short known isOpen read part =>
    have before := (SwapFile.contents_eq isOpen).symm.trans holds
    obtain ⟨_, asked, _, answered, whole⟩ :=
      (ByteFiles.read before _ pageBytes).outcome read
    rw [whole faultless, FileContents.read_pageAt (laid.covered known holds)] at answered
    exact part (answered ▸ Page.length_bytes _)

end Loaded

end SwapFile

namespace SwapDevice

variable {φ : Type} [FileSystem φ] [ByteFiles φ] {device next : SwapDevice φ}
  {result : Except SwapError Unit} {name : String}

/-- What the slot of a page holds. Without a swap file, there are no slots. -/
def stored (device : SwapDevice φ) (page : PageId) : Option PageView :=
  match device with
  | unused _ => none
  | inUse swap => swap.stored page

/-- A swap file, once it is made, is sound. -/
def Sound : SwapDevice φ → Prop
  | unused _ => True
  | inUse swap => swap.Sound

/-- A swap file that was created is open, and only faults keep it from that. -/
theorem create_ends (files : φ) (name : String) :
    (SwapFile.create name).Ends files fun result next =>
      match result with
      | .ok handle => ∃ bytes, ByteFiles.contents next handle = some bytes
      | .error _ => ¬ ByteFiles.Faultless φ := by
  have always : ByteFiles.Faultless φ → (SwapFile.create name).Ends files
      fun result _ => ∃ handle, result = .ok handle :=
    fun faultless => ByteFiles.created faultless files name
  cases created : (SwapFile.create name).outcome files with
  | mk result next =>
    rw [Ends, created]
    cases result with
    | ok handle =>
      obtain ⟨before, opened⟩ := SwapFile.exists_openFile_of_create created
      exact (ByteFiles.opened before name).outcome opened handle rfl
    | error cause =>
      intro faultless
      obtain ⟨handle, impossible⟩ := (always faultless).outcome created
      cases impossible

/-- Making the swap file stores nothing. -/
theorem stored_opened (opened : device.opened name = (result, next)) (page : PageId) :
    next.stored page = device.stored page := by
  cases device with
  | inUse swap =>
    cases opened
    rfl
  | unused files =>
    cases opened_unused opened with
    | inl failed =>
      obtain ⟨cause, after, _, _, rfl⟩ := failed
      rfl
    | inr made =>
      obtain ⟨handle, after, _, _, rfl⟩ := made
      exact SwapFile.stored_of_slot_eq_none (by simp [SwapFile.slot, SwapFile.fresh])

/-- To open a device keeps what is stored in it. -/
theorem opened_kept (opened : device.opened name = (result, next)) (sound : device.Sound) :
    next.Sound ∧ ∀ page, next.stored page = device.stored page := by
  refine ⟨?_, stored_opened opened⟩
  cases device with
  | inUse swap =>
    cases opened
    exact sound
  | unused files =>
    cases opened_unused opened with
    | inl failed =>
      obtain ⟨cause, after, _, _, rfl⟩ := failed
      trivial
    | inr made =>
      obtain ⟨handle, after, created, _, rfl⟩ := made
      obtain ⟨bytes, holds⟩ := (create_ends files name).outcome created
      exact SwapFile.sound_fresh name holds

/-- Without faults a device is opened. -/
theorem opened_of_faultless (opened : device.opened name = (result, next))
    (faultless : ByteFiles.Faultless φ) : result = .ok () := by
  cases device with
  | inUse swap =>
    cases opened
    rfl
  | unused files =>
    cases opened_unused opened with
    | inl failed =>
      obtain ⟨cause, after, created, _, _⟩ := failed
      exact absurd faultless ((create_ends files name).outcome created)
    | inr made =>
      obtain ⟨handle, after, _, rfl, _⟩ := made
      rfl

end SwapDevice

end VirtualMemory
