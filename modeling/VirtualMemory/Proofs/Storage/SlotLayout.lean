/-
Module: VirtualMemory.Proofs.Storage.SlotLayout
Purpose: The slots of a swap file fill it from its start on, one page after another, and the
  file is as long as they are.
Main exports:
  SwapFile.place, SwapFile.Paved, SwapFile.Reaches, with a lemma for each way of writing and
  reading; SwapLife.AppendsWhole, SwapLife.SlotLayout, slots_laid_out

The place of the next new slot, the table of slots and the length of the file each advance on
their own. Only a write in full advances the first two. A write that is cut short may take the
file past the slots by less than a page, where the next new slot goes over it.
-/
import VirtualMemory.Proofs.Storage.Removal

namespace VirtualMemory

open VirtualMemory.Action FileSystem

namespace SwapFile

variable {φ : Type} {swap after : SwapFile φ} {page other : PageId} {offset : Nat}

/-! ### Where slots are -/

/-- Where the slot of a page begins. -/
def place (swap : SwapFile φ) (page : PageId) : Option Nat :=
  (swap.slot page).map SwapSlot.offset

/-- The slots are the first pages of the file, each for one page, and the next new slot comes
right after them. -/
structure Paved (swap : SwapFile φ) : Prop where
  finish_eq : swap.finish = pageBytes * swap.slotCount
  offset_iff : ∀ offset, (∃ page, swap.place page = some offset) ↔
    ∃ index < swap.slotCount, offset = pageBytes * index
  alone : ∀ {page other offset}, swap.place page = some offset →
    swap.place other = some offset → page = other

/-- A page with a place is written there again. -/
theorem offsetFor_eq_of_place (known : swap.place page = some offset) :
    swap.offsetFor page = offset := by
  obtain ⟨slot, found, rfl⟩ := Option.map_eq_some_iff.mp known
  rw [offsetFor, found]

/-- A page without a place is written to the end. -/
theorem offsetFor_eq_finish (unknown : swap.place page = none) :
    swap.offsetFor page = swap.finish := by
  rw [offsetFor, Option.map_eq_none_iff.mp unknown]

/-- A claim gives the page its place, and leaves the others theirs. -/
theorem place_claim (swap : SwapFile φ) (page other : PageId) (readOnly : Bool) :
    (swap.claim page readOnly).place other =
      if page = other then some (swap.offsetFor page) else swap.place other := by
  rw [place, slot_claim]
  split <;> rfl

/-- A page with a place has a slot. -/
theorem isSome_slot_of_place (known : swap.place page = some offset) :
    (swap.slot page).isSome = true := by
  rw [← Option.isSome_map, ← place, known, Option.isSome_some]

/-- A claim of a page with a place leaves the end where it is. -/
theorem finish_claim_of_place {readOnly : Bool} (known : swap.place page = some offset) :
    (swap.claim page readOnly).finish = swap.finish := by
  rw [finish_claim, if_pos (isSome_slot_of_place known)]

/-- A claim of a page without a place moves the end by a page. -/
theorem finish_claim_of_no_place {readOnly : Bool} (unknown : swap.place page = none) :
    (swap.claim page readOnly).finish = swap.finish + pageBytes := by
  rw [finish_claim, Option.map_eq_none_iff.mp unknown, Option.isSome_none,
    if_neg Bool.false_ne_true]

/-- The places are those of the slots. -/
theorem place_of_slots_eq (slots : after.slots = swap.slots) (page : PageId) :
    after.place page = swap.place page := by
  rw [place, place, slot, slot, slots]

namespace Paved

/-- A fresh swap file is paved, for it has no slots. -/
theorem fresh (files : φ) (name : String) (handle : FileHandle) :
    (SwapFile.fresh files name handle).Paved where
  finish_eq := by simp [SwapFile.fresh, slotCount]
  offset_iff := by simp [SwapFile.fresh, slotCount, place, slot]
  alone known := by simp [SwapFile.fresh, place, slot] at known

theorem of_same (paved : swap.Paved) (slots : after.slots = swap.slots)
    (finish : after.finish = swap.finish) : after.Paved := by
  have count : after.slotCount = swap.slotCount := by rw [slotCount, slotCount, slots]
  constructor
  case finish_eq => rw [finish, count, paved.finish_eq]
  case offset_iff =>
    intro offset
    rw [count, ← paved.offset_iff offset]
    exact exists_congr fun page => by rw [place_of_slots_eq slots]
  case alone =>
    intro page other offset known otherKnown
    rw [place_of_slots_eq slots] at known otherKnown
    exact paved.alone known otherKnown

/-- A slot ends where the next new slot begins, or before. -/
theorem offset_add_le (paved : swap.Paved) (known : swap.place page = some offset) :
    offset + pageBytes ≤ swap.finish := by
  obtain ⟨index, less, rfl⟩ := (paved.offset_iff offset).mp ⟨page, known⟩
  rw [paved.finish_eq, ← Nat.mul_succ]
  exact Nat.mul_le_mul_left pageBytes less

/-- Slots of different pages do not overlap. -/
theorem apart (paved : swap.Paved) {otherOffset : Nat} (known : swap.place page = some offset)
    (otherKnown : swap.place other = some otherOffset) (different : page ≠ other) :
    offset + pageBytes ≤ otherOffset ∨ otherOffset + pageBytes ≤ offset := by
  obtain ⟨index, _, rfl⟩ := (paved.offset_iff offset).mp ⟨page, known⟩
  obtain ⟨otherIndex, _, rfl⟩ := (paved.offset_iff otherOffset).mp ⟨other, otherKnown⟩
  rcases Nat.lt_trichotomy index otherIndex with before | rfl | behind
  · exact Or.inl (Nat.mul_succ pageBytes index ▸ Nat.mul_le_mul_left pageBytes before)
  · exact absurd (paved.alone known otherKnown) different
  · exact Or.inr (Nat.mul_succ pageBytes otherIndex ▸ Nat.mul_le_mul_left pageBytes behind)

/-- A page that has a slot keeps it when it is written in full. -/
theorem claim_of_place (paved : swap.Paved) (known : swap.place page = some offset)
    (readOnly : Bool) : (swap.claim page readOnly).Paved := by
  have count : (swap.claim page readOnly).slotCount = swap.slotCount := by
    rw [slotCount_claim, if_pos (isSome_slot_of_place known)]
  have same : (swap.claim page readOnly).place = swap.place := by
    funext other
    rw [place_claim, offsetFor_eq_of_place known]
    split
    · next here => rw [← here, known]
    · rfl
  exact
    { finish_eq := by rw [finish_claim_of_place known, count, paved.finish_eq]
      offset_iff := by rw [same, count]; exact paved.offset_iff
      alone := by rw [same]; exact paved.alone }

/-- A page that has none gets the next new one. -/
theorem claim_of_no_place (paved : swap.Paved) (unknown : swap.place page = none)
    (readOnly : Bool) : (swap.claim page readOnly).Paved := by
  have count : (swap.claim page readOnly).slotCount = swap.slotCount + 1 := by
    rw [slotCount_claim, Option.map_eq_none_iff.mp unknown, Option.isSome_none,
      if_neg Bool.false_ne_true]
  have places (other : PageId) : (swap.claim page readOnly).place other =
      if page = other then some swap.finish else swap.place other := by
    rw [place_claim, offsetFor_eq_finish unknown]
  -- The new slot begins where no other slot does: all of them end there or before.
  have unused {other : PageId} : swap.place other ≠ some swap.finish := by
    intro there
    have before := paved.offset_add_le there
    simp only [pageBytes] at before
    omega
  constructor
  case finish_eq =>
    rw [finish_claim_of_no_place unknown, count, paved.finish_eq, Nat.mul_add, Nat.mul_one]
  case offset_iff =>
    intro offset
    rw [count]
    constructor
    · rintro ⟨other, there⟩
      rw [places] at there
      split at there
      · cases there
        exact ⟨swap.slotCount, Nat.lt_succ_self _, paved.finish_eq⟩
      · obtain ⟨index, less, same⟩ := (paved.offset_iff offset).mp ⟨other, there⟩
        exact ⟨index, Nat.lt_succ_of_lt less, same⟩
    · rintro ⟨index, less, rfl⟩
      rcases Nat.lt_succ_iff_lt_or_eq.mp less with earlier | rfl
      · obtain ⟨other, there⟩ := (paved.offset_iff _).mpr ⟨index, earlier, rfl⟩
        have different : page ≠ other := by
          rintro rfl
          rw [unknown] at there
          cases there
        exact ⟨other, by rw [places, if_neg different, there]⟩
      · exact ⟨page, by rw [places, if_pos rfl, paved.finish_eq]⟩
  case alone =>
    intro first second offset one two
    rw [places] at one two
    split at one
    · next here =>
      cases one
      split at two
      · next there => rw [← here, ← there]
      · exact absurd two unused
    · split at two
      · cases two
        exact absurd one unused
      · exact paved.alone one two

/-- A claim leaves no gap. -/
theorem claim (paved : swap.Paved) (page : PageId) (readOnly : Bool) :
    (swap.claim page readOnly).Paved := by
  cases known : swap.place page with
  | some offset => exact paved.claim_of_place known readOnly
  | none => exact paved.claim_of_no_place known readOnly

end Paved

section Calls

variable [FileSystem φ] {readOnly : Bool} {contents : Page} {result : Except SwapError Unit}

/-- A page that is written leaves no gap, also if it is written in part. -/
theorem Wrote.paved (wrote : swap.Wrote page readOnly contents result after)
    (paved : swap.Paved) : after.Paved := by
  cases wrote with
  | closed => exact paved
  | failed | short => exact paved.of_same rfl rfl
  | @whole _ files _ _ =>
    have same : ({ swap with files := files } : SwapFile φ).Paved := paved.of_same rfl rfl
    exact same.claim page readOnly

/-- A page that is loaded leaves no gap. -/
theorem Loaded.paved {result : Except SwapError (Option (Page × Bool))}
    (loaded : swap.Loaded page result after) (paved : swap.Paved) : after.Paved := by
  cases loaded with
  | absent | closed => exact paved
  | failed | short | whole => exact paved.of_same rfl rfl

/-- Whatever is written, a slot stays where it is. -/
theorem Wrote.place_eq (wrote : swap.Wrote page readOnly contents result after)
    (known : swap.place other = some offset) : after.place other = some offset := by
  cases wrote with
  | closed | failed | short => exact known
  | whole =>
    rw [place_claim]
    split
    · next same =>
      subst same
      exact congrArg some (offsetFor_eq_of_place known)
    · exact known

/-- A write that fails leaves the place of the next new slot where it is. -/
theorem Wrote.finish_eq {cause : SwapError}
    (wrote : swap.Wrote page readOnly contents (.error cause) after) :
    after.finish = swap.finish := by
  cases wrote <;> rfl

/-! ### How long the file is -/

variable [ByteFiles φ] {whole : Prop}

/-- An open file has all its slots, and at most a part of a page after them: nothing if all of
`whole` is true. -/
def Reaches (swap : SwapFile φ) (whole : Prop) : Prop :=
  ∀ handle, swap.handle = some handle →
    ∃ bytes, ByteFiles.contents swap.files handle = some bytes ∧
      swap.finish ≤ bytes.length ∧ bytes.length < swap.finish + pageBytes ∧
      (whole → bytes.length = swap.finish)

/-- A file that reaches its end when more is known does so when that is known. -/
theorem Reaches.mono {stronger : Prop} (reaches : swap.Reaches whole)
    (implied : stronger → whole) : swap.Reaches stronger := by
  intro handle isOpen
  obtain ⟨bytes, holds, least, most, exactly⟩ := reaches handle isOpen
  exact ⟨bytes, holds, least, most, fun stronger => exactly (implied stronger)⟩

/-- What a write to the place of a page makes of the length of the file. -/
theorem length_written {handle : FileHandle} {bytes : FileContents}
    (holds : ByteFiles.contents swap.files handle = some bytes) (page : PageId)
    (contents : Page) :
    (writeFile handle (swap.offsetFor page) contents.bytes).Ends swap.files fun result files =>
      ∃ next, ByteFiles.contents files handle = some next ∧
        match result with
        | .ok count => count ≤ pageBytes ∧
            next.length = max bytes.length (swap.offsetFor page + count)
        | .error _ => next.length = bytes.length := by
  apply Ends.mono (ByteFiles.written holds (swap.offsetFor page) contents.bytes)
  intro result files told
  cases result with
  | error cause => exact ⟨bytes, told.1, rfl⟩
  | ok count =>
    obtain ⟨fewer, stored, _⟩ := told
    refine ⟨_, stored, ?_, ?_⟩
    · rw [← contents.length_bytes]
      exact fewer
    · rw [FileContents.length_write, List.length_take_of_le fewer]

/-- Only the write of a page without a slot can take the file past its slots, and only if it is
cut short. -/
theorem Wrote.reaches (wrote : swap.Wrote page readOnly contents result after)
    (paved : swap.Paved) (reaches : swap.Reaches whole) :
    after.Reaches (whole ∧ ¬ (swap.place page = none ∧
      ∃ offset count, result = .error (.shortWrite offset count))) := by
  intro handle stillOpen
  cases wrote with
  | closed gone =>
    rw [gone] at stillOpen
    cases stillOpen
  | failed isOpen wrote =>
    cases isOpen.symm.trans stillOpen
    obtain ⟨bytes, holds, least, most, exactly⟩ := reaches _ isOpen
    obtain ⟨next, stored, same⟩ := (length_written holds page contents).outcome wrote
    change next.length = bytes.length at same
    rw [← same] at least most exactly
    exact ⟨next, stored, least, most, fun given => exactly given.1⟩
  | short isOpen wrote torn =>
    cases isOpen.symm.trans stillOpen
    obtain ⟨bytes, holds, least, most, exactly⟩ := reaches _ isOpen
    obtain ⟨next, stored, fewer, length⟩ := (length_written holds page contents).outcome wrote
    refine ⟨next, stored, ?_⟩
    change swap.finish ≤ _ ∧ _ < swap.finish + pageBytes ∧ (_ → _ = swap.finish)
    cases known : swap.place page with
    | some offset =>
      have inside := paved.offset_add_le known
      rw [offsetFor_eq_of_place known] at length
      rw [length, Nat.max_eq_left (by omega)]
      exact ⟨least, most, fun given => exactly given.1⟩
    | none =>
      rw [offsetFor_eq_finish known] at length
      refine ⟨by omega, by omega, fun given => ?_⟩
      exact absurd ⟨rfl, _, _, rfl⟩ given.2
  | @whole _ files isOpen wrote =>
    cases isOpen.symm.trans stillOpen
    obtain ⟨bytes, holds, least, most, exactly⟩ := reaches _ isOpen
    obtain ⟨next, stored, _, length⟩ := (length_written holds page contents).outcome wrote
    refine ⟨next, stored, ?_⟩
    cases known : swap.place page with
    | some offset =>
      have inside := paved.offset_add_le known
      have finish : (({ swap with files := files } : SwapFile φ).claim page readOnly).finish =
          swap.finish := finish_claim_of_place known
      rw [offsetFor_eq_of_place known, Nat.max_eq_left (by omega)] at length
      rw [finish, length]
      exact ⟨least, most, fun given => exactly given.1⟩
    | none =>
      -- The next new slot goes over what is there of a page that was cut short.
      have finish : (({ swap with files := files } : SwapFile φ).claim page readOnly).finish =
          swap.finish + pageBytes := finish_claim_of_no_place known
      rw [offsetFor_eq_finish known, Nat.max_eq_right (by omega)] at length
      rw [finish, length]
      have full : 0 < pageBytes := by decide
      exact ⟨Nat.le_refl _, Nat.lt_add_of_pos_right full, fun _ => rfl⟩

/-- A load leaves the file as long as it was. -/
theorem Loaded.reaches {result : Except SwapError (Option (Page × Bool))}
    (loaded : swap.Loaded page result after) (reaches : swap.Reaches whole) :
    after.Reaches whole := by
  have same : after.handle = swap.handle ∧ after.finish = swap.finish := by
    cases loaded <;> exact ⟨rfl, rfl⟩
  intro handle stillOpen
  obtain ⟨bytes, holds, told⟩ := reaches handle (same.1 ▸ stillOpen)
  have now := loaded.contents_eq ((SwapFile.contents_eq (same.1 ▸ stillOpen)).trans holds)
  rw [SwapFile.contents_eq stillOpen] at now
  rw [same.2]
  exact ⟨bytes, now, told⟩

end Calls

end SwapFile

/-! ### A new swap file -/

/-- A file that is opened by a name that was free is empty. -/
theorem EphemeralFiles.contentsOf_of_unnamed {files next : EphemeralFiles} {name : String}
    {file : FileHandle} (unnamed : files.names[name]? = none)
    (opened : files.openNamed name true = .ok (file, next)) :
    next.contentsOf file = some {} := by
  simp only [openNamed, unnamed, if_true, makeFile, makeHandle,
    Std.ExtTreeMap.getElem?_insert_self] at opened
  cases opened
  simp [contentsOf, inodeOf]

/-- Unless the file of its name cannot be removed, a new swap file is empty. -/
theorem SwapFile.create_empty {files : FaultyFiles EphemeralFiles}
    (removes : files.refusal .remove = none) (name : String) :
    (create name).Ends files fun result made => ∀ handle, result = .ok handle →
      ByteFiles.contents made handle = some {} := by
  have opens (before : FaultyFiles EphemeralFiles) (unnamed : before.base.names[name]? = none) :
      ((openFile name true : Action _ FileError FileHandle).causing SwapError.files).Ends before
        fun result made => ∀ handle, result = .ok handle →
          ByteFiles.contents made handle = some {} := by
    have base : (openFile name true : Action _ FileError FileHandle).Ends before.base
        fun result made => ∀ handle, result.mapError SwapError.files = .ok handle →
          ByteFiles.contents made handle = some {} := by
      change (update fun files : EphemeralFiles => files.openNamed name true).Ends _ _
      rw [ends_update]
      cases opened : before.base.openNamed name true with
      | error cause => exact fun _ => no_answer
      | ok pair =>
        rintro handle same
        cases same
        exact EphemeralFiles.contentsOf_of_unnamed unnamed opened
    rw [ends_causing]
    exact FaultyFiles.guarded_ends base (fun _ => base) fun _ _ => no_answer
  rw [create, ends_bind, ends_attempt]
  change (FaultyFiles.guarded .remove (update fun files => files.remove name)
    fun _ => update fun files => files.remove name).Ends files _
  rw [FaultyFiles.ends_guarded, removes]
  dsimp only
  rw [ends_update]
  cases removed : files.base.remove name with
  | ok pair => exact opens _ (EphemeralFiles.names_of_remove removed)
  | error cause =>
    simp only [EphemeralFiles.remove] at removed
    split at removed
    · next unnamed =>
      cases removed
      exact opens _ unnamed
    · cases removed

namespace SwapLife

variable {life : SwapLife} {use : SwapUse} {whole : Prop} {page : PageId} {offset : Nat}

/-- The write of a page without a slot is cut short. -/
def CutsAppend (life : SwapLife) : SwapUse → Prop
  | .call (.writePage pid entry) =>
      life.session.swap.place (entry.page pid) = none ∧
        ∃ offset count,
          (life.session.write pid entry).1 = .error (.swap (.shortWrite offset count))
  | .call _ | .terminate => False

/-- No write of a page without a slot was cut short. -/
def AppendsWhole (life : SwapLife) (uses : List SwapUse) : Prop :=
  ∀ earlier use later, uses = earlier ++ use :: later → ¬ (life.run earlier).CutsAppend use

/-- A swap file of which the slots are laid out, and the length is as they say. -/
structure Ordered (life : SwapLife) (whole : Prop) : Prop where
  paved : life.session.swap.Paved
  reaches : life.session.swap.Reaches whole

/-- Ending the file gives up its handle, and no slot. -/
theorem ended (life : SwapLife) :
    (life.step .terminate).session.swap.slots = life.session.swap.slots ∧
      (life.step .terminate).session.swap.finish = life.session.swap.finish ∧
      (life.step .terminate).session.swap.handle = none :=
  SwapFile.terminate_ends

/-- A use keeps the slots in order, and the file whole unless the use cuts it short. -/
theorem Ordered.step (ordered : life.Ordered whole) (use : SwapUse) :
    (life.step use).Ordered (whole ∧ ¬ life.CutsAppend use) := by
  cases use with
  | terminate =>
    obtain ⟨slots, finish, gone⟩ := life.ended
    refine ⟨ordered.paved.of_same slots finish, fun handle isOpen => ?_⟩
    cases gone.symm.trans isOpen
  | call call =>
    change Ordered { life with session := life.session.step call } _
    have used := life.session.step_used call
    suffices laid : ∀ {after}, life.session.Used call after →
        after.Paved ∧ after.Reaches (whole ∧ ¬ life.CutsAppend (.call call)) from
      ⟨(laid used).1, (laid used).2⟩
    intro after used
    cases used with
    | wrote how answered =>
      refine ⟨how.paved ordered.paved, (how.reaches ordered.paved ordered.reaches).mono ?_⟩
      rintro ⟨given, notCut⟩
      refine ⟨given, ?_⟩
      rintro ⟨unknown, offset, count, rfl⟩
      exact notCut ⟨unknown, offset, count, answered⟩
    | loaded how =>
      exact ⟨how.paved ordered.paved, (how.reaches ordered.reaches).mono And.left⟩
    | spared same =>
      refine ⟨ordered.paved.of_same rfl rfl, fun handle isOpen => ?_⟩
      obtain ⟨bytes, holds, least, most, exactly⟩ := ordered.reaches handle isOpen
      have stillHolds := (congrArg (ByteFiles.contents · handle) same).trans holds
      exact ⟨bytes, stillHolds, least, most, fun given => exactly given.1⟩

/-- Through a whole life the slots stay in order, and the file whole unless it was cut short. -/
theorem Ordered.run (ordered : life.Ordered whole) (uses : List SwapUse) :
    (life.run uses).Ordered (whole ∧ life.AppendsWhole uses) := by
  induction uses generalizing life whole with
  | nil => exact ⟨ordered.paved, ordered.reaches.mono And.left⟩
  | cons use rest hypothesis =>
    obtain ⟨paved, reaches⟩ := hypothesis (ordered.step use)
    refine ⟨paved, reaches.mono ?_⟩
    rintro ⟨given, appends⟩
    refine ⟨⟨given, appends [] use rest rfl⟩, ?_⟩
    rintro earlier later others rfl
    exact appends (use :: earlier) later others rfl

/-- A slot stays where it is, whatever the file is used for. -/
theorem place_step (known : life.session.swap.place page = some offset) (use : SwapUse) :
    (life.step use).session.swap.place page = some offset := by
  cases use with
  | terminate =>
    exact (SwapFile.place_of_slots_eq life.ended.1 page).trans known
  | call call =>
    change (life.session.step call).swap.place page = some offset
    have used := life.session.step_used call
    generalize (life.session.step call).swap = after at used ⊢
    cases used with
    | wrote how => exact how.place_eq known
    | loaded how => exact (SwapFile.place_of_slots_eq how.slots_eq page).trans known
    | spared => exact known

/-- A page keeps its place for life. -/
theorem place_run (known : life.session.swap.place page = some offset) (uses : List SwapUse) :
    (life.run uses).session.swap.place page = some offset := by
  induction uses generalizing life with
  | nil => exact known
  | cons use rest hypothesis => exact hypothesis (place_step known use)

/-- A write that fails hands out no slot and changes none. -/
theorem write_failed {session : SwapSession} {pid : Pid} {entry : TranslationEntry}
    {cause : PagingError} (failed : (session.write pid entry).1 = .error cause) :
    (session.write pid entry).2.swap.slots = session.swap.slots ∧
      (session.write pid entry).2.swap.finish = session.swap.finish := by
  have used := session.step_used (.writePage pid entry)
  change session.Used _ (session.write pid entry).2.swap at used
  generalize (session.write pid entry).2.swap = after at used ⊢
  cases used with
  | @wrote _ _ contents result after how answered =>
    rw [failed] at answered
    cases result with
    | ok => cases answered
    | error cause => exact ⟨how.slots_eq, how.finish_eq⟩
  | spared => exact ⟨rfl, rfl⟩

/-- The length of a file is the number of its bytes. -/
theorem length_of_contents {files : FaultyFiles EphemeralFiles} {handle : FileHandle}
    {bytes : FileContents} (holds : ByteFiles.contents files handle = some bytes) :
    (fileLength handle : Action _ FileError Nat).outcome files = (.ok bytes.length, files) := by
  obtain ⟨number, inode, found, rfl⟩ := EphemeralFiles.exists_inodeOf holds
  have measured : (fileLength handle : Action EphemeralFiles FileError Nat).outcome files.base =
      (.ok inode.data.length, files.base) := by
    change (inspect fun files : EphemeralFiles => files.length handle).outcome files.base = _
    rw [outcome_inspect, EphemeralFiles.length, found]
  change (FaultyFiles.onBase (fileLength handle)).outcome files = _
  rw [FaultyFiles.onBase, outcome_within, measured]

/-- How the slots of a swap file lie in it; `whole` is true if every write of a page without a
slot was in full or not at all. -/
structure SlotLayout (life : SwapLife) (whole : Prop) : Prop where
  /-- The slots begin at the multiples of the size of a page below the place of the next new
  slot, each for one page. -/
  paved : life.session.swap.Paved
  apart : ∀ page other offset otherOffset, page ≠ other →
    life.session.swap.place page = some offset →
    life.session.swap.place other = some otherOffset →
    offset + pageBytes ≤ otherOffset ∨ otherOffset + pageBytes ≤ offset
  /-- Whatever the file is used for from then on, a slot stays where it is. -/
  lasting : ∀ uses page offset, life.session.swap.place page = some offset →
    (life.run uses).session.swap.place page = some offset
  /-- A write that fails hands out no slot and changes none. -/
  unclaimed : ∀ pid entry cause, (life.session.write pid entry).1 = .error cause →
    (life.session.write pid entry).2.swap.slots = life.session.swap.slots ∧
      (life.session.write pid entry).2.swap.finish = life.session.swap.finish
  /-- An open file has all its slots, and less than a page after them. -/
  length : ∀ handle, life.session.swap.handle = some handle →
    ∃ length, (fileLength handle : Action _ FileError Nat).outcome life.session.swap.files =
        (.ok length, life.session.swap.files) ∧
      life.session.swap.finish ≤ length ∧ length < life.session.swap.finish + pageBytes ∧
      (whole → length = life.session.swap.finish)

/-- What is kept in order says all of the layout. -/
theorem Ordered.slotLayout (ordered : life.Ordered whole) : life.SlotLayout whole where
  paved := ordered.paved
  apart _ _ _ _ different known otherKnown := ordered.paved.apart known otherKnown different
  lasting uses _ _ known := place_run known uses
  unclaimed _ _ _ failed := write_failed failed
  length handle isOpen := by
    obtain ⟨bytes, holds, told⟩ := ordered.reaches handle isOpen
    exact ⟨bytes.length, length_of_contents holds, told⟩

/-- From a swap file that was just made, unless a file of its name was there that could not be
removed, and whatever it was used for, with any calls of the file system failing or cut short:
its slots fill it from its start on. -/
theorem slots_laid_out {files made : FaultyFiles EphemeralFiles} {name : String}
    {handle : FileHandle} (created : (SwapFile.create name).outcome files = (.ok handle, made))
    (removes : files.refusal .remove = none) (memory : PhysicalMemory) (uses : List SwapUse) :
    let start : SwapLife := { session := { swap := .fresh made name handle, memory := memory } }
    (start.run uses).SlotLayout (start.AppendsWhole uses) := by
  intro start
  have ordered : start.Ordered True := by
    refine ⟨SwapFile.Paved.fresh made name handle, fun file isOpen => ?_⟩
    cases isOpen
    have holds := (SwapFile.create_empty removes name).outcome created handle rfl
    exact ⟨{}, holds, Nat.le_refl 0, (by decide : 0 < 0 + pageBytes), fun _ => rfl⟩
  obtain ⟨paved, reaches⟩ := ordered.run uses
  exact Ordered.slotLayout ⟨paved, reaches.mono fun appends => ⟨trivial, appends⟩⟩

/-- Two pages have the first two slots. A third one was cut short after a hundred bytes: it has
none, and the bytes stay behind the slots. -/
theorem slots_laid_out_cut_short :
    ∃ (handle : FileHandle) (made : FaultyFiles EphemeralFiles) (start life : SwapLife),
      (SwapFile.create "swap").outcome ({ base := .empty } : FaultyFiles EphemeralFiles) =
        (.ok handle, made) ∧
      ({ base := .empty } : FaultyFiles EphemeralFiles).refusal .remove = none ∧
      start = { session := { swap := .fresh made "swap" handle, memory := .blank 2 } } ∧
      life = start.run (SwapSession.cutShort.map .call) ∧
      life.session.swap.place ⟨1, 4⟩ = some 0 ∧ life.session.swap.place ⟨1, 5⟩ = some 1024 ∧
      life.session.swap.place ⟨2, 4⟩ = none ∧ life.session.swap.finish = 2048 ∧
      ((fileLength handle : Action _ FileError Nat).outcome life.session.swap.files).1 =
        .ok 2148 ∧
      life.SlotLayout (start.AppendsWhole (SwapSession.cutShort.map .call)) :=
  ⟨_, _, _, _, rfl, rfl, rfl, rfl, by decide +kernel, by decide +kernel, by decide +kernel,
    by decide +kernel, by decide +kernel,
    slots_laid_out
      (rfl : (SwapFile.create "swap").outcome
        ({ base := .empty } : FaultyFiles EphemeralFiles) = (.ok _, _)) rfl _ _⟩

end SwapLife

end VirtualMemory
