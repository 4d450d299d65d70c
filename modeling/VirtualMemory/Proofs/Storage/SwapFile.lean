/-
Module: VirtualMemory.Proofs.Storage.SwapFile
Purpose: What writing a page to its slot and reading it back can do, on any file
  system.
Main exports:
  SwapFile.Wrote, SwapFile.Loaded; writePage_ends, loadPage_ends;
  SwapFile.Spaced, Wrote.spaced, Loaded.spaced
-/
import VirtualMemory.Proofs.Frame.Memory
import VirtualMemory.Proofs.Outcome
import VirtualMemory.Storage.SwapFile

namespace VirtualMemory.SwapFile

open VirtualMemory.Action FileSystem

variable {φ : Type} [FileSystem φ] {swap : SwapFile φ} {page : PageId}

omit [FileSystem φ] in
theorem ends_onFiles {α : Type} {action : Action φ FileError α}
    {post : Except SwapError α → SwapFile φ → Prop} :
    (onFiles action).Ends swap post ↔
      action.Ends swap.files fun result files =>
        post (result.mapError .files) { swap with files := files } := by
  simp only [onFiles, ends_within, ends_causing]

omit [FileSystem φ] in
theorem ends_openHandle {post : Except SwapError FileHandle → SwapFile φ → Prop} :
    (openHandle : Action (SwapFile φ) SwapError FileHandle).Ends swap post ↔
      match swap.handle with
      | some handle => post (.ok handle) swap
      | none => post (.error .closed) swap := by
  simp only [openHandle, ends_inspect]
  cases swap.handle <;> rfl

/-- The ways in which writing out a page can end. Only a full write claims the slot. -/
inductive Wrote (swap : SwapFile φ) (page : PageId) (readOnly : Bool) (contents : Page) :
    Except SwapError Unit → SwapFile φ → Prop where
  | closed (gone : swap.handle = none) : Wrote swap page readOnly contents (.error .closed) swap
  | failed {handle : FileHandle} {cause : FileError} {files : φ}
      (isOpen : swap.handle = some handle)
      (wrote : (writeFile handle (swap.offsetFor page) contents.bytes).outcome swap.files =
        (.error cause, files)) :
      Wrote swap page readOnly contents (.error (.files cause)) { swap with files := files }
  | short {handle : FileHandle} {count : Nat} {files : φ} (isOpen : swap.handle = some handle)
      (wrote : (writeFile handle (swap.offsetFor page) contents.bytes).outcome swap.files =
        (.ok count, files))
      (torn : count ≠ pageBytes) :
      Wrote swap page readOnly contents (.error (.shortWrite (swap.offsetFor page) count))
        { swap with files := files }
  | whole {handle : FileHandle} {files : φ} (isOpen : swap.handle = some handle)
      (wrote : (writeFile handle (swap.offsetFor page) contents.bytes).outcome swap.files =
        (.ok pageBytes, files)) :
      Wrote swap page readOnly contents (.ok ())
        ({ swap with files := files }.claim page readOnly)

/-- However a write goes, it ends in one of the ways that are listed. -/
theorem writeBytes_ends {readOnly : Bool} {contents : Page} :
    (writeBytes page readOnly contents.bytes).Ends swap (swap.Wrote page readOnly contents) := by
  simp only [writeBytes, ends_bind, ends_openHandle]
  cases isOpen : swap.handle with
  | none => exact .closed isOpen
  | some handle =>
    simp only [ends_get, ends_onFiles, contents.length_bytes]
    cases wrote : (writeFile handle (swap.offsetFor page) contents.bytes).outcome swap.files with
    | mk result files =>
      rw [Ends, wrote]
      cases result with
      | error cause => exact .failed isOpen wrote
      | ok count =>
        simp only [mapError_ok]
        split
        · next torn => exact .short isOpen wrote torn
        · next full =>
          rw [Decidable.not_not.mp full] at wrote
          exact .whole isOpen wrote

/-- A page is written with what its frame has, under the page and the protection of its entry. -/
theorem writePage_ends {memory : PhysicalMemory} {pid : Pid} {entry : TranslationEntry}
    {contents : Page} (copied : memory.copyOut entry.ppn = .ok contents) :
    (writePage memory pid entry).Ends swap fun result after =>
      ∃ wrote, swap.Wrote (entry.page pid) entry.readOnly contents wrote after ∧
        result = wrote.mapError .swap := by
  simp only [writePage, ends_bind, ends_causing, ends_openHandle]
  cases isOpen : swap.handle with
  | none => exact ⟨.error .closed, .closed isOpen, rfl⟩
  | some handle =>
    simp only [mapError_ok, ends_conclude, copied]
    exact writeBytes_ends.mono fun result after wrote => ⟨result, wrote, rfl⟩

/-- Without a frame there is nothing to write out. -/
theorem writePage_outside {memory : PhysicalMemory} {pid : Pid} {entry : TranslationEntry}
    {cause : PagingError} (outside : memory.copyOut entry.ppn = .error cause) :
    (writePage memory pid entry).Ends swap fun result after =>
      (∃ cause, result = .error cause) ∧ after = swap := by
  simp only [writePage, ends_bind, ends_causing, ends_openHandle]
  cases swap.handle with
  | none => exact ⟨⟨.swap .closed, rfl⟩, trivial⟩
  | some handle =>
    simp only [mapError_ok, ends_conclude, outside]
    exact ⟨⟨cause, rfl⟩, trivial⟩

/-- The ways in which reading a page back can end. The file stays as it is, but the file
system may note that it was read. -/
inductive Loaded (swap : SwapFile φ) (page : PageId) :
    Except SwapError (Option (Page × Bool)) → SwapFile φ → Prop where
  | absent (unknown : swap.slot page = none) : Loaded swap page (.ok none) swap
  | closed {slot : SwapSlot} (known : swap.slot page = some slot) (gone : swap.handle = none) :
      Loaded swap page (.error .closed) swap
  | failed {slot : SwapSlot} {handle : FileHandle} {cause : FileError} {files : φ}
      (known : swap.slot page = some slot) (isOpen : swap.handle = some handle)
      (read : (readFile handle slot.offset pageBytes).outcome swap.files =
        (.error cause, files)) :
      Loaded swap page (.error (.files cause)) { swap with files := files }
  | short {slot : SwapSlot} {handle : FileHandle} {bytes : Bytes} {files : φ}
      (known : swap.slot page = some slot) (isOpen : swap.handle = some handle)
      (read : (readFile handle slot.offset pageBytes).outcome swap.files = (.ok bytes, files))
      (part : bytes.length ≠ pageBytes) :
      Loaded swap page (.error (.shortRead slot.offset bytes.length))
        { swap with files := files }
  | whole {slot : SwapSlot} {handle : FileHandle} {contents : Page} {files : φ}
      (known : swap.slot page = some slot) (isOpen : swap.handle = some handle)
      (read : (readFile handle slot.offset pageBytes).outcome swap.files =
        (.ok contents.bytes, files)) :
      Loaded swap page (.ok (some (contents, slot.readOnly))) { swap with files := files }

/-- Nothing is read exactly if there is no slot. -/
theorem Loaded.eq_none_iff {result : Except SwapError (Option (Page × Bool))}
    {after : SwapFile φ} (loaded : swap.Loaded page result after) :
    result = .ok none ↔ swap.slot page = none := by
  cases loaded with
  | absent unknown => exact ⟨fun _ => unknown, fun _ => rfl⟩
  | closed known | failed known | short known | whole known => simp [known]

/-- However a load goes, it ends in one of the ways that are listed. -/
theorem readPage_ends :
    (readPage page).Ends swap fun result after =>
      ∃ loaded, swap.Loaded page loaded after ∧
        match loaded with
        | .ok none => result = .ok none
        | .ok (some (contents, readOnly)) =>
          ∃ slot, slot.readOnly = readOnly ∧ result = .ok (some (slot, contents.bytes))
        | .error cause => result = .error cause := by
  simp only [readPage, ends_bind, ends_get]
  cases known : swap.slot page with
  | none => exact ⟨_, .absent known, rfl⟩
  | some slot =>
    simp only [ends_bind, ends_openHandle]
    cases isOpen : swap.handle with
    | none => exact ⟨.error .closed, .closed known isOpen, rfl⟩
    | some handle =>
      simp only [ends_onFiles]
      cases read : (readFile handle slot.offset pageBytes).outcome swap.files with
      | mk result files =>
        rw [Ends, read]
        cases result with
        | error cause => exact ⟨.error (.files cause), .failed known isOpen read, rfl⟩
        | ok bytes =>
          simp only [mapError_ok]
          split
          · next part =>
            exact ⟨.error (.shortRead slot.offset bytes.length), .short known isOpen read part, rfl⟩
          · next full =>
            exact ⟨.ok (some (⟨bytes, Decidable.not_not.mp full⟩, slot.readOnly)),
              .whole known isOpen read, slot, rfl, rfl⟩

/-- What is read from a slot goes into a frame, if there is such a frame. -/
theorem loadPage_tells {memory : PhysicalMemory} {ppn : Ppn} :
    (loadPage page ppn).Ends (swap, memory) fun result next =>
      ∃ loaded after, swap.Loaded page loaded after ∧
        match loaded with
        | .ok none => result = .ok none ∧ next = (after, memory)
        | .ok (some (contents, readOnly)) =>
          match memory.copyOut ppn with
          | .ok _ =>
            result = .ok (some (.fresh page.vpn ppn readOnly)) ∧
              next = (after, memory.store ppn contents)
          | .error cause => result = .error cause ∧ next = (after, memory)
        | .error cause => result = .error (.swap cause) ∧ next = (after, memory) := by
  simp only [loadPage, ends_bind, ends_within, ends_causing]
  apply Ends.mono readPage_ends
  intro result after holds
  rcases holds with ⟨loaded, how, told⟩
  cases loaded with
  | error cause =>
    simp only at told
    subst told
    exact ⟨_, after, how, rfl, rfl⟩
  | ok found =>
    cases found with
    | none =>
      simp only at told
      subst told
      exact ⟨_, after, how, rfl, rfl⟩
    | some pair =>
      rcases pair with ⟨contents, readOnly⟩
      simp only at told
      rcases told with ⟨slot, sameFlag, told⟩
      subst told
      cases copied : memory.copyOut ppn with
      | ok old =>
        simp only [mapError_ok, ends_update, PhysicalMemory.copyIn, copied,
          Page.overwrite_whole]
        exact ⟨_, after, how, by rw [sameFlag], rfl⟩
      | error cause =>
        simp only [mapError_ok, ends_update, PhysicalMemory.copyIn, copied]
        exact ⟨_, after, how, trivial, rfl⟩

/-- A page comes into a frame as a whole or not at all. -/
theorem loadPage_ends {memory : PhysicalMemory} {ppn : Ppn} {old : Page}
    (inside : memory.copyOut ppn = .ok old) :
    (loadPage page ppn).Ends (swap, memory) fun result next =>
      ∃ loaded after, swap.Loaded page loaded after ∧
        match loaded with
        | .ok none => result = .ok none ∧ next = (after, memory)
        | .ok (some (contents, readOnly)) =>
          result = .ok (some (.fresh page.vpn ppn readOnly)) ∧
            next = (after, memory.store ppn contents)
        | .error cause => result = .error (.swap cause) ∧ next = (after, memory) := by
  have tells := @loadPage_tells φ _ swap page memory ppn
  rw [inside] at tells
  exact tells

/-! ### Slots once handed out stay -/

omit [FileSystem φ] in
theorem slot_claim (swap : SwapFile φ) (page other : PageId) (readOnly : Bool) :
    (swap.claim page readOnly).slot other =
      if page = other then some { offset := swap.offsetFor page, readOnly := readOnly }
      else swap.slot other := by
  simp only [claim, slot, Std.ExtTreeMap.getElem?_insert, Std.LawfulEqCmp.compare_eq_iff_eq]

omit [FileSystem φ] in
theorem contains_eq_isSome (swap : SwapFile φ) (page : PageId) :
    swap.contains page = (swap.slot page).isSome := by
  simp only [contains, slot, Std.ExtTreeMap.isSome_getElem?_eq_contains]

omit [FileSystem φ] in
theorem finish_claim (swap : SwapFile φ) (page : PageId) (readOnly : Bool) :
    (swap.claim page readOnly).finish =
      if (swap.slot page).isSome then swap.finish else swap.finish + pageBytes := by
  rw [← contains_eq_isSome, claim]

omit [FileSystem φ] in
theorem slotCount_claim (swap : SwapFile φ) (page : PageId) (readOnly : Bool) :
    (swap.claim page readOnly).slotCount =
      if (swap.slot page).isSome then swap.slotCount else swap.slotCount + 1 := by
  rw [← contains_eq_isSome]
  simp only [slotCount, claim, Std.ExtTreeMap.size_insert, contains,
    Std.ExtTreeMap.contains_iff_mem]

/-- Only a full write hands out a slot, and only to its page. -/
theorem Wrote.slot_cases {readOnly : Bool} {contents : Page} {result : Except SwapError Unit}
    {after : SwapFile φ} (wrote : swap.Wrote page readOnly contents result after)
    {other : PageId} {slot : SwapSlot} (known : after.slot other = some slot) :
    (page = other ∧ result = .ok ()) ∨ swap.slot other = some slot := by
  cases wrote with
  | closed | failed | short => exact Or.inr known
  | whole =>
    rw [slot_claim] at known
    split at known
    · next same => exact Or.inl ⟨same, rfl⟩
    · exact Or.inr known

/-- A write gives a slot to its page only, and only if it succeeds. -/
theorem Wrote.slot_isSome_iff {readOnly : Bool} {contents : Page}
    {result : Except SwapError Unit} {after : SwapFile φ}
    (wrote : swap.Wrote page readOnly contents result after) (other : PageId) :
    (after.slot other).isSome = true ↔
      (page = other ∧ result = .ok ()) ∨ (swap.slot other).isSome = true := by
  cases wrote with
  | closed | failed | short => simp [slot]
  | whole =>
    rw [slot_claim]
    by_cases same : page = other
    · simp [same]
    · simp [same, slot]

/-- A write that fails hands out no slot. -/
theorem Wrote.slots_eq {readOnly : Bool} {contents : Page} {cause : SwapError}
    {after : SwapFile φ} (wrote : swap.Wrote page readOnly contents (.error cause) after) :
    after.slots = swap.slots := by
  cases wrote <;> rfl

theorem Wrote.slot_isSome {readOnly : Bool} {contents : Page} {result : Except SwapError Unit}
    {after : SwapFile φ} (wrote : swap.Wrote page readOnly contents result after)
    {other : PageId} (known : (swap.slot other).isSome = true) :
    (after.slot other).isSome = true :=
  (wrote.slot_isSome_iff other).mpr (Or.inr known)

/-! ### Where slots lie -/

/-- Slots lie beside one another, before the place of the next new one. -/
structure Spaced (swap : SwapFile φ) : Prop where
  before_finish : ∀ {page slot}, swap.slot page = some slot →
    slot.offset + pageBytes ≤ swap.finish
  apart : ∀ {page other slot otherSlot}, swap.slot page = some slot →
    swap.slot other = some otherSlot → page ≠ other →
    slot.offset + pageBytes ≤ otherSlot.offset ∨ otherSlot.offset + pageBytes ≤ slot.offset

namespace Spaced

omit [FileSystem φ] in
theorem fresh (files : φ) (name : String) (handle : FileHandle) :
    (SwapFile.fresh files name handle).Spaced where
  before_finish known := by simp [slot, SwapFile.fresh] at known
  apart known := by simp [slot, SwapFile.fresh] at known

omit [FileSystem φ] in
theorem of_same {after : SwapFile φ} (spaced : swap.Spaced) (slots : after.slots = swap.slots)
    (finish : after.finish = swap.finish) : after.Spaced := by
  have same : after.slot = swap.slot := by
    funext page
    simp only [slot, slots]
  constructor
  case before_finish => rw [same, finish]; exact spaced.before_finish
  case apart => rw [same]; exact spaced.apart

omit [FileSystem φ] in
theorem offsetFor_le (spaced : swap.Spaced) (page : PageId) :
    swap.offsetFor page ≤ swap.finish := by
  simp only [offsetFor]
  split
  · next slot known =>
    have before := spaced.before_finish known
    omega
  · exact Nat.le_refl _

omit [FileSystem φ] in
/-- A page is written beside the slots of all others. -/
theorem offsetFor_apart (spaced : swap.Spaced) {other : PageId} {slot : SwapSlot}
    (known : swap.slot other = some slot) (different : page ≠ other) :
    swap.offsetFor page + pageBytes ≤ slot.offset ∨
      slot.offset + pageBytes ≤ swap.offsetFor page := by
  simp only [offsetFor]
  split
  · next own ownKnown => exact spaced.apart ownKnown known different
  · exact Or.inr (spaced.before_finish known)

omit [FileSystem φ] in
/-- A page is written to its own slot, or past all slots. -/
theorem offsetFor_cases (spaced : swap.Spaced) :
    (∃ slot, swap.slot page = some slot ∧ swap.offsetFor page = slot.offset) ∨
      (swap.slot page = none ∧ swap.offsetFor page = swap.finish ∧
        ∀ other slot, swap.slot other = some slot →
          slot.offset + pageBytes ≤ swap.offsetFor page) := by
  simp only [offsetFor]
  cases known : swap.slot page with
  | some slot => exact Or.inl ⟨slot, rfl, rfl⟩
  | none => exact Or.inr ⟨rfl, rfl, fun _ _ => spaced.before_finish⟩

omit [FileSystem φ] in
theorem claim (spaced : swap.Spaced) (page : PageId) (readOnly : Bool) :
    (swap.claim page readOnly).Spaced := by
  have later : swap.finish ≤ (swap.claim page readOnly).finish := by
    rw [finish_claim]
    split <;> omega
  have ownBefore : swap.offsetFor page + pageBytes ≤ (swap.claim page readOnly).finish := by
    rw [finish_claim, offsetFor]
    cases known : swap.slot page with
    | some slot => exact spaced.before_finish known
    | none => exact Nat.le_refl _
  constructor
  case before_finish =>
    intro other slot known
    rw [slot_claim] at known
    split at known
    · cases known
      exact ownBefore
    · exact Nat.le_trans (spaced.before_finish known) later
  case apart =>
    intro first second slot otherSlot known otherKnown different
    rw [slot_claim] at known otherKnown
    split at known
    · next same =>
      cases known
      subst same
      rw [if_neg different] at otherKnown
      exact spaced.offsetFor_apart otherKnown different
    · split at otherKnown
      · next same =>
        cases otherKnown
        subst same
        exact (spaced.offsetFor_apart known different.symm).symm
      · exact spaced.apart known otherKnown different

end Spaced

/-- A write keeps the slots apart. -/
theorem Wrote.spaced {readOnly : Bool} {contents : Page} {result : Except SwapError Unit}
    {after : SwapFile φ} (wrote : swap.Wrote page readOnly contents result after)
    (spaced : swap.Spaced) : after.Spaced := by
  cases wrote with
  | closed => exact spaced
  | failed | short => exact spaced.of_same rfl rfl
  | whole =>
    apply Spaced.claim
    exact spaced.of_same rfl rfl

theorem Loaded.spaced {result : Except SwapError (Option (Page × Bool))} {after : SwapFile φ}
    (loaded : swap.Loaded page result after) (spaced : swap.Spaced) : after.Spaced := by
  cases loaded with
  | absent | closed => exact spaced
  | failed | short | whole => exact spaced.of_same rfl rfl

/-- A swap file that was made was opened by its name. -/
theorem exists_openFile_of_create {files made : φ} {name : String} {handle : FileHandle}
    (created : (create name).outcome files = (.ok handle, made)) :
    ∃ before, (openFile name true : Action φ FileError FileHandle).outcome before =
      (.ok handle, made) := by
  have opened : ∀ before : φ,
      ((openFile name true : Action φ FileError FileHandle).causing SwapError.files).Ends before
        fun result next => result = .ok handle →
          (openFile name true : Action φ FileError FileHandle).outcome before =
            (.ok handle, next) := by
    intro before
    rw [ends_causing]
    refine (ends_self _ before).mono fun result next outcome same => ?_
    cases result with
    | error cause => cases same
    | ok other =>
      cases same
      exact outcome
  have makes : (create name).Ends files fun result next => result = .ok handle →
      ∃ before, (openFile name true : Action φ FileError FileHandle).outcome before =
        (.ok handle, next) := by
    rw [create, ends_bind, ends_attempt]
    cases removed : (removeFile name : Action φ FileError Unit).outcome files with
    | mk result after =>
      rw [Ends, removed]
      rcases result with (_ | _ | _ | _) | _
      case error.notFound | ok => exact fun same => ⟨after, opened after same⟩
      case error.noSpace | error.badHandle | error.host => exact no_answer
  exact makes.outcome created rfl

/-- Slots outlive the file, and its handle does not, however its end goes. -/
theorem terminate_ends :
    (terminate : Action (SwapFile φ) SwapError Unit).Ends swap fun _ after =>
      after.slots = swap.slots ∧ after.finish = swap.finish ∧ after.handle = none := by
  rw [terminate, ends_bind, ends_get]
  simp only
  cases gone : swap.handle with
  | none => exact ⟨rfl, rfl, gone⟩
  | some handle =>
    have removed : ∀ current : SwapFile φ,
        (onFiles (removeFile swap.name : Action φ FileError Unit)).Ends current
          fun _ after => after.slots = current.slots ∧ after.finish = current.finish ∧
            after.handle = current.handle := by
      intro current
      rw [ends_onFiles]
      exact ⟨rfl, rfl, rfl⟩
    have closed : (onFiles (closeFile handle : Action φ FileError Unit) >>= fun _ =>
        onFiles (removeFile swap.name : Action φ FileError Unit)).Ends
        ({ swap with handle := none } : SwapFile φ)
        fun _ after =>
          after.slots = swap.slots ∧ after.finish = swap.finish ∧ after.handle = none := by
      rw [ends_bind, ends_onFiles, Ends]
      split
      · exact removed _
      · exact ⟨rfl, rfl, rfl⟩
    exact closed

end VirtualMemory.SwapFile
