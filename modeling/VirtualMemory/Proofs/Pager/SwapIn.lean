/-
Module: VirtualMemory.Proofs.Pager.SwapIn
Purpose: Everything that bringing a page back from swap can do.
Main exports:
  Pager.BroughtBack, loadFromSwap_ends, BroughtBack.accounts
-/
import VirtualMemory.Proofs.Pager.Effects

namespace VirtualMemory.Pager

open VirtualMemory.Action

variable {φ : Type} [FileSystem φ] {pager : Pager φ} {page : PageId} {ppn : Ppn}
  {config : Config} {held : Finset Ppn}

/-! ### Filling a frame from a slot -/

/-- The ways in which reading a slot into a frame and mapping it can end. -/
inductive Restored (pager : Pager φ) (page : PageId) (ppn : Ppn) :
    Except PagingError (Option TranslationEntry) → Pager φ → Prop where
  | unread {swap after : SwapFile φ} {cause : SwapError} (used : pager.device = .inUse swap)
      (loaded : swap.Loaded page (.error cause) after) :
      Restored pager page ppn (.error (.swapRead page cause))
        { pager with device := .inUse after }
  | outside {swap after : SwapFile φ} {contents : Page} {readOnly : Bool}
      (beyond : lastPage < page.vpn) (used : pager.device = .inUse swap)
      (loaded : swap.Loaded page (.ok (some (contents, readOnly))) after) :
      Restored pager page ppn (.error (.invalidPage page.vpn))
        { pager with device := .inUse after, memory := pager.memory.store ppn contents }
  | mapped {swap after : SwapFile φ} {contents : Page} {readOnly : Bool}
      (inside : page.vpn ≤ lastPage) (used : pager.device = .inUse swap)
      (loaded : swap.Loaded page (.ok (some (contents, readOnly))) after) :
      Restored pager page ppn (.ok (some (.fresh page.vpn ppn readOnly)))
        ({ pager with device := .inUse after }.settle page.pid
          (.fresh page.vpn ppn readOnly) contents)

omit [FileSystem φ] in
theorem swapContains_iff :
    pager.swapContains page = true ↔
      ∃ swap, pager.device = .inUse swap ∧ (swap.slot page).isSome = true := by
  simp only [swapContains, SwapDevice.swap?]
  cases pager.device with
  | unused files => simp
  | inUse swap => simp [SwapFile.contains_eq_isSome]

/-- No eviction takes a page's slot away. -/
theorem Evicted.swapContains {result : Except PagingError Ppn} {after : Pager φ}
    (evicted : Evicted pager result after) (known : pager.swapContains page = true) :
    after.swapContains page = true := by
  obtain ⟨swap, used, slot⟩ := swapContains_iff.mp known
  have kept : pager.device.opened pager.config.swapFile = (.ok (), .inUse swap) := by
    rw [used]
    rfl
  cases evicted with
  | refused => exact known
  | withoutFile opened =>
    rw [kept] at opened
    cases opened
  | withoutVictim opened =>
    rw [kept] at opened
    cases opened
    exact swapContains_iff.mpr ⟨swap, rfl, slot⟩
  | unwritten opened _ _ _ _ wrote | written opened _ _ _ _ wrote =>
    rw [kept] at opened
    cases opened
    exact swapContains_iff.mpr ⟨_, rfl, wrote.slot_isSome slot⟩

theorem Obtained.swapContains {result : Except PagingError Ppn} {after : Pager φ}
    (obtained : Obtained pager result after) (known : pager.swapContains page = true) :
    after.swapContains page = true := by
  cases obtained with
  | fromPool =>
    rw [swapContains_iff, device_requestReclaim]
    exact swapContains_iff.mp known
  | byEviction _ evicted =>
    rw [swapContains_iff, device_requestReclaim]
    exact swapContains_iff.mp (evicted.swapContains known)
  | failed _ evicted => exact evicted.swapContains known

theorem ends_readSlot {swap : SwapFile φ} (used : pager.device = .inUse swap)
    {post : Except PagingError (Option TranslationEntry) → Pager φ → Prop} :
    (readSlot page ppn).Ends pager post ↔
      (SwapFile.loadPage page ppn).Ends (swap, pager.memory) fun result next =>
        post (result.mapError (ownSlotFailure page))
          { pager with device := .inUse next.1, memory := next.2 } := by
  simp only [Ends, outcome, readSlot, used]
  rcases SwapFile.loadPage page ppn (swap, pager.memory) with ⟨_, _, _⟩ | ⟨_, _, _⟩ <;> rfl

omit [FileSystem φ] in
/-- A page that has no frame yet leaves none. -/
theorem ends_recordEntry_fresh (accounts : Accounts config held pager)
    (absent : pager.tables.get page = none) (isHeld : ppn ∈ held) (readOnly : Bool)
    {post : Except PagingError (Option TranslationEntry) → Pager φ → Prop} :
    (recordEntry page.pid (.fresh page.vpn ppn readOnly)).Ends pager post ↔
      if lastPage < page.vpn then post (.error (.invalidPage page.vpn)) pager
      else
        post (.ok none)
          { pager with
            tables := (pager.tables.replace page.pid (.fresh page.vpn ppn readOnly)).2 } := by
  have frameInside := accounts.size_tables.symm ▸ accounts.held_lt ppn isHeld
  have unowned := accounts.owner_of_held ppn isHeld
  rw [ends_recordEntry, PageTables.put, if_pos (TranslationEntry.valid_fresh _ _ _)]
  by_cases beyond : lastPage < page.vpn
  · have refused : pager.tables.refusal page.pid (.fresh page.vpn ppn readOnly) =
        some (.invalidPage page.vpn) := if_pos beyond
    rw [refused, if_pos beyond]
  · have accepted : pager.tables.refusal page.pid (.fresh page.vpn ppn readOnly) = none :=
      PageTables.refusal_eq_none (UInt32.not_lt.mp beyond) frameInside unowned
    have previous : (pager.tables.replace page.pid (.fresh page.vpn ppn readOnly)).1 = none :=
      absent
    rw [accepted, if_neg beyond]
    simp only [previous]

omit [FileSystem φ] in
theorem settle_of_absent {pid : Pid} {entry : TranslationEntry}
    (absent : pager.tables.get (entry.page pid) = none) (contents : Page) :
    pager.settle pid entry contents =
      { pager with
        memory := pager.memory.store entry.ppn contents
        tables := (pager.tables.replace pid entry).2 } := by
  simp only [settle, absent]

/-- However a page is restored, it ends in one of the ways that are listed. -/
theorem restore_ends {swap : SwapFile φ} (accounts : Accounts config held pager)
    (absent : pager.tables.get page = none) (isHeld : ppn ∈ held)
    (used : pager.device = .inUse swap) (known : (swap.slot page).isSome = true) :
    (restore page ppn : PagerAction φ (Option TranslationEntry)).Ends pager
      (Restored pager page ppn) := by
  obtain ⟨old, there⟩ :=
    exists_copyOut (accounts.size_memory.symm ▸ accounts.held_lt ppn isHeld)
  simp only [restore, ends_bind]
  rw [ends_readSlot used]
  apply Ends.mono (SwapFile.loadPage_ends there)
  intro result next holds
  rcases holds with ⟨loaded, after, how, told⟩
  rcases loaded with cause | (_ | ⟨contents, readOnly⟩)
  · rcases told with ⟨rfl, rfl⟩
    exact .unread used how
  · cases how with
    | absent unknown =>
      rw [unknown] at known
      cases known
  · rcases told with ⟨rfl, rfl⟩
    have books : Accounts config held
        { pager with
          device := .inUse after, memory := pager.memory.store ppn contents } :=
      accounts.of_same rfl rfl rfl accounts.pins (PhysicalMemory.size_store _ _ _)
    simp only [mapError_ok, ends_bind]
    rw [ends_recordEntry_fresh books absent isHeld readOnly]
    split
    · next beyond => exact .outside beyond used how
    · next notBeyond =>
      have whole : Restored pager page ppn _ _ :=
        .mapped (UInt32.not_lt.mp notBeyond) used how
      rw [settle_of_absent absent] at whole
      exact whole

theorem Restored.of_pin {result : Except PagingError (Option TranslationEntry)}
    {after : Pager φ} (pinned : Restored (pager.pin ppn) page ppn result after)
    (sound : pager.pins.Sound) (absent : pager.tables.get page = none) :
    Restored pager page ppn result (after.unpin ppn) := by
  have letGo := PinSet.release_hold sound ppn
  cases pinned with
  | unread used loaded =>
    simp only [pin, unpin, letGo]
    exact .unread used loaded
  | outside beyond used loaded =>
    simp only [pin, unpin, letGo]
    exact .outside beyond used loaded
  | mapped inside used loaded =>
    have whole : Restored pager page ppn _ _ := .mapped inside used loaded
    rw [settle_of_absent absent] at whole
    rw [settle_of_absent absent]
    simp only [pin, unpin, letGo]
    exact whole

/-- A frame that was filled holds its page; one that was not is still held. -/
theorem Restored.accounts {result : Except PagingError (Option TranslationEntry)}
    {after : Pager φ} (restored : Restored pager page ppn result after)
    (accounts : Accounts config (insert ppn held) pager) (notHeld : ppn ∉ held) :
    Accounts config
      (match result with
        | .ok _ => held
        | .error _ => insert ppn held) after := by
  cases restored with
  | unread => exact accounts.of_same rfl rfl rfl accounts.pins rfl
  | outside =>
    exact accounts.of_same rfl rfl rfl accounts.pins (PhysicalMemory.size_store _ _ _)
  | @mapped swap last contents readOnly inside =>
    have moved : Accounts config (insert ppn held) { pager with device := .inUse last } :=
      accounts.of_same rfl rfl rfl accounts.pins rfl
    exact moved.settle_fresh notHeld inside readOnly contents

/-! ### Bringing a page back -/

/-- The ways in which bringing a page back from swap can end. -/
inductive BroughtBack (pager : Pager φ) (page : PageId) :
    Except PagingError (Option TranslationEntry) → Pager φ → Prop where
  | resident {entry : TranslationEntry} (found : pager.tables.get page = some entry) :
      BroughtBack pager page (.ok (some entry)) pager
  | neverWritten (absent : pager.tables.get page = none)
      (unknown : pager.swapContains page = false) :
      BroughtBack pager page (.ok none) pager
  | noFrame {cause : PagingError} {after : Pager φ} (absent : pager.tables.get page = none)
      (known : pager.swapContains page = true) (obtained : Obtained pager (.error cause) after)
      (asked : getFreeFrame.outcome pager = (.error cause, after)) :
      BroughtBack pager page (.error cause) after
  | failed {ppn : Ppn} {middle after : Pager φ} {pool : FramePool} {cause : PagingError}
      (absent : pager.tables.get page = none) (known : pager.swapContains page = true)
      (obtained : Obtained pager (.ok ppn) middle)
      (restored : Restored middle page ppn (.error cause) after)
      (released : after.frames.release ppn = .ok pool)
      (asked : getFreeFrame.outcome pager = (.ok ppn, middle)) :
      BroughtBack pager page (.error cause) { after with frames := pool }
  | loaded {ppn : Ppn} {middle after : Pager φ} {entry : TranslationEntry}
      (absent : pager.tables.get page = none) (obtained : Obtained pager (.ok ppn) middle)
      (restored : Restored middle page ppn (.ok (some entry)) after)
      (known : pager.swapContains page = true)
      (asked : getFreeFrame.outcome pager = (.ok ppn, middle)) :
      BroughtBack pager page (.ok (some entry)) after

/-- A page of the tables is absent as long as frames are only handed out. -/
theorem Evicted.absent {result : Except PagingError Ppn} {after : Pager φ}
    (evicted : Evicted pager result after) (absent : pager.tables.get page = none) :
    after.tables.get page = none := by
  cases found : after.tables.get page with
  | none => rfl
  | some entry =>
    rw [evicted.get_of_get found] at absent
    cases absent

/-- A page that is not mapped is not mapped when a frame is got. -/
theorem Obtained.absent {result : Except PagingError Ppn} {after : Pager φ}
    (obtained : Obtained pager result after) (absent : pager.tables.get page = none) :
    after.tables.get page = none := by
  cases found : after.tables.get page with
  | none => rfl
  | some entry =>
    rw [obtained.get_of_get found] at absent
    cases absent

/-- Backing a page maps no other page. -/
theorem Backed.absent {other : PageId} {readOnly : Bool}
    {result : Except PagingError TranslationEntry} {after : Pager φ}
    (backed : Backed pager page readOnly result after) (different : page ≠ other)
    (absent : pager.tables.get other = none) : after.tables.get other = none := by
  cases backed with
  | outside => exact absent
  | noFrame _ obtained => exact obtained.absent absent
  | fresh _ obtained =>
    rw [get_settle, TranslationEntry.page_fresh, if_neg different]
    exact obtained.absent absent

theorem Restored.absent {other : PageId}
    {result : Except PagingError (Option TranslationEntry)} {after : Pager φ}
    (restored : Restored pager page ppn result after) (different : page ≠ other)
    (absent : pager.tables.get other = none) : after.tables.get other = none := by
  cases restored with
  | unread | outside => exact absent
  | mapped =>
    rw [get_settle, TranslationEntry.page_fresh, if_neg different]
    exact absent

/-- Bringing a page back maps no other page. -/
theorem BroughtBack.absent_other {other : PageId}
    {result : Except PagingError (Option TranslationEntry)} {after : Pager φ}
    (broughtBack : BroughtBack pager page result after) (different : page ≠ other)
    (absent : pager.tables.get other = none) : after.tables.get other = none := by
  cases broughtBack with
  | resident | neverWritten => exact absent
  | noFrame _ _ obtained => exact obtained.absent absent
  | failed _ _ obtained restored =>
    have unmapped := restored.absent different (obtained.absent absent)
    exact unmapped
  | loaded _ obtained restored => exact restored.absent different (obtained.absent absent)

/-- The pin that a frame is given while it is filled is gone afterwards. -/
theorem loadFromSwap_ends (accounts : Accounts config held pager) (page : PageId) :
    (loadFromSwap page : PagerAction φ (Option TranslationEntry)).Ends pager
      (BroughtBack pager page) := by
  simp only [loadFromSwap, ends_bind, ends_get]
  cases absent : pager.tables.get page with
  | some entry => exact .resident absent
  | none =>
    simp only
    cases known : pager.swapContains page with
    | false => exact .neverWritten absent known
    | true =>
      simp only [Bool.not_true, Bool.false_eq_true, if_false]
      refine ((getFreeFrame_ends accounts).and (ends_self _ pager)).bind
        (fun ppn middle handed => ?_)
        (fun cause after refused => .noFrame absent known refused.1 refused.2)
      obtain ⟨obtained, asked⟩ := handed
      have books := obtained.accounts accounts
      have isHeld := Finset.mem_insert_self ppn held
      obtain ⟨swap, used, slot⟩ := swapContains_iff.mp (obtained.swapContains known)
      rw [ends_bind, ends_attempt, whilePinned, ends_bind, ends_modify, ends_thenAlways]
      apply Ends.mono (restore_ends (books.pin ppn) (obtained.absent absent) isHeld used slot)
      intro result next pinned
      have restored := pinned.of_pin books.pins (obtained.absent absent)
      have last := restored.accounts books (obtained.not_held accounts)
      cases result with
      | ok found =>
        cases found with
        | none => cases restored
        | some entry => exact .loaded absent obtained restored known asked
      | error cause =>
        obtain ⟨pool, released⟩ := FramePool.exists_release
          (last.size_pool.symm ▸ last.held_lt ppn isHeld)
        simp only [ends_bind, ends_releaseFrame, released, ends_conclude]
        exact .failed absent known obtained restored released asked

/-- The frames held stay the same while a page is brought back. -/
theorem BroughtBack.accounts {result : Except PagingError (Option TranslationEntry)}
    {after : Pager φ} (broughtBack : BroughtBack pager page result after)
    (accounts : Accounts config held pager) : Accounts config held after := by
  cases broughtBack with
  | resident | neverWritten => exact accounts
  | noFrame _ _ obtained => exact obtained.accounts accounts
  | failed _ _ obtained restored released =>
    have notHeld := obtained.not_held accounts
    have last := restored.accounts (obtained.accounts accounts) notHeld
    have given := last.release (last.owner_of_held _ (Finset.mem_insert_self _ held)) released
    rwa [Finset.erase_insert notHeld] at given
  | loaded _ obtained restored =>
    exact restored.accounts (obtained.accounts accounts) (obtained.not_held accounts)

/-- A page that was not brought back for want of a slot is not resident. -/
theorem BroughtBack.absent {after : Pager φ}
    (broughtBack : BroughtBack pager page (.ok none) after) : pager.tables.get page = none := by
  cases broughtBack with
  | neverWritten absent => exact absent

/-- A page that was brought back is resident. -/
theorem BroughtBack.get_eq {entry : TranslationEntry} {after : Pager φ}
    (broughtBack : BroughtBack pager page (.ok (some entry)) after) :
    after.tables.get page = some entry := by
  cases broughtBack with
  | resident found => exact found
  | loaded _ _ restored =>
    cases restored with
    | mapped => rw [get_settle, if_pos (TranslationEntry.page_fresh page _ _)]

end VirtualMemory.Pager
