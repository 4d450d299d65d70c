/-
Module: VirtualMemory.Proofs.Pager.View
Purpose: What the pager would bring back of a page, and that handing out frames does not
  change it.
Main exports:
  Pager.viewOf, Pager.Intact; Evicted.viewOf, Obtained.viewOf, Backed.viewOf,
  BroughtBack.viewOf, Intact.reclaimOnce

A page is where its entry says, or else in its slot. Evicting it and bringing it back move
it from one to the other.
-/
import VirtualMemory.Proofs.Pager.Bookkeeping
import VirtualMemory.Proofs.Storage.Slots

namespace VirtualMemory

open VirtualMemory.Action

namespace Pager

variable {φ : Type} [FileSystem φ] [ByteFiles φ] {pager after : Pager φ} {config : Config}
  {held : Finset Ppn} {page other : PageId} {ppn : Ppn} {entry : TranslationEntry}

/-- What a page holds, and whether stores to it are refused: as its frame and entry say,
or else its slot. -/
def viewOf (pager : Pager φ) (page : PageId) : Option PageView :=
  match pager.tables.get page with
  | some entry => some ⟨pager.memory.frame entry.ppn, entry.readOnly⟩
  | none => pager.device.stored page

/-- Of a page that is mapped, its frame is seen. -/
theorem viewOf_of_get (found : pager.tables.get page = some entry) :
    pager.viewOf page = some ⟨pager.memory.frame entry.ppn, entry.readOnly⟩ := by
  simp only [viewOf, found]

/-- Of a page that is not mapped, what is stored of it is seen. -/
theorem viewOf_of_absent (absent : pager.tables.get page = none) :
    pager.viewOf page = pager.device.stored page := by
  simp only [viewOf, absent]

/-- A pager between two calls: its books balance, its swap file is sound, and nobody pins a
frame. -/
structure Intact (config : Config) (held : Finset Ppn) (pager : Pager φ) : Prop where
  accounts : Accounts config held pager
  demand : config.paging = .demand
  unpinned : pager.pins = .empty
  device : pager.device.Sound

/-- Only memory and tables matter to a page that is resident, and only its slot to any
other. -/
theorem viewOf_eq (sameMemory : after.memory = pager.memory)
    (sameTables : after.tables = pager.tables)
    (sameStored : pager.tables.get page = none →
      after.device.stored page = pager.device.stored page) :
    after.viewOf page = pager.viewOf page := by
  simp only [viewOf, sameMemory, sameTables]
  cases absent : pager.tables.get page with
  | some entry => rfl
  | none => exact sameStored absent

namespace Intact

/-- Only the books, the pins and the swap file matter. -/
theorem of_same (intact : Intact config held pager) {held : Finset Ppn}
    (accounts : Accounts config held after) (samePins : after.pins = pager.pins)
    (sameDevice : after.device = pager.device) : Intact config held after :=
  ⟨accounts, intact.demand, samePins.trans intact.unpinned, sameDevice ▸ intact.device⟩

theorem usesSwap (intact : Intact config held pager) : pager.usesSwap = true := by
  simp [Pager.usesSwap, intact.accounts.config_eq, intact.demand]

/-- Any resident page can be chosen to leave. -/
theorem eligible (intact : Intact config held pager) {owner : PageId}
    (owned : pager.tables.owner ppn = some owner) :
    Victim.Eligible { frame := ppn, owner := owner } pager.tables pager.pins := by
  refine ⟨owned, ?_⟩
  rw [intact.unpinned]
  exact PinSet.isPinned_empty

/-- If no frame is free and none was handed out, a page can be chosen to leave. -/
theorem exists_eligible (intact : Intact config ∅ pager)
    (empty : pager.frames.allocate = none) :
    ∃ victim : Victim, victim.Eligible pager.tables pager.pins := by
  have accounts := intact.accounts
  have notFree := FramePool.isFree_of_allocate_eq_none accounts.pool empty 0
  cases owned : pager.tables.owner 0 with
  | some owner => exact ⟨_, intact.eligible owned⟩
  | none =>
    have free := (accounts.isFree_iff 0 accounts.frames_pos).mpr ⟨owned, Finset.notMem_empty 0⟩
    rw [notFree] at free
    cases free

end Intact

/-! ### Handing out frames -/

/-- A page that is evicted goes to its slot, and nothing else becomes of any page. -/
theorem Evicted.viewOf {result : Except PagingError Ppn} (evicted : Evicted pager result after)
    (intact : Intact config held pager) :
    Intact config (gained held result) after ∧
      ∀ page, after.viewOf page = pager.viewOf page := by
  have books := evicted.accounts intact.accounts
  cases evicted with
  | refused => exact ⟨intact, fun _ => rfl⟩
  | withoutFile opened | withoutVictim opened =>
    obtain ⟨sound, same⟩ := SwapDevice.opened_kept opened intact.device
    exact ⟨⟨books, intact.demand, intact.unpinned, sound⟩,
      fun page => viewOf_eq rfl rfl fun _ => same page⟩
  | @unwritten swap last victim entry contents cause draws opened _ found _ _ wrote =>
    obtain ⟨sound, same⟩ := SwapDevice.opened_kept opened intact.device
    have inside := intact.accounts.tables.inside_of_get found
    refine ⟨⟨books, intact.demand, intact.unpinned, wrote.sound sound inside⟩,
      fun page => viewOf_eq rfl rfl fun absent => ?_⟩
    have different : victim.owner ≠ page := by
      rintro rfl
      rw [found] at absent
      cases absent
    exact (wrote.stored_other sound.toLaid different).trans (same page)
  | @written swap last victim entry contents draws opened _ found atFrame copied wrote =>
    obtain ⟨sound, same⟩ := SwapDevice.opened_kept opened intact.device
    have inside := intact.accounts.tables.inside_of_get found
    refine ⟨⟨books, intact.demand, intact.unpinned, wrote.sound sound inside⟩, fun page => ?_⟩
    by_cases left : victim.owner = page
    · subst left
      rw [viewOf_of_get found, atFrame, PhysicalMemory.frame_eq copied, viewOf_of_absent]
      · exact wrote.stored_self sound.toLaid
      · rw [PageTables.get_remove, if_pos rfl]
    · have kept : (pager.tables.remove victim.owner).2.get page = pager.tables.get page := by
        rw [PageTables.get_remove, if_neg left]
      simp only [Pager.viewOf, kept]
      cases pager.tables.get page with
      | some entry => rfl
      | none => exact (wrote.stored_other sound.toLaid left).trans (same page)

/-- If some page can leave, only the swap file can be in the way. -/
theorem Evicted.swap_error {cause : PagingError} (evicted : Evicted pager (.error cause) after)
    (intact : Intact config held pager)
    (eligible : ∃ victim : Victim, victim.Eligible pager.tables pager.pins) :
    (∃ reason, cause = .swap reason) ∧ ¬ ByteFiles.Faultless φ := by
  cases evicted with
  | refused resident =>
    rw [intact.usesSwap] at resident
    cases resident
  | withoutFile opened =>
    refine ⟨⟨_, rfl⟩, fun faultless => ?_⟩
    have made := SwapDevice.opened_of_faultless opened faultless
    cases made
  | withoutVictim _ _ noVictim =>
    rcases eligible with ⟨victim, can⟩
    exact absurd can (noVictim victim)
  | unwritten opened _ _ _ _ wrote =>
    refine ⟨⟨_, rfl⟩, fun faultless => ?_⟩
    obtain ⟨sound, _⟩ := SwapDevice.opened_kept opened intact.device
    have done := wrote.ok_of_faultless sound.toLaid faultless
    cases done

theorem Intact.requestReclaim (intact : Intact config held pager) :
    Intact config held (requestReclaim pager) :=
  intact.of_same intact.accounts.requestReclaim pins_requestReclaim device_requestReclaim

theorem viewOf_requestReclaim (pager : Pager φ) (page : PageId) :
    (Pager.requestReclaim pager).viewOf page = pager.viewOf page :=
  viewOf_eq memory_requestReclaim tables_requestReclaim
    fun _ => congrArg (SwapDevice.stored · page) device_requestReclaim

/-- Whoever is handed a frame, every page holds what it held. -/
theorem Obtained.viewOf {result : Except PagingError Ppn} (obtained : Obtained pager result after)
    (intact : Intact config held pager) :
    Intact config (gained held result) after ∧
      ∀ page, after.viewOf page = pager.viewOf page := by
  cases obtained with
  | fromPool taken =>
    have taken := intact.of_same (intact.accounts.allocate taken) rfl rfl
    exact ⟨taken.requestReclaim, fun page => viewOf_requestReclaim _ page⟩
  | byEviction _ evicted =>
    obtain ⟨next, same⟩ := evicted.viewOf intact
    exact ⟨next.requestReclaim, fun page => (viewOf_requestReclaim _ page).trans (same page)⟩
  | failed _ evicted => exact evicted.viewOf intact

/-- Only a fault of the files keeps a frame from being got. -/
theorem Obtained.swap_error {cause : PagingError} (obtained : Obtained pager (.error cause) after)
    (intact : Intact config ∅ pager) :
    (∃ reason, cause = .swap reason) ∧ ¬ ByteFiles.Faultless φ := by
  cases obtained with
  | failed empty evicted => exact evicted.swap_error intact (intact.exists_eligible empty)

/-! ### Giving pages frames -/

/-- A page that takes a frame over holds what the frame was given. -/
theorem viewOf_settle (accounts : Accounts config held pager) {pid : Pid}
    (isHeld : entry.ppn ∈ held) (contents : Page) (page : PageId) :
    (pager.settle pid entry contents).viewOf page =
      if entry.page pid = page then some ⟨contents, entry.readOnly⟩ else pager.viewOf page := by
  obtain ⟨pool, tlbs, settled⟩ := exists_settle pager pid entry contents
  have inside : entry.ppn < pager.memory.size :=
    accounts.size_memory.symm ▸ accounts.held_lt entry.ppn isHeld
  have unowned := accounts.owner_of_held entry.ppn isHeld
  rw [settled]
  simp only [viewOf, PageTables.get_replace]
  by_cases own : entry.page pid = page
  · simp only [own, if_true, PhysicalMemory.frame_store inside]
  · simp only [own, if_false]
    cases found : pager.tables.get page with
    | none => rfl
    | some other =>
      have elsewhere : entry.ppn ≠ other.ppn := by
        intro same
        rw [same, accounts.tables.owner_of_get found] at unowned
        cases unowned
      simp only [PhysicalMemory.frame_store inside, if_neg elsewhere]

theorem Intact.settle_fresh (intact : Intact config (insert ppn held) pager)
    (notHeld : ppn ∉ held) (inside : page.vpn ≤ lastPage) (readOnly : Bool) (contents : Page) :
    Intact config held (pager.settle page.pid (.fresh page.vpn ppn readOnly) contents) := by
  have accounts := intact.accounts.settle_fresh notHeld inside readOnly contents
  obtain ⟨pool, tlbs, settled⟩ :=
    exists_settle pager page.pid (.fresh page.vpn ppn readOnly) contents
  rw [settled] at accounts ⊢
  exact intact.of_same accounts rfl rfl

/-- Backing a page fails only for a page that does not exist or for the swap file, and then
every page holds what it held. -/
theorem Backed.viewOf {readOnly : Bool} {result : Except PagingError TranslationEntry}
    (backed : Backed pager page readOnly result after) (intact : Intact config ∅ pager) :
    Intact config ∅ after ∧
      match result with
      | .ok entry => page.vpn ≤ lastPage ∧ (∃ ppn, entry = .fresh page.vpn ppn readOnly) ∧
          ∀ other, after.viewOf other =
            if page = other then some ⟨.zero, readOnly⟩ else pager.viewOf other
      | .error cause => (∀ other, after.viewOf other = pager.viewOf other) ∧
          (lastPage < page.vpn ∧ cause = .invalidPage page.vpn ∨
            page.vpn ≤ lastPage ∧ (∃ reason, cause = .swap reason) ∧
              ¬ ByteFiles.Faultless φ) := by
  cases backed with
  | outside beyond => exact ⟨intact, fun _ => rfl, Or.inl ⟨beyond, rfl⟩⟩
  | noFrame inside obtained =>
    obtain ⟨next, same⟩ := obtained.viewOf intact
    exact ⟨next, same, Or.inr ⟨inside, obtained.swap_error intact⟩⟩
  | fresh inside obtained =>
    obtain ⟨middle, same⟩ := obtained.viewOf intact
    have notHeld := obtained.not_held intact.accounts
    refine ⟨middle.settle_fresh notHeld inside readOnly Page.zero, inside, ⟨_, rfl⟩,
      fun other => ?_⟩
    rw [viewOf_settle middle.accounts (Finset.mem_insert_self _ _), TranslationEntry.page_fresh,
      same]
    rfl

/-! ### Bringing pages back -/

theorem Intact.sound (intact : Intact config held pager) {swap : SwapFile φ}
    (used : pager.device = .inUse swap) : swap.Sound := by
  have device := intact.device
  rw [used] at device
  exact device

/-- A page that is in swap and nowhere else is one that there is. -/
theorem Intact.exists_viewOf (intact : Intact config held pager)
    (absent : pager.tables.get page = none) (known : pager.swapContains page = true) :
    ∃ view, pager.viewOf page = some view := by
  obtain ⟨swap, used, slot⟩ := swapContains_iff.mp known
  rw [viewOf_of_absent absent, used]
  exact Option.isSome_iff_exists.mp (((intact.sound used).toLaid.isSome_stored page).trans slot)

theorem viewOf_of_unknown (absent : pager.tables.get page = none)
    (unknown : pager.swapContains page = false) : pager.viewOf page = none := by
  rw [viewOf_of_absent absent]
  simp only [swapContains, SwapDevice.swap?] at unknown
  cases used : pager.device with
  | unused files => rfl
  | inUse swap =>
    simp only [used, SwapFile.contains_eq_isSome, Option.isSome_eq_false_iff,
      Option.isNone_iff_eq_none] at unknown
    exact SwapFile.stored_of_slot_eq_none unknown

/-- A frame that is filled from a slot holds what the slot holds. -/
theorem Restored.viewOf {result : Except PagingError (Option TranslationEntry)}
    (restored : Restored pager page ppn result after)
    (intact : Intact config (insert ppn held) pager) (absent : pager.tables.get page = none) :
    after.pins = pager.pins ∧ after.device.Sound ∧
      (∀ other, after.viewOf other = pager.viewOf other) ∧
      ∀ cause, result = .error cause →
        ¬ ByteFiles.Faultless φ ∧ ∃ reason, cause = .swapRead page reason := by
  cases restored with
  | @unread swap last cause used loaded =>
    have sound := loaded.sound (intact.sound used)
    obtain ⟨_, same⟩ := loaded.kept (intact.sound used).toLaid
    refine ⟨rfl, sound, fun other => viewOf_eq rfl rfl fun _ => ?_, fun told answered => ?_⟩
    · rw [used]
      exact same other
    · cases answered
      exact ⟨loaded.not_faultless (intact.sound used).toLaid, cause, rfl⟩
  | outside beyond used loaded =>
    cases loaded with
    | whole known =>
      exact absurd ((intact.sound used).inside known) (UInt32.not_le.mpr beyond)
  | @mapped swap last contents readOnly inside used loaded =>
    have sound := loaded.sound (intact.sound used)
    obtain ⟨_, same⟩ := loaded.kept (intact.sound used).toLaid
    have read := loaded.stored_eq (intact.sound used).toLaid
    have moved : Accounts config (insert ppn held) { pager with device := .inUse last } :=
      intact.accounts.of_same rfl rfl rfl intact.accounts.pins rfl
    have isHeld : (TranslationEntry.fresh page.vpn ppn readOnly).ppn ∈ insert ppn held :=
      Finset.mem_insert_self ppn held
    have settled := @viewOf_settle φ _ _ _ _ _ _ moved page.pid isHeld contents
    have unmoved : ∀ other,
        ({ pager with device := .inUse last } : Pager φ).viewOf other = pager.viewOf other := by
      refine fun other => viewOf_eq rfl rfl fun _ => ?_
      rw [used]
      exact same other
    obtain ⟨pool, tlbs, whole⟩ := exists_settle { pager with device := .inUse last } page.pid
      (.fresh page.vpn ppn readOnly) contents
    refine ⟨by rw [whole], by rw [whole]; exact sound, fun other => ?_,
      fun _ => no_cause⟩
    rw [settled, TranslationEntry.page_fresh, unmoved]
    split
    · next here =>
      rw [← here, viewOf_of_absent absent, used]
      exact read.symm
    · rfl

/-- Bringing a page back changes no page. It fails only for a page that there is and only
for the swap file. -/
theorem BroughtBack.viewOf {result : Except PagingError (Option TranslationEntry)}
    (broughtBack : BroughtBack pager page result after) (intact : Intact config ∅ pager) :
    Intact config ∅ after ∧ (∀ other, after.viewOf other = pager.viewOf other) ∧
      match result with
      | .ok (some _) => True
      | .ok none => pager.viewOf page = none
      | .error cause => (∃ view, pager.viewOf page = some view) ∧ ¬ ByteFiles.Faultless φ ∧
          ∃ reason, cause = .swap reason ∨ cause = .swapRead page reason := by
  have books := broughtBack.accounts intact.accounts
  cases broughtBack with
  | resident found => exact ⟨intact, fun _ => rfl, trivial⟩
  | neverWritten absent unknown =>
    exact ⟨intact, fun _ => rfl, viewOf_of_unknown absent unknown⟩
  | noFrame absent known obtained =>
    obtain ⟨next, same⟩ := obtained.viewOf intact
    obtain ⟨⟨reason, told⟩, faulty⟩ := obtained.swap_error intact
    exact ⟨next, same, intact.exists_viewOf absent known, faulty, reason, Or.inl told⟩
  | failed absent known obtained restored released =>
    obtain ⟨middle, same⟩ := obtained.viewOf intact
    obtain ⟨samePins, sound, sameStill, told⟩ :=
      restored.viewOf middle (obtained.absent absent)
    obtain ⟨faulty, reason, answered⟩ := told _ rfl
    refine ⟨⟨books, intact.demand, samePins.trans middle.unpinned, sound⟩, fun other => ?_,
      intact.exists_viewOf absent known, faulty, reason, Or.inr answered⟩
    exact (sameStill other).trans (same other)
  | loaded absent obtained restored =>
    obtain ⟨middle, same⟩ := obtained.viewOf intact
    obtain ⟨samePins, sound, sameStill, _⟩ :=
      restored.viewOf middle (obtained.absent absent)
    exact ⟨⟨books, intact.demand, samePins.trans middle.unpinned, sound⟩,
      fun other => (sameStill other).trans (same other), trivial⟩

/-! ### Other changes -/

/-- An access is noted beside what a page holds. -/
theorem viewOf_markAccessed (pager : Pager φ) (page other : PageId) (write : Bool) :
    ({ pager with tables := (pager.tables.markAccessed page write).2 } : Pager φ).viewOf other =
      pager.viewOf other := by
  simp only [viewOf, PageTables.get_markAccessed]
  by_cases same : page = other
  · rw [if_pos same, same]
    cases pager.tables.get other <;> rfl
  · rw [if_neg same]

/-- What is written to the frame of a page is in that page and no other. -/
theorem viewOf_store (accounts : Accounts config held pager)
    (found : pager.tables.get page = some entry) (contents : Page) (other : PageId) :
    ({ pager with memory := pager.memory.store entry.ppn contents } : Pager φ).viewOf other =
      if page = other then some ⟨contents, entry.readOnly⟩ else pager.viewOf other := by
  have owned := accounts.tables.owner_of_get found
  have inside := accounts.lt_size_of_get found
  simp only [viewOf]
  by_cases here : page = other
  · subst here
    simp only [found, PhysicalMemory.frame_store inside, if_true]
  · rw [if_neg here]
    cases foundOther : pager.tables.get other with
    | none => rfl
    | some present =>
      have elsewhere : entry.ppn ≠ present.ppn := by
        intro same
        have alsoOwned := accounts.tables.owner_of_get foundOther
        rw [← same, owned] at alsoOwned
        exact here (Option.some.inj alsoOwned)
      simp only [PhysicalMemory.frame_store inside, if_neg elsewhere]

/-- A process that ends takes nothing away from another. -/
theorem Intact.deallocate (intact : Intact config held pager) (pid : Pid) :
    Intact config held (pager.deallocate pid).2 ∧
      ∀ page : PageId, page.pid ≠ pid →
        (pager.deallocate pid).2.viewOf page = pager.viewOf page := by
  have accounts := intact.accounts.deallocate pid
  obtain ⟨pool, tlbs, whole⟩ := exists_deallocate pager pid
  rw [whole] at accounts ⊢
  refine ⟨intact.of_same accounts rfl rfl, fun page different => ?_⟩
  simp only [viewOf, PageTables.get_removeAll, if_neg different]

/-- An operation has moved pages at most, and if it failed, the files are to blame. -/
structure Unseen (config : Config) (held : Finset Ppn) (pager : Pager φ) {α : Type}
    (result : Except PagingError α) (next : Pager φ) : Prop where
  intact : Intact config held next
  same : ∀ page, next.viewOf page = pager.viewOf page
  faulty : ∀ cause, result = .error cause →
    ¬ ByteFiles.Faultless φ ∧ ∃ reason, cause = .swap reason

theorem Intact.initializeSwap (intact : Intact config held pager) :
    (Pager.initializeSwap : PagerAction φ Unit).Ends pager (Unseen config held pager) := by
  rw [ends_initializeSwap]
  cases opened : pager.device.opened pager.config.swapFile with
  | mk result device =>
    obtain ⟨sound, same⟩ := SwapDevice.opened_kept opened intact.device
    have books : Accounts config held { pager with device := device } :=
      intact.accounts.of_same rfl rfl rfl intact.accounts.pins rfl
    refine ⟨⟨books, intact.demand, intact.unpinned, sound⟩,
      fun page => viewOf_eq rfl rfl fun _ => same page, fun cause told => ?_⟩
    cases result with
    | ok => cases told
    | error reason =>
      cases told
      refine ⟨fun faultless => ?_, reason, rfl⟩
      have made := SwapDevice.opened_of_faultless opened faultless
      cases made

/-- Reclaiming moves pages to swap, and stops at the first that does not get there. -/
theorem Intact.reclaimUpTo (limit : Nat) (count : Nat) (intact : Intact config ∅ pager) :
    (Pager.reclaimUpTo count limit : PagerAction φ Nat).Ends pager
      (Unseen config ∅ pager) := by
  induction limit generalizing count pager with
  | zero => exact ⟨intact, fun _ => rfl, fun _ => no_cause⟩
  | succ limit hypothesis =>
    simp only [Pager.reclaimUpTo, ends_bind, ends_get]
    split
    · exact ⟨intact, fun _ => rfl, fun _ => no_cause⟩
    · next wanted =>
      rw [ends_bind]
      have books := intact.accounts.evictToPool
      apply Ends.mono ((evictToPool_ends intact.accounts).and books)
      intro result next holds
      rcases holds with ⟨ended, accounts, _⟩
      cases result with
      | error cause =>
        obtain ⟨kept, same⟩ := ended.viewOf intact
        refine ⟨kept, same, fun told answered => ?_⟩
        cases answered
        have resident : pager.residentPageCount ≠ 0 := by
          intro none
          simp [reclaimed, none] at wanted
        obtain ⟨ppn, owner, owned⟩ := PageTables.exists_owner_of_residentCount resident
        obtain ⟨told, faulty⟩ := ended.swap_error intact ⟨_, intact.eligible owned⟩
        exact ⟨faulty, told⟩
      | ok ppn =>
        rcases ended with ⟨after, pool, evicted, released, rfl⟩
        obtain ⟨kept, same⟩ := evicted.viewOf intact
        have given : Intact config ∅ { after with frames := pool } :=
          kept.of_same accounts rfl rfl
        apply Ends.mono (hypothesis (count + 1) given)
        intro result last rest
        exact ⟨rest.intact, fun page => (rest.same page).trans (same page), rest.faulty⟩

theorem Intact.reclaimOnce (intact : Intact config ∅ pager) :
    (Pager.reclaimOnce : PagerAction φ Nat).Ends pager (Unseen config ∅ pager) :=
  intact.reclaimUpTo pager.residentPageCount 0

/-- A machine that has just been booted has no pages. -/
theorem Intact.boot {files : φ} {policy : Policy} {chance : Chance}
    (booted : Pager.boot config files policy chance = .ok pager)
    (demand : config.paging = .demand) :
    Intact config ∅ pager ∧ ∀ page, pager.viewOf page = none := by
  have accounts := Accounts.boot booted
  obtain ⟨-, rfl⟩ := eq_of_boot booted
  exact ⟨⟨accounts, demand, rfl, trivial⟩,
    fun page => viewOf_of_absent (PageTables.get_empty _ page)⟩

end Pager

end VirtualMemory
