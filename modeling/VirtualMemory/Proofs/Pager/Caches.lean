/-
Module: VirtualMemory.Proofs.Pager.Caches
Purpose: Whatever unmaps or moves a page takes its translation out of the cache that
  evictions can reach.
Main exports:
  TlbBank.DropsOnly; Pager.tlbs_deallocate; CachesAgree and its shootDown, settle;
  Evicted.cachesAgree, Obtained.cachesAgree, Backed.cachesAgree, BroughtBack.cachesAgree,
  CachesAgree.keeps, CachesAgree.deallocate
-/
import VirtualMemory.Proofs.Pager.Bookkeeping
import VirtualMemory.Proofs.Tlb

namespace VirtualMemory

open VirtualMemory.Action

variable {φ : Type}

namespace TlbBank

variable {bank : TlbBank} {page : PageId} {id : TlbId} {tlb : Tlb}

@[simp] theorem attachedTo_shootDown : (bank.shootDown page).attachedTo = bank.attachedTo := by
  simp only [shootDown]
  split <;> rfl

@[simp] theorem size_shootDown :
    (bank.shootDown page).units.size = bank.units.size := by
  simp only [shootDown]
  split
  · rfl
  · exact size_change _

/-- A page that was shot down is in no slot of its process's cache. -/
theorem unit_shootDown (present : (bank.shootDown page).unit id = some tlb) :
    ∃ before, bank.unit id = some before ∧ tlb.CachesNoMore before ∧
      (bank.attachedTo page.pid = some id →
        ∀ {index slot}, tlb.readSlot index = some slot → slot.valid = true →
          slot.vpn ≠ page.vpn) := by
  simp only [shootDown] at present
  cases attached : bank.attachedTo page.pid with
  | none =>
    rw [attached] at present
    refine ⟨tlb, present, fun held valid => ⟨_, held, valid, rfl, rfl, rfl⟩, fun here => ?_⟩
    cases here
  | some owner =>
    simp only [attached, unit_change] at present
    split at present
    · obtain ⟨before, found, rfl⟩ := Option.map_eq_some_iff.mp present
      refine ⟨before, found, Tlb.cachesNoMore_invalidate before page.vpn, fun _ => ?_⟩
      exact fun held valid => (Tlb.of_readSlot_invalidate held valid).2
    · next elsewhere =>
      refine ⟨tlb, present, fun held valid => ⟨_, held, valid, rfl, rfl, rfl⟩, fun here => ?_⟩
      exact absurd (Option.some.inj here) elsewhere

/-- What may become of caches that drop one page: the slot that cached it for its process is
empty, though what it held stays readable, and every other slot is as it was. -/
structure DropsOnly (bank : TlbBank) (page : PageId) (next : TlbBank) : Prop where
  others : next = { bank with units := next.units }
  made : next.units.size = bank.units.size
  slots : ∀ id tlb, bank.unit id = some tlb → ∃ after, next.unit id = some after ∧
    after.size = tlb.size ∧ ∀ index slot, tlb.readSlot index = some slot →
      after.readSlot index = some slot ∨
        bank.attachedTo page.pid = some id ∧ slot.caches page.vpn = true ∧
          after.readSlot index = some slot.dropped

/-- To forget a page makes the caches drop that page only. -/
theorem dropsOnly_shootDown (bank : TlbBank) (page : PageId) :
    bank.DropsOnly page (bank.shootDown page) where
  others := by
    simp only [shootDown]
    split <;> rfl
  made := size_shootDown
  slots := by
    intro id tlb present
    cases attached : bank.attachedTo page.pid with
    | none =>
      simp only [shootDown, attached]
      exact ⟨tlb, present, rfl, fun _ _ held => Or.inl held⟩
    | some owner =>
      simp only [shootDown, attached, unit_change, present]
      split
      · next here =>
        refine ⟨_, rfl, tlb.size_invalidate page.vpn, ?_⟩
        intro index slot held
        rw [Tlb.readSlot_invalidate held]
        cases slot.caches page.vpn with
        | false => exact Or.inl rfl
        | true => exact Or.inr ⟨congrArg some here, rfl, rfl⟩
      · exact ⟨tlb, rfl, rfl, fun _ _ held => Or.inl held⟩

end TlbBank

namespace Pager

/-! ### The cache of a process whose memory is freed -/

/-- A process whose memory is freed loses its cache, which is emptied. -/
theorem tlbs_deallocate (pager : Pager φ) (pid : Pid) :
    (pager.deallocate pid).2.tlbs =
      match pager.tlbs.attachedTo pid with
      | none => pager.tlbs
      | some id => (pager.tlbs.detach pid).change id Tlb.invalidateAll := by
  obtain ⟨pool, released⟩ := exists_releaseAll (pager.tables.removeAll pid).1
    { pager with tables := (pager.tables.removeAll pid).2 }
  simp only [Pager.deallocate, released, Pager.forgetTlb]
  cases pager.tlbs.attachedTo pid <;> rfl

/-- All others keep theirs. -/
theorem attachedTo_deallocate (pager : Pager φ) (pid other : Pid) :
    (pager.deallocate pid).2.tlbs.attachedTo other =
      if pid = other then none else pager.tlbs.attachedTo other := by
  rw [tlbs_deallocate]
  cases found : pager.tlbs.attachedTo pid with
  | some id => exact TlbBank.attachedTo_detach
  | none =>
    by_cases same : pid = other
    · rw [if_pos same, ← same, found]
    · rw [if_neg same]

theorem size_deallocate (pager : Pager φ) (pid : Pid) :
    (pager.deallocate pid).2.tlbs.units.size = pager.tlbs.units.size := by
  rw [tlbs_deallocate]
  split
  · rfl
  · exact TlbBank.size_change _

/-! ### Agreement with the page tables -/

/-- The cache attached to any process agrees with the page tables. Which caches there are
and whose they are is told by `attached` and `made`. -/
structure CachesAgree (attached : Pid → Option TlbId) (made : Nat) (pager : Pager φ) :
    Prop where
  attached_eq : pager.tlbs.attachedTo = attached
  made_eq : pager.tlbs.units.size = made
  agrees : ∀ {pid id tlb}, attached pid = some id → pager.tlbs.unit id = some tlb →
    tlb.Agrees pager.tables pid

variable {attached : Pid → Option TlbId} {made : Nat} {pager : Pager φ} {page : PageId}
  {entry : TranslationEntry} {config : Config} {held : Finset Ppn}

namespace CachesAgree

/-- The caches agree with the same tables. -/
theorem of_same (agree : CachesAgree attached made pager) {next : Pager φ}
    (sameTlbs : next.tlbs = pager.tlbs) (sameTables : next.tables = pager.tables) :
    CachesAgree attached made next where
  attached_eq := sameTlbs ▸ agree.attached_eq
  made_eq := sameTlbs ▸ agree.made_eq
  agrees := sameTlbs ▸ sameTables ▸ agree.agrees

/-- Tables may change for a page once it was shot down. -/
theorem shootDown (agree : CachesAgree attached made pager) {tables : PageTables}
    (kept : ∀ other, other ≠ page → tables.get other = pager.tables.get other) :
    CachesAgree attached made { pager.shootDown page with tables := tables } where
  attached_eq := TlbBank.attachedTo_shootDown.trans agree.attached_eq
  made_eq := TlbBank.size_shootDown.trans agree.made_eq
  agrees := by
    intro pid id tlb isAttached present
    obtain ⟨before, found, noMore, dropped⟩ := TlbBank.unit_shootDown present
    have narrower := (agree.agrees isAttached found).of_cachesNoMore noMore
    refine narrower.of_tables fun held valid mapped => ⟨_, ?_, rfl, rfl⟩
    rw [kept _ ?_]
    · exact mapped
    · rintro rfl
      rw [← agree.attached_eq] at isAttached
      exact dropped isAttached held valid rfl

/-- A page without a translation is in no cache, so mapping it leaves them right. -/
theorem map (agree : CachesAgree attached made pager) (absent : pager.tables.get page = none)
    {tables : PageTables}
    (kept : ∀ other, other ≠ page → tables.get other = pager.tables.get other)
    {memory : PhysicalMemory} :
    CachesAgree attached made { pager with memory := memory, tables := tables } where
  attached_eq := agree.attached_eq
  made_eq := agree.made_eq
  agrees := by
    intro pid id tlb isAttached present
    refine (agree.agrees isAttached present).of_tables fun held valid mapped => ⟨_, ?_, rfl, rfl⟩
    rw [kept _ ?_]
    · exact mapped
    · rintro rfl
      rw [absent] at mapped
      cases mapped

/-- To release entries that were replaced makes the caches forget some pages. -/
theorem releaseAll (agree : CachesAgree attached made pager) (entries : List TranslationEntry) :
    CachesAgree attached made (pager.releaseAll entries) := by
  obtain ⟨pool, released⟩ := exists_releaseAll entries pager
  rw [released]
  exact agree.of_same rfl rfl

/-- An entry that is settled is cached nowhere, since its page was not mapped before. -/
theorem settle (agree : CachesAgree attached made pager) (accounts : Accounts config held pager)
    (pid : Pid) (entry : TranslationEntry) (contents : Page) :
    CachesAgree attached made (pager.settle pid entry contents) := by
  have kept : ∀ other, other ≠ entry.page pid →
      (pager.tables.replace pid entry).2.get other = pager.tables.get other := by
    intro other different
    rw [PageTables.get_replace, if_neg (fun same => different same.symm)]
  simp only [Pager.settle]
  cases found : pager.tables.get (entry.page pid) with
  | none => exact agree.map found kept
  | some old =>
    have samePage : old.page pid = entry.page pid := accounts.tables.page_eq found
    simp only [samePage]
    apply releaseAll
    have stored : CachesAgree attached made
        { pager with memory := pager.memory.store entry.ppn contents } := agree.of_same rfl rfl
    exact stored.shootDown kept

/-- A request to reclaim frames touches neither caches nor tables. -/
theorem requestReclaim (agree : CachesAgree attached made pager) :
    CachesAgree attached made (Pager.requestReclaim pager) :=
  agree.of_same tlbs_requestReclaim tables_requestReclaim

/-- To mark a page as accessed changes nothing that the caches have to agree with. -/
theorem markAccessed (agree : CachesAgree attached made pager) (page : PageId) (write : Bool) :
    CachesAgree attached made
      { pager with tables := (pager.tables.markAccessed page write).2 } where
  attached_eq := agree.attached_eq
  made_eq := agree.made_eq
  agrees := by
    intro pid id tlb isAttached present
    refine (agree.agrees isAttached present).of_tables fun held valid mapped => ?_
    exact PageTables.get_markAccessed_of_get mapped write

/-- Nothing of a process is left in a cache once its pages are unmapped: its cache is
emptied and taken away, and no other cache held them. -/
theorem deallocate (agree : CachesAgree attached made pager) (pid : Pid) :
    CachesAgree (fun owner => if pid = owner then none else attached owner) made
      (pager.deallocate pid).2 := by
  obtain ⟨pool, released⟩ := exists_releaseAll (pager.tables.removeAll pid).1
    { pager with tables := (pager.tables.removeAll pid).2 }
  have others : ∀ {owner id tlb}, (if pid = owner then none else attached owner) = some id →
      pager.tlbs.unit id = some tlb → tlb.Agrees (pager.tables.removeAll pid).2 owner := by
    intro owner id tlb isAttached present
    split at isAttached
    · cases isAttached
    · next different =>
      refine (agree.agrees isAttached present).of_tables fun _ _ mapped => ⟨_, ?_, rfl, rfl⟩
      rw [PageTables.get_removeAll, if_neg (fun same => different same.symm)]
      exact mapped
  have sameAttached := agree.attached_eq
  simp only [Pager.deallocate, released, Pager.forgetTlb]
  cases found : pager.tlbs.attachedTo pid with
  | none =>
    refine ⟨?_, agree.made_eq, others⟩
    funext owner
    rw [sameAttached]
    split
    · next same => rw [← same, ← sameAttached, found]
    · rfl
  | some id =>
    refine ⟨?_, (TlbBank.size_change _).trans agree.made_eq, ?_⟩
    · funext owner
      rw [← sameAttached]
      exact TlbBank.attachedTo_detach
    · intro owner other tlb isAttached present
      rw [TlbBank.unit_change] at present
      split at present
      · obtain ⟨before, wasThere, rfl⟩ := Option.map_eq_some_iff.mp present
        exact (others isAttached wasThere).of_cachesNoMore
          (Tlb.cachesNoMore_invalidateAll before)
      · exact others isAttached present

/-- A new process starts with an empty cache, in place of any that its number had. -/
theorem start (agree : CachesAgree attached made pager) (pid : Pid) (stackTop : Vpn) :
    CachesAgree (fun owner => if pid = owner then some made else attached owner) (made + 1)
      (UserProcess.start pager pid stackTop).2 := by
  have size := agree.made_eq
  refine ⟨?_, ?_, ?_⟩
  · funext owner
    rw [← agree.attached_eq, ← size]
    exact TlbBank.attachedTo_attach
  · simp only [UserProcess.start, TlbBank.attach, TlbBank.make, Array.size_push, size]
  · intro owner id tlb isAttached present
    have units : (UserProcess.start pager pid stackTop).2.tlbs.unit id =
        (pager.tlbs.make pager.config.tlbEntries).2.unit id := rfl
    rw [units, TlbBank.unit_make, size] at present
    split at present
    · cases present
      exact Tlb.Agrees.empty _
    · next old =>
      split at isAttached
      · cases isAttached
        exact absurd rfl old
      · exact agree.agrees isAttached present

/-- A cache may be changed as long as nothing comes to be cached. -/
theorem changeCache (agree : CachesAgree attached made pager) (process : UserProcess)
    {step : Tlb → Tlb} (noMore : ∀ tlb : Tlb, (step tlb).CachesNoMore tlb) :
    CachesAgree attached made (process.changeCache step pager) where
  attached_eq := agree.attached_eq
  made_eq := (TlbBank.size_change step).trans agree.made_eq
  agrees := by
    intro pid id tlb isAttached present
    have changed : (pager.tlbs.change process.tlb step).unit id = some tlb := present
    rw [TlbBank.unit_change] at changed
    split at changed
    · obtain ⟨before, found, rfl⟩ := Option.map_eq_some_iff.mp changed
      exact (agree.agrees isAttached found).of_cachesNoMore (noMore before)
    · exact agree.agrees isAttached changed

/-- A process caches translations of its own pages in its own cache. -/
theorem install (agree : CachesAgree attached made pager) {process : UserProcess}
    (owned : ∀ {pid}, attached pid = some process.tlb → pid = process.pid)
    (found : pager.tables.get (process.page entry.vpn) = some entry) :
    CachesAgree attached made
      { pager with tlbs := (pager.tlbs.install process.tlb entry).2 } where
  attached_eq := TlbBank.attachedTo_install.trans agree.attached_eq
  made_eq := TlbBank.size_install.trans agree.made_eq
  agrees := by
    intro pid id tlb isAttached present
    rcases TlbBank.unit_install present with
      ⟨before, chance, wasThere, rfl, rfl⟩ | ⟨wasThere, _⟩
    · have samePid := owned isAttached
      subst samePid
      exact (agree.agrees isAttached wasThere).install chance found
    · exact agree.agrees isAttached wasThere

end CachesAgree

/-! ### What evicting, backing and bringing back do to the caches -/

variable [FileSystem φ]

/-- A page that is evicted is forgotten by the caches before it is unmapped. -/
theorem Evicted.cachesAgree {result : Except PagingError Ppn} {after : Pager φ}
    (evicted : Evicted pager result after) (agree : CachesAgree attached made pager) :
    CachesAgree attached made after := by
  cases evicted with
  | refused => exact agree
  | withoutFile | withoutVictim => exact agree.of_same rfl rfl
  | @unwritten _ _ victim =>
    have dropped := @CachesAgree.shootDown φ attached made pager victim.owner agree pager.tables
      fun _ _ => rfl
    exact dropped.of_same rfl rfl
  | @written _ _ victim =>
    have dropped := @CachesAgree.shootDown φ attached made pager victim.owner agree
      (pager.tables.remove victim.owner).2 fun other different => by
        rw [PageTables.get_remove, if_neg (fun same => different same.symm)]
    exact dropped.of_same rfl rfl

/-- However a frame is got, the caches agree afterwards. -/
theorem Obtained.cachesAgree {result : Except PagingError Ppn} {after : Pager φ}
    (obtained : Obtained pager result after) (agree : CachesAgree attached made pager) :
    CachesAgree attached made after := by
  cases obtained with
  | fromPool =>
    apply CachesAgree.requestReclaim
    exact agree.of_same rfl rfl
  | byEviction _ evicted => exact (evicted.cachesAgree agree).requestReclaim
  | failed _ evicted => exact evicted.cachesAgree agree

/-- However a page is made, the caches agree afterwards. -/
theorem Backed.cachesAgree {readOnly : Bool} {result : Except PagingError TranslationEntry}
    {after : Pager φ} (backed : Backed pager page readOnly result after)
    (accounts : Accounts config held pager) (agree : CachesAgree attached made pager) :
    CachesAgree attached made after := by
  cases backed with
  | outside => exact agree
  | noFrame _ obtained => exact obtained.cachesAgree agree
  | fresh _ obtained =>
    exact (obtained.cachesAgree agree).settle (obtained.accounts accounts) _ _ _

/-- However a page is restored from swap, the caches agree afterwards. -/
theorem Restored.cachesAgree {ppn : Ppn}
    {result : Except PagingError (Option TranslationEntry)} {after : Pager φ}
    (restored : Restored pager page ppn result after) (accounts : Accounts config held pager)
    (agree : CachesAgree attached made pager) : CachesAgree attached made after := by
  cases restored with
  | unread | outside => exact agree.of_same rfl rfl
  | @mapped swap last =>
    have moved : CachesAgree attached made { pager with device := .inUse last } :=
      agree.of_same rfl rfl
    have books : Accounts config held { pager with device := .inUse last } :=
      accounts.of_same rfl rfl rfl accounts.pins rfl
    exact moved.settle books _ _ _

/-- However a page is brought back, the caches agree afterwards. -/
theorem BroughtBack.cachesAgree {result : Except PagingError (Option TranslationEntry)}
    {after : Pager φ} (broughtBack : BroughtBack pager page result after)
    (accounts : Accounts config held pager) (agree : CachesAgree attached made pager) :
    CachesAgree attached made after := by
  cases broughtBack with
  | resident | neverWritten => exact agree
  | noFrame _ _ obtained => exact obtained.cachesAgree agree
  | failed _ _ obtained restored =>
    have middle := restored.cachesAgree (obtained.accounts accounts) (obtained.cachesAgree agree)
    exact middle.of_same rfl rfl
  | loaded _ obtained restored =>
    exact restored.cachesAgree (obtained.accounts accounts) (obtained.cachesAgree agree)

/-- A process that runs needs a cache that is nobody else's; one that has exited only
empties caches. -/
theorem CachesAgree.keeps {process : UserProcess} (config : Config) (held : Finset Ppn)
    (made : Nat) (owned : process.exited = false →
      ∀ {pid}, attached pid = some process.tlb → pid = process.pid) :
    process.Keeps fun pager : Pager φ =>
      Accounts config held pager ∧ CachesAgree attached made pager where
  accounts holds := ⟨config, held, holds.1⟩
  broughtBack holds broughtBack :=
    ⟨broughtBack.accounts holds.1, broughtBack.cachesAgree holds.1 holds.2⟩
  backed holds backed := ⟨backed.accounts holds.1, backed.cachesAgree holds.1 holds.2⟩
  cached running holds found := by
    rcases holds with ⟨accounts, agree⟩
    have sameVpn := accounts.tables.vpn_of_get found
    refine ⟨accounts.withTlbs _, ?_⟩
    exact agree.install (owned running) (by rw [sameVpn]; exact found)
  accessed holds := ⟨holds.1.markAccessed _ _, holds.2.markAccessed _ _⟩
  marked holds :=
    ⟨holds.1.withTlbs _, holds.2.changeCache _ fun tlb => Tlb.cachesNoMore_markAccessed tlb _ _⟩
  dropped holds :=
    ⟨holds.1.withTlbs _, holds.2.changeCache _ fun tlb => Tlb.cachesNoMore_invalidate tlb _⟩
  emptied holds :=
    ⟨holds.1.withTlbs _, holds.2.changeCache _ Tlb.cachesNoMore_invalidateAll⟩
  pinned holds := ⟨holds.1.pin _, holds.2.of_same rfl rfl⟩
  unpinned holds := ⟨holds.1.unpin _, holds.2.of_same rfl rfl⟩
  stored holds same :=
    ⟨holds.1.of_same rfl rfl rfl holds.1.pins same, holds.2.of_same rfl rfl⟩

/-! ### What every call preserves -/

/-- The pager's books balance for some callers, and its caches agree. -/
structure Coherent (config : Config) (attached : Pid → Option TlbId) (made : Nat)
    (pager : Pager φ) : Prop where
  books : ∃ held, Accounts config held pager
  caches : CachesAgree attached made pager

namespace Coherent

omit [FileSystem φ] in
/-- Which caches there are can be read off the pager. -/
theorem own (coherent : Coherent config attached made pager) :
    Coherent config pager.tlbs.attachedTo pager.tlbs.units.size pager := by
  rw [coherent.caches.attached_eq, coherent.caches.made_eq]
  exact coherent

/-- To get a frame keeps the caches coherent, also when it evicts. -/
theorem getFreeFrame :
    (Pager.getFreeFrame : PagerAction φ Ppn).Preserves (Coherent config attached made) := by
  rintro pager ⟨⟨held, accounts⟩, agree⟩
  apply Ends.mono (getFreeFrame_ends accounts)
  intro result next obtained
  exact ⟨⟨_, obtained.accounts accounts⟩, obtained.cachesAgree agree⟩

omit [FileSystem φ] in
/-- To return a frame keeps the caches coherent. -/
theorem returnFrame (ppn : Ppn) :
    (Pager.returnFrame ppn : PagerAction φ Unit).Preserves (Coherent config attached made) := by
  rintro pager ⟨⟨held, accounts⟩, agree⟩
  refine ((accounts.returnFrame ppn).and ?_).mono fun result next holds =>
    ⟨⟨_, holds.1⟩, holds.2⟩
  simp only [Pager.returnFrame, ends_bind, ends_get]
  cases pager.tables.owner ppn with
  | some owner => exact agree
  | none =>
    rw [ends_releaseFrame]
    cases pager.frames.release ppn with
    | ok pool => exact agree.of_same rfl rfl
    | error cause => exact agree

/-- To make a page keeps the caches coherent. -/
theorem newPage (page : PageId) (readOnly : Bool) :
    (Pager.newPage page readOnly).Preserves (Coherent (φ := φ) config attached made) := by
  rintro pager ⟨⟨held, accounts⟩, agree⟩
  apply Ends.mono (newPage_ends accounts page readOnly)
  intro result next backed
  exact ⟨⟨held, backed.accounts accounts⟩, backed.cachesAgree accounts agree⟩

omit [FileSystem φ] in
/-- To pin a frame keeps the caches coherent. -/
theorem pin (coherent : Coherent config attached made pager) (ppn : Ppn) :
    Coherent config attached made (pager.pin ppn) := by
  rcases coherent with ⟨⟨held, accounts⟩, agree⟩
  exact ⟨⟨held, accounts.pin ppn⟩, agree.of_same rfl rfl⟩

omit [FileSystem φ] in
/-- To unpin a frame keeps the caches coherent. -/
theorem unpin (coherent : Coherent config attached made pager) (ppn : Ppn) :
    Coherent config attached made (pager.unpin ppn) := by
  rcases coherent with ⟨⟨held, accounts⟩, agree⟩
  exact ⟨⟨held, accounts.unpin ppn⟩, agree.of_same rfl rfl⟩

/-- To make a page and pin it keeps the caches coherent. -/
theorem newPagePinned (page : PageId) (readOnly : Bool) :
    (Pager.newPagePinned page readOnly).Preserves (Coherent (φ := φ) config attached made) := by
  rw [Pager.newPagePinned]
  refine (newPage page readOnly).bind fun entry => ?_
  exact Preserves.bind (.modify fun _ coherent => coherent.pin entry.ppn) fun _ => .pure entry

omit [FileSystem φ] in
/-- To look a page up and pin it keeps the caches coherent. -/
theorem getTranslationPinned (page : PageId) :
    (Pager.getTranslationPinned page).Preserves (Coherent (φ := φ) config attached made) := by
  rw [Pager.getTranslationPinned]
  refine Preserves.get.bind fun pager => ?_
  split
  · exact .pure none
  · next entry _ =>
    exact Preserves.bind (.modify fun _ coherent => coherent.pin entry.ppn) fun _ => .pure _

/-- To load a page from swap keeps the caches coherent. -/
theorem loadFromSwap (page : PageId) :
    (Pager.loadFromSwap page).Preserves (Coherent (φ := φ) config attached made) := by
  rintro pager ⟨⟨held, accounts⟩, agree⟩
  apply Ends.mono (loadFromSwap_ends accounts page)
  intro result next broughtBack
  exact ⟨⟨held, broughtBack.accounts accounts⟩, broughtBack.cachesAgree accounts agree⟩

/-- An eviction keeps the caches coherent. -/
theorem evictPage :
    (Pager.evictPage : PagerAction φ Ppn).Preserves (Coherent config attached made) := by
  rintro pager ⟨⟨held, accounts⟩, agree⟩
  apply Ends.mono (evictPage_ends accounts)
  intro result next evicted
  exact ⟨⟨_, evicted.accounts accounts⟩, evicted.cachesAgree agree⟩

/-- An eviction into the pool keeps the caches coherent. -/
theorem evictToPool :
    (Pager.evictToPool : PagerAction φ Ppn).Preserves (Coherent config attached made) := by
  rintro pager ⟨⟨held, accounts⟩, agree⟩
  apply Ends.mono accounts.evictToPool
  rintro _ _ ⟨books, result, after, pool, evicted, rfl⟩
  exact ⟨⟨held, books⟩, (evicted.cachesAgree agree).of_same rfl rfl⟩

/-- A round of reclamation keeps the caches coherent. -/
theorem reclaimOnce :
    (Pager.reclaimOnce : PagerAction φ Nat).Preserves (Coherent config attached made) :=
  preserves_reclaimOnce evictToPool

theorem initializeSwap :
    (Pager.initializeSwap : PagerAction φ Unit).Preserves (Coherent config attached made) := by
  rintro pager ⟨⟨held, accounts⟩, agree⟩
  refine (accounts.initializeSwap.and ?_).mono fun result next holds =>
    ⟨⟨held, holds.1⟩, holds.2⟩
  rw [ends_initializeSwap]
  exact agree.of_same rfl rfl

/-- A request of a process that owns its cache keeps the caches coherent. -/
theorem serve {process : UserProcess} (owned : process.exited = false →
      ∀ {pid}, attached pid = some process.tlb → pid = process.pid) (request : ProcessRequest) :
    (process.serve request).Preserves (Coherent (φ := φ) config attached made) := by
  rintro pager ⟨⟨held, accounts⟩, agree⟩
  have keeps := CachesAgree.keeps (φ := φ) config held made owned
  apply Ends.mono (keeps.serve request pager ⟨accounts, agree⟩)
  intro result next holds
  exact ⟨⟨held, holds.1⟩, holds.2⟩

end Coherent

end Pager

end VirtualMemory
