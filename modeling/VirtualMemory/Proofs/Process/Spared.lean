/-
Module: VirtualMemory.Proofs.Process.Spared
Purpose: What is known of a page, in the tables and in the cache of its process, as long as
  nothing is done for the page itself.
Main exports:
  UserProcess.slotsOf, slotsOf_shootDown, slotsOf_changeCache, slotsOf_install;
  UserProcess.Spared, Spared.exit, Pager.reclaimOnce_spared, Accessed.spared, Spared.keeps

A page may lose its frame while frames are looked for, and its slot to an eviction or to another
page. Nobody else maps it, and nobody else writes to its slot.
-/
import VirtualMemory.Proofs.Pager.Caches
import VirtualMemory.Proofs.Process.Accesses
import VirtualMemory.Proofs.Tlb.Slots

namespace VirtualMemory

open VirtualMemory.Action Pager

namespace UserProcess

variable {φ : Type} {process other : UserProcess} {vpn : Vpn} {pager before middle after : Pager φ}
  {config : Config} {held : Finset Ppn} {page : PageId}

/-! ### The slots of a page in the cache of its process -/

/-- The slots in which the process has a page cached. -/
def slotsOf (process : UserProcess) (vpn : Vpn) (pager : Pager φ) : List TranslationEntry :=
  (process.cache pager).slotsOf vpn

/-- What a process has cached of a page depends on its own cache only. -/
theorem slotsOf_congr (unit : after.tlbs.unit process.tlb = before.tlbs.unit process.tlb) :
    process.slotsOf vpn after = process.slotsOf vpn before := by
  rw [slotsOf, slotsOf, cache, cache, unit]

/-- With the same caches a process has the same slots. -/
theorem slotsOf_of_same (same : after.tlbs = before.tlbs) :
    process.slotsOf vpn after = process.slotsOf vpn before :=
  slotsOf_congr (same ▸ rfl)

/-- Of a cache that was not made, there are no slots. -/
theorem slotsOf_of_unit {tlbs : TlbBank} {step : Tlb → Tlb}
    (change : List TranslationEntry → List TranslationEntry) (nil : change [] = [])
    (steps : ∀ tlb : Tlb, (step tlb).slotsOf vpn = change (tlb.slotsOf vpn))
    (unit : tlbs.unit process.tlb = (pager.tlbs.unit process.tlb).map step) :
    process.slotsOf vpn { pager with tlbs := tlbs } = change (process.slotsOf vpn pager) := by
  simp only [slotsOf, cache, unit]
  cases pager.tlbs.unit process.tlb with
  | none => exact (Tlb.slotsOf_empty 0).trans ((congrArg change (Tlb.slotsOf_empty 0)).trans nil).symm
  | some tlb => exact steps tlb

/-- A change of its cache changes the slots of a process as it changes those of any cache. -/
theorem slotsOf_changeCache {step : Tlb → Tlb}
    (change : List TranslationEntry → List TranslationEntry) (nil : change [] = [])
    (steps : ∀ tlb : Tlb, (step tlb).slotsOf vpn = change (tlb.slotsOf vpn)) :
    process.slotsOf vpn (process.changeCache step pager) = change (process.slotsOf vpn pager) :=
  slotsOf_of_unit change nil steps ((TlbBank.unit_change step).trans (if_pos rfl))

/-- A change of another cache leaves the slots of a process as they are. -/
theorem slotsOf_changeCache_of_ne (different : other.tlb ≠ process.tlb) (step : Tlb → Tlb) :
    process.slotsOf vpn (other.changeCache step pager) = process.slotsOf vpn pager :=
  slotsOf_congr ((TlbBank.unit_change step).trans (if_neg different))

/-- A mark is left in the first slot of the page that is marked, and nowhere else. -/
theorem slotsOf_markCached (write : Bool) (marks : Vpn) :
    process.slotsOf vpn (process.markCached marks write pager) =
      if marks = vpn then (process.slotsOf vpn pager).modifyHead (Tlb.marked write)
      else process.slotsOf vpn pager := by
  have steps := fun tlb : Tlb => tlb.slotsOf_markAccessed vpn marks write
  split
  · next same =>
    simp only [if_pos same] at steps
    exact slotsOf_changeCache _ List.modifyHead_nil steps
  · next different =>
    simp only [if_neg different] at steps
    exact slotsOf_changeCache id rfl steps

/-- An invalidation leaves no slot of the page that is dropped, and all others. -/
theorem slotsOf_invalidate (dropped : Vpn) :
    process.slotsOf vpn (process.changeCache (fun tlb => (tlb.invalidate dropped).2) pager) =
      if dropped = vpn then [] else process.slotsOf vpn pager := by
  have steps := fun tlb : Tlb => tlb.slotsOf_invalidate vpn dropped
  split
  · next same =>
    simp only [if_pos same] at steps
    exact slotsOf_changeCache (fun _ => []) rfl steps
  · next different =>
    simp only [if_neg different] at steps
    exact slotsOf_changeCache id rfl steps

/-- What caching an entry makes of one cache. -/
theorem unit_install (process : UserProcess) (entry : TranslationEntry) (pager : Pager φ) :
    ∃ chance, (pager.tlbs.install process.tlb entry).2.unit process.tlb =
      (pager.tlbs.unit process.tlb).map fun tlb => (tlb.install chance entry).2 := by
  simp only [TlbBank.install]
  cases present : pager.tlbs.unit process.tlb with
  | none => exact ⟨0, present⟩
  | some tlb =>
    have inside : process.tlb < pager.tlbs.units.size :=
      (Array.getElem?_eq_some_iff.mp present).1
    exact ⟨_, Array.getElem?_setIfInBounds_self_of_lt inside⟩

/-- A page that is cached has the slot of its entry and no other one. -/
theorem slotsOf_install {entry : TranslationEntry} (valid : entry.valid = true)
    (named : entry.vpn = vpn) (alone : (process.slotsOf vpn pager).length ≤ 1) :
    (process.slotsOf vpn
      { pager with tlbs := (pager.tlbs.install process.tlb entry).2 }).Sublist [entry.unused] := by
  subst named
  obtain ⟨chance, unit⟩ := unit_install process entry pager
  simp only [slotsOf, cache, unit] at alone ⊢
  cases present : pager.tlbs.unit process.tlb with
  | none => exact (Tlb.slotsOf_empty 0).symm ▸ List.nil_sublist _
  | some tlb =>
    rw [present] at alone
    by_cases slots : 0 < tlb.size
    · exact (Tlb.slotsOf_install slots valid chance alone) ▸ List.Sublist.refl _
    · have none : tlb.slots = [] := List.length_eq_zero_iff.mp (Nat.eq_zero_of_not_pos slots)
      have nothing : ((tlb.install chance entry).2.slotsOf entry.vpn) = [] := by
        rw [Tlb.slotsOf, Tlb.install_slots, none, List.set_nil, List.filter_nil]
      exact nothing ▸ List.nil_sublist _

/-- Caching another page adds no slot. -/
theorem slotsOf_install_of_ne {entry : TranslationEntry} (different : entry.vpn ≠ vpn) :
    (process.slotsOf vpn
      { pager with tlbs := (pager.tlbs.install process.tlb entry).2 }).Sublist
        (process.slotsOf vpn pager) := by
  obtain ⟨chance, unit⟩ := unit_install process entry pager
  simp only [slotsOf, cache, unit]
  cases pager.tlbs.unit process.tlb with
  | none => exact .refl _
  | some tlb => exact Tlb.slotsOf_install_of_ne tlb chance different

/-- Caching a page in another cache changes nothing. -/
theorem slotsOf_install_of_tlb_ne (different : other.tlb ≠ process.tlb)
    (entry : TranslationEntry) :
    process.slotsOf vpn { pager with tlbs := (pager.tlbs.install other.tlb entry).2 } =
      process.slotsOf vpn pager := by
  apply slotsOf_congr
  simp only [TlbBank.install]
  cases pager.tlbs.unit other.tlb with
  | none => rfl
  | some tlb => exact Array.getElem?_setIfInBounds_ne different

/-- A cache may drop pages, whichever it is and whatever they are. -/
theorem slotsOf_change (bank : TlbBank) (id : TlbId) {step : Tlb → Tlb}
    (fewer : ∀ tlb : Tlb, ((step tlb).slotsOf vpn).Sublist (tlb.slotsOf vpn)) :
    (process.slotsOf vpn { pager with tlbs := bank.change id step }).Sublist
      (process.slotsOf vpn { pager with tlbs := bank }) := by
  simp only [slotsOf, cache, TlbBank.unit_change]
  split
  · cases bank.unit process.tlb with
    | none => exact .refl _
    | some tlb => exact fewer tlb
  · exact .refl _

/-- To forget a page takes slots away and adds none. -/
theorem slotsOf_shootDown :
    (process.slotsOf vpn (pager.shootDown page)).Sublist (process.slotsOf vpn pager) := by
  rw [shootDown, TlbBank.shootDown]
  split
  · exact .refl _
  · apply slotsOf_change pager.tlbs
    intro tlb
    rw [Tlb.slotsOf_invalidate]
    split
    · exact List.nil_sublist _
    · exact .refl _

/-! ### What is done for others -/

/-- A page that is mapped was mapped by the same entry before, and of its slots there are none
that were not there. -/
structure Spared (process : UserProcess) (vpn : Vpn) (before after : Pager φ) : Prop where
  entry : ∀ {entry}, after.tables.get (process.page vpn) = some entry →
    before.tables.get (process.page vpn) = some entry
  slots : (process.slotsOf vpn after).Sublist (process.slotsOf vpn before)

namespace Spared

theorem refl (process : UserProcess) (vpn : Vpn) (pager : Pager φ) :
    process.Spared vpn pager pager :=
  ⟨id, .refl _⟩

/-- A page that is spared by each of two steps is spared by both. -/
theorem trans (one : process.Spared vpn before middle) (two : process.Spared vpn middle after) :
    process.Spared vpn before after :=
  ⟨fun found => one.entry (two.entry found), two.slots.trans one.slots⟩

/-- A page is spared where tables and caches are the same. -/
theorem of_same (tables : after.tables = before.tables) (tlbs : after.tlbs = before.tlbs) :
    process.Spared vpn before after :=
  ⟨fun found => tables ▸ found, slotsOf_of_same tlbs ▸ .refl _⟩

/-- What else becomes of the pager does not matter. -/
theorem congr (spared : process.Spared vpn before middle) (tables : after.tables = middle.tables)
    (tlbs : after.tlbs = middle.tlbs) : process.Spared vpn before after :=
  spared.trans (.of_same tables tlbs)

/-- A page is spared when another is unmapped and forgotten by the caches. -/
theorem shootDown {tables : PageTables}
    (fewer : ∀ {entry}, tables.get (process.page vpn) = some entry →
      pager.tables.get (process.page vpn) = some entry) :
    process.Spared vpn pager { pager.shootDown page with tables := tables } :=
  ⟨fewer, slotsOf_shootDown⟩

/-- A page takes a frame, and it is another one. -/
theorem settle {pid : Pid} {entry : TranslationEntry} {contents : Page}
    (different : entry.page pid ≠ process.page vpn) :
    process.Spared vpn pager (pager.settle pid entry contents) where
  entry found := by
    rwa [get_settle, if_neg different] at found
  slots := by
    rcases tlbs_settle pager pid entry contents with same | ⟨dropped, shot⟩
    · exact slotsOf_of_same same ▸ .refl _
    · have shotDown : process.slotsOf vpn (pager.settle pid entry contents) =
          process.slotsOf vpn (pager.shootDown dropped) := slotsOf_of_same shot
      exact shotDown ▸ slotsOf_shootDown

/-- The pages of a process are spared when another process is deallocated. -/
theorem deallocate {pid : Pid} (pager : Pager φ) (different : pid ≠ process.pid) :
    process.Spared vpn pager (pager.deallocate pid).2 where
  entry found := by
    obtain ⟨pool, tlbs, freed⟩ := exists_deallocate pager pid
    rw [freed] at found
    rwa [PageTables.get_removeAll, if_neg (show (process.page vpn).pid ≠ pid from
      Ne.symm different)] at found
  slots := by
    have tlbs := tlbs_deallocate pager pid
    cases attached : pager.tlbs.attachedTo pid with
    | none =>
      rw [attached] at tlbs
      exact slotsOf_of_same tlbs ▸ .refl _
    | some id =>
      rw [attached] at tlbs
      have emptied : process.slotsOf vpn (pager.deallocate pid).2 = process.slotsOf vpn
          { pager with tlbs := (pager.tlbs.detach pid).change id Tlb.invalidateAll } :=
        slotsOf_of_same tlbs
      rw [emptied]
      exact slotsOf_change (pager.tlbs.detach pid) id
        fun tlb => Tlb.slotsOf_invalidateAll ▸ List.nil_sublist _

/-- The memory of another process is freed, if it was not before. -/
theorem exit (pager : Pager φ) (different : other.pid ≠ process.pid) :
    process.Spared vpn pager (other.exit pager).2.2 := by
  rw [UserProcess.exit]
  split
  · exact .refl process vpn pager
  · exact .deallocate pager different

end Spared

end UserProcess

/-! ### Frames are looked for, and pages are brought in -/

namespace Pager

variable {φ : Type} [FileSystem φ] {process : UserProcess} {vpn : Vpn} {pager after : Pager φ}
  {page : PageId}

/-- An eviction spares every page, since it maps none. -/
theorem Evicted.spared {result : Except PagingError Ppn} (evicted : Evicted pager result after) :
    process.Spared vpn pager after := by
  cases evicted with
  | refused => exact .refl process vpn pager
  | withoutFile | withoutVictim => exact .of_same rfl rfl
  | @unwritten _ _ victim =>
    have dropped : process.Spared vpn pager
        { pager.shootDown victim.owner with tables := pager.tables } := .shootDown id
    exact dropped.congr rfl rfl
  | @written _ _ victim =>
    have dropped : process.Spared vpn pager
        { pager.shootDown victim.owner with
          tables := (pager.tables.remove victim.owner).2 } := by
      refine .shootDown fun found => ?_
      rw [PageTables.get_remove] at found
      split at found
      · cases found
      · exact found
    exact dropped.congr rfl rfl

/-- Every page is spared however a frame is got. -/
theorem Obtained.spared {result : Except PagingError Ppn}
    (obtained : Obtained pager result after) : process.Spared vpn pager after := by
  cases obtained with
  | @fromPool _ pool =>
    have taken : process.Spared vpn pager { pager with frames := pool } := .of_same rfl rfl
    exact taken.congr tables_requestReclaim tlbs_requestReclaim
  | byEviction _ evicted =>
    exact evicted.spared.congr tables_requestReclaim tlbs_requestReclaim
  | failed _ evicted => exact evicted.spared

/-- A page is spared when another one is made. -/
theorem Backed.spared {readOnly : Bool} {result : Except PagingError TranslationEntry}
    (backed : Backed pager page readOnly result after) (different : page ≠ process.page vpn) :
    process.Spared vpn pager after := by
  cases backed with
  | outside => exact .refl process vpn pager
  | noFrame _ obtained => exact obtained.spared
  | fresh _ obtained => exact obtained.spared.trans (.settle different)

/-- A page is spared when another one is restored. -/
theorem Restored.spared {ppn : Ppn} {result : Except PagingError (Option TranslationEntry)}
    (restored : Restored pager page ppn result after) (different : page ≠ process.page vpn) :
    process.Spared vpn pager after := by
  cases restored with
  | unread | outside => exact .of_same rfl rfl
  | @mapped swap last =>
    have moved : process.Spared vpn pager { pager with device := .inUse last } :=
      .of_same rfl rfl
    exact moved.trans (.settle different)

/-- A page is spared when another one is brought back. -/
theorem BroughtBack.spared {result : Except PagingError (Option TranslationEntry)}
    (broughtBack : BroughtBack pager page result after) (different : page ≠ process.page vpn) :
    process.Spared vpn pager after := by
  cases broughtBack with
  | resident | neverWritten => exact .refl process vpn pager
  | noFrame _ _ obtained => exact obtained.spared
  | failed _ _ obtained restored =>
    exact (obtained.spared.trans (restored.spared different)).congr rfl rfl
  | loaded _ obtained restored => exact obtained.spared.trans (restored.spared different)

/-- Reclamation spares every page, since it only takes pages away. -/
theorem reclaimOnce_spared {config : Config} {held : Finset Ppn}
    (accounts : Accounts config held pager) (process : UserProcess) (vpn : Vpn) :
    (reclaimOnce : PagerAction φ Nat).Ends pager fun _ after => process.Spared vpn pager after := by
  have evicts : (evictToPool : PagerAction φ Ppn).Preserves fun after =>
      Accounts config held after ∧ process.Spared vpn pager after := by
    rintro before ⟨accounts, spared⟩
    apply Ends.mono accounts.evictToPool
    rintro _ _ ⟨books, result, after, pool, evicted, rfl⟩
    exact ⟨books, spared.trans (evicted.spared.congr rfl rfl)⟩
  exact (preserves_reclaimOnce evicts pager ⟨accounts, .refl process vpn pager⟩).mono
    fun _ _ holds => holds.2

end Pager

/-! ### Whole accesses and requests -/

namespace UserProcess

variable {φ : Type} [FileSystem φ] {process other : UserProcess} {vpn target : Vpn}
  {pager after : Pager φ} {config : Config} {held : Finset Ppn}

/-- Two pages of a process are two pages. -/
theorem page_ne (different : target ≠ vpn) : process.page target ≠ process.page vpn :=
  fun same => different (congrArg PageId.vpn same)

/-- A page is spared by faults at other pages. -/
theorem FaultedIn.spared {result : Except FaultError TranslationEntry}
    (faulted : FaultedIn process target pager result after) (different : target ≠ vpn) :
    process.Spared vpn pager after := by
  cases faulted with
  | found broughtBack | missed broughtBack => exact broughtBack.spared (page_ne different)
  | grown _ _ backed | ungrown _ _ backed => exact backed.spared (page_ne different)
  | segfault => exact .refl process vpn pager

/-- Finding or making a page leaves the books balanced. -/
theorem FaultedIn.accounts {result : Except FaultError TranslationEntry}
    (faulted : FaultedIn process target pager result after)
    (accounts : Accounts config held pager) : Accounts config held after := by
  cases faulted with
  | found broughtBack | missed broughtBack => exact broughtBack.accounts accounts
  | grown _ _ backed | ungrown _ _ backed => exact backed.accounts accounts
  | segfault => exact accounts

/-- The entry of a page that was found or made names its page. -/
theorem FaultedIn.vpn_eq {entry : TranslationEntry}
    (faulted : FaultedIn process target pager (.ok entry) after)
    (accounts : Accounts config held pager) : entry.vpn = target :=
  (faulted.accounts accounts).tables.vpn_of_get faulted.get_eq

/-- What a process asks of another page of its own spares this one. -/
theorem Resolved.spared {result : Except FaultError TranslationEntry}
    (resolved : Resolved process target pager result after) (accounts : Accounts config held pager)
    (different : target ≠ vpn) : process.Spared vpn pager after := by
  cases resolved with
  | exited => exact .refl process vpn pager
  | failed _ faulted => exact faulted.spared different
  | cached _ faulted =>
    have named := faulted.vpn_eq accounts
    exact (faulted.spared different).trans
      ⟨id, slotsOf_install_of_ne (named.symm ▸ different)⟩

omit [FileSystem φ] in
/-- A page is spared when another one is missed. -/
theorem Misses.spared {begun : Pager φ} (misses : Misses process target pager begun)
    (different : target ≠ vpn) : process.Spared vpn pager begun := by
  cases misses with
  | uncached => exact .refl process vpn pager
  | stale =>
    refine ⟨id, ?_⟩
    rw [slotsOf_invalidate, if_neg different]

omit [FileSystem φ] in
/-- A miss leaves the accounts right. -/
theorem Misses.accounts {begun : Pager φ} (misses : Misses process target pager begun)
    (accounts : Accounts config held pager) : Accounts config held begun := by
  cases misses with
  | uncached => exact accounts
  | stale => exact accounts.withTlbs _

/-- A page is spared when another one is pinned for an access. -/
theorem PinnedIn.spared {write : Bool} {result : Except FaultError TranslationEntry}
    (pinned : PinnedIn process target write pager result after)
    (accounts : Accounts config held pager) (different : target ≠ vpn) :
    process.Spared vpn pager after := by
  have marks : ∀ pager : Pager φ,
      process.Spared vpn pager (process.markCached target write pager) := by
    refine fun pager => ⟨id, ?_⟩
    rw [slotsOf_markCached, if_neg different]
  cases pinned with
  | @hit entry =>
    have pinned : process.Spared vpn pager (pager.pin entry.ppn) := .of_same rfl rfl
    exact pinned.trans (marks _)
  | failed misses resolved =>
    exact (misses.spared different).trans
      (resolved.spared (misses.accounts accounts) different)
  | @missed _ _ _ middle misses resolved =>
    have recorded : process.Spared vpn middle { middle with
        tables := (middle.tables.markAccessed (process.page target) write).2 } := by
      refine ⟨fun found => ?_, .refl _⟩
      rwa [PageTables.get_markAccessed, if_neg (page_ne different)] at found
    exact ((((misses.spared different).trans
      (resolved.spared (misses.accounts accounts) different)).trans recorded).trans
        (marks _)).congr rfl rfl

/-- A page is spared by accesses to other pages. -/
theorem Accessed.spared {access : PageAccess} {result : Except FaultError Bool}
    (accessed : Accessed process pager access result after)
    (accounts : Accounts config held pager) (different : access.vpn ≠ vpn) :
    process.Spared vpn pager after := by
  cases accessed with
  | found resolved | lost resolved => exact resolved.spared accounts different
  | loaded pinned | stored pinned => exact (pinned.spared accounts different).congr rfl rfl
  | unloaded pinned | unstored pinned => exact pinned.spared accounts different

omit [FileSystem φ] in
/-- A page is spared by what other processes do to their caches. -/
theorem Spared.changeCache (tlbs : other.tlb ≠ process.tlb) (step : Tlb → Tlb) :
    process.Spared vpn pager (other.changeCache step pager) := by
  have same : process.slotsOf vpn (other.changeCache step pager) = process.slotsOf vpn pager :=
    slotsOf_changeCache_of_ne tlbs step
  exact ⟨id, same ▸ .refl _⟩

/-- What another process asks for with another cache spares every page. -/
theorem Spared.keeps (pages : ∀ target, other.page target ≠ process.page vpn)
    (tlbs : other.tlb ≠ process.tlb) (config : Config) (held : Finset Ppn) (before : Pager φ) :
    other.Keeps fun pager => Accounts config held pager ∧ process.Spared vpn before pager where
  accounts holds := ⟨config, held, holds.1⟩
  broughtBack holds broughtBack :=
    ⟨broughtBack.accounts holds.1, holds.2.trans (broughtBack.spared (pages _))⟩
  backed holds backed :=
    ⟨backed.accounts holds.1, holds.2.trans (backed.spared (pages _))⟩
  cached _ holds _ := by
    refine ⟨holds.1.withTlbs _, holds.2.trans ⟨id, ?_⟩⟩
    rw [slotsOf_install_of_tlb_ne tlbs]
  accessed holds := by
    refine ⟨holds.1.markAccessed _ _, holds.2.trans ⟨fun found => ?_, .refl _⟩⟩
    rwa [PageTables.get_markAccessed, if_neg (pages _)] at found
  marked holds := ⟨holds.1.withTlbs _, holds.2.trans (.changeCache tlbs _)⟩
  dropped holds := ⟨holds.1.withTlbs _, holds.2.trans (.changeCache tlbs _)⟩
  emptied holds := ⟨holds.1.withTlbs _, holds.2.trans (.changeCache tlbs _)⟩
  pinned holds := ⟨holds.1.pin _, holds.2.congr rfl rfl⟩
  unpinned holds := ⟨holds.1.unpin _, holds.2.congr rfl rfl⟩
  stored holds same :=
    ⟨holds.1.of_same rfl rfl rfl holds.1.pins same, holds.2.congr rfl rfl⟩

end UserProcess

end VirtualMemory
