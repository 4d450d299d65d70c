/-
Module: VirtualMemory.Proofs.Pager.Upheld
Purpose: What has to be checked of a property for no use of the pager to break it.
Main exports:
  Pager.Upheld, Pager.Standing; Upheld.keeps and one lemma for each operation

The books of a pager balance whatever it is used for, so each part of an operation may
rely on them. A property that every part upholds, every operation preserves.
-/
import VirtualMemory.Proofs.Pager.Bookkeeping
import VirtualMemory.Proofs.Tlb

namespace VirtualMemory.Pager

open VirtualMemory.Action

variable {φ : Type} [FileSystem φ] {config : Config} {held : Finset Ppn} {pager : Pager φ}
  {page : PageId} {entry : TranslationEntry}

/-- A property of pagers that every part of an operation upholds. -/
structure Upheld (config : Config) (property : Pager φ → Prop) : Prop where
  /-- Frames come and go, and reclamation is asked for. -/
  pooled : ∀ {pager} pool flag, property pager →
    property { pager with frames := pool, reclaimRequested := flag }
  pinned : ∀ {pager} pins, property pager → property { pager with pins := pins }
  filled : ∀ {pager} memory, memory.size = pager.memory.size → property pager →
    property { pager with memory := memory }
  opened : ∀ {pager : Pager φ} {result device}, property pager →
    pager.device.opened pager.config.swapFile = (result, device) →
    property { pager with device := device }
  reread : ∀ {pager : Pager φ} {swap after page result}, property pager →
    pager.device = .inUse swap → swap.Loaded page result after →
    property { pager with device := .inUse after }
  evicted : ∀ {held pager result after}, Accounts config held pager → property pager →
    Evicted pager result after → property after
  settled : ∀ {held pager} pid entry contents, Accounts config held pager → property pager →
    property (pager.settle pid entry contents)
  accessed : ∀ {pager : Pager φ} page write, property pager →
    property { pager with tables := (pager.tables.markAccessed page write).2 }
  put : ∀ {held pager} pid entry, Accounts config held pager → property pager →
    (putTranslation pid entry).Ends pager fun _ next => property next
  deallocated : ∀ {pager} pid, property pager → property (pager.deallocate pid).2
  started : ∀ {held pager} pid stackTop, Accounts config held pager → property pager →
    property (UserProcess.start pager pid stackTop).2
  terminated : (terminate : PagerAction φ Unit).Preserves property
  /-- Caches take entries in and drop them, and keep their number of slots. -/
  cached : ∀ {pager : Pager φ} id entry, property pager →
    property { pager with tlbs := (pager.tlbs.install id entry).2 }
  changed : ∀ {pager : Pager φ} id (step : Tlb → Tlb), (∀ tlb, (step tlb).size = tlb.size) →
    property pager → property { pager with tlbs := pager.tlbs.change id step }
  disturbed : ∀ {pager : Pager φ} files, property pager →
    property { pager with device := pager.device.withFiles files }

/-- A pager whose books balance, and that has a property. -/
structure Standing (config : Config) (property : Pager φ → Prop) (pager : Pager φ) : Prop where
  accounts : ∃ held, Accounts config held pager
  holds : property pager

namespace Upheld

variable {property : Pager φ → Prop}

/-! ### The parts of operations, put together -/

/-- A request to reclaim frames upholds it. -/
theorem requestReclaim (upheld : Upheld config property) (holds : property pager) :
    property (requestReclaim pager) := by
  rw [Pager.requestReclaim]
  split
  · exact upheld.pooled pager.frames true holds
  · exact holds

/-- However a frame is got, it is upheld. -/
theorem obtained {result : Except PagingError Ppn} {after : Pager φ}
    (upheld : Upheld config property) (accounts : Accounts config held pager)
    (holds : property pager) (obtained : Obtained pager result after) : property after := by
  cases obtained with
  | @fromPool ppn pool taken =>
    apply upheld.requestReclaim
    exact upheld.pooled pool pager.reclaimRequested holds
  | byEviction _ evicted => exact upheld.requestReclaim (upheld.evicted accounts holds evicted)
  | failed _ evicted => exact upheld.evicted accounts holds evicted

/-- However a page is made, it is upheld. -/
theorem backed {readOnly : Bool} {result : Except PagingError TranslationEntry}
    {after : Pager φ} (upheld : Upheld config property) (accounts : Accounts config held pager)
    (holds : property pager) (backed : Backed pager page readOnly result after) :
    property after := by
  cases backed with
  | outside => exact holds
  | noFrame _ obtained => exact upheld.obtained accounts holds obtained
  | fresh _ obtained =>
    exact upheld.settled _ _ _ (obtained.accounts accounts)
      (upheld.obtained accounts holds obtained)

/-- However a page is restored, it is upheld. -/
theorem restored {ppn : Ppn} {result : Except PagingError (Option TranslationEntry)}
    {after : Pager φ} (upheld : Upheld config property) (accounts : Accounts config held pager)
    (holds : property pager) (restored : Restored pager page ppn result after) :
    property after := by
  cases restored with
  | unread used loaded => exact upheld.reread holds used loaded
  | outside _ used loaded =>
    exact upheld.filled _ (PhysicalMemory.size_store _ _ _) (upheld.reread holds used loaded)
  | @mapped swap last _ _ _ used loaded =>
    have moved : Accounts config held { pager with device := .inUse last } :=
      accounts.of_same rfl rfl rfl accounts.pins rfl
    exact upheld.settled _ _ _ moved (upheld.reread holds used loaded)

/-- However a page is brought back, it is upheld. -/
theorem broughtBack {result : Except PagingError (Option TranslationEntry)} {after : Pager φ}
    (upheld : Upheld config property) (accounts : Accounts config held pager)
    (holds : property pager) (broughtBack : BroughtBack pager page result after) :
    property after := by
  cases broughtBack with
  | resident | neverWritten => exact holds
  | noFrame _ _ obtained => exact upheld.obtained accounts holds obtained
  | @failed _ _ last pool _ _ _ obtained restored =>
    have middle := upheld.obtained accounts holds obtained
    have unread := upheld.restored (obtained.accounts accounts) middle restored
    exact upheld.pooled pool last.reclaimRequested unread
  | loaded _ obtained restored =>
    have middle := upheld.obtained accounts holds obtained
    exact upheld.restored (obtained.accounts accounts) middle restored

/-- What a process does breaks no property that is upheld. -/
theorem keeps (upheld : Upheld config property) (process : UserProcess) :
    process.Keeps (Standing config property) where
  accounts standing := ⟨config, standing.accounts⟩
  broughtBack standing broughtBack := by
    obtain ⟨held, accounts⟩ := standing.accounts
    exact ⟨⟨held, broughtBack.accounts accounts⟩,
      upheld.broughtBack accounts standing.holds broughtBack⟩
  backed standing backed := by
    obtain ⟨held, accounts⟩ := standing.accounts
    exact ⟨⟨held, backed.accounts accounts⟩, upheld.backed accounts standing.holds backed⟩
  cached _ standing _ :=
    ⟨standing.accounts.imp fun _ accounts => accounts.withTlbs _,
      upheld.cached _ _ standing.holds⟩
  accessed standing :=
    ⟨standing.accounts.imp fun _ accounts => accounts.markAccessed _ _,
      upheld.accessed _ _ standing.holds⟩
  marked standing :=
    ⟨standing.accounts.imp fun _ accounts => accounts.withTlbs _,
      upheld.changed _ _ (fun tlb => tlb.size_markAccessed _ _) standing.holds⟩
  dropped standing :=
    ⟨standing.accounts.imp fun _ accounts => accounts.withTlbs _,
      upheld.changed _ _ (fun tlb => tlb.size_invalidate _) standing.holds⟩
  emptied standing :=
    ⟨standing.accounts.imp fun _ accounts => accounts.withTlbs _,
      upheld.changed _ _ Tlb.size_invalidateAll standing.holds⟩
  pinned standing :=
    ⟨standing.accounts.imp fun _ accounts => accounts.pin _, upheld.pinned _ standing.holds⟩
  unpinned standing :=
    ⟨standing.accounts.imp fun _ accounts => accounts.unpin _, upheld.pinned _ standing.holds⟩
  stored standing same :=
    ⟨standing.accounts.imp fun _ accounts => accounts.of_same rfl rfl rfl accounts.pins same,
      upheld.filled _ same standing.holds⟩

/-! ### Operations of the pager -/

/-- It stands when a frame is got. -/
theorem getFreeFrame (upheld : Upheld config property) :
    (Pager.getFreeFrame : PagerAction φ Ppn).Preserves (Standing config property) := by
  intro pager standing
  obtain ⟨held, accounts⟩ := standing.accounts
  apply Ends.mono (getFreeFrame_ends accounts)
  intro result next obtained
  exact ⟨⟨_, obtained.accounts accounts⟩, upheld.obtained accounts standing.holds obtained⟩

/-- It stands when a frame is returned. -/
theorem returnFrame (upheld : Upheld config property) (ppn : Ppn) :
    (Pager.returnFrame ppn : PagerAction φ Unit).Preserves (Standing config property) := by
  intro pager standing
  obtain ⟨held, accounts⟩ := standing.accounts
  apply Ends.mono ((accounts.returnFrame ppn).and (returnFrame_ends pager ppn))
  intro result next both
  obtain ⟨books, pool, rfl⟩ := both
  exact ⟨⟨_, books⟩, upheld.pooled pool pager.reclaimRequested standing.holds⟩

/-- It stands when a page is made. -/
theorem newPage (upheld : Upheld config property) (page : PageId) (readOnly : Bool) :
    (Pager.newPage page readOnly).Preserves (Standing (φ := φ) config property) := by
  intro pager standing
  obtain ⟨held, accounts⟩ := standing.accounts
  apply Ends.mono (newPage_ends accounts page readOnly)
  intro result next backed
  exact ⟨⟨held, backed.accounts accounts⟩, upheld.backed accounts standing.holds backed⟩

/-- It stands when a page is made and pinned. -/
theorem newPagePinned (upheld : Upheld config property) (page : PageId) (readOnly : Bool) :
    (Pager.newPagePinned page readOnly).Preserves (Standing (φ := φ) config property) := by
  rw [Pager.newPagePinned]
  apply (upheld.newPage page readOnly).bind
  intro entry
  apply Preserves.bind
  · exact .modify fun pager standing => ⟨standing.accounts.imp fun _ accounts =>
      accounts.pin entry.ppn, upheld.pinned _ standing.holds⟩
  · exact fun _ => .pure entry

/-- It stands when a page is looked up and pinned. -/
theorem getTranslationPinned (upheld : Upheld config property) (page : PageId) :
    (Pager.getTranslationPinned page).Preserves (Standing (φ := φ) config property) := by
  rw [Pager.getTranslationPinned]
  apply Preserves.get.bind
  intro before
  split
  · exact .pure none
  · next entry _ =>
    apply Preserves.bind
    · exact .modify fun pager standing => ⟨standing.accounts.imp fun _ accounts =>
        accounts.pin entry.ppn, upheld.pinned _ standing.holds⟩
    · exact fun _ => .pure _

/-- It stands when an entry is put, also one that is refused. -/
theorem putTranslation (upheld : Upheld config property) (pid : Pid)
    (entry : TranslationEntry) :
    (Pager.putTranslation pid entry).Preserves (Standing (φ := φ) config property) := by
  intro pager standing
  obtain ⟨held, accounts⟩ := standing.accounts
  apply Ends.mono ((accounts.putTranslation pid entry).and
    (upheld.put pid entry accounts standing.holds))
  intro result next both
  exact ⟨⟨_, both.1⟩, both.2⟩

/-- It stands when a page is loaded from swap. -/
theorem loadFromSwap (upheld : Upheld config property) (page : PageId) :
    (Pager.loadFromSwap page).Preserves (Standing (φ := φ) config property) := by
  intro pager standing
  obtain ⟨held, accounts⟩ := standing.accounts
  apply Ends.mono (loadFromSwap_ends accounts page)
  intro result next broughtBack
  exact ⟨⟨held, broughtBack.accounts accounts⟩,
    upheld.broughtBack accounts standing.holds broughtBack⟩

/-- It stands through an eviction. -/
theorem evictPage (upheld : Upheld config property) :
    (Pager.evictPage : PagerAction φ Ppn).Preserves (Standing config property) := by
  intro pager standing
  obtain ⟨held, accounts⟩ := standing.accounts
  apply Ends.mono (evictPage_ends accounts)
  intro result next evicted
  exact ⟨⟨_, evicted.accounts accounts⟩, upheld.evicted accounts standing.holds evicted⟩

/-- It stands through an eviction into the pool. -/
theorem evictToPool (upheld : Upheld config property) :
    (Pager.evictToPool : PagerAction φ Ppn).Preserves (Standing config property) := by
  intro pager standing
  obtain ⟨held, accounts⟩ := standing.accounts
  apply Ends.mono accounts.evictToPool
  rintro _ _ ⟨books, result, after, pool, evicted, rfl⟩
  have left := upheld.evicted accounts standing.holds evicted
  exact ⟨⟨held, books⟩, upheld.pooled pool after.reclaimRequested left⟩

/-- It stands through a round of reclamation. -/
theorem reclaimOnce (upheld : Upheld config property) :
    (Pager.reclaimOnce : PagerAction φ Nat).Preserves (Standing config property) :=
  preserves_reclaimOnce upheld.evictToPool

/-- It stands when swapping begins. -/
theorem initializeSwap (upheld : Upheld config property) :
    (Pager.initializeSwap : PagerAction φ Unit).Preserves (Standing config property) := by
  intro pager standing
  obtain ⟨held, accounts⟩ := standing.accounts
  have made : (Pager.initializeSwap : PagerAction φ Unit).Ends pager
      fun _ next => property next := by
    rw [ends_initializeSwap]
    exact upheld.opened standing.holds rfl
  apply Ends.mono (accounts.initializeSwap.and made)
  intro result next both
  exact ⟨⟨held, both.1⟩, both.2⟩

/-- It stands when paging ends. -/
theorem terminate (upheld : Upheld config property) :
    (Pager.terminate : PagerAction φ Unit).Preserves (Standing config property) := by
  intro pager standing
  obtain ⟨held, accounts⟩ := standing.accounts
  apply Ends.mono (accounts.terminate.and (upheld.terminated pager standing.holds))
  intro result next both
  exact ⟨⟨held, both.1⟩, both.2⟩

/-- It stands when a process is deallocated. -/
theorem deallocate (upheld : Upheld config property) (standing : Standing config property pager)
    (pid : Pid) : Standing config property (pager.deallocate pid).2 :=
  ⟨standing.accounts.imp fun _ accounts => accounts.deallocate pid,
    upheld.deallocated pid standing.holds⟩

/-- It stands when a process exits. -/
theorem exit (upheld : Upheld config property) (standing : Standing config property pager)
    (process : UserProcess) : Standing config property (process.exit pager).2.2 := by
  rw [UserProcess.exit]
  split
  · exact standing
  · exact upheld.deallocate standing process.pid

/-- It stands when a process is started. -/
theorem start (upheld : Upheld config property) (standing : Standing config property pager)
    (pid : Pid) (stackTop : Vpn) :
    Standing config property (UserProcess.start pager pid stackTop).2 := by
  obtain ⟨held, accounts⟩ := standing.accounts
  exact ⟨⟨held, accounts.start pid stackTop⟩,
    upheld.started pid stackTop accounts standing.holds⟩

/-- It stands whatever happens to the files behind it. -/
theorem disturb (upheld : Upheld config property) (standing : Standing config property pager)
    (files : φ) :
    Standing config property { pager with device := pager.device.withFiles files } :=
  ⟨standing.accounts.imp fun _ accounts => accounts.of_same rfl rfl rfl accounts.pins rfl,
    upheld.disturbed files standing.holds⟩

end Upheld

end VirtualMemory.Pager
