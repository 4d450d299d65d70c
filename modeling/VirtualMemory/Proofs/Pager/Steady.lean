/-
Module: VirtualMemory.Proofs.Pager.Steady
Purpose: What the operations of the pager leave to those who have frames pinned.
Main exports:
  Pager.Steady, its lemma for every operation, and Steady.sustains, serve_steady

An operation that is asked to move or to unmap a page does so, pinned or not. From any
other page no operation takes a pinned frame.
-/
import VirtualMemory.Proofs.Pager.Bookkeeping

namespace VirtualMemory.Pager

open VirtualMemory.Action

variable {φ : Type} {pager middle after next : Pager φ} {taken : PageId → Prop}
  {pinned : Option Ppn} {page : PageId} {ppn : Ppn} {config : Config} {held : Finset Ppn}

/-- The pins are as they were, but for a frame that the operation has pinned itself, and
every page in a pinned frame is still there, but for those that the operation is asked to
move or to unmap. -/
structure Steady (taken : PageId → Prop) (pinned : Option Ppn) (pager after : Pager φ) :
    Prop where
  pins_eq : after.pins = pinned.elim pager.pins pager.pins.hold
  stays : ∀ {page ppn}, ¬ taken page → pager.pins.isPinned ppn = true →
    pager.tables.frameOf page = some ppn → after.tables.frameOf page = some ppn

namespace Steady

theorem refl (taken : PageId → Prop) (pager : Pager φ) : Steady taken none pager pager :=
  ⟨rfl, fun _ _ => id⟩

/-- Only pins and tables matter. -/
theorem congr (steady : Steady taken pinned pager after) (samePins : next.pins = after.pins)
    (sameTables : next.tables = after.tables) : Steady taken pinned pager next where
  pins_eq := samePins.trans steady.pins_eq
  stays spared isPinned there := sameTables ▸ steady.stays spared isPinned there

theorem of_same (samePins : after.pins = pager.pins) (sameTables : after.tables = pager.tables) :
    Steady taken none pager after :=
  (refl taken pager).congr samePins sameTables

/-- A step that pins nothing may come first. -/
theorem andThen (first : Steady taken none pager middle)
    (second : Steady taken pinned middle after) : Steady taken pinned pager after where
  pins_eq := by rw [second.pins_eq, first.pins_eq]; rfl
  stays spared isPinned there :=
    second.stays spared (by rw [first.pins_eq]; exact isPinned)
      (first.stays spared isPinned there)

/-- A pin is one more on its frame. -/
theorem pin (steady : Steady taken none pager after) (ppn : Ppn) :
    Steady taken (some ppn) pager (after.pin ppn) where
  pins_eq := congrArg (PinSet.hold · ppn) steady.pins_eq
  stays := steady.stays

/-- To unpin what was pinned is as if it had not been. -/
theorem unpin (steady : Steady taken (some ppn) pager after) (sound : pager.pins.Sound) :
    Steady taken none pager (after.unpin ppn) where
  pins_eq := by
    change after.pins.release ppn = pager.pins
    rw [steady.pins_eq]
    exact PinSet.release_hold sound ppn
  stays := steady.stays

/-- A page that is mapped anew moves, and no other page does. -/
theorem settle {pid : Pid} {entry : TranslationEntry}
    (moves : taken (entry.page pid) ∨ pager.tables.get (entry.page pid) = none)
    (contents : Page) : Steady taken none pager (pager.settle pid entry contents) where
  pins_eq := by
    obtain ⟨pool, tlbs, settled⟩ := exists_settle pager pid entry contents
    rw [settled]
    rfl
  stays := by
    intro page ppn spared _ there
    rw [PageTables.frameOf, get_settle, if_neg]
    · exact there
    · rintro rfl
      rcases moves with isTaken | absent
      · exact spared isTaken
      · rw [PageTables.frameOf, absent] at there
        cases there

end Steady

/-! ### Handing out frames, backing pages, bringing pages back -/

variable [FileSystem φ]

/-- The frame of a victim is not pinned. -/
theorem Evicted.not_isPinned (evicted : Evicted pager (.ok ppn) after) :
    pager.pins.isPinned ppn = false := by
  cases evicted with
  | written _ eligible => exact eligible.unpinned

/-- An eviction moves no page that is pinned. -/
theorem Evicted.steady {result : Except PagingError Ppn} (evicted : Evicted pager result after) :
    Steady taken none pager after := by
  cases evicted with
  | refused | withoutFile | withoutVictim | unwritten => exact .of_same rfl rfl
  | written _ eligible found atFrame =>
    refine ⟨rfl, fun {page ppn} _ isPinned there => ?_⟩
    rw [PageTables.frameOf, PageTables.get_remove, if_neg]
    · exact there
    · rintro rfl
      rw [PageTables.frameOf, found, Option.map_some, atFrame, Option.some.injEq] at there
      rw [← there, eligible.unpinned] at isPinned
      cases isPinned

/-- No pinned page moves when a frame is got. -/
theorem Obtained.steady {result : Except PagingError Ppn}
    (obtained : Obtained pager result after) : Steady taken none pager after := by
  cases obtained with
  | fromPool => exact .of_same (pins_requestReclaim) (tables_requestReclaim)
  | byEviction _ evicted => exact evicted.steady.congr pins_requestReclaim tables_requestReclaim
  | failed _ evicted => exact evicted.steady

/-- No pinned page but the one that is made moves when it is made. -/
theorem Backed.steady {readOnly : Bool} {result : Except PagingError TranslationEntry}
    (backed : Backed pager page readOnly result after)
    (moves : taken page ∨ pager.tables.get page = none) : Steady taken none pager after := by
  cases backed with
  | outside => exact .refl taken pager
  | noFrame _ obtained => exact obtained.steady
  | fresh _ obtained =>
    refine obtained.steady.andThen (.settle ?_ _)
    exact moves.imp id obtained.absent

/-- No pinned page moves when one is restored. -/
theorem Restored.steady {result : Except PagingError (Option TranslationEntry)}
    (restored : Restored pager page ppn result after) (absent : pager.tables.get page = none) :
    Steady taken none pager after := by
  cases restored with
  | unread | outside => exact .of_same rfl rfl
  | @mapped _ last =>
    have moved : Steady taken none pager { pager with device := .inUse last } := .of_same rfl rfl
    exact moved.andThen (.settle (Or.inr absent) _)

/-- No pinned page moves when one is brought back. -/
theorem BroughtBack.steady {result : Except PagingError (Option TranslationEntry)}
    (broughtBack : BroughtBack pager page result after) : Steady taken none pager after := by
  cases broughtBack with
  | resident | neverWritten => exact .refl taken pager
  | noFrame _ _ obtained => exact obtained.steady
  | failed absent _ obtained restored =>
    exact (obtained.steady.andThen (restored.steady (obtained.absent absent))).congr rfl rfl
  | loaded absent obtained restored =>
    exact obtained.steady.andThen (restored.steady (obtained.absent absent))

/-! ### Calls of the pager -/

omit [FileSystem φ] in
/-- No pinned page moves when a frame is returned. -/
theorem returnFrame_steady (pager : Pager φ) (ppn : Ppn) :
    (returnFrame ppn).Ends pager fun _ next => Steady taken none pager next := by
  apply Ends.mono (returnFrame_ends pager ppn)
  rintro result next ⟨pool, rfl⟩
  exact .of_same rfl rfl

/-- How a call ends that may answer a guard of a page. -/
def Guarded (taken : PageId → Prop) (pager : Pager φ) (page : PageId) :
    Except PagingError (Option TranslationEntry) → Pager φ → Prop
  | .ok (some entry), next =>
      Steady taken (some entry.ppn) pager next ∧ next.tables.frameOf page = some entry.ppn
  | .ok none, next | .error _, next => Steady taken none pager next

omit [FileSystem φ] in
/-- A page that is looked up is guarded by one pin. -/
theorem getTranslationPinned_guarded (pager : Pager φ) (page : PageId) :
    (getTranslationPinned page).Ends pager (Guarded taken pager page) := by
  simp only [getTranslationPinned, ends_bind, ends_get]
  cases found : pager.tables.get page with
  | none => exact .refl taken pager
  | some entry =>
    exact ⟨(Steady.refl taken pager).pin entry.ppn,
      PageTables.frameOf_eq_some_iff.mpr ⟨entry, found, rfl⟩⟩

/-- To make a page moves no other page that is pinned. -/
theorem newPage_steady (accounts : Accounts config held pager) (page : PageId)
    (readOnly : Bool) :
    (newPage page readOnly).Ends pager fun _ next => Steady (· = page) none pager next :=
  (newPage_ends accounts page readOnly).mono fun _ _ backed => backed.steady (Or.inl rfl)

/-- A page that is made for an access is guarded by one pin. -/
theorem newPagePinned_guarded (accounts : Accounts config held pager) (page : PageId)
    (readOnly : Bool) :
    (some <$> newPagePinned page readOnly).Ends pager (Guarded (· = page) pager page) := by
  simp only [newPagePinned, map_eq_pure_bind, bind_assoc]
  refine (newPage_ends accounts page readOnly).bind (fun entry next backed => ?_)
    fun cause next backed => backed.steady (Or.inl rfl)
  have steady : Steady (· = page) none pager next := backed.steady (Or.inl rfl)
  exact ⟨steady.pin entry.ppn,
    PageTables.frameOf_eq_some_iff.mpr ⟨entry, backed.get_eq, rfl⟩⟩

omit [FileSystem φ] in
/-- Recording an entry moves its own page and no other. -/
theorem putTranslation_steady (accounts : Accounts config held pager) (pid : Pid)
    (entry : TranslationEntry) :
    (putTranslation pid entry).Ends pager
      fun _ next => Steady (· = entry.page pid) none pager next := by
  apply Ends.mono (putTranslation_ends accounts pid entry)
  rintro result next ⟨tables, pool, tlbs, rfl, _, elsewhere⟩
  refine ⟨rfl, fun {page ppn} spared _ there => ?_⟩
  rw [PageTables.frameOf, elsewhere page fun same => absurd same spared]
  exact there

omit [FileSystem φ] in
/-- To deallocate a process moves the pages of no other. -/
theorem deallocate_steady (pager : Pager φ) (pid : Pid) :
    Steady (·.pid = pid) none pager (pager.deallocate pid).2 := by
  obtain ⟨pool, tlbs, freed⟩ := exists_deallocate pager pid
  rw [freed]
  refine ⟨rfl, fun {page ppn} spared _ there => ?_⟩
  rw [PageTables.frameOf, PageTables.get_removeAll, if_neg spared]
  exact there

omit [FileSystem φ] in
/-- An exit moves the pages of no other process. -/
theorem exit_steady (process : UserProcess) (pager : Pager φ) :
    Steady (·.pid = process.pid) none pager (process.exit pager).2.2 := by
  rw [UserProcess.exit]
  split
  · exact .refl _ pager
  · exact deallocate_steady pager process.pid

/-- No pinned page moves when swapping begins. -/
theorem initializeSwap_steady (pager : Pager φ) :
    (initializeSwap : PagerAction φ Unit).Ends pager
      fun _ next => Steady taken none pager next := by
  rw [ends_initializeSwap]
  exact .of_same rfl rfl

/-- No pinned page moves in a round of reclamation. -/
theorem reclaimOnce_steady (accounts : Accounts config held pager) :
    (reclaimOnce : PagerAction φ Nat).Ends pager fun _ next => Steady taken none pager next := by
  have evicts : (evictToPool : PagerAction φ Ppn).Preserves fun next =>
      Accounts config held next ∧ Steady taken none pager next := by
    rintro middle ⟨books, steady⟩
    apply Ends.mono books.evictToPool
    rintro _ _ ⟨last, result, after, pool, evicted, rfl⟩
    exact ⟨last, steady.andThen (evicted.steady.congr rfl rfl)⟩
  exact (preserves_reclaimOnce evicts pager ⟨accounts, .refl taken pager⟩).mono
    fun _ _ => And.right

/-- No pinned page moves when paging ends. -/
theorem terminate_steady (pager : Pager φ) :
    (terminate : PagerAction φ Unit).Ends pager fun _ next => Steady taken none pager next := by
  apply Ends.mono (terminate_ends pager)
  rintro result next ⟨device, rfl⟩
  exact .of_same rfl rfl

/-! ### Requests of processes -/

/-- A request takes frames only from the pages that it backs anew, and what it pins it lets
go of. -/
theorem Steady.sustains {process : UserProcess} {backs : Vpn → Prop} (stores : Vpn → Prop)
    (accounts : Accounts config held pager)
    (named : ∀ {vpn}, backs vpn → taken (process.page vpn)) :
    process.Sustains backs stores fun pinned after =>
      Accounts config held after ∧ Steady taken pinned pager after :=
  have keeps := Accounts.keeps (φ := φ) process config held
  { accounts := fun holds => ⟨config, held, holds.1⟩
    broughtBack := fun holds how => ⟨keeps.broughtBack holds.1 how, holds.2.andThen how.steady⟩
    grown := fun holds absent how =>
      ⟨keeps.backed holds.1 how, holds.2.andThen (how.steady (Or.inr absent))⟩
    backed := fun holds backed how =>
      ⟨keeps.backed holds.1 how, holds.2.andThen (how.steady (Or.inl (named backed)))⟩
    cached := fun running holds found =>
      ⟨keeps.cached running holds.1 found, holds.2.congr rfl rfl⟩
    accessed := fun holds =>
      ⟨keeps.accessed holds.1,
        { pins_eq := holds.2.pins_eq
          stays := fun spared isPinned there =>
            (PageTables.frameOf_markAccessed _ _).trans (holds.2.stays spared isPinned there) }⟩
    marked := fun holds => ⟨keeps.marked holds.1, holds.2.congr rfl rfl⟩
    dropped := fun holds => ⟨keeps.dropped holds.1, holds.2.congr rfl rfl⟩
    emptied := fun holds => ⟨keeps.emptied holds.1, holds.2.congr rfl rfl⟩
    pinned := fun holds => ⟨keeps.pinned holds.1, holds.2.pin _⟩
    unpinned := fun holds => ⟨keeps.unpinned holds.1, holds.2.unpin accounts.pins⟩
    stored := fun _ holds _ written =>
      ⟨keeps.stored holds.1 (PhysicalMemory.size_of_write written), holds.2.congr rfl rfl⟩ }

/-- A request moves no pinned page but those that it makes. -/
theorem serve_steady (accounts : Accounts config held pager) (process : UserProcess)
    (request : ProcessRequest) :
    (process.serve request).Ends pager fun _ next =>
      Steady (fun page => page.pid = process.pid ∧ process.Backs request page.vpn) none pager
        next := by
  have sustains : process.Sustains (process.Backs request) (UserProcess.Stores request)
      fun pinned after => Accounts config held after ∧
        Steady (fun page => page.pid = process.pid ∧ process.Backs request page.vpn) pinned pager
          after :=
    Steady.sustains (UserProcess.Stores request) accounts fun backed => ⟨rfl, backed⟩
  exact (sustains.serve pager ⟨accounts, .refl _ pager⟩).mono fun _ _ => And.right

end VirtualMemory.Pager
