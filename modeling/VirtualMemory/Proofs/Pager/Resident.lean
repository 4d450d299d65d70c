/-
Module: VirtualMemory.Proofs.Pager.Resident
Purpose: A pager that may not swap leaves its swap device alone, and every page in its
  frame, whatever it is called for.
Main exports:
  Pager.PagesStay, Undisturbed, Swapless, TakesFreeFrame; Evicted.eq_of_swapless,
  Obtained.of_swapless, BroughtBack.eq_of_swapless, and a lemma for every operation;
  UserProcess.Replaces, StoresTo, Swapless.serve

A page leaves its frame only when a call maps it anew or unmaps it, or when the memory of its
process is freed. What a frame holds changes only when the process of its page stores to it.
-/
import VirtualMemory.Proofs.Pager.Bookkeeping

namespace VirtualMemory

open VirtualMemory.Action

variable {φ : Type}

namespace Pager

variable {pager middle after last : Pager φ} {moved stored : PageId → Prop} {page : PageId}
  {ppn : Ppn} {entry : TranslationEntry} {config : Config} {held others : Finset Ppn} {files : φ}

/-! ### Pages that stay -/

/-- Every page that was not moved is in the frame that it was in, and if it was not stored to
either, the frame holds what it held. -/
structure PagesStay (moved stored : PageId → Prop) (pager after : Pager φ) : Prop where
  inPlace : ∀ {page ppn}, ¬ moved page → pager.tables.frameOf page = some ppn →
    after.tables.frameOf page = some ppn
  contents : ∀ {page ppn}, ¬ moved page → ¬ stored page →
    pager.tables.frameOf page = some ppn → after.memory.copyOut ppn = pager.memory.copyOut ppn

namespace PagesStay

theorem refl (moved stored : PageId → Prop) (pager : Pager φ) :
    PagesStay moved stored pager pager :=
  ⟨fun _ => id, fun _ _ _ => rfl⟩

/-- More pages may be said to move than do. -/
theorem mono {more further : PageId → Prop} (stay : PagesStay moved stored pager after)
    (moves : ∀ page, moved page → more page) (stores : ∀ page, stored page → further page) :
    PagesStay more further pager after where
  inPlace spared := stay.inPlace fun isMoved => spared (moves _ isMoved)
  contents spared kept :=
    stay.contents (fun isMoved => spared (moves _ isMoved)) fun isStored =>
      kept (stores _ isStored)

/-- What stays through each of two steps stays through both. -/
theorem andThen (first : PagesStay moved stored pager middle)
    (second : PagesStay moved stored middle after) : PagesStay moved stored pager after where
  inPlace spared there := second.inPlace spared (first.inPlace spared there)
  contents spared kept there :=
    (second.contents spared kept (first.inPlace spared there)).trans
      (first.contents spared kept there)

end PagesStay

/-- What an operation leaves behind that neither moves nor fills other pages than it was asked
to, and that leaves swap alone. -/
structure Undisturbed (moved stored : PageId → Prop) (pager after : Pager φ) : Prop extends
    PagesStay moved stored pager after where
  device_eq : after.device = pager.device
  evictions_eq : after.evictions = pager.evictions

namespace Undisturbed

theorem refl (moved stored : PageId → Prop) (pager : Pager φ) :
    Undisturbed moved stored pager pager :=
  ⟨.refl moved stored pager, rfl, rfl⟩

/-- More pages may be said to be disturbed than are. -/
theorem mono {more further : PageId → Prop} (undisturbed : Undisturbed moved stored pager after)
    (moves : ∀ page, moved page → more page) (stores : ∀ page, stored page → further page) :
    Undisturbed more further pager after :=
  ⟨undisturbed.toPagesStay.mono moves stores, undisturbed.device_eq, undisturbed.evictions_eq⟩

/-- What each of two steps leaves undisturbed, both do. -/
theorem andThen (first : Undisturbed moved stored pager middle)
    (second : Undisturbed moved stored middle after) : Undisturbed moved stored pager after :=
  ⟨first.toPagesStay.andThen second.toPagesStay, second.device_eq.trans first.device_eq,
    second.evictions_eq.trans first.evictions_eq⟩

/-- Only tables, memory and what belongs to swap matter. -/
theorem congr (undisturbed : Undisturbed moved stored pager after)
    (sameTables : last.tables = after.tables) (sameMemory : last.memory = after.memory)
    (sameDevice : last.device = after.device) (sameCount : last.evictions = after.evictions) :
    Undisturbed moved stored pager last where
  inPlace := sameTables ▸ undisturbed.inPlace
  contents := sameMemory ▸ undisturbed.contents
  device_eq := sameDevice.trans undisturbed.device_eq
  evictions_eq := sameCount.trans undisturbed.evictions_eq

/-- Nothing is disturbed where tables, memory, device and count are the same. -/
theorem of_same (sameTables : after.tables = pager.tables)
    (sameMemory : after.memory = pager.memory) (sameDevice : after.device = pager.device)
    (sameCount : after.evictions = pager.evictions) : Undisturbed moved stored pager after :=
  (refl moved stored pager).congr sameTables sameMemory sameDevice sameCount

theorem of_eq (same : after = pager) : Undisturbed moved stored pager after :=
  same ▸ .refl moved stored pager

/-- The entries of other pages stay the same while the tables change. -/
theorem of_tables {tables : PageTables}
    (elsewhere : ∀ page, ¬ moved page → tables.frameOf page = pager.tables.frameOf page) :
    Undisturbed moved stored pager { pager with tables := tables } where
  inPlace spared there := (elsewhere _ spared).trans there
  contents _ _ _ := rfl
  device_eq := rfl
  evictions_eq := rfl

/-- A page moves into a frame that no page was in. -/
theorem settle (accounts : Accounts config held pager) {pid : Pid} (isHeld : entry.ppn ∈ held)
    (moves : moved (entry.page pid) ∨ pager.tables.get (entry.page pid) = none)
    (contents : Page) : Undisturbed moved stored pager (pager.settle pid entry contents) where
  inPlace := by
    intro page ppn spared there
    rw [PageTables.frameOf, get_settle, if_neg]
    · exact there
    · rintro rfl
      rcases moves with isMoved | absent
      · exact spared isMoved
      · rw [PageTables.frameOf, absent] at there
        cases there
  contents := by
    intro page ppn _ _ there
    have owned := accounts.tables.frameOf_eq_some_iff.mp there
    have apart : entry.ppn ≠ ppn := by
      rintro rfl
      exact accounts.not_held_of_owner owned isHeld
    have inside := accounts.size_memory.symm ▸ accounts.held_lt entry.ppn isHeld
    obtain ⟨pool, tlbs, settled⟩ := exists_settle pager pid entry contents
    rw [settled]
    exact (PhysicalMemory.copyOut_store _ inside contents ppn).trans (if_neg apart)
  device_eq := by
    obtain ⟨pool, tlbs, settled⟩ := exists_settle pager pid entry contents
    rw [settled]
  evictions_eq := by
    obtain ⟨pool, tlbs, settled⟩ := exists_settle pager pid entry contents
    rw [settled]

/-- What is written to the frame of a page reaches no other page. -/
theorem write (consistent : pager.tables.Consistent)
    (there : pager.tables.frameOf page = some ppn) (reached : moved page ∨ stored page)
    {offset count : Nat} {data : Bytes} {memory : PhysicalMemory}
    (written : pager.memory.write ppn offset data = .ok (count, memory)) :
    Undisturbed moved stored pager { pager with memory := memory } where
  inPlace _ := id
  contents := by
    intro other frame spared kept elsewhere
    apply PhysicalMemory.copyOut_write written
    rintro rfl
    have owned := consistent.frameOf_eq_some_iff.mp there
    rw [consistent.frameOf_eq_some_iff.mp elsewhere] at owned
    cases owned
    exact reached.elim spared kept
  device_eq := rfl
  evictions_eq := rfl

end Undisturbed

/-! ### A pager that may not swap -/

/-- A pager that may not swap and never did. Its device is one without a swap file. -/
structure Swapless (config : Config) (held : Finset Ppn) (files : φ) (pager : Pager φ) :
    Prop where
  accounts : Accounts config held pager
  resident : config.paging = .resident
  device : pager.device = .unused files
  evictions : pager.evictions = 0

namespace Swapless

/-- A pager without swap that is not disturbed stays without swap. -/
theorem next (swapless : Swapless config held files pager) (accounts : Accounts config others after)
    (undisturbed : Undisturbed moved stored pager after) : Swapless config others files after where
  accounts := accounts
  resident := swapless.resident
  device := undisturbed.device_eq.trans swapless.device
  evictions := undisturbed.evictions_eq.trans swapless.evictions

/-- A pager without a swap file uses none. -/
theorem usesSwap (swapless : Swapless config held files pager) : pager.usesSwap = false := by
  rw [Pager.usesSwap, swapless.accounts.config_eq, swapless.resident]
  rfl

/-- Without swap no page is in it. -/
theorem swapContains (swapless : Swapless config held files pager) (page : PageId) :
    pager.swapContains page = false := by
  rw [Pager.swapContains, swapless.device]
  rfl

/-- What happens to the file system from outside does not make a swap file. -/
theorem disturb (swapless : Swapless config held files pager) (change : φ → φ) :
    Swapless config held (change files)
      { pager with device := pager.device.withFiles (change pager.device.files) } where
  accounts := swapless.accounts.of_same rfl rfl rfl swapless.accounts.pins rfl
  resident := swapless.resident
  device := by rw [swapless.device]; rfl
  evictions := swapless.evictions

end Swapless

/-- An action that needs a frame: it fails, and changes nothing, exactly when no frame is
free. -/
structure TakesFreeFrame {α : Type} (action : PagerAction φ α) (pager : Pager φ) : Prop where
  fails : pager.freeFrameCount = 0 → action.outcome pager = (.error .outOfMemory, pager)
  answers : pager.freeFrameCount ≠ 0 → ∃ answer next, action.outcome pager = (.ok answer, next)

/-- An action takes a free frame if it succeeds just when there is one. -/
theorem TakesFreeFrame.of_ends {α : Type} {action : PagerAction φ α}
    (ends : action.Ends pager fun result next =>
      (pager.frames.allocate ≠ none ∧ ∃ answer, result = .ok answer) ∨
        (pager.frames.allocate = none ∧ result = .error .outOfMemory ∧ next = pager)) :
    TakesFreeFrame action pager := by
  simp only [ne_eq, FramePool.allocate_eq_none_iff] at ends
  rcases ends with ⟨free, answer, done⟩ | ⟨empty, failed, same⟩
  · exact ⟨fun empty => absurd empty free, fun _ => ⟨answer, _, Prod.ext done rfl⟩⟩
  · exact ⟨fun _ => Prod.ext failed same, fun free => absurd empty free⟩

section Operations

variable [FileSystem φ]

/-- Nothing is evicted. -/
theorem Evicted.eq_of_swapless {result : Except PagingError Ppn}
    (evicted : Evicted pager result after) (swapless : Swapless config held files pager) :
    result = .error .outOfMemory ∧ after = pager := by
  cases evicted with
  | refused => exact ⟨rfl, rfl⟩
  | withoutFile _ demand | withoutVictim _ _ _ demand | unwritten _ _ _ _ _ _ demand
  | written _ _ _ _ _ _ demand =>
    rw [swapless.usesSwap] at demand
    cases demand

/-- Without swap no frame is made free by eviction. -/
theorem evictToPool_of_swapless (swapless : Swapless config held files pager) :
    (evictToPool : PagerAction φ Ppn).Ends pager fun result next =>
      result = .error .outOfMemory ∧ next = pager := by
  apply Ends.mono (evictToPool_ends swapless.accounts)
  intro result next ends
  cases result with
  | error cause => exact ends.eq_of_swapless swapless
  | ok ppn =>
    obtain ⟨after, pool, evicted, -⟩ := ends
    exact no_answer (evicted.eq_of_swapless swapless).1.symm

/-- A frame comes from the pool, or not at all. -/
theorem Obtained.of_swapless {result : Except PagingError Ppn}
    (obtained : Obtained pager result after) (swapless : Swapless config held files pager) :
    (∃ ppn pool, pager.frames.allocate = some (ppn, pool) ∧ result = .ok ppn ∧
        after = { pager with frames := pool }) ∨
      (pager.frames.allocate = none ∧ result = .error .outOfMemory ∧ after = pager) := by
  cases obtained with
  | @fromPool ppn pool taken =>
    refine .inl ⟨ppn, pool, taken, rfl, ?_⟩
    have cannot : ({ pager with frames := pool } : Pager φ).usesSwap = false := swapless.usesSwap
    rw [requestReclaim, cannot, Bool.false_and, if_neg Bool.false_ne_true]
  | byEviction _ evicted => exact no_answer (evicted.eq_of_swapless swapless).1.symm
  | failed empty evicted => exact .inr ⟨empty, evicted.eq_of_swapless swapless⟩

/-- Without swap a frame is got from the pool or not at all. -/
theorem getFreeFrame_of_swapless (swapless : Swapless config held files pager) :
    TakesFreeFrame (getFreeFrame : PagerAction φ Ppn) pager := by
  apply TakesFreeFrame.of_ends
  apply Ends.mono (getFreeFrame_ends swapless.accounts)
  intro result next obtained
  rcases obtained.of_swapless swapless with ⟨ppn, pool, taken, done, -⟩ | failed
  · exact .inl ⟨taken ▸ nofun, ppn, done⟩
  · exact .inr failed

/-- Without swap no page is disturbed when a frame is got. -/
theorem Obtained.undisturbed {result : Except PagingError Ppn}
    (obtained : Obtained pager result after) (swapless : Swapless config held files pager) :
    Undisturbed moved stored pager after := by
  rcases obtained.of_swapless swapless with ⟨ppn, pool, -, -, rfl⟩ | ⟨-, -, rfl⟩
  · exact .of_same rfl rfl rfl rfl
  · exact .refl moved stored after

/-- A page for which there was no frame was not touched. -/
theorem Backed.eq_of_swapless {readOnly : Bool} {cause : PagingError}
    (backed : Backed pager page readOnly (.error cause) after)
    (swapless : Swapless config held files pager) : after = pager := by
  cases backed with
  | outside => rfl
  | noFrame _ obtained =>
    rcases obtained.of_swapless swapless with ⟨_, _, -, impossible, -⟩ | ⟨-, -, same⟩
    · exact no_cause impossible.symm
    · exact same

/-- A page that is made disturbs no other. -/
theorem Backed.undisturbed {readOnly : Bool} {result : Except PagingError TranslationEntry}
    (backed : Backed pager page readOnly result after)
    (swapless : Swapless config held files pager)
    (moves : result.isOk = true → moved page ∨ pager.tables.get page = none) :
    Undisturbed moved stored pager after := by
  cases result with
  | error cause => exact backed.eq_of_swapless swapless ▸ .refl moved stored pager
  | ok entry =>
    cases backed with
    | fresh inside obtained =>
      have books := obtained.accounts swapless.accounts
      refine (obtained.undisturbed swapless).andThen (.settle books ?_ ?_ _)
      · exact Finset.mem_insert_self _ held
      · exact (moves rfl).imp id obtained.absent

/-- Nothing is brought back, for nothing was written out. -/
theorem BroughtBack.eq_of_swapless {result : Except PagingError (Option TranslationEntry)}
    (broughtBack : BroughtBack pager page result after)
    (swapless : Swapless config held files pager) : after = pager := by
  cases broughtBack with
  | resident | neverWritten => rfl
  | noFrame _ known | failed _ known =>
    rw [swapless.swapContains] at known
    cases known
  | loaded _ obtained restored =>
    have taken : Undisturbed (fun _ => False) (fun _ => False) pager _ :=
      obtained.undisturbed swapless
    have unused := taken.device_eq.trans swapless.device
    cases restored with
    | mapped _ used =>
      rw [used] at unused
      cases unused

/-! ### Calls of the pager -/

/-- A page of the address space is backed if a frame is free. -/
theorem newPage_of_swapless (swapless : Swapless config held files pager)
    (inside : page.vpn ≤ lastPage) (readOnly : Bool) :
    TakesFreeFrame (newPage page readOnly) pager := by
  apply TakesFreeFrame.of_ends
  apply Ends.mono (newPage_ends swapless.accounts page readOnly)
  intro result next backed
  cases backed with
  | outside beyond => exact absurd beyond (UInt32.not_lt.mpr inside)
  | noFrame _ obtained =>
    rcases obtained.of_swapless swapless with ⟨_, _, -, done, -⟩ | ⟨empty, failed, same⟩
    · exact no_cause done.symm
    · exact .inr ⟨empty, congrArg _ (Except.error.inj failed), same⟩
  | fresh _ obtained =>
    rcases obtained.of_swapless swapless with ⟨_, _, taken, -, -⟩ | ⟨-, failed, -⟩
    · exact .inl ⟨taken ▸ nofun, _, rfl⟩
    · exact no_cause failed

/-- To make a page moves that page only, and only if it succeeds. -/
theorem newPage_undisturbed (swapless : Swapless config held files pager) (page : PageId)
    (readOnly : Bool) :
    (newPage page readOnly).Ends pager fun result next =>
      Undisturbed (fun other => other = page ∧ result.isOk = true) stored pager next :=
  (newPage_ends swapless.accounts page readOnly).mono
    fun _ _ backed => backed.undisturbed swapless fun done => .inl ⟨rfl, done⟩

/-- To make a page and pin it moves that page only, and only if it succeeds. -/
theorem newPagePinned_undisturbed (swapless : Swapless config held files pager)
    (stored : PageId → Prop) (page : PageId) (readOnly : Bool) :
    (newPagePinned page readOnly).Ends pager fun result next =>
      Undisturbed (fun other => other = page ∧ result.isOk = true) stored pager next := by
  refine (newPage_undisturbed swapless page readOnly).bind (fun entry next backed => ?_)
    fun cause next backed => backed
  exact backed.congr rfl rfl rfl rfl

omit [FileSystem φ] in
/-- To return a frame disturbs no page. -/
theorem returnFrame_undisturbed (pager : Pager φ) (ppn : Ppn) :
    (returnFrame ppn).Ends pager fun _ next => Undisturbed moved stored pager next := by
  apply Ends.mono (returnFrame_ends pager ppn)
  rintro result next ⟨pool, rfl⟩
  exact .of_same rfl rfl rfl rfl

omit [FileSystem φ] in
/-- An entry that is refused changes nothing. -/
theorem putTranslation_undisturbed (accounts : Accounts config held pager) (pid : Pid)
    (entry : TranslationEntry) :
    (putTranslation pid entry).Ends pager fun result next =>
      Undisturbed (fun other => other = entry.page pid ∧ result.isOk = true) stored pager
        next := by
  apply Ends.mono (putTranslation_ends accounts pid entry)
  rintro result next ⟨tables, pool, tlbs, rfl, _, elsewhere⟩
  have put : Undisturbed (fun other => other = entry.page pid ∧ result.isOk = true) stored pager
      { pager with tables := tables } :=
    .of_tables fun page spared => congrArg (Option.map TranslationEntry.ppn)
      (elsewhere page fun same => Bool.not_eq_true _ ▸ fun done => spared ⟨same, done⟩)
  exact put.congr rfl rfl rfl rfl

omit [FileSystem φ] in
/-- To look a page up and pin it disturbs no page. -/
theorem getTranslationPinned_undisturbed (pager : Pager φ) (page : PageId) :
    (getTranslationPinned page).Ends pager fun _ next => Undisturbed moved stored pager next := by
  simp only [getTranslationPinned, ends_bind, ends_get]
  cases pager.tables.get page with
  | none => exact .refl moved stored pager
  | some entry => exact .of_same rfl rfl rfl rfl

omit [FileSystem φ] in
/-- To deallocate a process moves its pages only. -/
theorem deallocate_undisturbed (pager : Pager φ) (pid : Pid) :
    Undisturbed (·.pid = pid) stored pager (pager.deallocate pid).2 := by
  have unmapped : Undisturbed (·.pid = pid) stored pager
      { pager with tables := (pager.tables.removeAll pid).2 } := by
    refine .of_tables fun page spared => ?_
    rw [PageTables.frameOf, PageTables.get_removeAll, if_neg spared]
    rfl
  obtain ⟨pool, tlbs, freed⟩ := exists_deallocate pager pid
  rw [freed]
  exact unmapped.congr rfl rfl rfl rfl

omit [FileSystem φ] in
/-- A process that has exited has no memory to free. -/
theorem exit_undisturbed (stored : PageId → Prop) (process : UserProcess) (pager : Pager φ) :
    Undisturbed (fun page => page.pid = process.pid ∧ process.exited = false) stored pager
      (process.exit pager).2.2 := by
  rw [UserProcess.exit]
  split
  · exact .refl _ stored pager
  · next alive =>
    exact (deallocate_undisturbed pager process.pid).mono
      (fun _ same => ⟨same, Bool.not_eq_true _ ▸ alive⟩) fun _ => id

/-- Without swap a round of reclamation does nothing. -/
theorem reclaimOnce_of_swapless (swapless : Swapless config held files pager) :
    (reclaimOnce : PagerAction φ Nat).Ends pager fun _ next => next = pager := by
  refine preserves_reclaimOnce (fun state same => ?_) pager rfl
  subst same
  exact (evictToPool_of_swapless swapless).mono fun _ _ ends => ends.2

/-- There is no swap file to delete. -/
theorem terminate_undisturbed (swapless : Swapless config held files pager) :
    (terminate : PagerAction φ Unit).Ends pager fun _ next =>
      Swapless config held files next ∧ Undisturbed moved stored pager next := by
  simp only [terminate, ends_bind, ends_modify, ends_get]
  have forgotten : Undisturbed moved stored pager { pager with tlbs := pager.tlbs.detachAll } :=
    .of_same rfl rfl rfl rfl
  have accounts : Accounts config held { pager with tlbs := pager.tlbs.detachAll } :=
    swapless.accounts.of_same rfl rfl rfl swapless.accounts.pins rfl
  split
  · exact ⟨swapless.next accounts forgotten, forgotten⟩
  · next swap used => cases swapless.device.symm.trans used

end Operations

end Pager

/-! ### Requests of processes -/

namespace UserProcess

open Pager

variable [FileSystem φ] {process : UserProcess} {pager : Pager φ} {config : Config}
  {held : Finset Ppn} {files : φ} {moved stored : PageId → Prop} {vpn : Vpn}

/-- The pages of a section, from the one with a number on, that are backed before loading it
comes to its end or fails. -/
def sectionBacked (process : UserProcess) (first : Vpn) (readOnly : Bool) :
    Nat → List Bytes → Pager φ → List Vpn
  | _, [], _ => []
  | index, chunk :: rest, pager =>
      match sectionPage first index with
      | .error _ => []
      | .ok vpn =>
          match (process.loadChunk vpn readOnly chunk).outcome pager with
          | (.error _, _) => []
          | (.ok _, next) =>
              vpn :: process.sectionBacked first readOnly (index + 1) rest next

/-- The pages that a request maps anew, resident or not, as far as it gets. -/
def replaced (process : UserProcess) (pager : Pager φ) : ProcessRequest → List Vpn
  | .loadSection first contents readOnly =>
      process.sectionBacked first readOnly 0 (chunks contents) pager
  | .allocateStack =>
      if (process.allocateStack.outcome pager).1.isOk then [process.stackTop] else []
  | .fault _ | .read _ _ | .write _ _ | .saveState | .restoreState => []

/-- Whether a request of a process maps a page anew. -/
def Replaces (process : UserProcess) (pager : Pager φ) (request : ProcessRequest)
    (page : PageId) : Prop :=
  page.pid = process.pid ∧ page.vpn ∈ process.replaced pager request

omit [FileSystem φ] in
/-- Whether a request of a process stores to a page. -/
def StoresTo (process : UserProcess) (request : ProcessRequest) (page : PageId) : Prop :=
  page.pid = process.pid ∧ Stores request page.vpn

end UserProcess

namespace Pager

open UserProcess

variable [FileSystem φ] {process : UserProcess} {pager : Pager φ} {config : Config}
  {held : Finset Ppn} {files : φ} {moved stored : PageId → Prop} {vpn : Vpn}

/-- The parts of a request move only the pages that it backs, and fill only those and the ones
that it stores to. -/
theorem sustains_undisturbed {backs stores : Vpn → Prop}
    (moves : ∀ {vpn}, backs vpn → moved (process.page vpn))
    (fills : ∀ {vpn}, stores vpn → stored (process.page vpn)) :
    process.Sustains backs stores fun _ after =>
      Swapless config held files after ∧ Undisturbed moved stored pager after :=
  have keeps := Accounts.keeps (φ := φ) process config held
  have andThen : ∀ {middle after : Pager φ},
      Swapless config held files middle ∧ Undisturbed moved stored pager middle →
      Accounts config held after → Undisturbed moved stored middle after →
      Swapless config held files after ∧ Undisturbed moved stored pager after :=
    fun holds accounts how => ⟨holds.1.next accounts how, holds.2.andThen how⟩
  { accounts := fun holds => ⟨config, held, holds.1.accounts⟩
    broughtBack := fun holds how => how.eq_of_swapless holds.1 ▸ holds
    grown := fun holds absent how =>
      andThen holds (keeps.backed holds.1.accounts how)
        (how.undisturbed holds.1 fun _ => .inr absent)
    backed := fun holds backed how =>
      andThen holds (keeps.backed holds.1.accounts how)
        (how.undisturbed holds.1 fun _ => .inl (moves backed))
    cached := fun running holds found =>
      andThen holds (keeps.cached running holds.1.accounts found) (.of_same rfl rfl rfl rfl)
    accessed := fun holds =>
      andThen holds (keeps.accessed holds.1.accounts)
        (.of_tables fun page _ => PageTables.frameOf_markAccessed _ page)
    marked := fun holds =>
      andThen holds (keeps.marked holds.1.accounts) (.of_same rfl rfl rfl rfl)
    dropped := fun holds =>
      andThen holds (keeps.dropped holds.1.accounts) (.of_same rfl rfl rfl rfl)
    emptied := fun holds =>
      andThen holds (keeps.emptied holds.1.accounts) (.of_same rfl rfl rfl rfl)
    pinned := fun holds =>
      andThen holds (keeps.pinned holds.1.accounts) (.of_same rfl rfl rfl rfl)
    unpinned := fun holds =>
      andThen holds (keeps.unpinned holds.1.accounts) (.of_same rfl rfl rfl rfl)
    stored := fun named holds there written =>
      andThen holds (keeps.stored holds.1.accounts (PhysicalMemory.size_of_write written))
        (.write holds.1.accounts.tables there (named.imp moves fills) written) }

/-- A fault may make the page that it is about, and moves none. -/
theorem Swapless.fault (swapless : Swapless config held files pager) (process : UserProcess)
    (address : UInt32) :
    (process.fault address).Ends pager fun _ next =>
      Swapless config held files next ∧
        Undisturbed (fun _ => False) (fun _ => False) pager next := by
  have sustains : process.Sustains (fun _ => False) (fun _ => False) fun _ after =>
      Swapless config held files after ∧
        Undisturbed (fun _ => False) (fun _ => False) pager after :=
    sustains_undisturbed False.elim False.elim
  exact ((sustains.resolve _).bind fun _ => .pure _) pager ⟨swapless, .refl _ _ pager⟩

/-- A page of a section that was not backed was not touched. -/
theorem loadChunk_refused (swapless : Swapless config held files pager) (process : UserProcess)
    (vpn : Vpn) (readOnly : Bool) (chunk : Bytes) :
    (process.loadChunk vpn readOnly chunk).Ends pager fun result next =>
      ∀ cause, result = .error cause → next = pager := by
  rw [loadChunk, ensureRunning, ends_bind]
  split
  · exact fun _ _ => rfl
  · simp only [ends_pure, newPagePinned, ends_bind, ends_causing]
    apply Ends.mono (newPage_ends swapless.accounts (process.page vpn) readOnly)
    intro result next backed
    cases result with
    | error cause => exact fun _ _ => backed.eq_of_swapless swapless
    | ok entry =>
      have accounts := backed.accounts swapless.accounts
      obtain ⟨contents, copied⟩ := exists_copyOut (accounts.lt_size_of_get backed.get_eq)
      have written : ∃ answer, next.memory.write entry.ppn 0 chunk = .ok answer := by
        simp only [PhysicalMemory.write, PhysicalMemory.accessed, copied]
        exact ⟨_, rfl⟩
      obtain ⟨⟨count, memory⟩, written⟩ := written
      have there : (next.pin entry.ppn).memory.write entry.ppn 0 chunk = .ok (count, memory) :=
        written
      simp only [ends_modify, mapError_ok, ends_thenAlways, UserProcess.writeFrame, ends_causing,
        onMemory, ends_within, ends_update, there]
      exact fun _ => no_cause

/-- To load a chunk stores into its page only. -/
theorem loadChunk_undisturbed (swapless : Swapless config held files pager)
    (stored : PageId → Prop) (process : UserProcess) (vpn : Vpn) (readOnly : Bool)
    (chunk : Bytes) :
    (process.loadChunk vpn readOnly chunk).Ends pager fun result next =>
      Swapless config held files next ∧
        Undisturbed (fun page => page = process.page vpn ∧ result.isOk = true) stored pager
          next := by
  have sustains : process.Sustains (· = vpn) (fun _ => False) fun _ after =>
      Swapless config held files after ∧
        Undisturbed (· = process.page vpn) stored pager after :=
    sustains_undisturbed (fun same => same ▸ rfl) False.elim
  have loaded := sustains.loadChunk rfl readOnly chunk pager ⟨swapless, .refl _ stored pager⟩
  apply Ends.mono (loaded.and (loadChunk_refused swapless process vpn readOnly chunk))
  rintro result next ⟨⟨still, undisturbed⟩, refused⟩
  cases result with
  | ok => exact ⟨still, undisturbed.mono (fun _ same => ⟨same, rfl⟩) fun _ => id⟩
  | error cause =>
    rw [refused cause rfl]
    exact ⟨swapless, .refl _ stored pager⟩

/-- What is moved is what was backed before the section was loaded or loading it failed. -/
theorem loadChunks_undisturbed (swapless : Swapless config held files pager) (first : Vpn)
    (readOnly : Bool) (chunks : List Bytes) (index : Nat) :
    (process.loadChunks first readOnly index chunks).Ends pager fun _ next =>
      Swapless config held files next ∧
        Undisturbed
          (fun page => page.pid = process.pid ∧
            page.vpn ∈ process.sectionBacked first readOnly index chunks pager)
          stored pager next := by
  induction chunks generalizing index pager with
  | nil => exact ⟨swapless, .refl _ stored pager⟩
  | cons chunk rest ih =>
    rw [loadChunks, ends_bind, ends_conclude, sectionBacked]
    cases sectionPage first index with
    | error cause => exact ⟨swapless, .refl _ stored pager⟩
    | ok vpn =>
      simp only
      have loaded := loadChunk_undisturbed swapless stored process vpn readOnly chunk
      rw [ends_bind, Ends]
      rw [Ends] at loaded
      cases outcome : (process.loadChunk vpn readOnly chunk).outcome pager with
      | mk result next =>
        rw [outcome] at loaded
        obtain ⟨still, undisturbed⟩ := loaded
        cases result with
        | error cause =>
          exact ⟨still, undisturbed.mono (fun _ both => absurd both.2 Bool.false_ne_true)
            fun _ => id⟩
        | ok =>
          apply Ends.mono (ih still (index + 1))
          rintro _ last ⟨lastStill, lastUndisturbed⟩
          refine ⟨lastStill, (undisturbed.mono ?_ fun _ => id).andThen
            (lastUndisturbed.mono ?_ fun _ => id)⟩
          · rintro page ⟨rfl, -⟩
            exact ⟨rfl, List.mem_cons_self⟩
          · exact fun page both => ⟨both.1, List.mem_cons_of_mem vpn both.2⟩

/-- To allocate the stack makes its page only. -/
theorem allocateStack_undisturbed (swapless : Swapless config held files pager)
    (stored : PageId → Prop) (process : UserProcess) :
    process.allocateStack.Ends pager fun result next =>
      Swapless config held files next ∧
        Undisturbed (fun page => page = process.page process.stackTop ∧ result.isOk = true) stored
          pager next := by
  rw [allocateStack, ensureRunning, ends_bind]
  split
  · exact ⟨swapless, .refl _ stored pager⟩
  · simp only [ends_pure, ends_causing]
    apply Ends.mono (newPage_ends swapless.accounts (process.page process.stackTop) false)
    intro result next backed
    have undisturbed : Undisturbed
        (fun page => page = process.page process.stackTop ∧ result.isOk = true) stored pager next :=
      backed.undisturbed swapless fun done => .inl ⟨rfl, done⟩
    refine ⟨swapless.next (backed.accounts swapless.accounts) undisturbed, ?_⟩
    cases result <;> exact undisturbed

/-- A request moves the pages that it maps anew, and fills only those and the ones that it
stores to. -/
theorem Swapless.serve (swapless : Swapless config held files pager) (process : UserProcess)
    (request : ProcessRequest) :
    (process.serve request).Ends pager fun _ next =>
      Swapless config held files next ∧
        Undisturbed (process.Replaces pager request) (process.StoresTo request) pager next := by
  have withoutBacking : (∀ vpn, ¬ process.Backs request vpn) →
      (process.serve request).Ends pager fun _ next =>
        Swapless config held files next ∧
          Undisturbed (process.Replaces pager request) (process.StoresTo request) pager next := by
    intro backsNone
    have sustains : process.Sustains (process.Backs request) (Stores request) fun _ after =>
        Swapless config held files after ∧
          Undisturbed (process.Replaces pager request) (process.StoresTo request) pager after :=
      sustains_undisturbed (fun backed => absurd backed (backsNone _)) fun isStored =>
        ⟨rfl, isStored⟩
    exact sustains.serve pager ⟨swapless, .refl _ _ pager⟩
  cases request with
  | loadSection first contents readOnly =>
    exact (loadChunks_undisturbed swapless first readOnly (chunks contents) 0).bind
      (fun _ _ => id) fun _ _ => id
  | allocateStack =>
    obtain ⟨still, undisturbed⟩ :=
      allocateStack_undisturbed swapless (process.StoresTo .allocateStack) process
    have ends : process.allocateStack.Ends pager fun _ next =>
        Swapless config held files next ∧
          Undisturbed (process.Replaces pager .allocateStack) (process.StoresTo .allocateStack)
            pager next := by
      refine ⟨still, undisturbed.mono ?_ fun _ => id⟩
      rintro page ⟨rfl, done⟩
      refine ⟨rfl, ?_⟩
      rw [replaced, if_pos done]
      exact List.mem_singleton_self _
    exact ends.bind (fun _ _ => id) fun _ _ => id
  | fault | read | write | saveState | restoreState => exact withoutBacking fun _ => id

end Pager

end VirtualMemory
