/-
Module: VirtualMemory.Proofs.Kernel.Transfers
Purpose: When an entry and a frame that callers hand in are refused, and what becomes of
  every frame when they are not.
Main exports:
  Pager.EntryRefused, Pager.EntryRecorded, Pager.EntryOffered, Pager.FrameOffered,
  putTranslation_offered, returnFrame_offered; Machine.transfers_exact

A caller that holds a frame can map a page to it or give it back. Both calls look at the pool
and at the core map first, and change nothing if the frame is not the caller's to give.
-/
import VirtualMemory.Proofs.Kernel.Remapping

namespace VirtualMemory

open VirtualMemory.Action

namespace Pager

variable {φ : Type} {pager next : Pager φ} {pid : Pid} {entry : TranslationEntry} {ppn : Ppn}
  {config : Config} {held : Finset Ppn} {cause : PagingError}

/-! ### Refusals -/

/-- Why a valid entry of a process is refused. The pool is asked first, then whether the page
exists, and the core map last. -/
inductive EntryRefused (pager : Pager φ) (pid : Pid) (entry : TranslationEntry) :
    PagingError → Prop where
  | frameFree (free : pager.frames.isFree entry.ppn = true) :
      EntryRefused pager pid entry (.frameNotAllocated entry.ppn)
  | noPage (taken : pager.frames.isFree entry.ppn = false) (beyond : lastPage < entry.vpn) :
      EntryRefused pager pid entry (.invalidPage entry.vpn)
  | noFrame (inside : entry.vpn ≤ lastPage) (outside : pager.config.frames ≤ entry.ppn) :
      EntryRefused pager pid entry (.invalidFrame entry.ppn)
  | ofOther {owner : PageId} (inside : entry.vpn ≤ lastPage)
      (owned : pager.tables.owner entry.ppn = some owner) (other : owner ≠ entry.page pid) :
      EntryRefused pager pid entry (.frameInUse entry.ppn owner)

/-- The tables refuse an entry whose frame is not free for just the other three reasons. -/
theorem Accounts.refused_iff (accounts : Accounts config held pager)
    (taken : pager.frames.isFree entry.ppn = false) :
    pager.tables.refusal pid entry = some cause ↔ EntryRefused pager pid entry cause := by
  have frames : pager.tables.coreMap.size = pager.config.frames :=
    accounts.size_tables.trans (congrArg Config.frames accounts.config_eq.symm)
  simp only [PageTables.refusal]
  constructor
  · intro refusal
    split at refusal
    · next beyond =>
      cases refusal
      exact .noPage taken beyond
    · next notBeyond =>
      have inside := UInt32.not_lt.mp notBeyond
      split at refusal
      · next absent =>
        cases refusal
        exact .noFrame inside (frames ▸ Array.getElem?_eq_none_iff.mp absent)
      · cases refusal
      · next owner found =>
        split at refusal
        · cases refusal
        · next other =>
          cases refusal
          exact .ofOther inside (by rw [PageTables.owner, found, Option.join_some]) other
  · intro refused
    cases refused with
    | frameFree free =>
      rw [taken] at free
      cases free
    | noPage _ beyond => rw [if_pos beyond]
    | noFrame inside outside =>
      rw [if_neg (UInt32.not_lt.mpr inside), Array.getElem?_eq_none (frames ▸ outside)]
    | ofOther inside owned other =>
      rw [if_neg (UInt32.not_lt.mpr inside), Option.join_eq_some_iff.mp owned]
      simp only [if_neg other]

/-- An entry whose frame is free is refused for that reason and no other. -/
theorem Accounts.refused_of_isFree (accounts : Accounts config held pager)
    (free : pager.frames.isFree entry.ppn = true) :
    EntryRefused pager pid entry cause ↔ cause = .frameNotAllocated entry.ppn := by
  constructor
  · intro refused
    cases refused with
    | frameFree => rfl
    | noPage taken =>
      rw [free] at taken
      cases taken
    | noFrame _ outside =>
      exact absurd (accounts.isFree_lt free) (Nat.not_lt.mpr (accounts.config_eq ▸ outside))
    | ofOther _ owned =>
      rw [accounts.owner_of_isFree free] at owned
      cases owned
  · rintro rfl
    exact .frameFree free

/-- There is a reason exactly if the frame is free, does not exist or holds another page, or
the page does not exist. -/
theorem exists_entryRefused_iff :
    (∃ cause, EntryRefused pager pid entry cause) ↔
      pager.frames.isFree entry.ppn = true ∨ lastPage < entry.vpn ∨
        pager.config.frames ≤ entry.ppn ∨
        ∃ owner, pager.tables.owner entry.ppn = some owner ∧ owner ≠ entry.page pid := by
  constructor
  · rintro ⟨cause, refused⟩
    cases refused with
    | frameFree free => exact .inl free
    | noPage _ beyond => exact .inr (.inl beyond)
    | noFrame _ outside => exact .inr (.inr (.inl outside))
    | @ofOther owner _ owned other => exact .inr (.inr (.inr ⟨owner, owned, other⟩))
  · intro reasons
    cases free : pager.frames.isFree entry.ppn with
    | true => exact ⟨_, .frameFree free⟩
    | false =>
      by_cases beyond : lastPage < entry.vpn
      · exact ⟨_, .noPage free beyond⟩
      · have inside := UInt32.not_lt.mp beyond
        simp only [free, Bool.false_eq_true, false_or, beyond] at reasons
        rcases reasons with outside | ⟨owner, owned, other⟩
        · exact ⟨_, .noFrame inside outside⟩
        · exact ⟨_, .ofOther inside owned other⟩

/-- A valid entry is refused for the reason that there is, and nothing has changed. -/
theorem putTranslation_of_refused (accounts : Accounts config held pager)
    (valid : entry.valid = true) (refused : EntryRefused pager pid entry cause) :
    (putTranslation pid entry).outcome pager = (.error cause, pager) := by
  suffices refuses : (putTranslation pid entry).Ends pager fun result next =>
      (result, next) = (.error cause, pager) from refuses
  simp only [putTranslation, ends_bind, ends_get]
  cases free : pager.frames.isFree entry.ppn with
  | true =>
    obtain rfl := (accounts.refused_of_isFree free).mp refused
    rw [valid]
    exact rfl
  | false =>
    have refusal := (accounts.refused_iff free).mpr refused
    rw [valid]
    simp only [Bool.and_false, Bool.false_eq_true, if_false]
    rw [ends_bind, ends_recordEntry, PageTables.put, if_pos valid, refusal]

/-- An entry is recorded if there is no reason against it: nothing is left then that could
fail. -/
theorem putTranslation_of_reasonless (accounts : Accounts config held pager)
    (reasonless : ∀ cause, ¬ (entry.valid = true ∧ EntryRefused pager pid entry cause)) :
    (putTranslation pid entry).Ends pager fun result _ => result = .ok () := by
  have leaves : ∀ {tables : PageTables} {old}, pager.tables.get (entry.page pid) = some old →
      (releaseReplaced pid old).Ends { pager with tables := tables }
        fun result _ => result = .ok () := by
    intro tables old found
    have inside : old.ppn < pager.frames.size :=
      accounts.size_pool.symm ▸ accounts.owner_lt (accounts.tables.owner_of_get found)
    exact (ends_releaseReplaced (by exact inside)).mpr rfl
  have taken : (entry.valid && pager.frames.isFree entry.ppn) = false := by
    rw [Bool.and_eq_false_imp, ← Bool.not_eq_true]
    exact fun valid free => reasonless _ ⟨valid, .frameFree free⟩
  simp only [putTranslation, ends_bind, ends_get, taken, Bool.false_eq_true, if_false,
    ends_recordEntry, PageTables.put]
  cases validity : entry.valid with
  | false =>
    simp only [Bool.false_eq_true, if_false, Bool.not_false, Bool.true_or, if_true]
    cases found : pager.tables.get (entry.page pid) with
    | none =>
      simp only [PageTables.remove, found]
      exact rfl
    | some old =>
      simp only [PageTables.remove, found]
      exact leaves found
  | true =>
    rw [validity, Bool.true_and] at taken
    have accepted : pager.tables.refusal pid entry = none := by
      rw [Option.eq_none_iff_forall_ne_some]
      exact fun cause refusal =>
        reasonless cause ⟨validity, (accounts.refused_iff taken).mp refusal⟩
    have previous : (pager.tables.replace pid entry).1 = pager.tables.get (entry.page pid) :=
      rfl
    simp only [if_true, accepted, previous, Bool.not_true, Bool.false_or]
    cases found : pager.tables.get (entry.page pid) with
    | none => exact rfl
    | some old =>
      simp only
      split
      · exact leaves found
      · exact rfl

/-- An entry is refused if it is valid and there is a reason, and the reason is told. -/
theorem putTranslation_refused (accounts : Accounts config held pager) (pid : Pid)
    (entry : TranslationEntry) :
    (putTranslation pid entry).Ends pager fun result _ =>
      ∀ cause, result = .error cause ↔
        entry.valid = true ∧ EntryRefused pager pid entry cause := by
  by_cases refused : ∃ cause, entry.valid = true ∧ EntryRefused pager pid entry cause
  · obtain ⟨cause, valid, reason⟩ := refused
    intro other
    rw [putTranslation_of_refused accounts valid reason, Except.error.injEq]
    constructor
    · rintro rfl
      exact ⟨valid, reason⟩
    · rintro ⟨_, also⟩
      have told := putTranslation_of_refused accounts valid also
      rw [putTranslation_of_refused accounts valid reason] at told
      exact Except.error.inj (Prod.ext_iff.mp told).1
  · have reasonless := not_exists.mp refused
    refine (putTranslation_of_reasonless accounts reasonless).mono ?_
    rintro result _ rfl cause
    exact ⟨(nomatch ·), fun refused => (reasonless cause refused).elim⟩

/-! ### What a recorded entry changes -/

/-- The tables after an entry was recorded: of all pages one has another entry, and of all
frames only those that it enters and leaves have another owner. -/
structure TablesRecorded (tables : PageTables) (pid : Pid) (entry : TranslationEntry)
    (next : PageTables) : Prop where
  get_eq : ∀ page, next.get page =
    if entry.page pid = page then (if entry.valid then some entry else none)
    else tables.get page
  owner_eq : ∀ ppn, next.owner ppn =
    if entry.valid = true ∧ entry.ppn = ppn then some (entry.page pid)
    else if tables.owner ppn = some (entry.page pid) then none
    else tables.owner ppn

/-- The frame that a page leaves when an entry of it is recorded: the one it was in, unless
it stays there. -/
def leftBy (pager : Pager φ) (pid : Pid) (entry : TranslationEntry) : Option Ppn :=
  ((pager.tables.get (entry.page pid)).map TranslationEntry.ppn).filter fun ppn =>
    !(entry.valid && ppn == entry.ppn)

/-- The pager after an entry was recorded. -/
structure EntryRecorded (pager : Pager φ) (pid : Pid) (entry : TranslationEntry)
    (next : Pager φ) : Prop where
  others : next = { pager with tables := next.tables, frames := next.frames, tlbs := next.tlbs }
  tables : TablesRecorded pager.tables pid entry next.tables
  isFree_iff : ∀ ppn, next.frames.isFree ppn = true ↔
    pager.frames.isFree ppn = true ∨ pager.leftBy pid entry = some ppn
  free_eq : next.frames.free = (pager.leftBy pid entry).toList ++ pager.frames.free
  tlbs_eq : next.tlbs =
    if (pager.leftBy pid entry).isSome then pager.tlbs.shootDown (entry.page pid) else pager.tlbs

theorem tablesRecorded_replace {tables : PageTables} (consistent : tables.Consistent)
    (valid : entry.valid = true) (inside : entry.ppn < tables.frameCount) :
    TablesRecorded tables pid entry (tables.replace pid entry).2 where
  get_eq page := by rw [PageTables.get_replace, if_pos valid]
  owner_eq ppn := by simp only [PageTables.owner_replace consistent inside, valid, true_and]

theorem tablesRecorded_remove {tables : PageTables} (consistent : tables.Consistent) (pid : Pid)
    (invalid : entry.valid = false) :
    TablesRecorded tables pid entry (tables.remove (entry.page pid)).2 where
  get_eq page := by rw [PageTables.get_remove, invalid, if_neg Bool.false_ne_true]
  owner_eq ppn := by
    have absent : ¬ (entry.valid = true ∧ entry.ppn = ppn) :=
      fun both => Bool.false_ne_true (invalid ▸ both.1)
    rw [PageTables.owner_remove consistent, if_neg absent]

/-- Giving back a frame that was handed out puts it first in the pool. -/
theorem releaseAll_one (handedOut : pager.frames.isFree entry.ppn = false)
    (inside : entry.ppn < pager.frames.size) :
    ∃ pool, pager.releaseAll [entry] = { pager with frames := pool } ∧
      pool.free = entry.ppn :: pager.frames.free ∧
      ∀ ppn, pool.isFree ppn = true ↔ pager.frames.isFree ppn = true ∨ entry.ppn = ppn := by
  obtain ⟨pool, released⟩ := FramePool.exists_release inside
  refine ⟨pool, ?_, FramePool.free_of_release handedOut released, fun ppn => ?_⟩
  · simp only [releaseAll, List.foldl_cons, List.foldl_nil, released]
  · rw [FramePool.isFree_of_release released, Bool.or_eq_true, beq_iff_eq]

/-- A page that leaves no frame gives none back. -/
theorem EntryRecorded.of_stays {tables : PageTables}
    (recorded : TablesRecorded pager.tables pid entry tables)
    (stays : pager.leftBy pid entry = none) :
    EntryRecorded pager pid entry { pager with tables := tables } where
  others := rfl
  tables := recorded
  isFree_iff ppn := by simp only [stays, reduceCtorEq, or_false]
  free_eq := by rw [stays, Option.toList_none, List.nil_append]
  tlbs_eq := by rw [stays, Option.isSome_none, if_neg Bool.false_ne_true]

/-- A page that leaves its frame gives it back. -/
theorem EntryRecorded.of_leaves {tables : PageTables} {old : TranslationEntry}
    (accounts : Accounts config held pager)
    (recorded : TablesRecorded pager.tables pid entry tables)
    (found : pager.tables.get (entry.page pid) = some old)
    (left : pager.leftBy pid entry = some old.ppn) :
    EntryRecorded pager pid entry
      ((({ pager with tables := tables } : Pager φ).shootDown (entry.page pid)).releaseAll
        [old]) := by
  have owned := accounts.tables.owner_of_get found
  obtain ⟨pool, released, free_eq, isFree_iff⟩ :=
    @releaseAll_one φ (({ pager with tables := tables } : Pager φ).shootDown (entry.page pid))
      old (accounts.isFree_of_owner owned) (accounts.size_pool.symm ▸ accounts.owner_lt owned)
  rw [released]
  exact
    { others := rfl
      tables := recorded
      isFree_iff := fun ppn => by rw [left, Option.some.injEq]; exact isFree_iff ppn
      free_eq := by rw [left]; exact free_eq
      tlbs_eq := by rw [left]; rfl }

/-- An entry that is accepted is recorded in its page's place, and the frame that the page
leaves goes back to the pool. -/
theorem Remapped.recorded (accounts : Accounts config held pager)
    (inside : entry.valid = true → entry.ppn < config.frames)
    (remapped : Remapped pager pid entry next) : EntryRecorded pager pid entry next := by
  have frameInside : entry.valid = true → entry.ppn < pager.tables.frameCount :=
    accounts.size_tables.symm ▸ inside
  cases remapped with
  | absent invalid unmapped =>
    refine .of_stays ?_ (by simp only [leftBy, unmapped, Option.map_none, Option.filter_none])
    have removed := tablesRecorded_remove accounts.tables pid invalid
    simpa only [PageTables.remove, unmapped] using removed
  | unmapped invalid found =>
    refine .of_leaves accounts (tablesRecorded_remove accounts.tables pid invalid) found ?_
    simp [leftBy, found, invalid]
  | mapped valid unmapped =>
    refine .of_stays (tablesRecorded_replace accounts.tables valid (frameInside valid)) ?_
    simp only [leftBy, unmapped, Option.map_none, Option.filter_none]
  | inPlace valid found same =>
    refine .of_stays (tablesRecorded_replace accounts.tables valid (frameInside valid)) ?_
    simp [leftBy, found, valid, same]
  | moved valid found left =>
    refine .of_leaves accounts
      (tablesRecorded_replace accounts.tables valid (frameInside valid)) found ?_
    simp [leftBy, found, valid, left]

/-- Everything that handing in an entry can do. -/
structure EntryOffered (pager : Pager φ) (pid : Pid) (entry : TranslationEntry)
    (result : Except PagingError Unit) (next : Pager φ) : Prop where
  fails_iff : (∃ cause, result = .error cause) ↔ entry.valid = true ∧
    (pager.frames.isFree entry.ppn = true ∨ lastPage < entry.vpn ∨
      pager.config.frames ≤ entry.ppn ∨
      ∃ owner, pager.tables.owner entry.ppn = some owner ∧ owner ≠ entry.page pid)
  refused_iff : ∀ cause, result = .error cause ↔
    entry.valid = true ∧ EntryRefused pager pid entry cause
  unchanged : (∃ cause, result = .error cause) → next = pager
  recorded : result = .ok () → EntryRecorded pager pid entry next

/-- However an entry is offered, it is recorded or refused as told. -/
theorem putTranslation_offered (accounts : Accounts config held pager) (pid : Pid)
    (entry : TranslationEntry) :
    (putTranslation pid entry).Ends pager (EntryOffered pager pid entry) := by
  refine ((putTranslation_refused accounts pid entry).and
    (putTranslation_remapped accounts pid entry)).mono ?_
  rintro result next ⟨refused, remapped⟩
  have fails : (∃ cause, result = .error cause) ↔
      entry.valid = true ∧ ∃ cause, EntryRefused pager pid entry cause := by
    simp only [refused, exists_and_left]
  refine ⟨fails.trans (and_congr_right' exists_entryRefused_iff), refused, ?_, ?_⟩
  · rintro ⟨cause, rfl⟩
    exact remapped
  · rintro rfl
    refine Remapped.recorded accounts (fun valid => ?_) remapped
    by_contra outside
    have reason : ∃ cause, EntryRefused pager pid entry cause :=
      exists_entryRefused_iff.mpr
        (.inr (.inr (.inl (accounts.config_eq.symm ▸ Nat.not_lt.mp outside))))
    obtain ⟨cause, impossible⟩ := fails.mpr ⟨valid, reason⟩
    cases impossible

/-! ### Frames that are given back -/

/-- Why a frame is not taken back: it does not exist, or it holds a page. -/
inductive FrameRefused (pager : Pager φ) (ppn : Ppn) : PagingError → Prop where
  | noFrame (outside : pager.config.frames ≤ ppn) : FrameRefused pager ppn (.invalidFrame ppn)
  | inUse {owner : PageId} (owned : pager.tables.owner ppn = some owner) :
      FrameRefused pager ppn (.frameInUse ppn owner)

/-- The pager after a frame was taken back. -/
structure FrameReleased (pager : Pager φ) (ppn : Ppn) (next : Pager φ) : Prop where
  others : next = { pager with frames := next.frames }
  isFree_iff : ∀ other, next.frames.isFree other = true ↔
    pager.frames.isFree other = true ∨ other = ppn
  free_eq : pager.frames.isFree ppn = false → next.frames.free = ppn :: pager.frames.free
  again : pager.frames.isFree ppn = true → next = pager

/-- Everything that giving a frame back can do. -/
structure FrameOffered (pager : Pager φ) (ppn : Ppn) (result : Except PagingError Unit)
    (next : Pager φ) : Prop where
  fails_iff : (∃ cause, result = .error cause) ↔
    pager.config.frames ≤ ppn ∨ ∃ owner, pager.tables.owner ppn = some owner
  refused_iff : ∀ cause, result = .error cause ↔ FrameRefused pager ppn cause
  unchanged : (∃ cause, result = .error cause) → next = pager
  released : result = .ok () → FrameReleased pager ppn next

/-- A frame is refused if it is not one of the machine or has an owner. -/
theorem exists_frameRefused_iff : (∃ cause, FrameRefused pager ppn cause) ↔
    pager.config.frames ≤ ppn ∨ ∃ owner, pager.tables.owner ppn = some owner := by
  constructor
  · rintro ⟨cause, refused⟩
    cases refused with
    | noFrame outside => exact .inl outside
    | @inUse owner owned => exact .inr ⟨owner, owned⟩
  · rintro (outside | ⟨owner, owned⟩)
    · exact ⟨_, .noFrame outside⟩
    · exact ⟨_, .inUse owned⟩

/-- A frame is not refused for two reasons, for only frames that exist hold pages. -/
theorem Accounts.frameRefused_unique (accounts : Accounts config held pager)
    {other : PagingError} (refused : FrameRefused pager ppn cause)
    (also : FrameRefused pager ppn other) : cause = other := by
  have apart : ∀ {owner}, pager.config.frames ≤ ppn →
      pager.tables.owner ppn = some owner → False := by
    intro owner outside owned
    exact absurd (accounts.owner_lt owned) (Nat.not_lt.mpr (accounts.config_eq ▸ outside))
  cases refused with
  | noFrame outside =>
    cases also with
    | noFrame => rfl
    | inUse owned => exact (apart outside owned).elim
  | inUse owned =>
    cases also with
    | noFrame outside => exact (apart outside owned).elim
    | inUse alsoOwned =>
      rw [owned, Option.some.injEq] at alsoOwned
      rw [alsoOwned]

theorem frameReleased {pool : FramePool} (released : pager.frames.release ppn = .ok pool) :
    FrameReleased pager ppn { pager with frames := pool } where
  others := rfl
  isFree_iff other := by
    rw [FramePool.isFree_of_release released, Bool.or_eq_true, beq_iff_eq, eq_comm (a := ppn)]
  free_eq handedOut := FramePool.free_of_release handedOut released
  again free := by
    rw [FramePool.release_of_isFree free] at released
    cases released
    rfl

/-- However a frame is offered, it is released or refused as told. -/
theorem returnFrame_offered (accounts : Accounts config held pager) (ppn : Ppn) :
    (returnFrame ppn).Ends pager (FrameOffered pager ppn) := by
  have refuses : ∀ {cause}, FrameRefused pager ppn cause →
      FrameOffered pager ppn (.error cause) pager := by
    intro cause refused
    refine ⟨?_, fun other => ?_, fun _ => rfl, (nomatch ·)⟩
    · exact iff_of_true ⟨cause, rfl⟩ (exists_frameRefused_iff.mp ⟨cause, refused⟩)
    · rw [Except.error.injEq]
      exact ⟨fun same => same ▸ refused, accounts.frameRefused_unique refused⟩
  simp only [returnFrame, ends_bind, ends_get]
  cases owned : pager.tables.owner ppn with
  | some owner => exact refuses (.inUse owned)
  | none =>
    rw [ends_releaseFrame]
    have size : pager.frames.size = pager.config.frames :=
      accounts.size_pool.trans (congrArg Config.frames accounts.config_eq.symm)
    cases released : pager.frames.release ppn with
    | error cause =>
      obtain ⟨outside, rfl⟩ := FramePool.release_eq_error_iff.mp released
      exact refuses (.noFrame (size ▸ outside))
    | ok pool =>
      have reasonless : ∀ cause, ¬ FrameRefused pager ppn cause := by
        intro cause refused
        cases refused with
        | noFrame outside =>
          rw [FramePool.release_eq_error_iff.mpr ⟨size.symm ▸ outside, rfl⟩] at released
          cases released
        | inUse found =>
          rw [owned] at found
          cases found
      refine ⟨?_, fun cause => ?_, fun ⟨_, failed⟩ => (nomatch failed),
        fun _ => frameReleased released⟩
      · rw [← exists_frameRefused_iff]
        exact iff_of_false (fun ⟨_, failed⟩ => nomatch failed) (not_exists.mpr reasonless)
      · exact iff_of_false (nomatch ·) (reasonless cause)

end Pager

namespace Machine

open Pager

variable {φ : Type} [FileSystem φ] {machine : Machine φ} {config : Config}

/-- Whatever entry or frame a caller hands in, at whatever time, it is refused exactly if the
frame is not the caller's to give, and then nothing changes at all. Otherwise one page is
remapped and its old frame is free, or one frame is free. -/
theorem transfers_exact (reachable : machine.Reachable config) :
    (∀ pid entry, (putTranslation pid entry).Ends machine.kernel.pager
      (EntryOffered machine.kernel.pager pid entry)) ∧
    ∀ ppn, (returnFrame ppn).Ends machine.kernel.pager
      (FrameOffered machine.kernel.pager ppn) := by
  obtain ⟨held, accounts⟩ := reachable.fitted.accounts
  exact ⟨putTranslation_offered accounts, returnFrame_offered accounts⟩

/-- A page moves to a frame that was handed out, and the frame that it leaves is free. The
frame that it is in then is not taken back. -/
theorem transfers_exact_two_frames :
    ∃ kernel : Kernel EphemeralFiles,
      Kernel.boot { Config.oneFrame with frames := 2 } .empty (.scripted []) (.seeded 0) =
        .ok kernel ∧
      let calls : List (MachineCall EphemeralFiles) :=
        [.pager (.newPage ⟨1, 4⟩ false), .pager .getFreeFrame]
      let before := (Machine.run { kernel := kernel } calls).kernel.pager
      let moved := (putTranslation 1 (.fresh 4 1 true)).outcome before
      let kept := (returnFrame 1).outcome moved.2
      before.leftBy 1 (.fresh 4 1 true) = some 0 ∧ moved.1 = .ok () ∧
        EntryOffered before 1 (.fresh 4 1 true) moved.1 moved.2 ∧
        kept.1 = .error (.frameInUse 1 ⟨1, 4⟩) ∧ FrameOffered moved.2 1 kept.1 kept.2 := by
  have reached : ∀ calls, Reachable { Config.oneFrame with frames := 2 } (Machine.run _ calls) :=
    Reachable.run (.boot (rfl : Kernel.boot { Config.oneFrame with frames := 2 }
      EphemeralFiles.empty (.scripted []) (.seeded 0) = .ok _))
  refine ⟨_, rfl, by decide +kernel, by decide +kernel, ?_, by decide +kernel, ?_⟩
  · exact (transfers_exact (reached
      [.pager (.newPage ⟨1, 4⟩ false), .pager .getFreeFrame])).1 1 (.fresh 4 1 true)
  · exact (transfers_exact (reached
      [.pager (.newPage ⟨1, 4⟩ false), .pager .getFreeFrame,
        .pager (.putTranslation 1 (.fresh 4 1 true))])).2 1

end Machine

end VirtualMemory
