/-
Module: VirtualMemory.Proofs.Pager.Bookkeeping
Purpose: Every operation of the pager keeps its accounts, whether it succeeds or
  fails.
Main exports:
  Accounts.returnFrame, Accounts.putTranslation, Accounts.deallocate,
  Accounts.reclaimOnce, Accounts.terminate, Accounts.keeps
-/
import VirtualMemory.Proofs.Process.Requests

namespace VirtualMemory.Pager

open VirtualMemory.Action

variable {φ : Type} {pager : Pager φ} {config : Config} {held : Finset Ppn}

/-- The frames held once a frame was offered to the pool. -/
def returned (held : Finset Ppn) (ppn : Ppn) : Except PagingError Unit → Finset Ppn
  | .ok _ => held.erase ppn
  | .error _ => held

/-- The frames held once an entry was offered to the page tables. -/
def handedOver (held : Finset Ppn) (entry : TranslationEntry) :
    Except PagingError Unit → Finset Ppn
  | .ok _ => if entry.valid then held.erase entry.ppn else held
  | .error _ => held

@[simp] theorem tables_forgetTlb (pager : Pager φ) (pid : Pid) :
    (pager.forgetTlb pid).tables = pager.tables := by
  simp only [forgetTlb]
  split <;> rfl

/-- Taking a frame back changes the pool. -/
theorem returnFrame_ends (pager : Pager φ) (ppn : Ppn) :
    (returnFrame ppn).Ends pager fun _ next => ∃ pool, next = { pager with frames := pool } := by
  simp only [returnFrame, ends_bind, ends_get]
  cases pager.tables.owner ppn with
  | some owner => exact ⟨pager.frames, rfl⟩
  | none =>
    rw [ends_releaseFrame]
    cases pager.frames.release ppn with
    | ok pool => exact ⟨pool, rfl⟩
    | error cause => exact ⟨pager.frames, rfl⟩

/-- Recording an entry changes tables, pool and caches, and the entry of its own page only. An
entry that is refused changes none. The caches lose a page at most. -/
theorem putTranslation_ends (accounts : Accounts config held pager) (pid : Pid)
    (entry : TranslationEntry) :
    (putTranslation pid entry).Ends pager fun result next =>
      ∃ tables pool tlbs,
        next = { pager with tables := tables, frames := pool, tlbs := tlbs } ∧
          (tlbs = pager.tlbs ∨ ∃ page, tlbs = pager.tlbs.shootDown page) ∧
          ∀ page, (page = entry.page pid → result.isOk = false) →
            tables.get page = pager.tables.get page := by
  have unchanged : ∀ result : Except PagingError Unit, ∃ tables pool tlbs,
      pager = { pager with tables := tables, frames := pool, tlbs := tlbs } ∧
        (tlbs = pager.tlbs ∨ ∃ page, tlbs = pager.tlbs.shootDown page) ∧
        ∀ page, (page = entry.page pid → result.isOk = false) →
          tables.get page = pager.tables.get page :=
    fun _ => ⟨pager.tables, pager.frames, pager.tlbs, rfl, .inl rfl, fun _ _ => rfl⟩
  simp only [putTranslation, ends_bind, ends_get]
  split
  · exact unchanged _
  · rw [ends_bind, ends_recordEntry]
    cases recorded : pager.tables.put pid entry with
    | error cause => exact unchanged _
    | ok pair =>
      obtain ⟨previous, tables⟩ := pair
      obtain ⟨was, others⟩ := PageTables.of_put recorded
      have elsewhere : ∀ page, (page = entry.page pid → true = false) →
          tables.get page = pager.tables.get page :=
        fun page other => others page fun same => Bool.false_ne_true (other same.symm).symm
      cases previous with
      | none => exact ⟨tables, pager.frames, pager.tlbs, rfl, .inl rfl, elsewhere⟩
      | some old =>
        simp only
        split
        · have inside : old.ppn < pager.frames.size :=
            accounts.size_pool.symm ▸ accounts.owner_lt (accounts.tables.owner_of_get was.symm)
          refine (ends_releaseReplaced (by exact inside)).mpr ?_
          obtain ⟨pool, released⟩ := exists_releaseAll [old]
            (({ pager with tables := tables } : Pager φ).shootDown (old.page pid))
          rw [released]
          exact ⟨tables, pool, _, rfl, .inr ⟨_, rfl⟩, elsewhere⟩
        · exact ⟨tables, pager.frames, pager.tlbs, rfl, .inl rfl, elsewhere⟩

/-- What an eviction preserves, background reclamation preserves. -/
theorem preserves_reclaimOnce [FileSystem φ] {invariant : Pager φ → Prop}
    (evicts : (evictToPool : PagerAction φ Ppn).Preserves invariant) :
    (reclaimOnce : PagerAction φ Nat).Preserves invariant := by
  have upTo : ∀ limit count, (reclaimUpTo count limit : PagerAction φ Nat).Preserves invariant := by
    intro limit
    induction limit with
    | zero => exact fun count => .pure count
    | succ limit hypothesis =>
      intro count
      rw [reclaimUpTo]
      refine Preserves.get.bind fun pager => ?_
      split
      · exact .pure count
      · exact evicts.bind fun _ => hypothesis (count + 1)
  rw [reclaimOnce]
  exact Preserves.get.bind fun pager => upTo pager.residentPageCount 0

/-- The end of the pager touches its caches and its device. -/
theorem terminate_ends [FileSystem φ] (pager : Pager φ) :
    (terminate : PagerAction φ Unit).Ends pager fun _ next =>
      ∃ device, next = { pager with tlbs := pager.tlbs.detachAll, device := device } := by
  simp only [terminate, ends_bind, ends_modify, ends_get]
  split
  · exact ⟨pager.device, rfl⟩
  · next swap used =>
    exact (ends_onSwap (by exact used)).mpr ⟨_, rfl⟩

namespace Accounts

/-- The books balance after a frame was returned. -/
theorem returnFrame (accounts : Accounts config held pager) (ppn : Ppn) :
    (Pager.returnFrame ppn).Ends pager fun result next =>
      Accounts config (returned held ppn result) next := by
  simp only [Pager.returnFrame, ends_bind, ends_get]
  cases owned : pager.tables.owner ppn with
  | some owner => exact accounts
  | none =>
    rw [ends_releaseFrame]
    cases released : pager.frames.release ppn with
    | ok pool => exact accounts.release owned released
    | error cause => exact accounts

/-- A frame that a page left goes back to the pool, and nobody else's frame does. -/
theorem releaseReplaced (accounts : Accounts config (insert ppn held) pager) {pid : Pid}
    {previous : TranslationEntry} (left : previous.ppn = ppn) (apart : ppn ∉ held) :
    (Pager.releaseReplaced pid previous).Ends pager fun result next =>
      result = .ok () ∧ Accounts config held next := by
  have isHeld := Finset.mem_insert_self ppn held
  have inside : previous.ppn < pager.frames.size :=
    left ▸ accounts.size_pool.symm ▸ accounts.held_lt ppn isHeld
  obtain ⟨pool, released⟩ := FramePool.exists_release inside
  simp only [Pager.releaseReplaced, ends_bind, ends_modify, ends_releaseFrame, frames_shootDown,
    released]
  have given := (accounts.shootDown (previous.page pid)).release
    (left ▸ accounts.owner_of_held ppn isHeld) released
  rw [left, Finset.erase_insert apart] at given
  exact ⟨trivial, given⟩

/-- An entry that is not valid unmaps its page. -/
theorem putInvalid (accounts : Accounts config held pager) (pid : Pid)
    {entry : TranslationEntry} (invalid : entry.valid = false) :
    (Pager.putTranslation pid entry).Ends pager fun result next =>
      Accounts config (handedOver held entry result) next := by
  have same : ∀ result, handedOver held entry result = held := by
    intro result
    cases result with
    | ok => simp only [handedOver, invalid, Bool.false_eq_true, if_false]
    | error cause => rfl
  simp only [same, Pager.putTranslation, invalid, ends_bind, ends_get, Bool.false_and,
    Bool.false_eq_true, if_false, ends_recordEntry, PageTables.put, Bool.not_false,
    Bool.true_or, if_true]
  cases found : pager.tables.get (entry.page pid) with
  | none =>
    simp only [PageTables.remove, found]
    exact accounts
  | some previous =>
    have unmapped := accounts.remove found
    have apart := accounts.not_held_of_owner (accounts.tables.owner_of_get found)
    have answer : (pager.tables.remove (entry.page pid)).1 = some previous := by
      simp only [PageTables.remove, found]
    rw [answer]
    exact (unmapped.releaseReplaced rfl apart).mono fun _ _ holds => holds.2

/-- An entry whose frame nobody may map is refused; any other takes its frame over. -/
theorem putValid (accounts : Accounts config held pager) (pid : Pid)
    {entry : TranslationEntry} (valid : entry.valid = true) :
    (Pager.putTranslation pid entry).Ends pager fun result next =>
      Accounts config (handedOver held entry result) next := by
  simp only [Pager.putTranslation, valid, ends_bind, ends_get, Bool.true_and, Bool.not_true,
    Bool.false_or]
  cases notFree : pager.frames.isFree entry.ppn with
  | true => exact accounts
  | false =>
    simp only [Bool.false_eq_true, if_false, ends_bind, ends_recordEntry, PageTables.put, valid,
      if_true]
    cases accepted : pager.tables.refusal pid entry with
    | some cause => exact accounts
    | none =>
      have replaced := accounts.replace valid accepted notFree
      have previous : (pager.tables.replace pid entry).1 = pager.tables.get (entry.page pid) := rfl
      have given : ∀ done, handedOver held entry (.ok done) = held.erase entry.ppn := by
        intro done
        simp only [handedOver, valid, if_true]
      simp only [previous]
      cases found : pager.tables.get (entry.page pid) with
      | none =>
        simp only [found, Option.map_none, Option.toFinset_none, Finset.union_empty] at replaced
        simp only [ends_pure, given]
        exact replaced
      | some old =>
        have apart := accounts.not_held_of_owner (accounts.tables.owner_of_get found)
        simp only [found, Option.map_some, Option.toFinset_some] at replaced
        by_cases same : old.ppn = entry.ppn
        · have members : (held ∪ {old.ppn}).erase entry.ppn = held.erase entry.ppn := by
            rw [same, Finset.union_comm, ← Finset.insert_eq, Finset.erase_insert_eq_erase]
          rw [members] at replaced
          simp only [same, ne_eq, not_true_eq_false, decide_false, Bool.false_eq_true, if_false,
            ends_pure, given]
          exact replaced
        · have members : (held ∪ {old.ppn}).erase entry.ppn =
              insert old.ppn (held.erase entry.ppn) := by
            rw [Finset.union_comm, ← Finset.insert_eq, Finset.erase_insert_of_ne same]
          rw [members] at replaced
          have notLeft : old.ppn ∉ held.erase entry.ppn :=
            fun member => apart (Finset.mem_of_mem_erase member)
          simp only [same, ne_eq, not_false_eq_true, decide_true, if_true]
          apply Ends.mono (replaced.releaseReplaced rfl notLeft)
          intro result next holds
          rcases holds with ⟨rfl, after⟩
          rw [given]
          exact after

/-- The books balance after an entry was put, also if it was refused. -/
theorem putTranslation (accounts : Accounts config held pager) (pid : Pid)
    (entry : TranslationEntry) :
    (Pager.putTranslation pid entry).Ends pager fun result next =>
      Accounts config (handedOver held entry result) next := by
  cases validity : entry.valid with
  | false => exact accounts.putInvalid pid validity
  | true => exact accounts.putValid pid validity

theorem getTranslationPinned (accounts : Accounts config held pager) (page : PageId) :
    (Pager.getTranslationPinned page).Ends pager fun _ next => Accounts config held next := by
  simp only [Pager.getTranslationPinned, ends_bind, ends_get]
  cases pager.tables.get page with
  | none => exact accounts
  | some entry => exact accounts.pin entry.ppn

theorem forgetTlb (accounts : Accounts config held pager) (pid : Pid) :
    Accounts config held (pager.forgetTlb pid) := by
  simp only [Pager.forgetTlb]
  cases pager.tlbs.attachedTo pid with
  | none => exact accounts
  | some id => exact accounts.of_same rfl rfl rfl accounts.pins rfl

/-- All frames of a process find their way into the pool. -/
theorem deallocate (accounts : Accounts config held pager) (pid : Pid) :
    Accounts config held (pager.deallocate pid).2 := by
  have unmapped := accounts.removeAll pid
  have unowned : ∀ entry ∈ pager.tables.getAll pid,
      (pager.tables.removeAll pid).2.owner entry.ppn = none := by
    intro entry listed
    apply unmapped.owner_of_held
    apply Finset.mem_union_right
    exact List.mem_toFinset.mpr (List.mem_map_of_mem listed)
  have apart : Disjoint held ((pager.tables.getAll pid).map TranslationEntry.ppn).toFinset := by
    rw [Finset.disjoint_left]
    intro ppn isHeld listed
    obtain ⟨entry, ofProcess, rfl⟩ := List.mem_map.mp (List.mem_toFinset.mp listed)
    obtain ⟨page, _, found⟩ := PageTables.mem_getAll.mp ofProcess
    exact accounts.not_held_of_owner (accounts.tables.owner_of_get found) isHeld
  have given := unmapped.releaseAll (pager.tables.getAll pid) unowned
  rw [Finset.union_sdiff_cancel_right apart] at given
  exact given.forgetTlb pid

/-- The books balance after an exit. -/
theorem exit (accounts : Accounts config held pager) (process : UserProcess) :
    Accounts config held (process.exit pager).2.2 := by
  simp only [UserProcess.exit]
  split
  · exact accounts
  · exact accounts.deallocate process.pid

theorem start (accounts : Accounts config held pager) (pid : Pid) (stackTop : Vpn) :
    Accounts config held (UserProcess.start pager pid stackTop).2 :=
  accounts.of_same rfl rfl rfl accounts.pins rfl

variable [FileSystem φ]

theorem initializeSwap (accounts : Accounts config held pager) :
    (Pager.initializeSwap : PagerAction φ Unit).Ends pager fun _ next =>
      Accounts config held next := by
  rw [ends_initializeSwap]
  exact accounts.of_same rfl rfl rfl accounts.pins rfl

theorem newPagePinned (accounts : Accounts config held pager) (page : PageId)
    (readOnly : Bool) :
    (Pager.newPagePinned page readOnly).Ends pager fun _ next => Accounts config held next := by
  refine (newPage_ends accounts page readOnly).bind (fun entry next backed => ?_)
    (fun cause next backed => backed.accounts accounts)
  exact (backed.accounts accounts).pin entry.ppn

/-- The frame of a page that was evicted is put into the pool. -/
theorem releaseEvicted {pool : FramePool} (accounts : Accounts config held pager)
    (evicted : Evicted pager (.ok ppn) after) (released : pager.frames.release ppn = .ok pool) :
    Accounts config held { after with frames := pool } := by
  have middle := evicted.accounts accounts
  have given := middle.release (middle.owner_of_held ppn (Finset.mem_insert_self ppn held))
    (evicted.frames_eq.symm ▸ released)
  rwa [gained, Finset.erase_insert (evicted.not_held accounts)] at given

/-- What evicting a page leaves is left but for the pool. -/
theorem evictToPool (accounts : Accounts config held pager) :
    (Pager.evictToPool : PagerAction φ Ppn).Ends pager fun _ next =>
      Accounts config held next ∧ ∃ result after pool, Evicted pager result after ∧
        next = { after with frames := pool } := by
  apply Ends.mono (evictToPool_ends accounts)
  intro result next holds
  cases result with
  | error cause => exact ⟨holds.accounts accounts, _, next, next.frames, holds, rfl⟩
  | ok ppn =>
    obtain ⟨after, pool, evicted, released, rfl⟩ := holds
    exact ⟨accounts.releaseEvicted evicted released, _, after, pool, evicted, rfl⟩

/-- The books balance after a round of reclamation. -/
theorem reclaimOnce (accounts : Accounts config held pager) :
    (Pager.reclaimOnce : PagerAction φ Nat).Ends pager fun _ next =>
      Accounts config held next :=
  preserves_reclaimOnce (fun _ accounts => accounts.evictToPool.mono fun _ _ => And.left)
    pager accounts

theorem terminate (accounts : Accounts config held pager) :
    (Pager.terminate : PagerAction φ Unit).Ends pager fun _ next => Accounts config held next := by
  apply Ends.mono (terminate_ends pager)
  rintro result next ⟨device, rfl⟩
  exact accounts.of_same rfl rfl rfl accounts.pins rfl

omit [FileSystem φ] in
theorem markAccessed (accounts : Accounts config held pager) (page : PageId) (write : Bool) :
    Accounts config held
      { pager with tables := (pager.tables.markAccessed page write).2 } :=
  { accounts with
    tables := accounts.tables.markAccessed page write
    size_tables := (PageTables.frameCount_markAccessed write).trans accounts.size_tables
    owner_of_held := by
      intro ppn isHeld
      rw [PageTables.owner_markAccessed]
      exact accounts.owner_of_held ppn isHeld
    isFree_iff := by
      intro ppn inside
      rw [PageTables.owner_markAccessed]
      exact accounts.isFree_iff ppn inside }

/-- What a process does changes none of the frames that callers hold. -/
theorem keeps (process : UserProcess) (config : Config) (held : Finset Ppn) :
    process.Keeps (Accounts (φ := φ) config held) where
  accounts accounts := ⟨config, held, accounts⟩
  broughtBack accounts broughtBack := broughtBack.accounts accounts
  backed accounts backed := backed.accounts accounts
  cached _ accounts _ := accounts.of_same rfl rfl rfl accounts.pins rfl
  accessed accounts := accounts.markAccessed _ _
  marked accounts := accounts.of_same rfl rfl rfl accounts.pins rfl
  dropped accounts := accounts.of_same rfl rfl rfl accounts.pins rfl
  emptied accounts := accounts.of_same rfl rfl rfl accounts.pins rfl
  pinned accounts := accounts.pin _
  unpinned accounts := accounts.unpin _
  stored accounts same := accounts.of_same rfl rfl rfl accounts.pins same

end Accounts

end VirtualMemory.Pager
