/-
Module: VirtualMemory.Proofs.Kernel.Remapping
Purpose: What recording an entry leaves of a page's translation in the caches.
Main exports:
  Pager.Remapped, Pager.Reprotects, Pager.putTranslation_remapped;
  Remapped.cachesAgree; Machine.remapped_slots

An entry is recorded in one of five ways, told apart by whether it is valid and by where its
page was before. The cached copy goes in the two in which the page leaves a frame. Where the
page stays in its frame the copy stays too, and with it the permission that it was made with.
-/
import VirtualMemory.Proofs.Kernel.Caches
import VirtualMemory.Proofs.Kernel.Reachable

namespace VirtualMemory

open VirtualMemory.Action

namespace Pager

variable {φ : Type} {pager next : Pager φ} {pid : Pid} {entry : TranslationEntry}
  {config : Config} {held : Finset Ppn} {attached : Pid → Option TlbId} {made : Nat}

/-- The ways in which recording an entry can succeed, and the whole pager after each. -/
inductive Remapped (pager : Pager φ) (pid : Pid) (entry : TranslationEntry) :
    Pager φ → Prop where
  | absent (invalid : entry.valid = false)
      (unmapped : pager.tables.get (entry.page pid) = none) :
      Remapped pager pid entry pager
  | unmapped {old : TranslationEntry} (invalid : entry.valid = false)
      (found : pager.tables.get (entry.page pid) = some old) :
      Remapped pager pid entry
        ((({ pager with tables := (pager.tables.remove (entry.page pid)).2 } :
          Pager φ).shootDown (entry.page pid)).releaseAll [old])
  | mapped (valid : entry.valid = true)
      (unmapped : pager.tables.get (entry.page pid) = none) :
      Remapped pager pid entry { pager with tables := (pager.tables.replace pid entry).2 }
  | inPlace {old : TranslationEntry} (valid : entry.valid = true)
      (found : pager.tables.get (entry.page pid) = some old) (same : old.ppn = entry.ppn) :
      Remapped pager pid entry { pager with tables := (pager.tables.replace pid entry).2 }
  | moved {old : TranslationEntry} (valid : entry.valid = true)
      (found : pager.tables.get (entry.page pid) = some old) (left : old.ppn ≠ entry.ppn) :
      Remapped pager pid entry
        ((({ pager with tables := (pager.tables.replace pid entry).2 } :
          Pager φ).shootDown (entry.page pid)).releaseAll [old])

/-- Whether recording an entry leaves its page in the frame where it is and changes only
whether stores to it are refused. -/
def Reprotects (pager : Pager φ) (pid : Pid) (entry : TranslationEntry) : Prop :=
  entry.valid = true ∧ ∃ old, pager.tables.get (entry.page pid) = some old ∧
    old.ppn = entry.ppn ∧ old.readOnly ≠ entry.readOnly

/-- An entry that is refused changes nothing. Any other is recorded in one of the five
ways. -/
theorem putTranslation_remapped (accounts : Accounts config held pager) (pid : Pid)
    (entry : TranslationEntry) :
    (putTranslation pid entry).Ends pager fun result next =>
      match result with
      | .ok () => Remapped pager pid entry next
      | .error _ => next = pager := by
  have leaves : ∀ {tables : PageTables} {old}, pager.tables.get (entry.page pid) = some old →
      ∀ {post : Except PagingError Unit → Pager φ → Prop},
        (releaseReplaced pid old).Ends { pager with tables := tables } post ↔
          post (.ok ()) ((({ pager with tables := tables } : Pager φ).shootDown
            (entry.page pid)).releaseAll [old]) := by
    intro tables old found post
    have inside : old.ppn < pager.frames.size :=
      accounts.size_pool.symm ▸ accounts.owner_lt (accounts.tables.owner_of_get found)
    have samePage : old.page pid = entry.page pid := accounts.tables.page_eq found
    rw [ends_releaseReplaced (by exact inside), samePage]
  simp only [putTranslation, ends_bind, ends_get]
  split
  · exact rfl
  · rw [ends_bind, ends_recordEntry, PageTables.put]
    cases validity : entry.valid with
    | false =>
      simp only [Bool.false_eq_true, if_false, Bool.not_false, Bool.true_or, if_true]
      cases found : pager.tables.get (entry.page pid) with
      | none =>
        simp only [PageTables.remove, found]
        exact .absent validity found
      | some old =>
        have answer : (pager.tables.remove (entry.page pid)).1 = some old := by
          simp only [PageTables.remove, found]
        rw [answer]
        exact (leaves found).mpr (.unmapped validity found)
    | true =>
      simp only [if_true, Bool.not_true, Bool.false_or]
      cases pager.tables.refusal pid entry with
      | some cause => exact trivial
      | none =>
        have previous : (pager.tables.replace pid entry).1 = pager.tables.get (entry.page pid) :=
          rfl
        simp only [previous]
        cases found : pager.tables.get (entry.page pid) with
        | none => exact .mapped validity found
        | some old =>
          by_cases same : old.ppn = entry.ppn
          · simp only [same, ne_eq, not_true_eq_false, decide_false, Bool.false_eq_true, if_false]
            exact .inPlace validity found same
          · simp only [same, ne_eq, not_false_eq_true, decide_true, if_true]
            exact (leaves found).mpr (.moved validity found same)

namespace Remapped

/-- The page has the entry that was recorded, or none, and no other page is concerned. -/
theorem get_eq (remapped : Remapped pager pid entry next) (page : PageId) :
    next.tables.get page =
      if entry.page pid = page then (if entry.valid then some entry else none)
      else pager.tables.get page := by
  have given : ∀ (old : TranslationEntry) (state : Pager φ),
      (state.releaseAll [old]).tables = state.tables := by
    intro old state
    obtain ⟨pool, released⟩ := exists_releaseAll [old] state
    rw [released]
  cases remapped with
  | absent invalid unmapped =>
    split
    · next same => rw [← same, unmapped, invalid, if_neg Bool.false_ne_true]
    · rfl
  | unmapped invalid => rw [given, tables_shootDown, PageTables.get_remove, invalid,
      if_neg Bool.false_ne_true]
  | mapped valid | inPlace valid => rw [PageTables.get_replace, if_pos valid]
  | moved valid => rw [given, tables_shootDown, PageTables.get_replace, if_pos valid]

/-- Which caches are attached is not changed. -/
theorem attachedTo_eq (remapped : Remapped pager pid entry next) :
    next.tlbs.attachedTo = pager.tlbs.attachedTo := by
  have given : ∀ (old : TranslationEntry) (state : Pager φ),
      (state.releaseAll [old]).tlbs = state.tlbs := by
    intro old state
    obtain ⟨pool, released⟩ := exists_releaseAll [old] state
    rw [released]
  cases remapped with
  | absent | mapped | inPlace => rfl
  | unmapped | moved =>
    rw [given]
    exact TlbBank.attachedTo_shootDown

/-- Caches that agreed with the tables still do, unless the page stays in its frame and only
its permission changes. -/
theorem cachesAgree (remapped : Remapped pager pid entry next)
    (kept : ¬ Reprotects pager pid entry) (agree : CachesAgree attached made pager) :
    CachesAgree attached made next := by
  have elsewhere : ∀ other, other ≠ entry.page pid →
      (pager.tables.replace pid entry).2.get other = pager.tables.get other := by
    intro other different
    rw [PageTables.get_replace, if_neg (Ne.symm different)]
  cases remapped with
  | absent => exact agree
  | mapped _ unmapped => exact agree.map unmapped elsewhere
  | unmapped =>
    apply CachesAgree.releaseAll
    refine agree.shootDown fun other different => ?_
    rw [PageTables.get_remove, if_neg (Ne.symm different)]
  | moved => exact CachesAgree.releaseAll (agree.shootDown elsewhere) _
  | @inPlace old valid found same =>
    refine ⟨agree.attached_eq, agree.made_eq, fun {owner _ _} isAttached present => ?_⟩
    refine (agree.agrees isAttached present).of_tables fun {_ slot before} _ _ mapped => ?_
    by_cases here : entry.page pid = ⟨owner, slot.vpn⟩
    · rw [here] at found
      have unchanged : before = old := Option.some.inj (mapped.symm.trans found)
      have samePermission : old.readOnly = entry.readOnly := by
        by_contra changed
        exact kept ⟨valid, old, here ▸ found, same, changed⟩
      refine ⟨entry, ?_, ?_, ?_⟩
      · rw [PageTables.get_replace, if_pos here]
      · rw [unchanged, same]
      · rw [unchanged, samePermission]
    · exact ⟨before, (elsewhere _ (Ne.symm here)).trans mapped, rfl, rfl⟩

end Remapped

/-- An entry that only changes a permission leaves the caches alone. -/
theorem Reprotects.next_eq (reprotects : Reprotects pager pid entry)
    (remapped : Remapped pager pid entry next) :
    next = { pager with tables := (pager.tables.replace pid entry).2 } := by
  obtain ⟨valid, old, found, same, _⟩ := reprotects
  cases remapped with
  | absent invalid | unmapped invalid =>
    rw [valid] at invalid
    cases invalid
  | mapped | inPlace => rfl
  | moved _ before left =>
    rw [found] at before
    cases before
    exact absurd same left

end Pager

namespace Machine

open Pager

variable {φ : Type} [FileSystem φ] {machine : Machine φ} {config : Config}

/-- After an entry was recorded, every valid slot of an attached cache names the frame of a
page that is mapped. It also says whether stores to the page are refused, except for a page
whose entry changed nothing but that: there it says the opposite. -/
theorem remapped_slots (reachable : machine.Reachable config)
    (current : machine.kernel.CachesCurrent) {pid : Pid} {entry : TranslationEntry}
    {after : Pager φ}
    (recorded : (putTranslation pid entry).outcome machine.kernel.pager = (.ok (), after)) :
    (∀ page, after.tables.get page =
      if entry.page pid = page then (if entry.valid then some entry else none)
      else machine.kernel.pager.tables.get page) ∧
    ∀ owner id tlb index slot, after.tlbs.attachedTo owner = some id →
      after.tlbs.unit id = some tlb → tlb.readSlot index = some slot → slot.valid = true →
      ∃ mapped, after.tables.get ⟨owner, slot.vpn⟩ = some mapped ∧ slot.ppn = mapped.ppn ∧
        (slot.readOnly = mapped.readOnly ↔
          ¬ (entry.page pid = ⟨owner, slot.vpn⟩ ∧
            Reprotects machine.kernel.pager pid entry)) := by
  obtain ⟨held, accounts⟩ := reachable.fitted.accounts
  have remapped : Remapped machine.kernel.pager pid entry after :=
    (putTranslation_remapped accounts pid entry).outcome recorded
  have agree : CachesAgree machine.kernel.pager.tlbs.attachedTo
      machine.kernel.pager.tlbs.units.size machine.kernel.pager := by
    refine ⟨rfl, rfl, fun {owner id tlb} isAttached present => ?_⟩
    obtain ⟨cache, found, agrees⟩ := current owner id isAttached
    rw [present] at found
    cases found
    exact agrees
  refine ⟨remapped.get_eq, fun owner id tlb index slot isAttached present slotHeld valid => ?_⟩
  rw [remapped.attachedTo_eq] at isAttached
  by_cases reprotects : Reprotects machine.kernel.pager pid entry
  · have same := reprotects.next_eq remapped
    have unchanged : machine.kernel.pager.tlbs.unit id = some tlb := by
      rw [same] at present
      exact present
    obtain ⟨before, found, samePpn, sameReadOnly⟩ :=
      (agree.agrees isAttached unchanged).mapped slotHeld valid
    rw [remapped.get_eq]
    by_cases here : entry.page pid = ⟨owner, slot.vpn⟩
    · -- The slot was made from the entry that is replaced, which has the other permission.
      obtain ⟨entryValid, old, oldFound, oldPpn, changed⟩ := reprotects
      rw [here, found] at oldFound
      cases oldFound
      rw [if_pos here, if_pos entryValid]
      refine ⟨entry, rfl, samePpn.symm.trans oldPpn, fun agreed => ?_, fun never => ?_⟩
      · exact absurd (sameReadOnly.trans agreed) changed
      · exact absurd ⟨here, entryValid, before, here ▸ found, oldPpn, changed⟩ never
    · rw [if_neg here]
      exact ⟨before, found, samePpn.symm, fun _ both => here both.1, fun _ => sameReadOnly.symm⟩
  · obtain ⟨mapped, found, samePpn, sameReadOnly⟩ :=
      ((remapped.cachesAgree reprotects agree).agrees isAttached present).mapped slotHeld valid
    exact ⟨mapped, found, samePpn.symm, fun _ both => reprotects both.2,
      fun _ => sameReadOnly.symm⟩

/-- A process has cached a page of its stack, to which it may store. -/
def cachedStack : List (KernelCall EphemeralFiles) :=
  [.spawn 4, .serve ⟨1, 4, 8, 0, false⟩ (.fault 4096)]

/-- Its machine comes about from a boot, and no cache is stale. -/
theorem cachedStack_current {kernel : Kernel EphemeralFiles}
    (booted : Kernel.boot .oneFrame .empty (.scripted []) (.seeded 0) = .ok kernel) :
    Reachable .oneFrame { kernel := kernel.run cachedStack } ∧
      (kernel.run cachedStack).CachesCurrent :=
  ⟨.run (.boot booted)
      [.kernel (.spawn 4), .kernel (.serve ⟨1, 4, 8, 0, false⟩ (.fault 4096))],
    ((Kernel.CachesRight.boot booted).run cachedStack).current⟩

/-- The page is made read-only where it is. -/
theorem remapped_slots_one_frame :
    ∃ kernel : Kernel EphemeralFiles,
      Kernel.boot .oneFrame .empty (.scripted []) (.seeded 0) = .ok kernel ∧
      Reachable .oneFrame { kernel := kernel.run cachedStack } ∧
      (kernel.run cachedStack).CachesCurrent ∧
        let before := (kernel.run cachedStack).pager
        let after := ((putTranslation 1 (.fresh 4 0 true)).outcome before).2
        ((putTranslation 1 (.fresh 4 0 true)).outcome before).1 = .ok () ∧
        ∀ owner id tlb index slot, after.tlbs.attachedTo owner = some id →
          after.tlbs.unit id = some tlb → tlb.readSlot index = some slot → slot.valid = true →
          ∃ mapped, after.tables.get ⟨owner, slot.vpn⟩ = some mapped ∧ slot.ppn = mapped.ppn ∧
            (slot.readOnly = mapped.readOnly ↔
              ¬ (⟨1, 4⟩ = (⟨owner, slot.vpn⟩ : PageId) ∧
                Reprotects before 1 (.fresh 4 0 true))) := by
  refine ⟨_, rfl, (cachedStack_current rfl).1, (cachedStack_current rfl).2, ?accepted,
    (remapped_slots (cachedStack_current rfl).1 (cachedStack_current rfl).2
      (Prod.ext_iff.mpr ⟨?accepted, rfl⟩)).2⟩
  decide +kernel

/-- The page is read-only afterwards, and the cache of its process still says that stores to
it are not refused. -/
theorem remapped_slot_stale :
    ∃ kernel : Kernel EphemeralFiles,
      Kernel.boot .oneFrame .empty (.scripted []) (.seeded 0) = .ok kernel ∧
      Reachable .oneFrame { kernel := kernel.run cachedStack } ∧
      (kernel.run cachedStack).CachesCurrent ∧
        let put := (putTranslation 1 (.fresh 4 0 true)).outcome (kernel.run cachedStack).pager
        put.1 = .ok () ∧ put.2.tables.get ⟨1, 4⟩ = some (.fresh 4 0 true) ∧
          put.2.tlbs.attachedTo 1 = some 0 ∧
          put.2.tlbs.unit 0 = some { slots := [.fresh 4 0 false] } :=
  ⟨_, rfl, (cachedStack_current rfl).1, (cachedStack_current rfl).2, by decide +kernel,
    by decide +kernel, by decide +kernel, by decide +kernel⟩

end Machine

end VirtualMemory
