/-
Module: VirtualMemory.Proofs.Process.Usage
Purpose: What the page tables and the cache of a process know of the use of a page that stays
  mapped, and what switching the process out makes of that.
Main exports:
  TranslationEntry.Persists, PageAccess.StoresTo; PinnedIn.of_mapped, Accessed.persists;
  UserProcess.Knows, Accessed.knows; Accessed.stored_cases, UserProcess.get_saveState

A store to a page that is cached is recorded in its slot and nowhere else. To cache the page again
is to take what the tables say, so what the slot knew is lost.
-/
import VirtualMemory.Proofs.Process.Spared

namespace VirtualMemory

open VirtualMemory.Action Pager

/-- A page stays in its frame, with its permission, and no store to it comes to be known or is
forgotten. -/
structure TranslationEntry.Persists (before after : TranslationEntry) : Prop where
  ppn : after.ppn = before.ppn
  readOnly : after.readOnly = before.readOnly
  dirty : after.dirty = before.dirty

namespace TranslationEntry.Persists

variable {before middle after : TranslationEntry}

theorem refl (entry : TranslationEntry) : entry.Persists entry := ⟨rfl, rfl, rfl⟩

theorem trans (one : before.Persists middle) (two : middle.Persists after) :
    before.Persists after :=
  ⟨two.ppn.trans one.ppn, two.readOnly.trans one.readOnly, two.dirty.trans one.dirty⟩

/-- An access that stores nothing. -/
theorem touch (entry : TranslationEntry) : entry.Persists (entry.touch false) :=
  ⟨rfl, rfl, Bool.or_false _⟩

end TranslationEntry.Persists

/-- Whether something is stored to a page. -/
def PageAccess.StoresTo : PageAccess → Vpn → Prop
  | find _, _ | load _, _ => False
  | store span _, vpn => span.page.toUInt32 = vpn

namespace UserProcess

variable {φ : Type} [FileSystem φ] {process : UserProcess} {vpn : Vpn} {pager after : Pager φ}
  {config : Config} {held : Finset Ppn} {entry next : TranslationEntry} {write : Bool}

/-! ### Accesses to a page that is mapped -/

theorem FaultedIn.of_mapped {result : Except FaultError TranslationEntry}
    (faulted : FaultedIn process vpn pager result after)
    (found : pager.tables.get (process.page vpn) = some entry) :
    result = .ok entry ∧ after = pager := by
  cases faulted with
  | found broughtBack =>
    cases broughtBack with
    | resident here =>
      cases here.symm.trans found
      exact ⟨rfl, rfl⟩
    | loaded absent => cases absent.symm.trans found
  | missed broughtBack =>
    cases broughtBack with
    | noFrame absent | failed absent => cases absent.symm.trans found
  | grown broughtBack | ungrown broughtBack | segfault broughtBack =>
    cases broughtBack.absent.symm.trans found

theorem Resolved.of_mapped {result : Except FaultError TranslationEntry}
    (resolved : Resolved process vpn pager result after) (running : process.exited = false)
    (found : pager.tables.get (process.page vpn) = some entry) :
    result = .ok entry ∧ after = { pager with tlbs := (pager.tlbs.install process.tlb entry).2 } := by
  cases resolved with
  | exited exited => cases exited.symm.trans running
  | failed _ faulted => cases (faulted.of_mapped found).1
  | cached _ faulted =>
    obtain ⟨same, rfl⟩ := faulted.of_mapped found
    cases same
    exact ⟨rfl, rfl⟩

/-- The pager once a mapped page that was not cached was looked for and pinned. -/
def recorded (process : UserProcess) (vpn : Vpn) (write : Bool) (entry : TranslationEntry)
    (pager : Pager φ) : Pager φ :=
  (process.markCached vpn write
    { pager with
      tlbs := (pager.tlbs.install process.tlb entry).2
      tables := (pager.tables.markAccessed (process.page vpn) write).2 }).pin entry.ppn

/-- A mapped page was cached, or it is looked for. -/
theorem PinnedIn.of_mapped {result : Except FaultError TranslationEntry}
    (pinned : PinnedIn process vpn write pager result after) (running : process.exited = false)
    (found : pager.tables.get (process.page vpn) = some entry) :
    (process.slotsOf vpn pager ≠ [] ∧ result = .ok entry ∧
      after = process.markCached vpn write (pager.pin entry.ppn)) ∨
    (process.slotsOf vpn pager = [] ∧
      result = .ok (entry.touch (write && !entry.readOnly)) ∧
      after = process.recorded vpn write entry pager) := by
  cases pinned with
  | hit cached here =>
    cases here.symm.trans found
    refine .inl ⟨fun nowhere => ?_, rfl, rfl⟩
    rw [Tlb.slotsOf_eq_nil_iff.mp nowhere] at cached
    cases cached
  | failed misses resolved =>
    cases misses with
    | uncached => cases (resolved.of_mapped running found).1
    | stale unmapped => cases unmapped.symm.trans found
  | missed misses resolved marked =>
    cases misses with
    | stale unmapped => cases unmapped.symm.trans found
    | uncached absent =>
      obtain ⟨same, rfl⟩ := resolved.of_mapped running found
      cases same
      rw [PageTables.markAccessed, found] at marked
      cases marked
      exact .inr ⟨Tlb.slotsOf_eq_nil_iff.mpr absent, rfl, rfl⟩

omit [FileSystem φ] in
theorem get_recorded (found : pager.tables.get (process.page vpn) = some entry) :
    (process.recorded vpn write entry pager).tables.get (process.page vpn) =
      some (entry.touch (write && !entry.readOnly)) := by
  change (pager.tables.markAccessed (process.page vpn) write).2.get (process.page vpn) = _
  rw [PageTables.get_markAccessed, if_pos rfl, found, Option.map_some]

/-- Only stores to a page change what the tables say of it while it stays mapped. -/
theorem Accessed.persists {access : PageAccess} {result : Except FaultError Bool}
    (accessed : Accessed process pager access result after)
    (accounts : Accounts config held pager) (running : process.exited = false)
    (found : pager.tables.get (process.page vpn) = some entry) (elsewhere : ¬ access.StoresTo vpn)
    (stays : after.tables.get (process.page vpn) = some next) : entry.Persists next := by
  by_cases same : access.vpn = vpn
  · subst same
    cases accessed with
    | found resolved | lost resolved =>
      obtain ⟨_, rfl⟩ := resolved.of_mapped running found
      cases found.symm.trans stays
      exact .refl _
    | loaded pinned =>
      rcases pinned.of_mapped running found with ⟨_, _, rfl⟩ | ⟨_, _, rfl⟩
      · cases found.symm.trans stays
        exact .refl _
      · cases (get_recorded found).symm.trans stays
        exact .touch entry
    | unloaded pinned =>
      rcases pinned.of_mapped running found with ⟨_, failed, _⟩ | ⟨_, failed, _⟩ <;> cases failed
    | stored | unstored => exact absurd rfl elsewhere
  · cases ((accessed.spared accounts same).entry stays).symm.trans found
    exact .refl _

/-! ### What the cache knows -/

omit [FileSystem φ] in
theorem exists_slot (alone : (process.slotsOf vpn pager).length ≤ 1)
    (listed : process.slotsOf vpn pager ≠ []) : ∃ slot, process.slotsOf vpn pager = [slot] :=
  List.length_eq_one_iff.mp (Nat.le_antisymm alone (List.length_pos_iff.mpr listed))

/-- A page has one slot at most. It is dirty and used if a store is told of there, and not dirty if
none is. -/
structure Knows (process : UserProcess) (vpn : Vpn) (told : Prop) (pager : Pager φ) : Prop where
  alone : (process.slotsOf vpn pager).length ≤ 1
  dirty_iff : ∀ slot ∈ process.slotsOf vpn pager, slot.dirty = true ↔ told
  used : ∀ slot ∈ process.slotsOf vpn pager, told → slot.used = true
  cached : told → process.slotsOf vpn pager ≠ []

namespace Knows

variable {told others : Prop}

omit [FileSystem φ]

/-- What was told may be said in other words. -/
theorem congr (knows : process.Knows vpn told pager) (same : told ↔ others) :
    process.Knows vpn others pager :=
  propext same ▸ knows

/-- Where there is no slot, nothing was told. -/
theorem of_nil (nowhere : process.slotsOf vpn pager = []) (forgotten : ¬ told) :
    process.Knows vpn told pager where
  alone := nowhere ▸ Nat.zero_le 1
  dirty_iff _ listed := absurd (nowhere ▸ listed) List.not_mem_nil
  used _ listed := absurd (nowhere ▸ listed) List.not_mem_nil
  cached remembered := absurd remembered forgotten

theorem of_singleton {slot : TranslationEntry} (slots : process.slotsOf vpn pager = [slot])
    (dirty_iff : slot.dirty = true ↔ told) (used : slot.used = true) :
    process.Knows vpn told pager where
  alone := slots ▸ Nat.le_refl 1
  dirty_iff _ listed := List.mem_singleton.mp (slots ▸ listed) ▸ dirty_iff
  used _ listed _ := List.mem_singleton.mp (slots ▸ listed) ▸ used
  cached _ := slots ▸ List.cons_ne_nil slot []

/-- What the cache knows of a page, it has a slot for. -/
theorem still (knows : process.Knows vpn told pager) (holds : others) :
    process.Knows vpn (told ∧ others ∧ process.slotsOf vpn pager ≠ []) pager :=
  knows.congr ⟨fun remembered => ⟨remembered, holds, knows.cached remembered⟩, And.left⟩

/-- What the cache knows it knows as long as it keeps the slot. -/
theorem of_sublist (knows : process.Knows vpn told pager) (holds : others)
    (fewer : (process.slotsOf vpn after).Sublist (process.slotsOf vpn pager)) :
    process.Knows vpn (told ∧ others ∧ process.slotsOf vpn after ≠ []) after where
  alone := fewer.length_le.trans knows.alone
  dirty_iff slot listed :=
    (knows.dirty_iff slot (fewer.subset listed)).trans
      (iff_self_and.mpr fun _ => ⟨holds, List.ne_nil_of_mem listed⟩)
  used slot listed remembered := knows.used slot (fewer.subset listed) remembered.1
  cached remembered := remembered.2.2

/-- A slot that was just filled from tables that know of no store. -/
theorem of_clean {slot : TranslationEntry} (clean : slot.dirty = false)
    (fewer : (process.slotsOf vpn after).Sublist [slot]) (forgotten : ¬ told) :
    process.Knows vpn told after where
  alone := fewer.length_le
  dirty_iff other listed := by
    rw [List.mem_singleton.mp (fewer.subset listed), clean]
    exact iff_of_false Bool.false_ne_true forgotten
  used _ _ remembered := absurd remembered forgotten
  cached remembered := absurd remembered forgotten

/-- Reading a page changes nothing of what its slot knows. -/
theorem load (knows : process.Knows vpn told pager)
    (marked : process.slotsOf vpn after =
      (process.slotsOf vpn pager).modifyHead (Tlb.marked false)) :
    process.Knows vpn told after := by
  by_cases nowhere : process.slotsOf vpn pager = []
  · have forgotten : ¬ told := fun remembered => knows.cached remembered nowhere
    rw [nowhere, List.modifyHead_nil] at marked
    exact .of_nil marked forgotten
  · obtain ⟨slot, slots⟩ := exists_slot knows.alone nowhere
    rw [slots, List.modifyHead_cons] at marked
    have dirty := knows.dirty_iff slot (slots ▸ List.mem_singleton_self slot)
    have kept : (Tlb.marked false slot).dirty = slot.dirty := Bool.or_false _
    exact .of_singleton marked (by rw [kept, dirty]) rfl

/-- A store to a page that is cached is told of in its slot. -/
theorem store (alone : (process.slotsOf vpn pager).length ≤ 1)
    (listed : process.slotsOf vpn pager ≠ [])
    (writable : ∀ slot ∈ process.slotsOf vpn pager, slot.readOnly = false)
    (marked : process.slotsOf vpn after =
      (process.slotsOf vpn pager).modifyHead (Tlb.marked true)) :
    process.Knows vpn True after := by
  obtain ⟨slot, slots⟩ := exists_slot alone listed
  have allowed := writable slot (slots ▸ List.mem_singleton_self slot)
  have touched : Tlb.marked true slot = slot.touch true := by
    have accepts : slot.flags.readOnly = false := allowed
    rw [Tlb.marked, accepts, Bool.and_false, if_neg Bool.false_ne_true]
    rfl
  rw [slots, List.modifyHead_cons, touched] at marked
  exact .of_singleton marked (iff_of_true (Bool.or_true _) trivial) rfl

/-- A slot tells of a store if the cache knows of one. -/
theorem exists_iff (knows : process.Knows vpn told pager) :
    (∃ slot ∈ process.slotsOf vpn pager, slot.used = true ∧ slot.dirty = true) ↔ told := by
  constructor
  · rintro ⟨slot, listed, _, dirty⟩
    exact (knows.dirty_iff slot listed).mp dirty
  · intro remembered
    obtain ⟨slot, listed⟩ := List.exists_mem_of_ne_nil _ (knows.cached remembered)
    exact ⟨slot, listed, knows.used slot listed remembered,
      (knows.dirty_iff slot listed).mpr remembered⟩

end Knows

omit [FileSystem φ] in
/-- A mapped page that was looked for has the slot that it was put into, marked. -/
theorem slotsOf_recorded (accounts : Accounts config held pager)
    (found : pager.tables.get (process.page vpn) = some entry)
    (nowhere : process.slotsOf vpn pager = []) :
    (process.slotsOf vpn (process.recorded vpn write entry pager)).Sublist
      [Tlb.marked write entry.unused] := by
  have named := accounts.tables.vpn_of_get found
  have valid := accounts.tables.valid_of_get found
  have installed : (process.slotsOf vpn
      { pager with tlbs := (pager.tlbs.install process.tlb entry).2 }).Sublist [entry.unused] :=
    slotsOf_install valid named (nowhere ▸ Nat.zero_le 1)
  have marked : process.slotsOf vpn (process.recorded vpn write entry pager) =
      (process.slotsOf vpn
        { pager with tlbs := (pager.tlbs.install process.tlb entry).2 }).modifyHead
          (Tlb.marked write) :=
    (slotsOf_markCached write vpn).trans (if_pos rfl)
  rw [marked]
  rcases List.sublist_singleton.mp installed with none | one
  · rw [none]
    exact List.nil_sublist _
  · rw [one]
    exact .refl _

/-- What the cache knows of a page is lost with its slot, and when the page is looked for at a
fault. -/
theorem Accessed.knows {access : PageAccess} {result : Except FaultError Bool} {told : Prop}
    (accessed : Accessed process pager access result after)
    (accounts : Accounts config held pager) (running : process.exited = false)
    (found : pager.tables.get (process.page vpn) = some entry) (clean : entry.dirty = false)
    (elsewhere : ¬ access.StoresTo vpn) (knows : process.Knows vpn told pager) :
    process.Knows vpn (told ∧ access ≠ .find vpn ∧ process.slotsOf vpn after ≠ []) after := by
  have named := accounts.tables.vpn_of_get found
  have valid := accounts.tables.valid_of_get found
  by_cases same : access.vpn = vpn
  · subst same
    cases accessed with
    | found resolved | lost resolved =>
      obtain ⟨_, rfl⟩ := resolved.of_mapped running found
      have stillClean : entry.unused.dirty = false := clean
      exact .of_clean stillClean (slotsOf_install valid named knows.alone)
        fun remembered => remembered.2.1 rfl
    | loaded pinned =>
      rcases pinned.of_mapped running found with ⟨cached, _, rfl⟩ | ⟨nowhere, _, rfl⟩
      · refine Knows.still (knows.load ?_) nofun
        exact (slotsOf_markCached false _).trans (if_pos rfl)
      · have stillClean : (Tlb.marked false entry.unused).dirty = false :=
          (Bool.or_false _).trans clean
        exact .of_clean stillClean (slotsOf_recorded accounts found nowhere)
          fun remembered => knows.cached remembered.1 nowhere
    | unloaded pinned =>
      rcases pinned.of_mapped running found with ⟨_, failed, _⟩ | ⟨_, failed, _⟩ <;> cases failed
    | stored | unstored => exact absurd rfl elsewhere
  · have fewer := (accessed.spared accounts same).slots
    have kept : access ≠ .find vpn := fun find => same (find ▸ rfl)
    exact knows.of_sublist kept fewer

/-! ### The store -/

omit [FileSystem φ] in
/-- A page that is missed has no slot. -/
theorem Misses.slotsOf_eq_nil {begun : Pager φ} (misses : Misses process vpn pager begun)
    (agrees : (process.cache pager).Agrees pager.tables process.pid) :
    process.slotsOf vpn pager = [] := by
  cases misses with
  | uncached absent => exact Tlb.slotsOf_eq_nil_iff.mpr absent
  | stale unmapped =>
    refine List.eq_nil_iff_forall_not_mem.mpr fun slot listed => ?_
    obtain ⟨entry, mapped, _⟩ := agrees.of_mem_slotsOf listed
    cases unmapped.symm.trans mapped

/-- A store that is accepted is recorded in the tables if the page was not cached, and in its slot
alone if it was. -/
theorem Accessed.stored_cases {span : Span} {data : Bytes}
    (accessed : Accessed process pager (.store span data) (.ok true) after)
    (agrees : (process.cache pager).Agrees pager.tables process.pid) :
    ∃ entry, after.tables.get (process.page span.page.toUInt32) = some entry ∧
      entry.readOnly = false ∧
      (process.slotsOf span.page.toUInt32 pager = [] ∧ entry.dirty = true ∨
        process.slotsOf span.page.toUInt32 pager ≠ [] ∧
          pager.tables.get (process.page span.page.toUInt32) = some entry ∧
          process.Knows span.page.toUInt32 True after) := by
  cases accessed with
  | @stored _ _ entry marked memory _ pinned told =>
    have writable : entry.readOnly = false := by
      rcases told with told | ⟨_, told⟩
      · exact (Bool.not_eq_true' _).mp (Except.ok.inj told).symm
      · cases told
    refine ⟨entry, ?_⟩
    cases pinned with
    | hit cached found =>
      have listed : process.slotsOf span.page.toUInt32 pager ≠ [] := by
        intro nowhere
        rw [Tlb.slotsOf_eq_nil_iff.mp nowhere] at cached
        cases cached
      have allowed : ∀ slot ∈ process.slotsOf span.page.toUInt32 pager, slot.readOnly = false := by
        intro slot inside
        obtain ⟨mapped, here, _, same⟩ := agrees.of_mem_slotsOf inside
        cases here.symm.trans found
        exact same.symm.trans writable
      refine ⟨found, writable, .inr ⟨listed, found, ?_⟩⟩
      refine Knows.store (agrees.length_slotsOf_le _) listed allowed ?_
      exact (slotsOf_markCached true _).trans (if_pos rfl)
    | @missed _ before _ middle misses resolved marked =>
      have recorded : entry = before.touch (true && !before.readOnly) := by
        rw [PageTables.markAccessed, resolved.get_eq] at marked
        exact (Option.some.inj marked).symm
      have allowed : before.readOnly = false := by
        rw [recorded] at writable
        exact writable
      refine ⟨?_, writable, .inl ⟨misses.slotsOf_eq_nil agrees, ?_⟩⟩
      · change (middle.tables.markAccessed _ true).2.get _ = _
        rw [PageTables.get_markAccessed, if_pos rfl, resolved.get_eq, recorded, Option.map_some]
      · rw [recorded, allowed]
        exact Bool.or_true _

/-! ### Switching the process out -/

omit [FileSystem φ] in
theorem get_foldBack (process : UserProcess) (vpn : Vpn) (tables : PageTables)
    (slot : TranslationEntry) :
    (process.foldBack tables slot).get (process.page vpn) =
      if slot.caches vpn && slot.used then
        (tables.get (process.page vpn)).map fun entry =>
          entry.touch (slot.dirty && !entry.readOnly)
      else tables.get (process.page vpn) := by
  by_cases same : slot.vpn = vpn
  · have caches : slot.caches vpn = slot.valid := by
      rw [TranslationEntry.caches, same, beq_self_eq_true, Bool.and_true]
    rw [foldBack, caches]
    split
    · rw [PageTables.get_markAccessed, same, if_pos rfl]
    · rfl
  · have elsewhere : slot.caches vpn = false := by
      rw [TranslationEntry.caches, beq_false_of_ne same, Bool.and_false]
    rw [foldBack, elsewhere, Bool.false_and, if_neg Bool.false_ne_true]
    split
    · rw [PageTables.get_markAccessed, if_neg (page_ne same)]
    · rfl

omit [FileSystem φ] in
/-- One slot adds what it knows of a store, unless stores are refused. -/
theorem foldBack_dirty (process : UserProcess) (slot : TranslationEntry) {tables : PageTables}
    (found : tables.get (process.page vpn) = some entry) :
    ∃ after, (process.foldBack tables slot).get (process.page vpn) = some after ∧
      after.ppn = entry.ppn ∧ after.readOnly = entry.readOnly ∧
      (after.dirty = true ↔ entry.dirty = true ∨ entry.readOnly = false ∧
        slot.caches vpn = true ∧ slot.used = true ∧ slot.dirty = true) := by
  rw [get_foldBack, found, Option.map_some]
  by_cases knows : (slot.caches vpn && slot.used) = true
  · obtain ⟨caches, used⟩ := Bool.and_eq_true_iff.mp knows
    refine ⟨_, if_pos knows, rfl, rfl, ?_⟩
    have touched : (entry.touch (slot.dirty && !entry.readOnly)).dirty =
        (entry.dirty || (slot.dirty && !entry.readOnly)) := rfl
    rw [touched, Bool.or_eq_true, Bool.and_eq_true, Bool.not_eq_true', and_comm,
      and_iff_right caches, and_iff_right used]
  · refine ⟨entry, if_neg knows, rfl, rfl, (or_iff_left fun told => knows ?_).symm⟩
    exact Bool.and_eq_true_iff.mpr ⟨told.2.1, told.2.2.1⟩

omit [FileSystem φ] in
/-- The slots of a page are folded back into its entry, and nothing else of it changes. -/
theorem foldl_foldBack_dirty (process : UserProcess) (slots : List TranslationEntry)
    {tables : PageTables} (found : tables.get (process.page vpn) = some entry) :
    ∃ saved, (slots.foldl process.foldBack tables).get (process.page vpn) = some saved ∧
      saved.ppn = entry.ppn ∧
      (saved.dirty = true ↔ entry.dirty = true ∨ entry.readOnly = false ∧
        ∃ slot ∈ slots, slot.caches vpn = true ∧ slot.used = true ∧ slot.dirty = true) := by
  induction slots generalizing tables entry with
  | nil =>
    refine ⟨entry, found, rfl, (or_iff_left fun told => ?_).symm⟩
    obtain ⟨slot, listed, _⟩ := told.2
    exact absurd listed List.not_mem_nil
  | cons slot rest hypothesis =>
    obtain ⟨after, here, samePpn, sameReadOnly, dirty⟩ := process.foldBack_dirty slot found
    obtain ⟨saved, stillHere, savedPpn, savedDirty⟩ := hypothesis here
    refine ⟨saved, stillHere, savedPpn.trans samePpn, ?_⟩
    rw [savedDirty, dirty, sameReadOnly, or_assoc, ← and_or_left]
    simp only [List.mem_cons, exists_eq_or_imp]

omit [FileSystem φ] in
/-- A page that stays mapped is dirty once its process was switched out if it was known to be, or
if a slot of it knows and stores to it are not refused. -/
theorem get_saveState (found : pager.tables.get (process.page vpn) = some entry) :
    ∃ saved, (process.saveState pager).tables.get (process.page vpn) = some saved ∧
      saved.ppn = entry.ppn ∧
      (saved.dirty = true ↔ entry.dirty = true ∨ entry.readOnly = false ∧
        ∃ slot ∈ process.slotsOf vpn pager, slot.used = true ∧ slot.dirty = true) := by
  obtain ⟨saved, here, samePpn, dirty⟩ :=
    process.foldl_foldBack_dirty (process.cache pager).slots found
  refine ⟨saved, here, samePpn, ?_⟩
  rw [dirty]
  simp only [slotsOf, Tlb.slotsOf, List.mem_filter, and_assoc]

end UserProcess

end VirtualMemory
