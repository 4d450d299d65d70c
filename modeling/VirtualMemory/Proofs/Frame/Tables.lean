/-
Module: VirtualMemory.Proofs.Frame.Tables
Purpose: The forward table and the core map as inverse maps, and every change of
  them as a change of both views.
Main exports:
  PageTables.Consistent, owner_replace, owner_remove, owner_removeAll,
  Consistent.replace, Consistent.remove, Consistent.removeAll,
  Consistent.checkConsistency, Consistent.length_mappings
-/
import Mathlib.Data.List.Nodup
import Mathlib.Data.List.Perm.Basic
import VirtualMemory.Frame.Tables

namespace VirtualMemory

namespace TranslationEntry

@[simp] theorem valid_fresh (vpn : Vpn) (ppn : Ppn) (readOnly : Bool) :
    (fresh vpn ppn readOnly).valid = true := rfl

@[simp] theorem page_fresh (page : PageId) (ppn : Ppn) (readOnly : Bool) :
    (fresh page.vpn ppn readOnly).page page.pid = page := rfl

end TranslationEntry

namespace PageTables

/-- The forward table and the core map describe the same mappings. -/
structure Consistent (tables : PageTables) : Prop where
  valid_of_get : ∀ {page entry}, tables.get page = some entry → entry.valid = true
  vpn_of_get : ∀ {page entry}, tables.get page = some entry → entry.vpn = page.vpn
  inside_of_get : ∀ {page entry}, tables.get page = some entry → page.vpn ≤ lastPage
  owner_of_get : ∀ {page entry}, tables.get page = some entry →
    tables.owner entry.ppn = some page
  get_of_owner : ∀ {ppn page}, tables.owner ppn = some page →
    ∃ entry, tables.get page = some entry ∧ entry.ppn = ppn

/-- The frame that a page is in. -/
def frameOf (tables : PageTables) (page : PageId) : Option Ppn :=
  (tables.get page).map TranslationEntry.ppn

variable {tables : PageTables} {pid : Pid} {page : PageId} {ppn : Ppn}
  {entry : TranslationEntry}

/-- The frame of a page is the one in its entry. -/
theorem frameOf_eq_some_iff :
    tables.frameOf page = some ppn ↔ ∃ entry, tables.get page = some entry ∧ entry.ppn = ppn :=
  Option.map_eq_some_iff

/-- Only frames of the machine have owners. -/
theorem owner_lt (owned : tables.owner ppn = some page) : ppn < tables.frameCount := by
  by_contra outside
  have none : tables.coreMap[ppn]? = none :=
    Array.getElem?_eq_none (Nat.le_of_not_lt outside)
  simp [owner, none] at owned

namespace Consistent

/-- An entry is found under the page that it is for. -/
theorem page_eq (consistent : tables.Consistent) (found : tables.get page = some entry) :
    entry.page page.pid = page := by
  rw [TranslationEntry.page, consistent.vpn_of_get found]

/-- Every entry has a frame of the machine. -/
theorem ppn_lt (consistent : tables.Consistent) (found : tables.get page = some entry) :
    entry.ppn < tables.frameCount :=
  owner_lt (consistent.owner_of_get found)

/-- Two pages never share a frame. -/
theorem page_unique (consistent : tables.Consistent) {other : PageId}
    {otherEntry : TranslationEntry} (found : tables.get page = some entry)
    (otherFound : tables.get other = some otherEntry) (same : entry.ppn = otherEntry.ppn) :
    page = other := by
  have first := consistent.owner_of_get found
  have second := consistent.owner_of_get otherFound
  rw [same, second] at first
  exact (Option.some.inj first).symm

/-- The owner of a frame is the page whose entry has the frame. -/
theorem owner_eq_some_iff (consistent : tables.Consistent) :
    tables.owner ppn = some page ↔ ∃ entry, tables.get page = some entry ∧ entry.ppn = ppn := by
  constructor
  · exact consistent.get_of_owner
  · rintro ⟨entry, found, rfl⟩
    exact consistent.owner_of_get found

/-- A page has the frame that it owns. -/
theorem frameOf_eq_some_iff (consistent : tables.Consistent) :
    tables.frameOf page = some ppn ↔ tables.owner ppn = some page :=
  PageTables.frameOf_eq_some_iff.trans consistent.owner_eq_some_iff.symm

end Consistent

/-- Where nothing is mapped, the tables agree. -/
theorem consistent_empty (count : Nat) : (empty count).Consistent where
  valid_of_get found := by simp [get_empty] at found
  vpn_of_get found := by simp [get_empty] at found
  inside_of_get found := by simp [get_empty] at found
  owner_of_get found := by simp [get_empty] at found
  get_of_owner owned := by
    simp only [owner, empty, Array.getElem?_replicate] at owned
    split at owned <;> simp at owned

@[simp] theorem owner_empty (count : Nat) : (empty count).owner ppn = none := by
  simp only [owner, empty, Array.getElem?_replicate]
  split <;> rfl

@[simp] theorem frameCount_empty (count : Nat) : (empty count).frameCount = count := by
  simp [frameCount, empty]

/-! ### The owner of a frame after a change -/

/-- A write to the core map changes one place, if there is such a place. -/
theorem join_setOwner (coreMap : Array (Option PageId)) (owner : Option PageId)
    (changed ppn : Ppn) :
    (setOwner coreMap changed owner)[ppn]?.join =
      if changed = ppn ∧ ppn < coreMap.size then owner else coreMap[ppn]?.join := by
  simp only [setOwner, Array.getElem?_setIfInBounds]
  by_cases same : changed = ppn
  · subst same
    by_cases inside : changed < coreMap.size
    · simp [inside]
    · simp [inside]
  · simp [same]

/-- One frame's owner changed, and the forward table in any way. -/
theorem owner_setOwner (forward : Std.ExtTreeMap PageId TranslationEntry)
    (tables : PageTables) (owner : Option PageId) (changed ppn : Ppn) :
    (PageTables.mk forward (setOwner tables.coreMap changed owner)).owner ppn =
      if changed = ppn ∧ ppn < tables.frameCount then owner else tables.owner ppn :=
  join_setOwner tables.coreMap owner changed ppn

/-- A write to the core map makes it neither longer nor shorter. -/
theorem size_setOwner (coreMap : Array (Option PageId)) (owner : Option PageId) (ppn : Ppn) :
    (setOwner coreMap ppn owner).size = coreMap.size := by
  simp [setOwner]

@[simp] theorem frameCount_remove : (tables.remove page).2.frameCount = tables.frameCount := by
  simp only [remove]
  split <;> simp [frameCount, size_setOwner]

/-- A page that is removed owns no frame any more, and the others own what they did. -/
theorem owner_remove (consistent : tables.Consistent) (page : PageId) (ppn : Ppn) :
    (tables.remove page).2.owner ppn =
      if tables.owner ppn = some page then none else tables.owner ppn := by
  simp only [remove]
  split
  · next absent =>
    rw [if_neg]
    intro owned
    obtain ⟨entry, found, _⟩ := consistent.get_of_owner owned
    rw [absent] at found
    cases found
  · next entry found =>
    have owned := consistent.owner_of_get found
    rw [owner_setOwner]
    by_cases same : entry.ppn = ppn
    · rw [if_pos ⟨same, same ▸ owner_lt owned⟩, ← same, if_pos owned]
    · rw [if_neg (fun both => same both.1), if_neg]
      intro other
      obtain ⟨otherEntry, otherFound, otherPpn⟩ := consistent.get_of_owner other
      rw [found] at otherFound
      cases otherFound
      exact same otherPpn

/-- The tables agree after a removal. -/
theorem Consistent.remove (consistent : tables.Consistent) (page : PageId) :
    (tables.remove page).2.Consistent := by
  have kept : ∀ {other entry}, (tables.remove page).2.get other = some entry →
      page ≠ other ∧ tables.get other = some entry := by
    intro other entry found
    rw [get_remove] at found
    split at found
    · cases found
    · next different => exact ⟨different, found⟩
  constructor
  · intro other entry found
    exact consistent.valid_of_get (kept found).2
  · intro other entry found
    exact consistent.vpn_of_get (kept found).2
  · intro other entry found
    exact consistent.inside_of_get (kept found).2
  · intro other entry found
    obtain ⟨different, before⟩ := kept found
    have owned := consistent.owner_of_get before
    rw [owner_remove consistent, owned, if_neg]
    intro same
    exact different (Option.some.inj same).symm
  · intro ppn other owned
    rw [owner_remove consistent] at owned
    split at owned
    · cases owned
    · next notPage =>
      obtain ⟨entry, found, atPpn⟩ := consistent.get_of_owner owned
      refine ⟨entry, ?_, atPpn⟩
      rw [get_remove, if_neg, found]
      intro same
      exact notPage (same ▸ owned)

@[simp] theorem frameCount_replace :
    (tables.replace pid entry).2.frameCount = tables.frameCount := by
  simp only [replace, frameCount, size_setOwner]
  cases tables.get (entry.page pid) with
  | none => rfl
  | some old =>
    simp only
    split <;> simp [size_setOwner]

/-- A page that is put owns the frame in its entry instead of any other, and whoever owned that
frame does not any more. -/
theorem owner_replace (consistent : tables.Consistent) (inside : entry.ppn < tables.frameCount)
    (pid : Pid) (ppn : Ppn) :
    (tables.replace pid entry).2.owner ppn =
      if entry.ppn = ppn then some (entry.page pid)
      else if tables.owner ppn = some (entry.page pid) then none
      else tables.owner ppn := by
  -- What the core map is before the frame gets its new owner.
  have vacated : ∀ coreMap : Array (Option PageId), coreMap.size = tables.coreMap.size →
      (∀ other, entry.ppn ≠ other → coreMap[other]?.join =
        if tables.owner other = some (entry.page pid) then none else tables.owner other) →
      (setOwner coreMap entry.ppn (some (entry.page pid)))[ppn]?.join =
        if entry.ppn = ppn then some (entry.page pid)
        else if tables.owner ppn = some (entry.page pid) then none
        else tables.owner ppn := by
    intro coreMap size elsewhere
    rw [join_setOwner]
    by_cases same : entry.ppn = ppn
    · rw [if_pos ⟨same, by rw [size]; exact same ▸ inside⟩, if_pos same]
    · rw [if_neg (fun both => same both.1), if_neg same, elsewhere ppn same]
  simp only [replace, owner]
  cases found : tables.get (entry.page pid) with
  | none =>
    refine vacated _ rfl fun other _ => ?_
    rw [if_neg]
    · rfl
    · intro owned
      obtain ⟨old, oldFound, _⟩ := consistent.get_of_owner owned
      rw [found] at oldFound
      cases oldFound
  | some old =>
    have oldOwned := consistent.owner_of_get found
    have unique : ∀ other, tables.owner other = some (entry.page pid) → old.ppn = other := by
      intro other owned
      obtain ⟨otherEntry, otherFound, otherPpn⟩ := consistent.get_of_owner owned
      rw [found] at otherFound
      cases otherFound
      exact otherPpn
    simp only
    split
    · next stays =>
      refine vacated _ rfl fun other elsewhere => ?_
      rw [if_neg]
      · rfl
      · intro owned
        exact elsewhere (stays ▸ unique other owned)
    · next leaves =>
      refine vacated _ (size_setOwner _ _ _) fun other elsewhere => ?_
      rw [join_setOwner]
      by_cases same : old.ppn = other
      · subst same
        rw [if_pos ⟨rfl, owner_lt oldOwned⟩, if_pos oldOwned]
      · rw [if_neg (fun both => same both.1), if_neg (fun owned => same (unique other owned))]
        rfl

/-- A frame that refuses no entry exists, and holds no other page. -/
theorem of_refusal_eq_none (accepted : tables.refusal pid entry = none) :
    entry.vpn ≤ lastPage ∧ entry.ppn < tables.frameCount ∧
      (tables.owner entry.ppn = none ∨ tables.owner entry.ppn = some (entry.page pid)) := by
  simp only [refusal] at accepted
  split at accepted
  · cases accepted
  · next inside =>
    refine ⟨UInt32.not_lt.mp inside, ?_⟩
    split at accepted
    · cases accepted
    · next free =>
      exact ⟨(Array.getElem?_eq_some_iff.mp free).1, Or.inl (by simp [owner, free])⟩
    · next owner owned =>
      split at accepted
      · next same =>
        exact ⟨(Array.getElem?_eq_some_iff.mp owned).1,
          Or.inr (by simp [PageTables.owner, owned, same])⟩
      · cases accepted

/-- A page of the address space may take any frame that holds none. -/
theorem refusal_eq_none (pageInside : entry.vpn ≤ lastPage)
    (frameInside : entry.ppn < tables.frameCount) (unowned : tables.owner entry.ppn = none) :
    tables.refusal pid entry = none := by
  rw [refusal, if_neg (UInt32.not_lt.mpr pageInside)]
  have present : tables.coreMap[entry.ppn]? = some tables.coreMap[entry.ppn] :=
    Array.getElem?_eq_getElem frameInside
  rw [owner, present] at unowned
  have free : tables.coreMap[entry.ppn] = none := unowned
  rw [present, free]

/-- An entry that was recorded has changed its own page and no other. -/
theorem of_put {previous : Option TranslationEntry} {next : PageTables}
    (recorded : tables.put pid entry = .ok (previous, next)) :
    previous = tables.get (entry.page pid) ∧
      ∀ other, entry.page pid ≠ other → next.get other = tables.get other := by
  rw [put] at recorded
  split at recorded
  · split at recorded
    · cases recorded
    · cases recorded
      exact ⟨rfl, fun other different => (get_replace _ _ _ other).trans (if_neg different)⟩
  · have answer : (tables.remove (entry.page pid)).1 = tables.get (entry.page pid) := by
      rw [remove]
      cases tables.get (entry.page pid) <;> rfl
    have removed := Except.ok.inj recorded
    rw [← answer, removed]
    refine ⟨rfl, fun other different => ?_⟩
    have elsewhere := get_remove tables (entry.page pid) other
    rwa [removed, if_neg different] at elsewhere

/-- The tables agree after an entry that they did not refuse was put. -/
theorem Consistent.replace (consistent : tables.Consistent) (valid : entry.valid = true)
    (accepted : tables.refusal pid entry = none) :
    (tables.replace pid entry).2.Consistent := by
  obtain ⟨pageInside, frameInside, holder⟩ := of_refusal_eq_none accepted
  have split : ∀ {other found}, (tables.replace pid entry).2.get other = some found →
      (entry.page pid = other ∧ entry = found) ∨
        (entry.page pid ≠ other ∧ tables.get other = some found) := by
    intro other found present
    rw [get_replace] at present
    split at present
    · next same => exact Or.inl ⟨same, Option.some.inj present⟩
    · next different => exact Or.inr ⟨different, present⟩
  constructor
  · intro other found present
    rcases split present with ⟨_, rfl⟩ | ⟨_, before⟩
    · exact valid
    · exact consistent.valid_of_get before
  · intro other found present
    rcases split present with ⟨rfl, rfl⟩ | ⟨_, before⟩
    · rfl
    · exact consistent.vpn_of_get before
  · intro other found present
    rcases split present with ⟨rfl, rfl⟩ | ⟨_, before⟩
    · exact pageInside
    · exact consistent.inside_of_get before
  · intro other found present
    rw [owner_replace consistent frameInside]
    rcases split present with ⟨rfl, rfl⟩ | ⟨different, before⟩
    · rw [if_pos rfl]
    · have owned := consistent.owner_of_get before
      have apart : entry.ppn ≠ found.ppn := by
        intro same
        rw [same, owned] at holder
        rcases holder with none | page
        · cases none
        · exact different (Option.some.inj page).symm
      rw [if_neg apart, owned, if_neg]
      intro same
      exact different (Option.some.inj same).symm
  · intro ppn other owned
    rw [owner_replace consistent frameInside] at owned
    split at owned
    · next here =>
      cases owned
      exact ⟨entry, by rw [get_replace, if_pos rfl], here⟩
    · split at owned
      · cases owned
      · next notPage =>
        obtain ⟨found, present, atPpn⟩ := consistent.get_of_owner owned
        refine ⟨found, ?_, atPpn⟩
        rw [get_replace, if_neg, present]
        intro same
        exact notPage (same ▸ owned)

/-! ### Unmapping a process, and recording accesses -/

/-- The mappings are the pages with their entries. -/
theorem mem_mappings : (page, entry) ∈ tables.mappings ↔ tables.get page = some entry := by
  simp only [mappings, get, Std.ExtTreeMap.mem_toList_iff_getElem?_eq_some]

/-- The entries of a process are those of its pages. -/
theorem mem_getAll :
    entry ∈ tables.getAll pid ↔ ∃ page : PageId, page.pid = pid ∧ tables.get page = some entry := by
  simp only [getAll, List.mem_map, List.mem_filter, beq_iff_eq, Prod.exists]
  constructor
  · rintro ⟨page, _, ⟨mapped, rfl⟩, rfl⟩
    exact ⟨page, rfl, mem_mappings.mp mapped⟩
  · rintro ⟨page, rfl, found⟩
    exact ⟨page, entry, ⟨mem_mappings.mpr found, rfl⟩, rfl⟩

/-- Writes to the core map make it neither longer nor shorter. -/
theorem size_foldl_setOwner (entries : List TranslationEntry) (coreMap : Array (Option PageId)) :
    (entries.foldl (fun coreMap entry => setOwner coreMap entry.ppn none) coreMap).size =
      coreMap.size := by
  induction entries generalizing coreMap with
  | nil => rfl
  | cons entry rest hypothesis => rw [List.foldl_cons, hypothesis, size_setOwner]

/-- The frames of all removed entries lose their owners, and only they. -/
theorem join_foldl_setOwner (entries : List TranslationEntry) (coreMap : Array (Option PageId))
    (ppn : Ppn) :
    (entries.foldl (fun coreMap entry => setOwner coreMap entry.ppn none) coreMap)[ppn]?.join =
      if ppn ∈ entries.map TranslationEntry.ppn then none else coreMap[ppn]?.join := by
  induction entries generalizing coreMap with
  | nil => rfl
  | cons entry rest hypothesis =>
    rw [List.foldl_cons, hypothesis, join_setOwner, List.map_cons]
    by_cases later : ppn ∈ rest.map TranslationEntry.ppn
    · rw [if_pos later, if_pos (List.mem_cons_of_mem _ later)]
    · rw [if_neg later]
      by_cases same : entry.ppn = ppn
      · subst same
        rw [if_pos (List.mem_cons_self ..)]
        by_cases inside : entry.ppn < coreMap.size
        · rw [if_pos ⟨rfl, inside⟩]
        · rw [if_neg (fun both => inside both.2),
            Array.getElem?_eq_none (Nat.le_of_not_lt inside)]
          rfl
      · rw [if_neg (fun both => same both.1), if_neg]
        rw [List.mem_cons, not_or]
        exact ⟨fun equal => same equal.symm, later⟩

@[simp] theorem frameCount_removeAll :
    (tables.removeAll pid).2.frameCount = tables.frameCount := by
  simp only [removeAll, frameCount, size_foldl_setOwner]

/-- A process that is removed owns no frame any more, and others own what they did. -/
theorem owner_removeAll (consistent : tables.Consistent) (pid : Pid) (ppn : Ppn) :
    (tables.removeAll pid).2.owner ppn =
      if ∃ page, tables.owner ppn = some page ∧ page.pid = pid then none
      else tables.owner ppn := by
  have emptied : ppn ∈ (tables.getAll pid).map TranslationEntry.ppn ↔
      ∃ page, tables.owner ppn = some page ∧ page.pid = pid := by
    rw [List.mem_map]
    constructor
    · rintro ⟨entry, listed, rfl⟩
      obtain ⟨page, ofProcess, found⟩ := mem_getAll.mp listed
      exact ⟨page, consistent.owner_of_get found, ofProcess⟩
    · rintro ⟨page, owned, ofProcess⟩
      obtain ⟨entry, found, atPpn⟩ := consistent.get_of_owner owned
      exact ⟨entry, mem_getAll.mpr ⟨page, ofProcess, found⟩, atPpn⟩
  have view := join_foldl_setOwner (tables.getAll pid) tables.coreMap ppn
  simp only [emptied] at view
  exact view

/-- The tables agree after the removal of a process. -/
theorem Consistent.removeAll (consistent : tables.Consistent) (pid : Pid) :
    (tables.removeAll pid).2.Consistent := by
  have kept : ∀ {page entry}, (tables.removeAll pid).2.get page = some entry →
      page.pid ≠ pid ∧ tables.get page = some entry := by
    intro page entry found
    rw [get_removeAll] at found
    split at found
    · cases found
    · next other => exact ⟨other, found⟩
  constructor
  · intro page entry found
    exact consistent.valid_of_get (kept found).2
  · intro page entry found
    exact consistent.vpn_of_get (kept found).2
  · intro page entry found
    exact consistent.inside_of_get (kept found).2
  · intro page entry found
    obtain ⟨other, before⟩ := kept found
    have owned := consistent.owner_of_get before
    rw [owner_removeAll consistent, owned, if_neg]
    rintro ⟨same, equal, ofProcess⟩
    cases equal
    exact other ofProcess
  · intro ppn page owned
    rw [owner_removeAll consistent] at owned
    split at owned
    · cases owned
    · next other =>
      obtain ⟨entry, found, atPpn⟩ := consistent.get_of_owner owned
      refine ⟨entry, ?_, atPpn⟩
      rw [get_removeAll, if_neg, found]
      exact fun ofProcess => other ⟨page, owned, ofProcess⟩

/-- An access changes the bits of one entry and nothing else. -/
theorem get_markAccessed (write : Bool) (other : PageId) :
    (tables.markAccessed page write).2.get other =
      if page = other then
        (tables.get page).map fun entry => entry.touch (write && !entry.readOnly)
      else tables.get other := by
  simp only [markAccessed]
  split
  · next absent =>
    split
    · next same => rw [← same, absent, Option.map_none]
    · rfl
  · next entry found =>
    simp only [get, Std.ExtTreeMap.getElem?_insert, Std.LawfulEqCmp.compare_eq_iff_eq] at found ⊢
    simp only [found, Option.map_some]

@[simp] theorem owner_markAccessed (write : Bool) :
    (tables.markAccessed page write).2.owner ppn = tables.owner ppn := by
  simp only [markAccessed]
  split <;> rfl

@[simp] theorem frameCount_markAccessed (write : Bool) :
    (tables.markAccessed page write).2.frameCount = tables.frameCount := by
  simp only [markAccessed]
  split <;> rfl

/-- Where a page is, and whether stores to it are refused, does not depend on who
accessed it. -/
theorem get_of_get_markAccessed {write : Bool} {other : PageId}
    (found : (tables.markAccessed page write).2.get other = some entry) :
    ∃ before, tables.get other = some before ∧ before.ppn = entry.ppn ∧
      before.vpn = entry.vpn ∧ before.valid = entry.valid ∧
      before.readOnly = entry.readOnly := by
  rw [get_markAccessed] at found
  split at found
  · next same =>
    obtain ⟨before, present, rfl⟩ := Option.map_eq_some_iff.mp found
    exact ⟨before, same ▸ present, rfl, rfl, rfl, rfl⟩
  · exact ⟨entry, found, rfl, rfl, rfl, rfl⟩

/-- An access leaves every page in its frame. -/
@[simp] theorem frameOf_markAccessed (write : Bool) (other : PageId) :
    (tables.markAccessed page write).2.frameOf other = tables.frameOf other := by
  rw [frameOf, frameOf, get_markAccessed]
  split
  · next same =>
    rw [same, Option.map_map]
    rfl
  · rfl

/-- To mark a page as accessed leaves every page its frame and its protection. -/
theorem get_markAccessed_of_get {other : PageId} (found : tables.get other = some entry)
    (write : Bool) :
    ∃ after, (tables.markAccessed page write).2.get other = some after ∧
      after.ppn = entry.ppn ∧ after.readOnly = entry.readOnly := by
  rw [get_markAccessed]
  split
  · next same =>
    rw [same, found]
    exact ⟨_, rfl, rfl, rfl⟩
  · exact ⟨entry, found, rfl, rfl⟩

/-- The tables agree after a page was marked as accessed. -/
theorem Consistent.markAccessed (consistent : tables.Consistent) (page : PageId)
    (write : Bool) : (tables.markAccessed page write).2.Consistent := by
  constructor
  · intro other entry found
    obtain ⟨before, present, _, _, valid, _⟩ := get_of_get_markAccessed found
    rw [← valid]
    exact consistent.valid_of_get present
  · intro other entry found
    obtain ⟨before, present, _, vpn, _, _⟩ := get_of_get_markAccessed found
    rw [← vpn]
    exact consistent.vpn_of_get present
  · intro other entry found
    obtain ⟨before, present, _⟩ := get_of_get_markAccessed found
    exact consistent.inside_of_get present
  · intro other entry found
    obtain ⟨before, present, ppn, _⟩ := get_of_get_markAccessed found
    rw [owner_markAccessed, ← ppn]
    exact consistent.owner_of_get present
  · intro ppn other owned
    rw [owner_markAccessed] at owned
    obtain ⟨before, present, atPpn⟩ := consistent.get_of_owner owned
    obtain ⟨after, found, same, _⟩ :=
      @get_markAccessed_of_get tables page _ _ present write
    exact ⟨after, found, same.trans atPpn⟩

/-! ### Counting, and the check of the books -/

/-- The mapped frames are those with an owner. -/
theorem mem_mappedFrames : ppn ∈ tables.mappedFrames ↔ ∃ page, tables.owner ppn = some page := by
  simp only [mappedFrames, List.mem_filter, List.mem_range, Option.isSome_iff_exists,
    and_iff_right_iff_imp]
  rintro ⟨page, owned⟩
  exact owner_lt owned

/-- Each mapped frame is listed once. -/
theorem nodup_mappedFrames : tables.mappedFrames.Nodup :=
  List.Nodup.filter _ List.nodup_range

/-- As many pages are resident as there are mapped frames. -/
theorem length_mappedFrames : tables.mappedFrames.length = tables.residentCount := by
  have listed : (List.range tables.coreMap.size).map tables.owner = tables.coreMap.toList := by
    refine List.ext_getElem? fun index => ?_
    rw [List.getElem?_map, Array.getElem?_toList]
    by_cases inside : index < tables.coreMap.size
    · simp [owner, inside]
    · simp [inside]
  rw [residentCount, ← Array.countP_toList, ← listed, List.countP_map, mappedFrames,
    List.countP_eq_length_filter]
  rfl

/-- No page is resident where no frame has an owner. -/
theorem residentCount_eq_zero_iff : tables.residentCount = 0 ↔ ∀ ppn, tables.owner ppn = none := by
  rw [← length_mappedFrames, List.length_eq_zero_iff, List.eq_nil_iff_forall_not_mem]
  simp only [mem_mappedFrames, not_exists, Option.eq_none_iff_forall_ne_some]

/-- Where a page is resident, some frame has an owner. -/
theorem exists_owner_of_residentCount (resident : tables.residentCount ≠ 0) :
    ∃ ppn page, tables.owner ppn = some page := by
  rw [ne_eq, residentCount_eq_zero_iff, not_forall] at resident
  obtain ⟨ppn, owned⟩ := resident
  exact ⟨ppn, Option.ne_none_iff_exists'.mp owned⟩

/-- No two pages have the same frame. -/
theorem Consistent.nodup_ppns (consistent : tables.Consistent) :
    (tables.mappings.map fun mapping => mapping.2.ppn).Nodup := by
  have distinct : tables.mappings.Pairwise fun first second => first.1 ≠ second.1 :=
    (Std.ExtTreeMap.distinct_keys_toList (t := tables.forward)).imp fun unequal same =>
      unequal (by simp [same])
  refine List.pairwise_map.mpr (List.Pairwise.imp_of_mem ?_ distinct)
  intro first second one two different same
  exact different (consistent.page_unique (mem_mappings.mp one) (mem_mappings.mp two) same)

/-- No two pages of a process have the same frame. -/
theorem Consistent.nodup_getAll (consistent : tables.Consistent) (pid : Pid) :
    ((tables.getAll pid).map TranslationEntry.ppn).Nodup := by
  rw [getAll, List.map_map]
  exact consistent.nodup_ppns.sublist (List.Sublist.map _ List.filter_sublist)

/-- There are as many mappings as frames that hold a page. -/
theorem Consistent.length_mappings (consistent : tables.Consistent) :
    tables.mappings.length = tables.residentCount := by
  have same : ((tables.mappings.map fun mapping => mapping.2.ppn).Perm tables.mappedFrames) := by
    rw [List.perm_ext_iff_of_nodup consistent.nodup_ppns nodup_mappedFrames]
    intro ppn
    rw [mem_mappedFrames, List.mem_map]
    constructor
    · rintro ⟨⟨page, entry⟩, listed, rfl⟩
      exact ⟨page, consistent.owner_of_get (mem_mappings.mp listed)⟩
    · rintro ⟨page, owned⟩
      obtain ⟨entry, found, atPpn⟩ := consistent.get_of_owner owned
      exact ⟨(page, entry), mem_mappings.mpr found, atPpn⟩
  rw [← length_mappedFrames, ← same.length_eq, List.length_map]

/-- Consistent tables pass their own check. -/
theorem Consistent.checkConsistency (consistent : tables.Consistent) :
    tables.checkConsistency = .ok () := by
  have entries : tables.mappings.findSome?
      (fun mapping => tables.entryDefect mapping.1 mapping.2) = none := by
    rw [List.findSome?_eq_none_iff]
    rintro ⟨page, entry⟩ listed
    have found := mem_mappings.mp listed
    simp [entryDefect, consistent.vpn_of_get found, consistent.valid_of_get found,
      consistent.owner_of_get found]
  have frames : tables.mappedFrames.findSome? tables.frameDefect = none := by
    rw [List.findSome?_eq_none_iff]
    intro ppn _
    simp only [frameDefect]
    cases owned : tables.owner ppn with
    | none => rfl
    | some page =>
      obtain ⟨entry, found, atPpn⟩ := consistent.get_of_owner owned
      simp [found, atPpn]
  have counts : tables.countDefect = none := by
    simp [countDefect, consistent.length_mappings]
  simp only [PageTables.checkConsistency, entries, frames, counts, Option.or_none]

end PageTables

end VirtualMemory
