/-
Module: VirtualMemory.Proofs.Frame.History
Purpose: Whatever is recorded in the page tables, and in whatever order, the forward
  table and the core map are inverse maps.
Main exports:
  TableCall, PageTables.perform, PageTables.run, TableCall.changed;
  PageTables.Inverse, PageTables.PutExact, tables_stay_inverse
-/
import VirtualMemory.Proofs.Frame.Tables

namespace VirtualMemory

/-- A call of the page tables. -/
inductive TableCall where
  | put (pid : Pid) (entry : TranslationEntry)
  | remove (page : PageId)
  | removeAll (pid : Pid)
  | markAccessed (page : PageId) (write : Bool)
deriving DecidableEq, Repr

namespace PageTables

/-- The tables after a call. A put that is refused leaves them as they are. -/
def perform (tables : PageTables) : TableCall → PageTables
  | .put pid entry =>
      match tables.put pid entry with
      | .ok (_, next) => next
      | .error _ => tables
  | .remove page => (tables.remove page).2
  | .removeAll pid => (tables.removeAll pid).2
  | .markAccessed page write => (tables.markAccessed page write).2

/-- The tables after calls, one after another. -/
def run (tables : PageTables) (calls : List TableCall) : PageTables :=
  calls.foldl perform tables

/-- The frames whose place in the core map a call writes to: those that pages leave, and
the one that an accepted entry maps. -/
def changedBy (tables : PageTables) : TableCall → List Ppn
  | .put pid entry =>
      if entry.valid then
        match tables.refusal pid entry with
        | some _ => []
        | none => entry.ppn :: (tables.frameOf (entry.page pid)).toList
      else (tables.frameOf (entry.page pid)).toList
  | .remove page => (tables.frameOf page).toList
  | .removeAll pid => (tables.getAll pid).map TranslationEntry.ppn
  | .markAccessed _ _ => []

variable {tables : PageTables} {pid : Pid} {page : PageId} {ppn : Ppn}
  {entry : TranslationEntry}

/-! ### Consistency through all calls -/

@[simp] theorem frameCount_perform (call : TableCall) :
    (tables.perform call).frameCount = tables.frameCount := by
  cases call with
  | put pid entry =>
    simp only [perform, put]
    by_cases valid : entry.valid = true
    · rw [if_pos valid]
      cases tables.refusal pid entry with
      | some cause => rfl
      | none => exact frameCount_replace
    · rw [if_neg valid]
      exact frameCount_remove
  | remove page => exact frameCount_remove
  | removeAll pid => exact frameCount_removeAll
  | markAccessed page write => exact frameCount_markAccessed write

theorem Consistent.perform (consistent : tables.Consistent) (call : TableCall) :
    (tables.perform call).Consistent := by
  cases call with
  | put pid entry =>
    simp only [PageTables.perform, put]
    by_cases valid : entry.valid = true
    · rw [if_pos valid]
      cases accepted : tables.refusal pid entry with
      | some cause => exact consistent
      | none => exact consistent.replace valid accepted
    · rw [if_neg valid]
      exact consistent.remove (entry.page pid)
  | remove page => exact consistent.remove page
  | removeAll pid => exact consistent.removeAll pid
  | markAccessed page write => exact consistent.markAccessed page write

/-- The tables agree after any calls. -/
theorem Consistent.run (consistent : tables.Consistent) (calls : List TableCall) :
    (tables.run calls).Consistent ∧ (tables.run calls).frameCount = tables.frameCount := by
  induction calls generalizing tables with
  | nil => exact ⟨consistent, rfl⟩
  | cons call rest hypothesis =>
    obtain ⟨after, count⟩ := hypothesis (consistent.perform call)
    exact ⟨after, count.trans (frameCount_perform call)⟩

/-! ### Frames that the core map has a place for -/

theorem Consistent.lt_of_mem_frameOf (consistent : tables.Consistent)
    (listed : ppn ∈ (tables.frameOf page).toList) : ppn < tables.frameCount :=
  owner_lt (consistent.frameOf_eq_some_iff.mp (Option.mem_toList.mp listed))

/-- No call reaches past the end of the core map. -/
theorem Consistent.lt_of_mem_changedBy (consistent : tables.Consistent) {call : TableCall}
    (listed : ppn ∈ tables.changedBy call) : ppn < tables.frameCount := by
  cases call with
  | put pid entry =>
    simp only [changedBy] at listed
    split at listed
    · split at listed
      · cases listed
      · next accepted =>
        rcases List.mem_cons.mp listed with rfl | left
        · exact (of_refusal_eq_none accepted).2.1
        · exact consistent.lt_of_mem_frameOf left
    · exact consistent.lt_of_mem_frameOf listed
  | remove page => exact consistent.lt_of_mem_frameOf listed
  | removeAll pid =>
    obtain ⟨entry, ofProcess, rfl⟩ := List.mem_map.mp listed
    obtain ⟨page, _, found⟩ := mem_getAll.mp ofProcess
    exact consistent.ppn_lt found
  | markAccessed page write => cases listed

/-- A call leaves the owners of all other frames as they are. -/
theorem Consistent.owner_perform_of_notMem (consistent : tables.Consistent) {call : TableCall}
    (notChanged : ppn ∉ tables.changedBy call) :
    (tables.perform call).owner ppn = tables.owner ppn := by
  have ofPage : ∀ {page}, tables.owner ppn = some page → ppn ∈ (tables.frameOf page).toList :=
    fun owned => Option.mem_toList.mpr (consistent.frameOf_eq_some_iff.mpr owned)
  cases call with
  | put pid entry =>
    simp only [changedBy] at notChanged
    simp only [PageTables.perform, put]
    split at notChanged
    · next valid =>
      rw [if_pos valid]
      cases accepted : tables.refusal pid entry with
      | some cause => rfl
      | none =>
        rw [accepted] at notChanged
        rw [List.mem_cons, not_or] at notChanged
        obtain ⟨elsewhere, notLeft⟩ := notChanged
        simp only
        rw [owner_replace consistent (of_refusal_eq_none accepted).2.1,
          if_neg fun same => elsewhere same.symm, if_neg fun owned => notLeft (ofPage owned)]
    · next invalid =>
      rw [if_neg invalid]
      simp only
      rw [owner_remove consistent, if_neg fun owned => notChanged (ofPage owned)]
  | remove page =>
    exact (owner_remove consistent page ppn).trans
      (if_neg fun owned => notChanged (ofPage owned))
  | removeAll pid =>
    refine (owner_removeAll consistent pid ppn).trans (if_neg ?_)
    rintro ⟨page, owned, ofProcess⟩
    obtain ⟨entry, found, rfl⟩ := consistent.get_of_owner owned
    exact notChanged (List.mem_map_of_mem (mem_getAll.mpr ⟨page, ofProcess, found⟩))
  | markAccessed page write => exact owner_markAccessed write

/-! ### Recording an entry -/

/-- An entry is refused exactly if its page does not exist, its frame does not exist, or
its frame holds another page. -/
theorem exists_refusal_iff :
    (∃ cause, tables.refusal pid entry = some cause) ↔
      lastPage < entry.vpn ∨ tables.frameCount ≤ entry.ppn ∨
        ∃ owner, tables.owner entry.ppn = some owner ∧ owner ≠ entry.page pid := by
  constructor
  · rintro ⟨cause, refused⟩
    by_contra accepted
    simp only [not_or, not_exists, not_and, not_not, UInt32.not_lt, Nat.not_le] at accepted
    obtain ⟨pageInside, frameInside, owners⟩ := accepted
    have present : tables.coreMap[entry.ppn]? = some tables.coreMap[entry.ppn] :=
      Array.getElem?_eq_getElem frameInside
    simp only [refusal, UInt32.not_lt.mpr pageInside, if_false] at refused
    split at refused
    · next outside => simp [present] at outside
    · cases refused
    · next owner owned =>
      rw [if_pos (owners owner (by simp [PageTables.owner, owned]))] at refused
      cases refused
  · intro bad
    cases accepted : tables.refusal pid entry with
    | some cause => exact ⟨cause, rfl⟩
    | none =>
      obtain ⟨pageInside, frameInside, holder⟩ := of_refusal_eq_none accepted
      rcases bad with beyond | outside | ⟨owner, owned, other⟩
      · exact absurd beyond (UInt32.not_lt.mpr pageInside)
      · exact absurd frameInside (Nat.not_lt.mpr outside)
      · rw [owned] at holder
        rcases holder with none | same
        · cases none
        · exact absurd (Option.some.inj same) other

/-- What recording valid entries does, said in full. -/
structure PutExact (tables : PageTables) : Prop where
  refused_iff : ∀ {pid entry}, entry.valid = true →
    ((∃ cause, tables.put pid entry = .error cause) ↔
      lastPage < entry.vpn ∨ tables.frameCount ≤ entry.ppn ∨
        ∃ owner, tables.owner entry.ppn = some owner ∧ owner ≠ entry.page pid)
  unchanged : ∀ {pid entry cause}, tables.put pid entry = .error cause →
    tables.perform (.put pid entry) = tables
  answer : ∀ {pid entry previous next}, entry.valid = true →
    tables.put pid entry = .ok (previous, next) → previous = tables.get (entry.page pid)
  get_eq : ∀ {pid entry previous next}, entry.valid = true →
    tables.put pid entry = .ok (previous, next) →
    ∀ page, next.get page = if page = entry.page pid then some entry else tables.get page
  owner_eq : ∀ {pid entry previous next}, entry.valid = true →
    tables.put pid entry = .ok (previous, next) →
    ∀ ppn, next.owner ppn =
      if ppn = entry.ppn then some (entry.page pid)
      else if previous.map TranslationEntry.ppn = some ppn then none
      else tables.owner ppn
  freed_iff : ∀ {pid entry previous next}, entry.valid = true →
    tables.put pid entry = .ok (previous, next) →
    ∀ ppn, ((tables.owner ppn).isSome = true ∧ next.owner ppn = none) ↔
      ppn ≠ entry.ppn ∧ ∃ old, previous = some old ∧ old.ppn = ppn

theorem of_put_eq_ok {previous : Option TranslationEntry} {next : PageTables}
    (valid : entry.valid = true) (recorded : tables.put pid entry = .ok (previous, next)) :
    tables.refusal pid entry = none ∧ previous = tables.get (entry.page pid) ∧
      next = (tables.replace pid entry).2 := by
  rw [put, if_pos valid] at recorded
  split at recorded
  · cases recorded
  · next accepted =>
    cases recorded
    exact ⟨accepted, rfl, rfl⟩

/-- A put is exact in what it refuses and what it changes. -/
theorem Consistent.putExact (consistent : tables.Consistent) : tables.PutExact where
  refused_iff := by
    intro pid entry valid
    rw [← exists_refusal_iff, put, if_pos valid]
    cases tables.refusal pid entry with
    | some cause => exact ⟨fun _ => ⟨cause, rfl⟩, fun _ => ⟨cause, rfl⟩⟩
    | none => simp
  unchanged := by
    intro pid entry cause refused
    simp only [PageTables.perform, refused]
  answer := fun valid recorded => (of_put_eq_ok valid recorded).2.1
  get_eq := by
    intro pid entry previous next valid recorded page
    rw [(of_put_eq_ok valid recorded).2.2, get_replace]
    simp only [eq_comm]
  owner_eq := by
    intro pid entry previous next valid recorded ppn
    obtain ⟨accepted, rfl, rfl⟩ := of_put_eq_ok valid recorded
    have displaced : (tables.get (entry.page pid)).map TranslationEntry.ppn = some ppn ↔
        tables.owner ppn = some (entry.page pid) := by
      rw [Option.map_eq_some_iff, consistent.owner_eq_some_iff]
    rw [owner_replace consistent (of_refusal_eq_none accepted).2.1]
    simp only [displaced, @eq_comm _ ppn]
  freed_iff := by
    intro pid entry previous next valid recorded ppn
    obtain ⟨accepted, rfl, rfl⟩ := of_put_eq_ok valid recorded
    rw [owner_replace consistent (of_refusal_eq_none accepted).2.1,
      ← consistent.owner_eq_some_iff]
    by_cases same : entry.ppn = ppn
    · simp [same]
    · by_cases left : tables.owner ppn = some (entry.page pid)
      · simp [same, left, Ne.symm same]
      · simp only [if_neg same, left, if_false, and_false, iff_false, not_and]
        intro owned free
        rw [free] at owned
        cases owned

/-! ### Inverse maps -/

/-- The forward table is an injective map from pages to frames, and the core map is its
inverse. -/
structure Inverse (frames : Nat) (tables : PageTables) : Prop where
  frameCount_eq : tables.frameCount = frames
  valid : ∀ {page entry}, tables.get page = some entry → entry.valid = true
  vpn_eq : ∀ {page entry}, tables.get page = some entry → entry.vpn = page.vpn
  vpn_le : ∀ {page entry}, tables.get page = some entry → entry.vpn ≤ lastPage
  ppn_lt : ∀ {page entry}, tables.get page = some entry → entry.ppn < frames
  injective : ∀ {page other entry otherEntry}, tables.get page = some entry →
    tables.get other = some otherEntry → entry.ppn = otherEntry.ppn → page = other
  owner_iff : ∀ ppn page, tables.owner ppn = some page ↔
    ∃ entry, tables.get page = some entry ∧ entry.ppn = ppn
  count_eq : tables.residentCount = tables.forward.size
  check : tables.checkConsistency = .ok ()
  changed_lt : ∀ call, ∀ ppn ∈ tables.changedBy call, ppn < frames
  changed_only : ∀ call, ∀ ppn, ppn ∉ tables.changedBy call →
    (tables.perform call).owner ppn = tables.owner ppn

/-- Entries and owners are inverse to one another. -/
theorem Consistent.inverse (consistent : tables.Consistent) :
    tables.Inverse tables.frameCount where
  frameCount_eq := rfl
  valid := consistent.valid_of_get
  vpn_eq := consistent.vpn_of_get
  vpn_le found := consistent.vpn_of_get found ▸ consistent.inside_of_get found
  ppn_lt := consistent.ppn_lt
  injective := consistent.page_unique
  owner_iff _ _ := consistent.owner_eq_some_iff
  count_eq := consistent.length_mappings.symm.trans Std.ExtTreeMap.length_toList
  check := consistent.checkConsistency
  changed_lt _ _ := consistent.lt_of_mem_changedBy
  changed_only _ _ := consistent.owner_perform_of_notMem

/-- After any calls the forward table and the core map are inverse maps, and an entry is
then refused or recorded exactly as told. -/
theorem tables_stay_inverse (frames : Nat) (calls : List TableCall) :
    ((empty frames).run calls).Inverse frames ∧ ((empty frames).run calls).PutExact := by
  obtain ⟨consistent, count⟩ := (consistent_empty frames).run calls
  have inverse := consistent.inverse
  rw [count, frameCount_empty] at inverse
  exact ⟨inverse, consistent.putExact⟩

/-- A page moves to another frame, and its first frame is free for another page. -/
example :
    let tables := (empty 2).run
      [.put 1 (.fresh 4 0 false), .put 1 (.fresh 4 1 true), .put 2 (.fresh 7 0 false)]
    tables.owner 0 = some ⟨2, 7⟩ ∧ tables.owner 1 = some ⟨1, 4⟩ := by
  decide +kernel

end PageTables

end VirtualMemory
