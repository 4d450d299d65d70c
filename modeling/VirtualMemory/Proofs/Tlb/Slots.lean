/-
Module: VirtualMemory.Proofs.Tlb.Slots
Purpose: The slots of a translation cache that cache one page, after each operation on it.
Main exports:
  Tlb.slotsOf, slotsOf_invalidate, slotsOf_invalidateAll, slotsOf_markAccessed,
  slotsOf_install, slotsOf_install_of_ne; Distinct.length_slotsOf_le,
  Agrees.of_mem_slotsOf, Agrees.length_slotsOf_le

Only what is done for the page itself puts it into a slot or changes what the slot says. All
else leaves the slots of a page alone or takes some of them away.
-/
import VirtualMemory.Proofs.Tlb

namespace VirtualMemory.Tlb

variable {tlb : Tlb} {vpn other : Vpn} {entry slot : TranslationEntry}

/-- The slots that cache the translation of a page. -/
def slotsOf (tlb : Tlb) (vpn : Vpn) : List TranslationEntry := tlb.slots.filter (·.caches vpn)

theorem head?_slotsOf : (tlb.slotsOf vpn).head? = tlb.lookup vpn := List.head?_filter

theorem slotsOf_eq_nil_iff : tlb.slotsOf vpn = [] ↔ tlb.lookup vpn = none := by
  rw [← head?_slotsOf, List.head?_eq_none_iff]

@[simp] theorem slotsOf_empty (size : Nat) : (empty size).slotsOf vpn = [] := by
  rw [slotsOf, List.filter_eq_nil_iff]
  intro slot listed
  rw [List.eq_of_mem_replicate listed]
  exact Bool.false_ne_true

/-- A slot that caches a page caches no other one. -/
theorem caches_of_caches (caches : slot.caches other = true) (different : other ≠ vpn) :
    slot.caches vpn = false := by
  rw [Bool.eq_false_iff, ne_eq, caches_eq_true_iff]
  exact fun also => different ((caches_eq_true_iff.mp caches).2.symm.trans also.2)

theorem caches_dropped (slot : TranslationEntry) (vpn : Vpn) : slot.dropped.caches vpn = false := by
  rw [TranslationEntry.caches, valid_dropped, Bool.false_and]

@[simp] theorem slotsOf_invalidateAll : tlb.invalidateAll.slotsOf vpn = [] := by
  rw [slotsOf, List.filter_eq_nil_iff]
  intro slot listed
  obtain ⟨before, _, rfl⟩ := List.mem_map.mp listed
  rw [caches_dropped]
  exact Bool.false_ne_true

theorem slotsOf_invalidate (tlb : Tlb) (vpn other : Vpn) :
    (tlb.invalidate other).2.slotsOf vpn = if other = vpn then [] else tlb.slotsOf vpn := by
  rw [slotsOf, slotsOf, invalidate]
  split
  · next same =>
    subst same
    rw [List.filter_eq_nil_iff]
    intro slot listed
    obtain ⟨before, _, rfl⟩ := List.mem_map.mp listed
    split
    · rw [caches_dropped]
      exact Bool.false_ne_true
    · assumption
  · next different =>
    simp only
    induction tlb.slots with
    | nil => rfl
    | cons slot rest hypothesis =>
      rw [List.map_cons, List.filter_cons, List.filter_cons, hypothesis]
      by_cases caches : slot.caches other = true
      · rw [if_pos caches, caches_dropped, caches_of_caches caches different,
          if_neg Bool.false_ne_true, if_neg Bool.false_ne_true]
      · rw [if_neg caches]

/-! ### Where a page has its first slot -/

/-- A slot parts the slots of a page into those before it and the rest. -/
theorem slotsOf_eq_append (vpn : Vpn) {index : Nat} (inside : index < tlb.slots.length) :
    tlb.slotsOf vpn = (tlb.slots.take index).filter (·.caches vpn) ++
      (tlb.slots[index] :: tlb.slots.drop (index + 1)).filter (·.caches vpn) := by
  rw [← List.filter_append, ← List.drop_eq_getElem_cons inside, List.take_append_drop, slotsOf]

theorem filter_take_of_first {index : Nat}
    (earlier : ∀ slot ∈ tlb.slots.take index, slot.caches vpn = false) :
    (tlb.slots.take index).filter (·.caches vpn) = [] :=
  List.filter_eq_nil_iff.mpr fun slot listed => Bool.not_eq_true _ ▸ earlier slot listed

theorem slotsOf_eq_nil_of_findIdx? (nowhere : tlb.slots.findIdx? (·.caches vpn) = none) :
    tlb.slotsOf vpn = [] :=
  List.filter_eq_nil_iff.mpr fun slot listed =>
    Bool.not_eq_true _ ▸ List.findIdx?_eq_none_iff.mp nowhere slot listed

/-- What an access makes of the slot that it is recorded in: the page was used, and it is
dirty if it was stored to. A store that the page refuses leaves its slot as it is. -/
def marked (write : Bool) (slot : TranslationEntry) : TranslationEntry :=
  if write && slot.flags.readOnly then slot
  else
    { slot with
      flags :=
        { slot.flags with
          used := true
          dirty := slot.flags.dirty || write } }

theorem caches_marked (write : Bool) (slot : TranslationEntry) (vpn : Vpn) :
    (marked write slot).caches vpn = slot.caches vpn := by
  rw [marked]
  split <;> rfl

theorem markAccessed_slots (tlb : Tlb) (vpn : Vpn) (write : Bool) :
    (tlb.markAccessed vpn write).2.slots =
      match tlb.slots.findIdx? (·.caches vpn) with
      | none => tlb.slots
      | some index => tlb.slots.modify index (marked write) := by
  rw [markAccessed]
  cases tlb.slots.findIdx? (·.caches vpn) <;> rfl

/-- An access to a page is recorded in the first of its slots and nowhere else. -/
theorem slotsOf_markAccessed (tlb : Tlb) (vpn other : Vpn) (write : Bool) :
    (tlb.markAccessed other write).2.slotsOf vpn =
      if other = vpn then (tlb.slotsOf vpn).modifyHead (marked write) else tlb.slotsOf vpn := by
  rw [slotsOf, markAccessed_slots]
  cases first : tlb.slots.findIdx? (·.caches other) with
  | none =>
    dsimp only
    split
    · next same =>
      have absent := slotsOf_eq_nil_of_findIdx? (same ▸ first)
      rw [absent, List.modifyHead_nil]
      exact absent
    · rfl
  | some index =>
    obtain ⟨inside, caches, before⟩ := first_slot first
    dsimp only
    rw [List.modify_eq_take_cons_drop inside, List.filter_append, slotsOf_eq_append vpn inside]
    have stillCaches := caches_marked write tlb.slots[index] vpn
    split
    · next same =>
      subst same
      rw [filter_take_of_first before, List.nil_append, List.nil_append, List.filter_cons,
        List.filter_cons, stillCaches, if_pos caches, if_pos caches, List.modifyHead_cons]
    · next different =>
      rw [List.filter_cons, List.filter_cons, stillCaches, caches_of_caches caches different,
        if_neg Bool.false_ne_true, if_neg Bool.false_ne_true]

/-! ### Caching an entry -/

theorem install_slots (tlb : Tlb) (chance : Nat) (entry : TranslationEntry) :
    (tlb.install chance entry).2.slots =
      tlb.slots.set ((tlb.slotFor entry.vpn).getD (chance % tlb.size)) entry.unused := by
  rw [install]
  split
  · next empty => rw [List.isEmpty_iff.mp empty, List.set_nil]
  · rfl

/-- An entry that is cached takes the place of the only slot of its page, if there is one. -/
theorem slotsOf_install (slots : 0 < tlb.size) (valid : entry.valid = true) (chance : Nat)
    (alone : (tlb.slotsOf entry.vpn).length ≤ 1) :
    (tlb.install chance entry).2.slotsOf entry.vpn = [entry.unused] := by
  obtain ⟨inside, earlier⟩ := slotFor_spec slots entry.vpn chance
  rw [slotsOf, install_slots, List.set_eq_take_append_cons_drop, if_pos inside]
  generalize place : (tlb.slotFor entry.vpn).getD (chance % tlb.size) = index at inside earlier ⊢
  have before := slotsOf_eq_append entry.vpn inside
  rw [filter_take_of_first earlier, List.nil_append] at before
  have nothing : (tlb.slots.drop (index + 1)).filter (·.caches entry.vpn) = [] := by
    cases first : tlb.slots.findIdx? (·.caches entry.vpn) with
    | none =>
      rw [slotsOf_eq_nil_of_findIdx? first, List.filter_cons] at before
      split at before
      · cases before
      · exact before.symm
    | some found =>
      obtain ⟨_, here, _⟩ := first_slot first
      rw [slotFor, first, Option.some_or, Option.getD_some] at place
      subst place
      rw [before, List.filter_cons, if_pos here, List.length_cons] at alone
      exact List.length_eq_zero_iff.mp (Nat.le_zero.mp (Nat.le_of_succ_le_succ alone))
  rw [List.filter_append, filter_take_of_first earlier, List.nil_append,
    List.filter_cons, if_pos (caches_unused valid), nothing]

/-- An entry of another page may displace a slot and adds none. -/
theorem slotsOf_install_of_ne (tlb : Tlb) (chance : Nat) (different : entry.vpn ≠ vpn) :
    ((tlb.install chance entry).2.slotsOf vpn).Sublist (tlb.slotsOf vpn) := by
  rw [slotsOf, install_slots]
  generalize (tlb.slotFor entry.vpn).getD (chance % tlb.size) = index
  by_cases inside : index < tlb.slots.length
  · rw [slotsOf_eq_append vpn inside, List.set_eq_take_append_cons_drop, if_pos inside,
      List.filter_append, List.filter_cons, caches_unused_of_ne different,
      if_neg Bool.false_ne_true]
    exact (List.Sublist.refl _).append ((List.sublist_cons_self _ _).filter _)
  · rw [List.set_eq_of_length_le (Nat.le_of_not_lt inside)]
    exact .refl _

/-! ### Caches in which no page has two slots, and that agree with the page tables -/

theorem Distinct.length_slotsOf_le (distinct : tlb.Distinct) (vpn : Vpn) :
    (tlb.slotsOf vpn).length ≤ 1 := by
  cases first : tlb.slots.findIdx? (·.caches vpn) with
  | none =>
    rw [slotsOf_eq_nil_of_findIdx? first]
    exact Nat.zero_le 1
  | some index =>
    obtain ⟨inside, caches, before⟩ := first_slot first
    have after : (tlb.slots.drop (index + 1)).filter (·.caches vpn) = [] := by
      refine List.filter_eq_nil_iff.mpr fun slot listed alsoCaches => ?_
      obtain ⟨later, held⟩ := List.getElem?_of_mem listed
      rw [List.getElem?_drop] at held
      obtain ⟨valid, sameVpn⟩ := caches_eq_true_iff.mp caches
      obtain ⟨alsoValid, alsoSameVpn⟩ := caches_eq_true_iff.mp alsoCaches
      have same := distinct (List.getElem?_eq_getElem inside) held valid alsoValid
        (sameVpn.trans alsoSameVpn.symm)
      omega
    rw [slotsOf_eq_append vpn inside, filter_take_of_first before, List.nil_append,
      List.filter_cons, if_pos caches, after]
    exact Nat.le_refl 1

/-- A slot of a page says what the tables say. -/
theorem Agrees.of_mem_slotsOf {tables : PageTables} {pid : Pid} (agrees : tlb.Agrees tables pid)
    (listed : slot ∈ tlb.slotsOf vpn) :
    ∃ entry, tables.get ⟨pid, vpn⟩ = some entry ∧ entry.ppn = slot.ppn ∧
      entry.readOnly = slot.readOnly := by
  obtain ⟨present, caches⟩ := List.mem_filter.mp listed
  obtain ⟨index, held⟩ := List.getElem?_of_mem present
  obtain ⟨valid, rfl⟩ := caches_eq_true_iff.mp caches
  exact agrees.mapped held valid

/-- A page has one slot at most. -/
theorem Agrees.length_slotsOf_le {tables : PageTables} {pid : Pid} (agrees : tlb.Agrees tables pid)
    (vpn : Vpn) : (tlb.slotsOf vpn).length ≤ 1 :=
  Distinct.length_slotsOf_le agrees.distinct vpn

end VirtualMemory.Tlb
