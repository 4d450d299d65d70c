/-
Module: VirtualMemory.Proofs.Tlb
Purpose: When a translation cache agrees with the page tables, and which changes of
  either keep it so.
Main exports:
  Tlb.Agrees, Tlb.Distinct, Tlb.CachesNoMore; Agrees.install, Agrees.of_cachesNoMore,
  Agrees.of_tables; Distinct.install, Distinct.of_cachesNoMore; Tlb.lookup_install;
  TlbBank.unit_change, TlbBank.unit_install, TlbBank.Sized
-/
import VirtualMemory.Proofs.Frame.Tables
import VirtualMemory.TlbBank

namespace VirtualMemory

namespace Tlb

variable {tlb next : Tlb} {vpn : Vpn} {index : Nat} {slot : TranslationEntry}

/-- Every valid slot of a process's cache says where the page tables have its page and
whether stores to it are refused, and no page has two valid slots. -/
structure Agrees (tlb : Tlb) (tables : PageTables) (pid : Pid) : Prop where
  mapped : ∀ {index slot}, tlb.readSlot index = some slot → slot.valid = true →
    ∃ entry, tables.get ⟨pid, slot.vpn⟩ = some entry ∧ entry.ppn = slot.ppn ∧
      entry.readOnly = slot.readOnly
  distinct : ∀ {index other slot otherSlot}, tlb.readSlot index = some slot →
    tlb.readSlot other = some otherSlot → slot.valid = true → otherSlot.valid = true →
    slot.vpn = otherSlot.vpn → index = other

/-- No page has two valid slots. -/
def Distinct (tlb : Tlb) : Prop :=
  ∀ {index other slot otherSlot}, tlb.readSlot index = some slot →
    tlb.readSlot other = some otherSlot → slot.valid = true → otherSlot.valid = true →
    slot.vpn = otherSlot.vpn → index = other

/-- Every valid slot of a cache was there before, access bits aside. -/
def CachesNoMore (next tlb : Tlb) : Prop :=
  ∀ {index slot}, next.readSlot index = some slot → slot.valid = true →
    ∃ before, tlb.readSlot index = some before ∧ before.valid = true ∧
      before.vpn = slot.vpn ∧ before.ppn = slot.ppn ∧ before.readOnly = slot.readOnly

/-! ### Which page a slot caches -/

/-- A slot caches a page if it is valid and for that page. -/
theorem caches_eq_true_iff : slot.caches vpn = true ↔ slot.valid = true ∧ slot.vpn = vpn := by
  rw [TranslationEntry.caches, Bool.and_eq_true, beq_iff_eq]

/-- What is put into a slot caches the page of the entry. -/
theorem caches_unused (valid : slot.valid = true) : slot.unused.caches slot.vpn = true :=
  caches_eq_true_iff.mpr ⟨valid, rfl⟩

/-- A slot that is installed for one page caches no other. -/
theorem caches_unused_of_ne (different : slot.vpn ≠ vpn) : slot.unused.caches vpn = false := by
  rw [Bool.eq_false_iff, ne_eq, caches_eq_true_iff]
  exact fun caches => different caches.2

/-! ### What operations leave in the slots -/

@[simp] theorem readSlot_empty {size : Nat} (held : (empty size).readSlot index = some slot) :
    slot.valid = false := by
  simp only [readSlot, empty, List.getElem?_replicate] at held
  split at held
  · cases held
    rfl
  · cases held

theorem valid_dropped (slot : TranslationEntry) : slot.dropped.valid = false := rfl

/-- After everything is invalidated, nothing is cached that was not before. -/
theorem cachesNoMore_invalidateAll (tlb : Tlb) : tlb.invalidateAll.CachesNoMore tlb := by
  intro index slot held valid
  simp only [readSlot, invalidateAll, List.getElem?_map, Option.map_eq_some_iff] at held
  rcases held with ⟨before, _, rfl⟩
  rw [valid_dropped] at valid
  cases valid

/-- Whatever is still valid after a page was dropped was there before and caches another
page. -/
theorem of_readSlot_invalidate (held : (tlb.invalidate vpn).2.readSlot index = some slot)
    (valid : slot.valid = true) : tlb.readSlot index = some slot ∧ slot.vpn ≠ vpn := by
  simp only [readSlot, invalidate, List.getElem?_map, Option.map_eq_some_iff] at held
  rcases held with ⟨before, present, rfl⟩
  split at valid
  · rw [valid_dropped] at valid
    cases valid
  · next kept =>
    rw [if_neg kept]
    exact ⟨present, fun same => kept (caches_eq_true_iff.mpr ⟨valid, same⟩)⟩

/-- An invalidation drops the slots that cache the page, and no others. -/
theorem readSlot_invalidate (held : tlb.readSlot index = some slot) (vpn : Vpn) :
    (tlb.invalidate vpn).2.readSlot index =
      some (if slot.caches vpn then slot.dropped else slot) := by
  rw [readSlot] at held
  simp only [readSlot, invalidate, List.getElem?_map, held, Option.map_some]

/-- A page that is in no valid slot is not found. -/
theorem lookup_eq_none (absent : ∀ {index slot}, tlb.readSlot index = some slot →
    slot.valid = true → slot.vpn ≠ vpn) : tlb.lookup vpn = none := by
  rw [lookup, List.find?_eq_none]
  intro slot listed caches
  obtain ⟨index, held⟩ := List.getElem?_of_mem listed
  obtain ⟨valid, same⟩ := caches_eq_true_iff.mp caches
  exact absent held valid same

/-- To invalidate a page caches nothing anew. -/
theorem cachesNoMore_invalidate (tlb : Tlb) (vpn : Vpn) :
    (tlb.invalidate vpn).2.CachesNoMore tlb := by
  intro index slot held valid
  obtain ⟨before, _⟩ := of_readSlot_invalidate held valid
  exact ⟨slot, before, valid, rfl, rfl, rfl⟩

/-- To mark a page as accessed caches nothing anew. -/
theorem cachesNoMore_markAccessed (tlb : Tlb) (vpn : Vpn) (write : Bool) :
    (tlb.markAccessed vpn write).2.CachesNoMore tlb := by
  intro index slot held valid
  simp only [markAccessed] at held
  split at held
  · exact ⟨slot, held, valid, rfl, rfl, rfl⟩
  · next found _ =>
    simp only [readSlot, List.getElem?_modify, Option.map_eq_map, Option.map_eq_some_iff] at held
    rcases held with ⟨before, present, rfl⟩
    refine ⟨before, present, ?_⟩
    split at valid
    · next here =>
      split at valid
      · next refused =>
        rw [if_pos here, if_pos refused]
        exact ⟨valid, rfl, rfl, rfl⟩
      · next allowed =>
        rw [if_pos here, if_neg allowed]
        exact ⟨valid, rfl, rfl, rfl⟩
    · next elsewhere =>
      rw [if_neg elsewhere]
      exact ⟨valid, rfl, rfl, rfl⟩

/-- After an installation a slot holds the new entry or what it held before. -/
theorem readSlot_install {chance : Nat} {entry : TranslationEntry}
    (held : (tlb.install chance entry).2.readSlot index = some slot) :
    slot = entry.unused ∧ index = (tlb.slotFor entry.vpn).getD (chance % tlb.size) ∨
      tlb.readSlot index = some slot ∧
        index ≠ (tlb.slotFor entry.vpn).getD (chance % tlb.size) ∨
      tlb.slots = [] := by
  simp only [install] at held
  split at held
  · next empty => exact Or.inr (Or.inr (List.isEmpty_iff.mp empty))
  · simp only [readSlot, List.getElem?_set] at held
    split at held
    · next here =>
      split at held
      · cases held
        exact Or.inl ⟨rfl, here.symm⟩
      · cases held
    · next elsewhere => exact Or.inr (Or.inl ⟨held, fun here => elsewhere here.symm⟩)

/-- The first slot that caches a page, of all the slots that there are. -/
theorem first_slot (first : tlb.slots.findIdx? (·.caches vpn) = some index) :
    ∃ inside : index < tlb.slots.length, tlb.slots[index].caches vpn = true ∧
      ∀ slot ∈ tlb.slots.take index, slot.caches vpn = false := by
  obtain ⟨inside, caches, earlier⟩ := List.findIdx?_eq_some_iff_getElem.mp first
  refine ⟨inside, caches, fun slot listed => ?_⟩
  obtain ⟨before, less, rfl⟩ := List.mem_take_iff_getElem.mp listed
  exact Bool.not_eq_true _ ▸ earlier before (Nat.lt_of_lt_of_le less (Nat.min_le_left _ _))

/-- The slot that an entry goes to exists, and no slot before it caches the entry's page. -/
theorem slotFor_spec (slots : 0 < tlb.size) (vpn : Vpn) (chance : Nat) :
    (tlb.slotFor vpn).getD (chance % tlb.size) < tlb.slots.length ∧
      ∀ slot ∈ tlb.slots.take ((tlb.slotFor vpn).getD (chance % tlb.size)),
        slot.caches vpn = false := by
  cases cached : tlb.slots.findIdx? (·.caches vpn) with
  | some index =>
    obtain ⟨inside, _, earlier⟩ := first_slot cached
    simp only [slotFor, cached, Option.some_or, Option.getD_some]
    exact ⟨inside, earlier⟩
  | none =>
    have nowhere := List.findIdx?_eq_none_iff.mp cached
    refine ⟨?_, fun slot listed => nowhere slot (List.mem_of_mem_take listed)⟩
    simp only [slotFor, cached, Option.none_or]
    cases empty : tlb.slots.findIdx? (!·.valid) with
    | some index => exact (List.findIdx?_eq_some_iff_getElem.mp empty).1
    | none => exact Nat.mod_lt chance slots

/-- An entry that was cached is found, whichever slot it went to. -/
theorem lookup_install {entry : TranslationEntry} (slots : 0 < tlb.size)
    (valid : entry.valid = true) (chance : Nat) :
    (tlb.install chance entry).2.lookup entry.vpn = some entry.unused := by
  obtain ⟨inside, earlier⟩ := slotFor_spec slots entry.vpn chance
  have notEmpty : tlb.slots.isEmpty = false :=
    List.isEmpty_eq_false_iff.mpr (List.length_pos_iff.mp slots)
  simp only [install, notEmpty, lookup, Bool.false_eq_true, if_false,
    List.set_eq_take_append_cons_drop, if_pos inside]
  refine List.find?_eq_some_iff_append.mpr ⟨caches_unused valid, _, _, rfl, ?_⟩
  intro slot listed
  rw [earlier slot listed, Bool.not_false]

/-! ### The number of slots -/

@[simp] theorem size_empty (count : Nat) : (empty count).size = count :=
  List.length_replicate

@[simp] theorem size_install (tlb : Tlb) (chance : Nat) (entry : TranslationEntry) :
    (tlb.install chance entry).2.size = tlb.size := by
  simp only [install]
  split
  · rfl
  · exact List.length_set

@[simp] theorem size_invalidate (tlb : Tlb) (vpn : Vpn) :
    (tlb.invalidate vpn).2.size = tlb.size :=
  List.length_map _

@[simp] theorem size_invalidateAll (tlb : Tlb) : tlb.invalidateAll.size = tlb.size :=
  List.length_map _

@[simp] theorem size_markAccessed (tlb : Tlb) (vpn : Vpn) (write : Bool) :
    (tlb.markAccessed vpn write).2.size = tlb.size := by
  simp only [markAccessed]
  split
  · rfl
  · exact List.length_modify _ _ _

/-! ### One slot for a page -/

namespace Distinct

/-- An empty cache has no page twice. -/
theorem empty (size : Nat) : (Tlb.empty size).Distinct := by
  intro index other slot otherSlot held _ valid
  rw [readSlot_empty held] at valid
  cases valid

/-- A cache that keeps only some of its pages has none twice. -/
theorem of_cachesNoMore (distinct : tlb.Distinct) (noMore : next.CachesNoMore tlb) :
    next.Distinct := by
  intro index other slot otherSlot held otherHeld valid otherValid same
  obtain ⟨before, present, wasValid, sameVpn, _⟩ := noMore held valid
  obtain ⟨otherBefore, otherPresent, otherWasValid, otherSameVpn, _⟩ :=
    noMore otherHeld otherValid
  apply distinct present otherPresent wasValid otherWasValid
  rw [sameVpn, otherSameVpn, same]

/-- A page that is cached already keeps its slot. -/
theorem slotFor_eq (distinct : tlb.Distinct) (held : tlb.readSlot index = some slot)
    (valid : slot.valid = true) : tlb.slotFor slot.vpn = some index := by
  have caches : slot.caches slot.vpn = true := caches_eq_true_iff.mpr ⟨valid, rfl⟩
  cases first : tlb.slots.findIdx? (·.caches slot.vpn) with
  | none =>
    have missed := List.findIdx?_eq_none_iff.mp first slot (List.mem_of_getElem? held)
    rw [caches] at missed
    cases missed
  | some found =>
    obtain ⟨inside, cached, _⟩ := List.findIdx?_eq_some_iff_getElem.mp first
    obtain ⟨alsoValid, sameVpn⟩ := caches_eq_true_iff.mp cached
    have same := distinct held (List.getElem?_eq_getElem inside) valid alsoValid sameVpn.symm
    rw [slotFor, first, same, Option.some_or]

/-- An entry takes the slot of its page, if there is one, whichever other slot it may displace.
It need not be valid itself. -/
theorem install (distinct : tlb.Distinct) (chance : Nat) (entry : TranslationEntry) :
    (tlb.install chance entry).2.Distinct := by
  intro index other slot otherSlot held otherHeld valid otherValid same
  rcases readSlot_install held with ⟨rfl, here⟩ | ⟨before, elsewhere⟩ | none
  · rcases readSlot_install otherHeld with ⟨rfl, there⟩ | ⟨otherBefore, elsewhere⟩ | none
    · rw [here, there]
    · have kept := distinct.slotFor_eq otherBefore otherValid
      have sameVpn : entry.vpn = _ := same
      rw [sameVpn, kept, Option.getD_some] at elsewhere
      exact absurd rfl elsewhere
    · simp only [Tlb.install, none, List.isEmpty_nil, if_true] at held otherHeld
      exact distinct held otherHeld valid otherValid same
  · rcases readSlot_install otherHeld with ⟨rfl, there⟩ | ⟨otherBefore, _⟩ | none
    · have kept := distinct.slotFor_eq before valid
      have sameVpn : _ = entry.vpn := same
      rw [← sameVpn, kept, Option.getD_some] at elsewhere
      exact absurd rfl elsewhere
    · exact distinct before otherBefore valid otherValid same
    · simp only [Tlb.install, none, List.isEmpty_nil, if_true] at held otherHeld
      exact distinct held otherHeld valid otherValid same
  · simp only [Tlb.install, none, List.isEmpty_nil, if_true] at held otherHeld
    exact distinct held otherHeld valid otherValid same

end Distinct

/-! ### Agreement -/

namespace Agrees

variable {tables : PageTables} {pid : Pid}

/-- An empty cache agrees with all tables. -/
theorem empty (size : Nat) : (Tlb.empty size).Agrees tables pid where
  mapped held valid := by
    rw [readSlot_empty held] at valid
    cases valid
  distinct := Distinct.empty size

/-- A cache that keeps only some of its pages still agrees. -/
theorem of_cachesNoMore (agrees : tlb.Agrees tables pid) (noMore : next.CachesNoMore tlb) :
    next.Agrees tables pid where
  mapped held valid := by
    obtain ⟨before, present, wasValid, sameVpn, samePpn, sameReadOnly⟩ := noMore held valid
    rw [← sameVpn, ← samePpn, ← sameReadOnly]
    exact agrees.mapped present wasValid
  distinct := Distinct.of_cachesNoMore agrees.distinct noMore

/-- Only the pages that a cache holds translations of matter to it. -/
theorem of_tables (agrees : tlb.Agrees tables pid) {others : PageTables}
    (kept : ∀ {index slot entry}, tlb.readSlot index = some slot → slot.valid = true →
      tables.get ⟨pid, slot.vpn⟩ = some entry →
      ∃ after, others.get ⟨pid, slot.vpn⟩ = some after ∧ after.ppn = entry.ppn ∧
        after.readOnly = entry.readOnly) :
    tlb.Agrees others pid where
  mapped held valid := by
    obtain ⟨entry, found, samePpn, sameReadOnly⟩ := agrees.mapped held valid
    obtain ⟨after, foundAfter, keptPpn, keptReadOnly⟩ := kept held valid found
    exact ⟨after, foundAfter, keptPpn.trans samePpn, keptReadOnly.trans sameReadOnly⟩
  distinct := agrees.distinct

/-- A translation taken from the page tables may be cached, whichever slot it displaces. -/
theorem install (agrees : tlb.Agrees tables pid) (chance : Nat) {entry : TranslationEntry}
    (found : tables.get ⟨pid, entry.vpn⟩ = some entry) :
    (tlb.install chance entry).2.Agrees tables pid where
  mapped held valid := by
    rcases readSlot_install held with ⟨rfl, _⟩ | ⟨before, _⟩ | none
    · exact ⟨entry, found, rfl, rfl⟩
    · exact agrees.mapped before valid
    · simp only [Tlb.install, none, List.isEmpty_nil, if_true] at held
      exact agrees.mapped held valid
  distinct := Distinct.install agrees.distinct chance entry

end Agrees

end Tlb

namespace TlbBank

variable {bank : TlbBank} {id other : TlbId}

/-- A change is made to the cache with that number, if there is one. -/
theorem unit_change (step : Tlb → Tlb) :
    (bank.change id step).unit other =
      if id = other then (bank.unit other).map step else bank.unit other := by
  simp only [unit, change, Array.getElem?_modify]

theorem size_change (step : Tlb → Tlb) :
    (bank.change id step).units.size = bank.units.size :=
  Array.size_modify

/-- A new cache is empty, and the others are as they were. -/
theorem unit_make (size : Nat) :
    (bank.make size).2.unit other =
      if bank.units.size = other then some (.empty size) else bank.unit other := by
  simp only [unit, make, Array.getElem?_push]
  split
  · next here => rw [if_pos here.symm]
  · next elsewhere => rw [if_neg (fun here => elsewhere here.symm)]

/-- Caching an entry changes one cache, in one of the ways in which a cache can take it. -/
theorem unit_install {entry : TranslationEntry} {tlb : Tlb}
    (present : (bank.install id entry).2.unit other = some tlb) :
    (∃ before chance, bank.unit other = some before ∧ id = other ∧
      tlb = (before.install chance entry).2) ∨
    bank.unit other = some tlb ∧ id ≠ other := by
  simp only [install] at present
  cases found : bank.unit id with
  | none =>
    rw [found] at present
    refine Or.inr ⟨present, fun same => ?_⟩
    rw [← same, found] at present
    cases present
  | some before =>
    rw [found] at present
    simp only [unit, Array.getElem?_setIfInBounds] at present
    split at present
    · next same =>
      split at present
      · cases present
        exact Or.inl ⟨before, _, same ▸ found, same, rfl⟩
      · cases present
    · next different => exact Or.inr ⟨present, different⟩

theorem size_install {entry : TranslationEntry} :
    (bank.install id entry).2.units.size = bank.units.size := by
  simp only [install]
  split
  · rfl
  · exact Array.size_setIfInBounds

/-- An entry that was cached is found in the cache. -/
theorem exists_lookup_install {entry : TranslationEntry} (made : id < bank.units.size)
    (slots : ∀ tlb, bank.unit id = some tlb → 0 < tlb.size) (valid : entry.valid = true) :
    ∃ tlb, (bank.install id entry).2.unit id = some tlb ∧
      tlb.lookup entry.vpn = some entry.unused := by
  have present : bank.unit id = some bank.units[id] := Array.getElem?_eq_getElem made
  simp only [install, present]
  exact ⟨_, Array.getElem?_setIfInBounds_self_of_lt made,
    Tlb.lookup_install (slots _ present) valid _⟩

theorem attachedTo_install {entry : TranslationEntry} :
    (bank.install id entry).2.attachedTo = bank.attachedTo := by
  simp only [install]
  split <;> rfl

/-- A process that was attached has that cache, and others have theirs. -/
theorem attachedTo_attach {pid owner : Pid} :
    (bank.attach pid id).attachedTo owner =
      if pid = owner then some id else bank.attachedTo owner := by
  simp only [attach, attachedTo, Std.ExtTreeMap.getElem?_insert,
    Std.LawfulEqCmp.compare_eq_iff_eq]

/-- A process that was detached has no cache, and others have theirs. -/
theorem attachedTo_detach {pid owner : Pid} :
    (bank.detach pid).attachedTo owner =
      if pid = owner then none else bank.attachedTo owner := by
  simp only [detach, attachedTo, Std.ExtTreeMap.getElem?_erase,
    Std.LawfulEqCmp.compare_eq_iff_eq]

/-! ### The number of slots -/

/-- All caches that were made have the same number of slots. -/
def Sized (bank : TlbBank) (entries : Nat) : Prop :=
  ∀ id tlb, bank.unit id = some tlb → tlb.size = entries

namespace Sized

variable {entries : Nat}

/-- Changes that keep the size of a cache keep the sizes of all. -/
theorem change (sized : bank.Sized entries) (id : TlbId) {step : Tlb → Tlb}
    (keeps : ∀ tlb, (step tlb).size = tlb.size) : (bank.change id step).Sized entries := by
  intro other tlb present
  rw [unit_change] at present
  split at present
  · obtain ⟨before, found, rfl⟩ := Option.map_eq_some_iff.mp present
    exact (keeps before).trans (sized _ before found)
  · exact sized other tlb present

/-- A new cache has the size of the others. -/
theorem make (sized : bank.Sized entries) : (bank.make entries).2.Sized entries := by
  intro other tlb present
  rw [unit_make] at present
  split at present
  · cases present
    exact Tlb.size_empty entries
  · exact sized other tlb present

theorem install (sized : bank.Sized entries) (id : TlbId) (entry : TranslationEntry) :
    (bank.install id entry).2.Sized entries := by
  intro other tlb present
  cases unit_install present with
  | inl here =>
    obtain ⟨before, chance, found, _, rfl⟩ := here
    exact (before.size_install chance entry).trans (sized _ before found)
  | inr elsewhere => exact sized other tlb elsewhere.1

theorem shootDown (sized : bank.Sized entries) (page : PageId) :
    (bank.shootDown page).Sized entries := by
  rw [TlbBank.shootDown]
  split
  · exact sized
  · exact sized.change _ fun tlb => tlb.size_invalidate page.vpn

end Sized

end TlbBank

end VirtualMemory
