/-
Module: VirtualMemory.Proofs.Tlb.CacheMap
Purpose: A translation cache is a map from pages to entries that may forget a page when it is
  told of another one, and does nothing else of its own accord.
Main exports:
  TlbCall, Tlb.step and run, Distinct.run; Tlb.lookup_eq_some_iff, lookup_invalidate,
  lookup_markAccessed, readSlot_markAccessed, lookup_install_of_ne, install_replaces;
  Tlb.Installed, Tlb.CacheMap, cache_map

Empty slots still say what they held, so that a page has one valid slot at most is not seen
from the slots: it comes from all that was done to them. From it follows the rest.
-/
import VirtualMemory.Proofs.Tlb.Slots

namespace VirtualMemory

/-- A call of a translation cache. -/
inductive TlbCall where
  /-- An entry is cached. Where it displaces that of another page, `chance` chooses which. -/
  | install (entry : TranslationEntry) (chance : Nat)
  | invalidate (vpn : Vpn)
  | invalidateAll
  | markAccessed (vpn : Vpn) (write : Bool)

namespace Tlb

/-- The cache after a call. -/
def step (tlb : Tlb) : TlbCall → Tlb
  | .install entry chance => (tlb.install chance entry).2
  | .invalidate vpn => (tlb.invalidate vpn).2
  | .invalidateAll => tlb.invalidateAll
  | .markAccessed vpn write => (tlb.markAccessed vpn write).2

/-- The cache after calls, one after another. -/
def run (tlb : Tlb) (calls : List TlbCall) : Tlb :=
  calls.foldl step tlb

variable {tlb : Tlb} {vpn other : Vpn} {entry slot old : TranslationEntry} {index : Nat}

/-! ### One slot for a page, after all calls -/

theorem Distinct.step (distinct : tlb.Distinct) (call : TlbCall) : (tlb.step call).Distinct := by
  cases call with
  | install entry chance => exact distinct.install chance entry
  | invalidate vpn => exact distinct.of_cachesNoMore (tlb.cachesNoMore_invalidate vpn)
  | invalidateAll => exact distinct.of_cachesNoMore tlb.cachesNoMore_invalidateAll
  | markAccessed vpn write =>
    exact distinct.of_cachesNoMore (tlb.cachesNoMore_markAccessed vpn write)

/-- No run caches a page twice. -/
theorem Distinct.run (distinct : tlb.Distinct) (calls : List TlbCall) :
    (tlb.run calls).Distinct := by
  induction calls generalizing tlb with
  | nil => exact distinct
  | cons call rest hypothesis => exact hypothesis (distinct.step call)

theorem size_step (tlb : Tlb) (call : TlbCall) : (tlb.step call).size = tlb.size := by
  cases call with
  | install entry chance => exact tlb.size_install chance entry
  | invalidate vpn => exact tlb.size_invalidate vpn
  | invalidateAll => exact tlb.size_invalidateAll
  | markAccessed vpn write => exact tlb.size_markAccessed vpn write

theorem size_run (tlb : Tlb) (calls : List TlbCall) : (tlb.run calls).size = tlb.size := by
  induction calls generalizing tlb with
  | nil => rfl
  | cons call rest hypothesis => exact (hypothesis _).trans (tlb.size_step call)

/-! ### What is found -/

/-- What is found is what the only valid slot of the page says. -/
theorem lookup_eq_some_iff (distinct : tlb.Distinct) :
    tlb.lookup vpn = some slot ↔
      slot.valid = true ∧ slot.vpn = vpn ∧ ∃ index, tlb.readSlot index = some slot := by
  rw [← head?_slotsOf]
  constructor
  · intro found
    obtain ⟨listed, caches⟩ := List.mem_filter.mp (List.mem_of_head? found)
    obtain ⟨valid, same⟩ := caches_eq_true_iff.mp caches
    exact ⟨valid, same, List.getElem?_of_mem listed⟩
  · rintro ⟨valid, same, index, held⟩
    have listed : slot ∈ tlb.slotsOf vpn :=
      List.mem_filter.mpr ⟨List.mem_of_getElem? held, caches_eq_true_iff.mpr ⟨valid, same⟩⟩
    have alone := distinct.length_slotsOf_le vpn
    match here : tlb.slotsOf vpn with
    | [] =>
      rw [here] at listed
      cases listed
    | [only] =>
      rw [here] at listed
      rw [List.mem_singleton.mp listed, List.head?_cons]
    | _ :: _ :: _ =>
      rw [here, List.length_cons, List.length_cons] at alone
      omega

theorem lookup_eq_none_iff :
    tlb.lookup vpn = none ↔ ∀ slot ∈ tlb.slots, slot.caches vpn = false := by
  simp only [lookup, List.find?_eq_none, Bool.not_eq_true]

/-! ### Dropping translations -/

theorem lookup_invalidateAll (tlb : Tlb) (vpn : Vpn) : tlb.invalidateAll.lookup vpn = none := by
  rw [← head?_slotsOf, slotsOf_invalidateAll, List.head?_nil]

theorem lookup_invalidate (tlb : Tlb) (vpn other : Vpn) :
    (tlb.invalidate vpn).2.lookup other = if vpn = other then none else tlb.lookup other := by
  rw [← head?_slotsOf, slotsOf_invalidate, ← head?_slotsOf]
  split <;> rfl

/-- Dropping a page tells whether there was something to drop. -/
theorem fst_invalidate (tlb : Tlb) (vpn : Vpn) :
    (tlb.invalidate vpn).1 = (tlb.lookup vpn).isSome := by
  rw [Bool.eq_iff_iff, lookup, List.find?_isSome]
  exact List.any_eq_true

/-! ### Recording accesses -/

/-- The first slot of a page is what is found. -/
theorem lookup_of_first (first : tlb.slots.findIdx? (·.caches vpn) = some index) :
    tlb.lookup vpn = tlb.readSlot index := by
  obtain ⟨inside, caches, before⟩ := first_slot first
  rw [← head?_slotsOf, slotsOf_eq_append vpn inside, filter_take_of_first before,
    List.nil_append, List.filter_cons, if_pos caches, List.head?_cons, readSlot,
    List.getElem?_eq_getElem inside]

theorem lookup_markAccessed (tlb : Tlb) (vpn other : Vpn) (write : Bool) :
    (tlb.markAccessed vpn write).2.lookup other =
      if vpn = other then (tlb.lookup other).map (marked write) else tlb.lookup other := by
  rw [← head?_slotsOf, slotsOf_markAccessed, ← head?_slotsOf]
  split
  · rw [List.head?_modifyHead]
  · rfl

/-- Recording an access answers what is found from then on. -/
theorem fst_markAccessed (tlb : Tlb) (vpn : Vpn) (write : Bool) :
    (tlb.markAccessed vpn write).1 = (tlb.lookup vpn).map (marked write) := by
  cases first : tlb.slots.findIdx? (·.caches vpn) with
  | none =>
    have absent : tlb.lookup vpn = none :=
      slotsOf_eq_nil_iff.mp (slotsOf_eq_nil_of_findIdx? first)
    rw [absent, Option.map_none]
    simp only [markAccessed, first]
  | some index =>
    have here :
        (tlb.markAccessed vpn write).1 = (tlb.slots.modify index (marked write))[index]? := by
      simp only [markAccessed, first]
      rfl
    rw [here, lookup_of_first first, readSlot, List.getElem?_modify]
    simp only [if_true, Option.map_eq_map]

/-- An access to a page changes nothing in the slots that do not cache it, the empty ones
included. -/
theorem readSlot_markAccessed (distinct : tlb.Distinct) (held : tlb.readSlot index = some slot)
    (vpn : Vpn) (write : Bool) :
    (tlb.markAccessed vpn write).2.readSlot index =
      some (if slot.caches vpn then marked write slot else slot) := by
  rw [readSlot, markAccessed_slots]
  rw [readSlot] at held
  cases first : tlb.slots.findIdx? (·.caches vpn) with
  | none =>
    have absent := List.findIdx?_eq_none_iff.mp first slot (List.mem_of_getElem? held)
    rw [absent, if_neg Bool.false_ne_true, ← held]
  | some found =>
    obtain ⟨inside, caches, -⟩ := first_slot first
    obtain ⟨valid, same⟩ := caches_eq_true_iff.mp caches
    dsimp only
    rw [List.getElem?_modify, held]
    by_cases alsoCaches : slot.caches vpn = true
    · obtain ⟨alsoValid, alsoSame⟩ := caches_eq_true_iff.mp alsoCaches
      have here := distinct (List.getElem?_eq_getElem inside) held valid alsoValid
        (same.trans alsoSame.symm)
      simp only [if_pos alsoCaches, if_pos here, Option.map_eq_map, Option.map_some]
    · have elsewhere : found ≠ index := by
        rintro rfl
        rw [List.getElem?_eq_getElem inside] at held
        exact alsoCaches (Option.some.inj held ▸ caches)
      simp only [if_neg alsoCaches, if_neg elsewhere, Option.map_eq_map, Option.map_some]

/-! ### Caching an entry -/

/-- What is found of another page after an entry was cached over what a slot held. -/
theorem lookup_install_of_ne (distinct : tlb.Distinct) (different : entry.vpn ≠ vpn) {chance : Nat}
    (replaced : tlb.readSlot ((tlb.slotFor entry.vpn).getD (chance % tlb.size)) = some old) :
    (tlb.install chance entry).2.lookup vpn = if old.caches vpn then none else tlb.lookup vpn := by
  rw [← head?_slotsOf, ← head?_slotsOf, slotsOf, install_slots]
  generalize (tlb.slotFor entry.vpn).getD (chance % tlb.size) = index at replaced
  obtain ⟨inside, rfl⟩ := List.getElem?_eq_some_iff.mp replaced
  have before := slotsOf_eq_append vpn inside
  rw [List.set_eq_take_append_cons_drop, if_pos inside, List.filter_append, List.filter_cons,
    caches_unused_of_ne different, if_neg Bool.false_ne_true]
  rw [List.filter_cons] at before
  split at before
  · next caches =>
    have alone := distinct.length_slotsOf_le vpn
    rw [before, List.length_append, List.length_cons] at alone
    rw [if_pos caches, List.length_eq_zero_iff.mp (show (List.filter _ _).length = 0 by omega),
      List.length_eq_zero_iff.mp (show (List.filter _ _).length = 0 by omega)]
    rfl
  · next spared => rw [if_neg spared, before]

/-- What an entry is cached over: its own page's slot, an empty one or, where neither exists,
that of another page. -/
theorem install_replaces (slots : 0 < tlb.size) (vpn : Vpn) (chance : Nat) :
    ∃ old, tlb.readSlot ((tlb.slotFor vpn).getD (chance % tlb.size)) = some old ∧
      (old.caches vpn = true ∨ old.valid = false ∨
        tlb.lookup vpn = none ∧ ∀ slot ∈ tlb.slots, slot.valid = true) := by
  obtain ⟨inside, -⟩ := slotFor_spec slots vpn chance
  refine ⟨_, List.getElem?_eq_getElem inside, ?_⟩
  generalize place : (tlb.slotFor vpn).getD (chance % tlb.size) = index at inside ⊢
  cases cached : tlb.slots.findIdx? (·.caches vpn) with
  | some found =>
    obtain ⟨_, caches, -⟩ := first_slot cached
    rw [slotFor, cached, Option.some_or, Option.getD_some] at place
    subst place
    exact Or.inl caches
  | none =>
    cases unoccupied : tlb.slots.findIdx? (!·.valid) with
    | some found =>
      obtain ⟨_, invalid, -⟩ := List.findIdx?_eq_some_iff_getElem.mp unoccupied
      rw [slotFor, cached, Option.none_or, unoccupied, Option.getD_some] at place
      subst place
      exact Or.inr (Or.inl (Bool.not_eq_true' _ ▸ invalid))
    | none =>
      refine Or.inr (Or.inr ⟨slotsOf_eq_nil_iff.mp (slotsOf_eq_nil_of_findIdx? cached), ?_⟩)
      intro slot listed
      have occupied := List.findIdx?_eq_none_iff.mp unoccupied slot listed
      exact Bool.not_eq_false' .. ▸ occupied

/-- What caching a valid entry does: `answer` is the slot that is answered and the cache from
then on. -/
structure Installed (before : Tlb) (entry : TranslationEntry) (answer : Nat × Tlb) : Prop where
  /-- The page is found with all that its entry says, but not used yet. -/
  found : answer.2.lookup entry.vpn =
    some { entry with flags := { entry.flags with used := false } }
  placed : answer.2.readSlot answer.1 =
    some { entry with flags := { entry.flags with used := false } }
  /-- No other page is forgotten where the page has a slot or there is an empty one. -/
  spares : before.lookup entry.vpn ≠ none ∨ (∃ slot ∈ before.slots, slot.flags.valid = false) →
    ∀ other, other ≠ entry.vpn → answer.2.lookup other = before.lookup other
  /-- One other page is forgotten where there is not. -/
  forgets : before.lookup entry.vpn = none →
    (∀ slot ∈ before.slots, slot.flags.valid = true) →
    ∃ victim, victim ≠ entry.vpn ∧ before.lookup victim ≠ none ∧ answer.2.lookup victim = none ∧
      ∀ other, other ≠ entry.vpn → other ≠ victim →
        answer.2.lookup other = before.lookup other

/-- An entry that is installed is found, and takes the place of at most one other. -/
theorem Distinct.installed (distinct : tlb.Distinct) (slots : 0 < tlb.size)
    (valid : entry.valid = true) (chance : Nat) :
    tlb.Installed entry (tlb.install chance entry) := by
  obtain ⟨old, replaced, what⟩ := install_replaces slots entry.vpn chance
  have others (other : Vpn) (different : other ≠ entry.vpn) :=
    lookup_install_of_ne distinct (Ne.symm different) replaced
  have sparing (overOwn : old.caches entry.vpn = true ∨ old.valid = false) (other : Vpn)
      (different : other ≠ entry.vpn) :
      (tlb.install chance entry).2.lookup other = tlb.lookup other := by
    have elsewhere : old.caches other = false := by
      rcases overOwn with own | invalid
      · exact caches_of_caches own different.symm
      · rw [TranslationEntry.caches, invalid, Bool.false_and]
    rw [others other different, elsewhere, if_neg Bool.false_ne_true]
  constructor
  case found => exact lookup_install slots valid chance
  case placed =>
    have notEmpty : tlb.slots.isEmpty = false :=
      List.isEmpty_eq_false_iff.mpr (List.length_pos_iff.mp slots)
    rw [Tlb.install, notEmpty, if_neg Bool.false_ne_true]
    exact List.getElem?_set_self (slotFor_spec slots entry.vpn chance).1
  case spares =>
    intro room
    rcases what with own | invalid | ⟨absent, full⟩
    · exact sparing (Or.inl own)
    · exact sparing (Or.inr invalid)
    · rcases room with cached | ⟨slot, listed, invalid⟩
      · exact absurd absent cached
      · exact absurd (full slot listed) (Bool.eq_false_iff.mp invalid)
  case forgets =>
    intro absent full
    have listed : old ∈ tlb.slots := List.mem_of_getElem? replaced
    have own : old.caches old.vpn = true := caches_eq_true_iff.mpr ⟨full old listed, rfl⟩
    have elsewhere : old.vpn ≠ entry.vpn := by
      intro same
      have nowhere := lookup_eq_none_iff.mp absent old listed
      rw [← same, own] at nowhere
      cases nowhere
    refine ⟨old.vpn, elsewhere, ?_, ?_, fun other different spared => ?_⟩
    · rw [(lookup_eq_some_iff distinct).mpr ⟨full old listed, rfl, _, replaced⟩]
      exact Option.some_ne_none _
    · rw [others old.vpn elsewhere, own, if_pos rfl]
    · rw [others other different, caches_of_caches own spared.symm, if_neg Bool.false_ne_true]

/-! ### The cache as a map -/

/-- A cache that is a map from pages to entries: what is found, and what each call makes of
what is found, told for all pages. -/
structure CacheMap (tlb : Tlb) : Prop where
  /-- A page has one valid slot at most. -/
  distinct : ∀ index other slot otherSlot, tlb.readSlot index = some slot →
    tlb.readSlot other = some otherSlot → slot.flags.valid = true →
    otherSlot.flags.valid = true → slot.vpn = otherSlot.vpn → index = other
  /-- What is found of a page is what its valid slot says. -/
  lookup_iff : ∀ vpn slot, tlb.lookup vpn = some slot ↔
    slot.flags.valid = true ∧ slot.vpn = vpn ∧ ∃ index, tlb.readSlot index = some slot
  install : ∀ entry chance, entry.flags.valid = true →
    tlb.Installed entry (tlb.install chance entry)
  invalidate : ∀ vpn,
    (tlb.invalidate vpn).1 = (tlb.lookup vpn).isSome ∧
    ∀ other, (tlb.invalidate vpn).2.lookup other =
      if vpn = other then none else tlb.lookup other
  invalidateAll : ∀ vpn, tlb.invalidateAll.lookup vpn = none
  markAccessed : ∀ vpn write,
    (tlb.markAccessed vpn write).1 = (tlb.lookup vpn).map (marked write) ∧
    (∀ other, (tlb.markAccessed vpn write).2.lookup other =
      if vpn = other then (tlb.lookup other).map (marked write) else tlb.lookup other) ∧
    ∀ index slot, tlb.readSlot index = some slot →
      (tlb.markAccessed vpn write).2.readSlot index =
        some (if slot.flags.valid = true ∧ slot.vpn = vpn then marked write slot else slot)

/-- Whatever was called of a cache with slots, in whichever order, it is a map. -/
theorem cache_map {size : Nat} (slots : 0 < size) (calls : List TlbCall) :
    ((empty size).run calls).CacheMap := by
  have distinct : ((empty size).run calls).Distinct := Distinct.run (Distinct.empty size) calls
  have someSlots : 0 < ((empty size).run calls).size := by
    rw [size_run, size_empty]
    exact slots
  constructor
  case distinct => exact fun _ _ _ _ => distinct
  case lookup_iff => exact fun vpn slot => lookup_eq_some_iff distinct
  case install => exact fun entry chance valid => distinct.installed someSlots valid chance
  case invalidate => exact fun vpn => ⟨fst_invalidate _ vpn, lookup_invalidate _ vpn⟩
  case invalidateAll => exact lookup_invalidateAll _
  case markAccessed =>
    intro vpn write
    refine ⟨fst_markAccessed _ vpn write, fun other => lookup_markAccessed _ vpn other write,
      fun index slot held => ?_⟩
    rw [readSlot_markAccessed distinct held vpn write]
    exact congrArg some (if_congr caches_eq_true_iff rfl rfl)

/-- Of three pages in two slots the third displaced the second, which is forgotten, and its
slot says that it was written to since. -/
theorem cache_map_two_slots :
    let calls : List TlbCall :=
      [.install (.fresh 1 10 true) 0, .install (.fresh 2 11 false) 0,
        .install (.fresh 3 12 false) 1, .markAccessed 1 true, .markAccessed 3 true]
    let cache := (empty 2).run calls
    0 < 2 ∧ cache.CacheMap ∧ cache.lookup 2 = none ∧
      cache.lookup 1 = some ⟨1, 10, { valid := true, readOnly := true }⟩ ∧
      cache.lookup 3 = some ⟨3, 12, { valid := true, used := true, dirty := true }⟩ :=
  ⟨by decide, cache_map (by decide) _, by decide, by decide, by decide⟩

end Tlb

end VirtualMemory
