/-
Module: VirtualMemory.Proofs.Kernel.Departures
Purpose: What has become of a pager once pages left memory for swap, one after another.
Main exports:
  Pager.Saved, Pager.Departed, Departed.trans; Evicted.departed, Evicted.departed_of_failed,
  evictToPool_departed, Obtained.departed

The relation says where everything is: the pages that left are in their slots and their frames
are in the pool, and no other page, slot or frame has changed. Departures one after another
compose. A last eviction that failed is part of the relation too: it may have torn the slot of a
page that is still in memory.
-/
import VirtualMemory.Proofs.Kernel.FailedEviction
import VirtualMemory.Proofs.Kernel.FrameSupply

namespace VirtualMemory

open VirtualMemory.Action FileSystem

namespace Pager

variable {φ : Type} [FileSystem φ] {pager middle after : Pager φ} {config : Config}
  {held : Finset Ppn} {made : Nat} {ppn : Ppn} {page : PageId} {entry : TranslationEntry}
  {left more : List PageId} {torn : Option PageId} {cause : PagingError}

/-- A page that was in memory has a slot: its own if it had one, marked as its entry was. The
slot holds what its frame held, where the file system keeps the bytes of files. -/
structure Saved (pager : Pager φ) (page : PageId) (entry : TranslationEntry)
    (device : SwapDevice φ) : Prop where
  wasAt : pager.tables.get page = some entry
  slot : ∃ offset,
    device.slot page = some { offset := offset, readOnly := entry.readOnly } ∧
      ∀ slot, pager.device.slot page = some slot → slot.offset = offset
  bytes : ∀ [ByteFiles φ] [OpenFilesOnly φ], ∃ contents,
    pager.memory.copyOut entry.ppn = .ok contents ∧
      device.stored page = some ⟨contents, entry.readOnly⟩

/-- The pages of a list left memory, one after another, for swap and for the pool. At last a
page may have been written out in part, which then stays where it is. -/
structure Departed (pager : Pager φ) (left : List PageId) (torn : Option PageId)
    (after : Pager φ) : Prop where
  /-- Memory, pins and configuration are as they were, and each page was taken out of the
  caches. -/
  others : after =
    { pager with
      device := after.device
      policy := after.policy
      tables := after.tables
      frames := after.frames
      tlbs := (left ++ torn.toList).foldl TlbBank.shootDown pager.tlbs
      reclaimRequested := after.reclaimRequested
      evictions := pager.evictions + left.length }
  nodup : left.Nodup
  saved : ∀ page ∈ left, ∃ entry, pager.Saved page entry after.device
  stays : ∀ page, torn = some page → ∃ entry, after.tables.get page = some entry
  get_iff : ∀ page entry, after.tables.get page = some entry ↔
    pager.tables.get page = some entry ∧ page ∉ left
  owner_iff : ∀ ppn page, after.tables.owner ppn = some page ↔
    pager.tables.owner ppn = some page ∧ page ∉ left
  isFree_iff : ∀ ppn, after.frames.isFree ppn = true ↔
    pager.frames.isFree ppn = true ∨ ∃ page ∈ left, pager.tables.owner ppn = some page
  free_eq : after.freeFrameCount = pager.freeFrameCount + left.length
  resident_eq : after.residentPageCount + left.length = pager.residentPageCount
  slots : ∀ page, page ∉ left → after.device.slot page = pager.device.slot page
  stored : ∀ [ByteFiles φ] {page view}, page ∉ left → torn ≠ some page →
    pager.device.stored page = some view → after.device.stored page = some view

namespace Departed

/-- Nobody left, and slots hold what they held, but for one that may be torn. -/
theorem of_nobody {device : SwapDevice φ} {policy : Policy} {requested : Bool}
    (stays : ∀ page, torn = some page → ∃ entry, pager.tables.get page = some entry)
    (slots : ∀ page, device.slot page = pager.device.slot page)
    (stored : ∀ [ByteFiles φ] {page view}, torn ≠ some page →
      pager.device.stored page = some view → device.stored page = some view) :
    pager.Departed [] torn
      { pager with
        device := device
        policy := policy
        tlbs := torn.toList.foldl TlbBank.shootDown pager.tlbs
        reclaimRequested := requested } where
  others := rfl
  nodup := .nil
  saved := by simp
  stays := stays
  get_iff := by simp
  owner_iff := by simp
  isFree_iff := by simp
  free_eq := rfl
  resident_eq := rfl
  slots page _ := slots page
  stored _ := stored

theorem refl (pager : Pager φ) : pager.Departed [] none pager :=
  of_nobody (by simp) (fun _ => rfl) (fun _ => id)

/-- A swap file that was just made changes nothing for anybody. -/
theorem of_opened {result : Except SwapError Unit} {device : SwapDevice φ} (policy : Policy)
    (opened : pager.device.opened pager.config.swapFile = (result, device)) :
    pager.Departed [] none { pager with device := device, policy := policy } :=
  of_nobody (by simp) (SwapDevice.slot_opened opened)
    fun _ => (SwapDevice.stored_opened opened _).trans

/-- A page that left is in memory no more. -/
theorem absent (departed : pager.Departed left torn after) (gone : page ∈ left) :
    after.tables.get page = none := by
  rw [Option.eq_none_iff_forall_ne_some]
  exact fun entry found => ((departed.get_iff page entry).mp found).2 gone

/-- A page that was not in memory did not leave. -/
theorem notMem_of_absent (departed : pager.Departed left torn after)
    (absent : pager.tables.get page = none) : page ∉ left := by
  intro gone
  obtain ⟨entry, saved⟩ := departed.saved page gone
  rw [saved.wasAt] at absent
  cases absent

/-- A page that is not there cannot be torn. -/
theorem torn_ne_of_absent (departed : pager.Departed left torn after)
    (absent : pager.tables.get page = none) : torn ≠ some page := by
  intro same
  obtain ⟨entry, found⟩ := departed.stays page same
  rw [((departed.get_iff page entry).mp found).1] at absent
  cases absent

theorem config_eq (departed : pager.Departed left torn after) : after.config = pager.config := by
  rw [departed.others]

theorem pins_eq (departed : pager.Departed left torn after) : after.pins = pager.pins := by
  rw [departed.others]

/-- Each departure is counted. -/
theorem evictions_eq (departed : pager.Departed left torn after) :
    after.evictions = pager.evictions + left.length := by
  rw [departed.others]

/-- What left first has left as well once more pages left. -/
theorem trans (first : pager.Departed left none middle)
    (second : middle.Departed more torn after) : pager.Departed (left ++ more) torn after := by
  have apart : ∀ {page}, page ∈ left → page ∉ more := fun gone =>
    second.notMem_of_absent (first.absent gone)
  constructor
  case others =>
    have last := second.others
    rw [first.others] at last
    rw [List.append_assoc, List.foldl_append, List.length_append, ← Nat.add_assoc]
    simpa only [Option.toList_none, List.append_nil] using last
  case nodup => exact List.nodup_append'.mpr ⟨first.nodup, second.nodup, fun _ => apart⟩
  case saved =>
    intro page gone
    rcases List.mem_append.mp gone with earlier | later
    · obtain ⟨entry, saved⟩ := first.saved page earlier
      have absent := first.absent earlier
      have stays := second.notMem_of_absent absent
      refine ⟨entry, saved.wasAt, ?_, ?_⟩
      · rw [second.slots page stays]
        exact saved.slot
      · intro _ _
        obtain ⟨contents, copied, stored⟩ := saved.bytes
        exact ⟨contents, copied, second.stored stays (second.torn_ne_of_absent absent) stored⟩
    · obtain ⟨entry, saved⟩ := second.saved page later
      obtain ⟨wasAt, stayed⟩ := (first.get_iff page entry).mp saved.wasAt
      refine ⟨entry, wasAt, ?_, ?_⟩
      · rw [← first.slots page stayed]
        exact saved.slot
      · intro _ _
        obtain ⟨contents, copied, stored⟩ := saved.bytes
        rw [first.others] at copied
        exact ⟨contents, copied, stored⟩
  case stays => exact second.stays
  case get_iff =>
    intro page entry
    rw [second.get_iff, first.get_iff, List.mem_append, not_or, and_assoc]
  case owner_iff =>
    intro ppn page
    rw [second.owner_iff, first.owner_iff, List.mem_append, not_or, and_assoc]
  case isFree_iff =>
    intro ppn
    simp only [second.isFree_iff, first.isFree_iff, first.owner_iff, List.mem_append, or_assoc,
      or_and_right, exists_or]
    refine or_congr_right (or_congr_right (exists_congr fun page => ?_))
    exact ⟨fun both => ⟨both.1, both.2.1⟩,
      fun both => ⟨both.1, both.2, fun earlier => apart earlier both.1⟩⟩
  case free_eq => rw [second.free_eq, first.free_eq, List.length_append, Nat.add_assoc]
  case resident_eq =>
    rw [← first.resident_eq, ← second.resident_eq, List.length_append, Nat.add_assoc,
      Nat.add_comm more.length]
  case slots =>
    intro page stayed
    rw [List.mem_append, not_or] at stayed
    rw [second.slots page stayed.2, first.slots page stayed.1]
  case stored =>
    intro _ page view stayed whole before
    rw [List.mem_append, not_or] at stayed
    exact second.stored stayed.2 whole (first.stored stayed.1 (Option.some_ne_none page).symm before)

end Departed

/-! ### One page -/

/-- A page that left its frame to the pool has departed. -/
theorem Evicted.departed {pool : FramePool} (evicted : Evicted pager (.ok ppn) after)
    (accounts : Accounts config held pager) (fitted : Fitted config made pager)
    (released : pager.frames.release ppn = .ok pool) :
    ∃ page, pager.tables.owner ppn = some page ∧ pager.pins.isPinned ppn = false ∧
      pager.Departed [page] none { after with frames := pool } := by
  have books := accounts.releaseEvicted evicted released
  cases evicted with
  | @written swap last victim entry contents draws opened eligible found atFrame copied wrote =>
    have vacated := vacated_of_wrote draws accounts fitted opened found atFrame copied
      wrote
    have more : pool.free = victim.frame :: pager.frames.free :=
      FramePool.free_of_release (accounts.isFree_of_owner eligible.owner_eq) released
    have alone : ∀ {ppn}, pager.tables.owner ppn = some victim.owner ↔ victim.frame = ppn := by
      intro ppn
      rw [accounts.tables.owner_eq_some_iff, found, ← atFrame]
      simp only [Option.some.injEq, exists_eq_left']
    refine ⟨victim.owner, eligible.owner_eq, eligible.unpinned, ?_⟩
    constructor
    case others => rfl
    case nodup => exact List.nodup_singleton _
    case saved =>
      intro page gone
      obtain rfl := List.mem_singleton.mp gone
      obtain ⟨_, offset, same, _, slot⟩ := vacated.slot
      rw [found] at same
      cases same
      refine ⟨entry, found, ⟨offset, slot⟩, ?_⟩
      intro _ _
      obtain ⟨_, _, same, copied, stored⟩ := vacated.stored
      rw [found] at same
      cases same
      exact ⟨_, atFrame ▸ copied, stored⟩
    case stays => exact fun page impossible => (nomatch impossible)
    case get_iff =>
      intro page entry
      simp only [PageTables.get_remove, List.mem_singleton, eq_comm (a := page)]
      split <;> simp [*]
    case owner_iff =>
      intro ppn page
      simp only [PageTables.owner_remove accounts.tables, List.mem_singleton]
      split
      · next owned =>
        rw [owned]
        simp [eq_comm]
      · next other =>
        refine ⟨fun owned => ⟨owned, ?_⟩, And.left⟩
        rintro rfl
        exact other owned
    case isFree_iff =>
      intro ppn
      simp only [FramePool.isFree_of_release released, Bool.or_eq_true, beq_iff_eq,
        List.mem_singleton, exists_eq_left, alone]
    case free_eq =>
      simp only [freeFrameCount, FramePool.freeCount, more, List.length_cons, List.length_nil]
    case resident_eq =>
      have before := accounts.card_eq
      have now := books.card_eq
      have freed : pool.freeCount = pager.freeFrameCount + 1 := congrArg List.length more
      simp only [freeFrameCount] at now before freed
      simp only [residentPageCount, List.length_singleton] at now before ⊢
      omega
    case slots =>
      intro page stayed
      exact vacated.slots page (List.mem_singleton.not.mp stayed)
    case stored =>
      intro _ page view stayed _ before
      rw [← SwapDevice.stored_opened opened] at before
      obtain ⟨bytes, holds⟩ := SwapFile.exists_contents_of_stored before
      have different := Ne.symm (List.mem_singleton.not.mp stayed)
      exact (wrote.stored_apart (fitted.spaced.opened opened) holds different).trans before

/-- An eviction that failed made nobody leave. -/
theorem Evicted.departed_of_failed (evicted : Evicted pager (.error cause) after)
    (fitted : Fitted config made pager) : ∃ torn, pager.Departed [] torn after := by
  have slots := (evicted.unharmed fitted).slots
  cases evicted with
  | refused => exact ⟨none, .refl pager⟩
  | withoutFile opened => exact ⟨none, .of_opened pager.policy opened⟩
  | withoutVictim opened => exact ⟨none, .of_opened _ opened⟩
  | @unwritten swap last victim entry _ _ _ opened _ found _ _ wrote =>
    refine ⟨some victim.owner, .of_nobody ?_ slots ?_⟩
    · rintro page same
      cases same
      exact ⟨entry, found⟩
    · intro _ page view whole before
      rw [← SwapDevice.stored_opened opened] at before
      obtain ⟨bytes, holds⟩ := SwapFile.exists_contents_of_stored before
      have different : victim.owner ≠ page := fun same => whole (congrArg some same)
      exact (wrote.stored_apart (fitted.spaced.opened opened) holds different).trans before

/-- One eviction makes one page leave, or none. -/
theorem evictToPool_departed (accounts : Accounts config held pager)
    (fitted : Fitted config made pager) :
    (evictToPool : PagerAction φ Ppn).Ends pager fun result next =>
      match result with
      | .ok ppn => ∃ page, pager.tables.owner ppn = some page ∧
          pager.pins.isPinned ppn = false ∧ pager.Departed [page] none next
      | .error _ => ∃ torn, pager.Departed [] torn next := by
  apply Ends.mono (evictToPool_ends accounts)
  intro result next told
  cases result with
  | ok ppn =>
    obtain ⟨after, pool, evicted, released, rfl⟩ := told
    exact evicted.departed accounts fitted released
  | error cause => exact Evicted.departed_of_failed told fitted

omit [FileSystem φ] in
theorem exists_requestReclaim (pager : Pager φ) :
    ∃ requested, Pager.requestReclaim pager = { pager with reclaimRequested := requested } := by
  rw [Pager.requestReclaim]
  split
  · exact ⟨true, rfl⟩
  · exact ⟨pager.reclaimRequested, rfl⟩

/-- A frame comes from the pool, for which a page may have left its own before. -/
theorem Obtained.departed (obtained : Obtained pager (.ok ppn) after)
    (accounts : Accounts config held pager) (fitted : Fitted config made pager) :
    ∃ left middle pool requested, left.length ≤ 1 ∧ pager.Departed left none middle ∧
      Accounts config held middle ∧ middle.frames.allocate = some (ppn, pool) ∧
      after = { middle with frames := pool, reclaimRequested := requested } := by
  cases obtained with
  | @fromPool _ pool taken =>
    obtain ⟨requested, same⟩ := exists_requestReclaim { pager with frames := pool }
    exact ⟨[], pager, pool, requested, Nat.zero_le 1, .refl pager, accounts, taken, same⟩
  | @byEviction _ last empty evicted =>
    have inside : ppn < pager.frames.size := by
      have books := evicted.accounts accounts
      rw [accounts.size_pool]
      exact books.held_lt ppn (Finset.mem_insert_self ppn held)
    obtain ⟨pool, released⟩ := FramePool.exists_release inside
    obtain ⟨page, _, _, departed⟩ := evicted.departed accounts fitted released
    have again := FramePool.allocate_of_release accounts.pool empty released
    rw [← evicted.frames_eq] at again
    obtain ⟨requested, same⟩ := exists_requestReclaim last
    exact ⟨[page], _, last.frames, requested, Nat.le_refl 1, departed,
      accounts.releaseEvicted evicted released, again, same⟩

end Pager

end VirtualMemory
