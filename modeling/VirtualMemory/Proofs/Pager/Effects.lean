/-
Module: VirtualMemory.Proofs.Pager.Effects
Purpose: Everything that evicting a page, handing out a frame and backing a page can
  do, each said once.
Main exports:
  SwapDevice.opened, Pager.Evicted, Pager.Obtained, Pager.Backed;
  evictPage_ends, getFreeFrame_ends, newPage_ends

The relations list the ways in which an operation can end and the whole state that
each of them leaves. What an operation preserves follows by cases.
-/
import VirtualMemory.Proofs.Eviction
import VirtualMemory.Proofs.Frame.Memory
import VirtualMemory.Proofs.Outcome
import VirtualMemory.Proofs.Pager.Accounts
import VirtualMemory.Proofs.Storage.SwapFile

namespace VirtualMemory

open VirtualMemory.Action

variable {φ : Type}

namespace Pager

variable {pager : Pager φ} {page : PageId} {ppn : Ppn} {entry : TranslationEntry}

/-! ### The parts of an operation -/

/-- A frame of the memory can be copied. -/
theorem exists_copyOut {memory : PhysicalMemory} (inside : ppn < memory.size) :
    ∃ contents, memory.copyOut ppn = .ok contents :=
  ⟨memory.frames[ppn], by simp only [PhysicalMemory.copyOut, Array.getElem?_eq_getElem inside]⟩

@[simp] theorem config_shootDown : (pager.shootDown page).config = pager.config := rfl

@[simp] theorem memory_shootDown : (pager.shootDown page).memory = pager.memory := rfl

@[simp] theorem frames_shootDown : (pager.shootDown page).frames = pager.frames := rfl

@[simp] theorem tables_shootDown : (pager.shootDown page).tables = pager.tables := rfl

@[simp] theorem pins_shootDown : (pager.shootDown page).pins = pager.pins := rfl

@[simp] theorem device_shootDown : (pager.shootDown page).device = pager.device := rfl

@[simp] theorem config_requestReclaim : (requestReclaim pager).config = pager.config := by
  simp only [requestReclaim]
  split <;> rfl

@[simp] theorem memory_requestReclaim : (requestReclaim pager).memory = pager.memory := by
  simp only [requestReclaim]
  split <;> rfl

@[simp] theorem frames_requestReclaim : (requestReclaim pager).frames = pager.frames := by
  simp only [requestReclaim]
  split <;> rfl

@[simp] theorem tables_requestReclaim : (requestReclaim pager).tables = pager.tables := by
  simp only [requestReclaim]
  split <;> rfl

@[simp] theorem pins_requestReclaim : (requestReclaim pager).pins = pager.pins := by
  simp only [requestReclaim]
  split <;> rfl

@[simp] theorem device_requestReclaim : (requestReclaim pager).device = pager.device := by
  simp only [requestReclaim]
  split <;> rfl

@[simp] theorem tlbs_requestReclaim : (requestReclaim pager).tlbs = pager.tlbs := by
  simp only [requestReclaim]
  split <;> rfl

/-- A request to reclaim frames leaves the accounts as they are. -/
theorem Accounts.requestReclaim {config : Config} {held : Finset Ppn}
    (accounts : Accounts config held pager) :
    Accounts config held (requestReclaim pager) := by
  refine accounts.of_same ?_ ?_ ?_ ?_ ?_ <;> simp [accounts.pins]

/-- A frame goes back to the pool, unless the pool refuses it. -/
@[simp] theorem ends_releaseFrame {post : Except PagingError Unit → Pager φ → Prop} :
    (releaseFrame ppn).Ends pager post ↔
      match pager.frames.release ppn with
      | .ok pool => post (.ok ()) { pager with frames := pool }
      | .error cause => post (.error cause) pager := by
  simp only [releaseFrame, onFrames, ends_within, ends_update]
  cases pager.frames.release ppn <;> rfl

/-- An entry goes into the tables, unless they refuse it. -/
@[simp] theorem ends_recordEntry {pid : Pid}
    {post : Except PagingError (Option TranslationEntry) → Pager φ → Prop} :
    (recordEntry pid entry).Ends pager post ↔
      match pager.tables.put pid entry with
      | .ok (previous, tables) => post (.ok previous) { pager with tables := tables }
      | .error cause => post (.error cause) pager := by
  simp only [recordEntry, onTables, ends_within, ends_update]
  cases pager.tables.put pid entry <;> rfl

/-- A frame comes from the pool, if it has any. -/
@[simp] theorem ends_takeFrame {post : Except PagingError (Option Ppn) → Pager φ → Prop} :
    (takeFrame : PagerAction φ (Option Ppn)).Ends pager post ↔
      match pager.frames.allocate with
      | some (ppn, pool) => post (.ok (some ppn)) { pager with frames := pool }
      | none => post (.ok none) pager := by
  simp only [takeFrame, onFrames, ends_within, ends_always]
  cases pager.frames.allocate <;> rfl

/-- The search for a victim may count down pins and draw from the policy, and changes nothing
else. -/
theorem ends_chooseVictim {post : Except PagingError Victim → Pager φ → Prop} :
    (chooseVictim : PagerAction φ Victim).Ends pager post ↔
      match selectVictim pager.tables pager.pins pager.policy pager.config.evictionRounds with
      | (result, pins, policy) => post result { pager with pins := pins, policy := policy } := by
  simp only [Ends, outcome, chooseVictim]
  rcases selectVictim pager.tables pager.pins pager.policy pager.config.evictionRounds with
    ⟨_ | _, _, _⟩ <;> rfl

/-- What is done to a swap file that is in use is kept in its device. -/
theorem ends_onSwap {α : Type} {action : Action (SwapFile φ) PagingError α}
    {swap : SwapFile φ} (used : pager.device = .inUse swap)
    {post : Except PagingError α → Pager φ → Prop} :
    (onSwap action).Ends pager post ↔
      action.Ends swap fun result next => post result { pager with device := .inUse next } := by
  simp only [Ends, outcome, onSwap, used]
  cases action swap <;> rfl

/-- A frame of the machine always finds its way back to the pool. -/
theorem ends_releaseReplaced {pid : Pid} (inside : entry.ppn < pager.frames.size)
    {post : Except PagingError Unit → Pager φ → Prop} :
    (releaseReplaced pid entry).Ends pager post ↔
      post (.ok ()) ((pager.shootDown (entry.page pid)).releaseAll [entry]) := by
  obtain ⟨pool, released⟩ := FramePool.exists_release inside
  simp only [releaseReplaced, ends_bind, ends_modify, ends_releaseFrame, frames_shootDown,
    released, releaseAll, List.foldl_cons, List.foldl_nil]

/-- A page takes a frame with given contents, and the frame that it leaves, if any, goes
back to the pool. -/
def settle (pager : Pager φ) (pid : Pid) (entry : TranslationEntry) (contents : Page) :
    Pager φ :=
  let settled :=
    { pager with
      memory := pager.memory.store entry.ppn contents
      tables := (pager.tables.replace pid entry).2 }
  match pager.tables.get (entry.page pid) with
  | none => settled
  | some old => (settled.shootDown (old.page pid)).releaseAll [old]

/-- Giving frames back changes the pool and nothing else. -/
theorem exists_releaseAll (entries : List TranslationEntry) :
    ∀ pager : Pager φ, ∃ pool, pager.releaseAll entries = { pager with frames := pool } := by
  induction entries with
  | nil => exact fun pager => ⟨pager.frames, rfl⟩
  | cons entry rest hypothesis =>
    intro pager
    simp only [releaseAll, List.foldl_cons]
    cases pager.frames.release entry.ppn with
    | ok pool => exact hypothesis { pager with frames := pool }
    | error cause => exact hypothesis pager

/-- Settling a page changes memory, tables, pool and the caches of its process. -/
theorem exists_settle (pager : Pager φ) (pid : Pid) (entry : TranslationEntry)
    (contents : Page) :
    ∃ pool tlbs, pager.settle pid entry contents =
      { pager with
        memory := pager.memory.store entry.ppn contents
        tables := (pager.tables.replace pid entry).2
        frames := pool
        tlbs := tlbs } := by
  simp only [settle]
  cases pager.tables.get (entry.page pid) with
  | none => exact ⟨pager.frames, pager.tlbs, rfl⟩
  | some old =>
    obtain ⟨pool, released⟩ := exists_releaseAll [old]
      (({ pager with
          memory := pager.memory.store entry.ppn contents
          tables := (pager.tables.replace pid entry).2 } : Pager φ).shootDown (old.page pid))
    exact ⟨pool, _, released⟩

/-- A page that settles leaves the cache of its process if it was elsewhere before. -/
theorem tlbs_settle (pager : Pager φ) (pid : Pid) (entry : TranslationEntry) (contents : Page) :
    (pager.settle pid entry contents).tlbs = pager.tlbs ∨
      ∃ page, (pager.settle pid entry contents).tlbs = pager.tlbs.shootDown page := by
  simp only [settle]
  cases pager.tables.get (entry.page pid) with
  | none => exact Or.inl rfl
  | some old =>
    obtain ⟨pool, released⟩ := exists_releaseAll [old]
      (({ pager with
          memory := pager.memory.store entry.ppn contents
          tables := (pager.tables.replace pid entry).2 } : Pager φ).shootDown (old.page pid))
    simp only [released]
    exact Or.inr ⟨old.page pid, rfl⟩

/-- Freeing the memory of a process changes tables, pool and caches. -/
theorem exists_deallocate (pager : Pager φ) (pid : Pid) :
    ∃ pool tlbs, (pager.deallocate pid).2 =
      { pager with
        tables := (pager.tables.removeAll pid).2
        frames := pool
        tlbs := tlbs } := by
  obtain ⟨pool, given⟩ := exists_releaseAll (pager.tables.removeAll pid).1
    { pager with tables := (pager.tables.removeAll pid).2 }
  simp only [deallocate, given, forgetTlb]
  split
  · exact ⟨pool, pager.tlbs, rfl⟩
  · exact ⟨pool, _, rfl⟩

/-- A page that was settled is the only one with another entry. -/
theorem get_settle (pager : Pager φ) (pid : Pid) (entry : TranslationEntry) (contents : Page)
    (page : PageId) :
    (pager.settle pid entry contents).tables.get page =
      if entry.page pid = page then some entry else pager.tables.get page := by
  obtain ⟨pool, tlbs, settled⟩ := exists_settle pager pid entry contents
  rw [settled, PageTables.get_replace]

/-- To pin a frame moves none. -/
theorem Accounts.pin {config : Config} {held : Finset Ppn}
    (accounts : Accounts config held pager) (ppn : Ppn) :
    Accounts config held (pager.pin ppn) :=
  accounts.of_same rfl rfl rfl (accounts.pins.hold ppn) rfl

/-- To unpin a frame moves none. -/
theorem Accounts.unpin {config : Config} {held : Finset Ppn}
    (accounts : Accounts config held pager) (ppn : Ppn) :
    Accounts config held (pager.unpin ppn) :=
  accounts.of_same rfl rfl rfl (accounts.pins.release ppn) rfl

/-- To forget what the caches have of a page moves no frame. -/
theorem Accounts.shootDown {config : Config} {held : Finset Ppn}
    (accounts : Accounts config held pager) (page : PageId) :
    Accounts config held (pager.shootDown page) :=
  accounts.of_same rfl rfl rfl accounts.pins rfl

/-- To settle an entry turns a frame in hand into a mapped one. -/
theorem Accounts.settle {config : Config} {held : Finset Ppn}
    (accounts : Accounts config held pager) (pid : Pid) {entry : TranslationEntry}
    (valid : entry.valid = true) (inside : entry.vpn ≤ lastPage) (isHeld : entry.ppn ∈ held)
    (contents : Page) :
    Accounts config (held.erase entry.ppn) (pager.settle pid entry contents) := by
  have unowned := accounts.owner_of_held entry.ppn isHeld
  have frameInside := accounts.size_tables.symm ▸ accounts.held_lt entry.ppn isHeld
  have accepted := @PageTables.refusal_eq_none pager.tables pid entry inside frameInside unowned
  have notFree : pager.frames.isFree entry.ppn = false := by
    rw [← Bool.not_eq_true]
    exact fun free => accounts.not_held_of_isFree free isHeld
  have replaced := accounts.replace valid accepted notFree
  have stored : ∀ {held : Finset Ppn},
      Accounts config held { pager with tables := (pager.tables.replace pid entry).2 } →
      Accounts config held
        { pager with
          memory := pager.memory.store entry.ppn contents
          tables := (pager.tables.replace pid entry).2 } := fun books =>
    books.of_same rfl rfl rfl accounts.pins (PhysicalMemory.size_store _ _ _)
  simp only [Pager.settle]
  cases found : pager.tables.get (entry.page pid) with
  | none =>
    simp only [found, Option.map_none, Option.toFinset_none, Finset.union_empty] at replaced
    exact stored replaced
  | some old =>
    have oldOwned := accounts.tables.owner_of_get found
    have different : entry.ppn ≠ old.ppn := by
      intro same
      rw [same, oldOwned] at unowned
      cases unowned
    simp only [found, Option.map_some, Option.toFinset_some] at replaced
    have vacated : (pager.tables.replace pid entry).2.owner old.ppn = none := by
      rw [PageTables.owner_replace accounts.tables frameInside, if_neg different, if_pos oldOwned]
    have given := ((stored replaced).shootDown (old.page pid)).releaseAll [old] (by
      intro other listed
      rw [List.mem_singleton.mp listed]
      exact vacated)
    have members : (held ∪ {old.ppn}).erase entry.ppn \ ([old].map TranslationEntry.ppn).toFinset
        = held.erase entry.ppn := by
      have apart := accounts.not_held_of_owner oldOwned
      ext other
      simp only [Finset.mem_sdiff, Finset.mem_erase, Finset.mem_union, Finset.mem_singleton,
        List.map_cons, List.map_nil, List.mem_toFinset, List.mem_singleton]
      constructor
      · rintro ⟨⟨elsewhere, inHeld | atOld⟩, notOld⟩
        · exact ⟨elsewhere, inHeld⟩
        · exact absurd atOld notOld
      · rintro ⟨elsewhere, inHeld⟩
        exact ⟨⟨elsewhere, Or.inl inHeld⟩, fun atOld => apart (atOld ▸ inHeld)⟩
    rw [members] at given
    exact given

end Pager

namespace SwapDevice

variable [FileSystem φ]

/-- The device with a swap file on it, made if there was none. -/
def opened (name : String) : SwapDevice φ → Except SwapError Unit × SwapDevice φ
  | .inUse swap => (.ok (), .inUse swap)
  | .unused files =>
      match (SwapFile.create name).outcome files with
      | (.ok handle, after) => (.ok (), .inUse (.fresh after name handle))
      | (.error cause, after) => (.error cause, .unused after)

/-- A swap file comes about with its handle, or not at all. -/
theorem opened_unused {name : String} {files : φ} {result : Except SwapError Unit}
    {next : SwapDevice φ} (opened : (unused files).opened name = (result, next)) :
    (∃ cause after, (SwapFile.create name).outcome files = (.error cause, after) ∧
        result = .error cause ∧ next = .unused after) ∨
      ∃ handle after, (SwapFile.create name).outcome files = (.ok handle, after) ∧
        result = .ok () ∧ next = .inUse (.fresh after name handle) := by
  simp only [SwapDevice.opened] at opened
  split at opened
  · next handle after created =>
    cases opened
    exact Or.inr ⟨handle, after, created, rfl, rfl⟩
  · next cause after created =>
    cases opened
    exact Or.inl ⟨cause, after, created, rfl, rfl⟩

/-- A device that was opened without an error has a swap file in use. -/
theorem inUse_of_opened {name : String} {device next : SwapDevice φ}
    (opened : device.opened name = (.ok (), next)) : ∃ swap, next = .inUse swap := by
  cases device with
  | inUse swap =>
    cases opened
    exact ⟨swap, rfl⟩
  | unused files =>
    cases opened_unused opened with
    | inl failed =>
      obtain ⟨cause, after, _, impossible, _⟩ := failed
      cases impossible
    | inr made =>
      obtain ⟨handle, after, _, _, same⟩ := made
      exact ⟨_, same⟩

end SwapDevice

namespace Pager

variable [FileSystem φ] {pager : Pager φ} {page : PageId} {ppn : Ppn}
  {entry : TranslationEntry} {config : Config} {held : Finset Ppn}

/-- The swap file is opened, and how that ends is how initialization ends. -/
theorem ends_initializeSwap {post : Except PagingError Unit → Pager φ → Prop} :
    (initializeSwap : PagerAction φ Unit).Ends pager post ↔
      match pager.device.opened pager.config.swapFile with
      | (result, device) => post (result.mapError .swap) { pager with device := device } := by
  simp only [Ends, outcome, initializeSwap, SwapDevice.opened]
  cases used : pager.device with
  | inUse swap =>
    simp only
    rw [← used]
    rfl
  | unused files =>
    simp only
    cases SwapFile.create pager.config.swapFile files <;> rfl

/-! ### Eviction -/

/-- The ways in which evicting a page can end. -/
inductive Evicted (pager : Pager φ) : Except PagingError Ppn → Pager φ → Prop where
  | refused (resident : pager.usesSwap = false) : Evicted pager (.error .outOfMemory) pager
  | withoutFile {cause : SwapError} {device : SwapDevice φ}
      (opened : pager.device.opened pager.config.swapFile = (.error cause, device))
      (demand : pager.usesSwap = true) :
      Evicted pager (.error (.swap cause)) { pager with device := device }
  | withoutVictim {swap : SwapFile φ} {cause : PagingError} {draws : Nat}
      (opened : pager.device.opened pager.config.swapFile = (.ok (), .inUse swap))
      (searched : selectVictim pager.tables pager.pins pager.policy
        pager.config.evictionRounds = (.error cause, pager.pins, pager.policy.after draws))
      (noVictim : ∀ victim : Victim, ¬ victim.Eligible pager.tables pager.pins)
      (demand : pager.usesSwap = true) :
      Evicted pager (.error cause)
        { pager with device := .inUse swap, policy := pager.policy.after draws }
  | unwritten {swap after : SwapFile φ} {victim : Victim} {entry : TranslationEntry}
      {contents : Page} {cause : SwapError} {draws : Nat}
      (opened : pager.device.opened pager.config.swapFile = (.ok (), .inUse swap))
      (eligible : victim.Eligible pager.tables pager.pins)
      (found : pager.tables.get victim.owner = some entry)
      (atFrame : entry.ppn = victim.frame)
      (copied : pager.memory.copyOut victim.frame = .ok contents)
      (wrote : swap.Wrote victim.owner entry.readOnly contents (.error cause) after)
      (demand : pager.usesSwap = true) :
      Evicted pager (.error (.swap cause))
        { pager.shootDown victim.owner with
          device := .inUse after
          policy := pager.policy.after draws }
  | written {swap after : SwapFile φ} {victim : Victim} {entry : TranslationEntry}
      {contents : Page} {draws : Nat}
      (opened : pager.device.opened pager.config.swapFile = (.ok (), .inUse swap))
      (eligible : victim.Eligible pager.tables pager.pins)
      (found : pager.tables.get victim.owner = some entry)
      (atFrame : entry.ppn = victim.frame)
      (copied : pager.memory.copyOut victim.frame = .ok contents)
      (wrote : swap.Wrote victim.owner entry.readOnly contents (.ok ()) after)
      (demand : pager.usesSwap = true) :
      Evicted pager (.ok victim.frame)
        { pager.shootDown victim.owner with
          device := .inUse after
          policy := pager.policy.after draws
          tables := (pager.tables.remove victim.owner).2
          evictions := pager.evictions + 1 }

/-- A victim is saved before it is unmapped: where saving fails, it stays mapped. -/
theorem ends_expel {victim : Victim} {swap : SwapFile φ}
    (used : pager.device = .inUse swap) (found : pager.tables.get victim.owner = some entry)
    {post : Except PagingError Unit → Pager φ → Prop} :
    (expel victim).Ends pager post ↔
      (SwapFile.writePage pager.memory victim.owner.pid entry).Ends swap fun result after =>
        match result with
        | .ok _ =>
          post (.ok ())
            { pager.shootDown victim.owner with
              device := .inUse after
              tables := (pager.tables.remove victim.owner).2
              evictions := pager.evictions + 1 }
        | .error cause =>
          post (.error cause) { pager.shootDown victim.owner with device := .inUse after } := by
  have stillUsed : (pager.shootDown victim.owner).device = .inUse swap := used
  simp only [expel, victimEntry, ends_bind, ends_inspect, found, ends_modify, ends_get,
    ends_onSwap stillUsed, onTables, ends_within, ends_always, memory_shootDown]
  simp only [Ends]
  rcases (SwapFile.writePage pager.memory victim.owner.pid entry).outcome swap with
    ⟨_ | _, _⟩ <;> exact Iff.rfl

/-- However an eviction goes, it ends in one of the ways that are listed. -/
theorem evictPage_ends (accounts : Accounts config held pager) :
    (evictPage : PagerAction φ Ppn).Ends pager (Evicted pager) := by
  rw [evictPage]
  simp only [ends_bind, ends_get]
  split
  · next resident => exact .refused (by simpa using resident)
  · rename_i swaps
    have demand : pager.usesSwap = true := by
      rwa [Bool.not_eq_true', Bool.not_eq_false] at swaps
    rw [ends_bind, ends_initializeSwap]
    cases opened : pager.device.opened pager.config.swapFile with
    | mk result device =>
      cases result with
      | error cause => exact .withoutFile opened demand
      | ok =>
        obtain ⟨swap, rfl⟩ := SwapDevice.inUse_of_opened opened
        simp only [mapError_ok, ends_bind, ends_chooseVictim]
        rcases selectVictim_cases pager.pins pager.policy accounts.frameCount_pos
          accounts.rounds_ne_zero with
          ⟨victim, draws, searched, eligible⟩ | ⟨cause, draws, searched, none⟩
        · obtain ⟨entry, found, atFrame⟩ := accounts.tables.get_of_owner eligible.owner_eq
          have letGo := PinSet.release_hold accounts.pins victim.frame
          obtain ⟨contents, copied⟩ := exists_copyOut
            (accounts.size_memory.symm ▸ accounts.owner_lt eligible.owner_eq)
          rw [searched]
          simp only [ends_thenAlways]
          refine (@ends_expel φ _
            { pager with
              pins := pager.pins.hold victim.frame
              device := .inUse swap
              policy := pager.policy.after draws }
            entry victim swap rfl found _).mpr ?_
          apply Ends.mono (SwapFile.writePage_ends (by rw [atFrame]; exact copied))
          intro result after holds
          rcases holds with ⟨wrote, how, told⟩
          rw [accounts.tables.page_eq found] at how
          subst told
          cases wrote with
          | ok =>
            simp only [mapError_ok, unpin, shootDown, letGo]
            exact .written opened eligible found atFrame copied how demand
          | error cause =>
            simp only [mapError_error, unpin, shootDown, letGo]
            exact .unwritten opened eligible found atFrame copied how demand
        · rw [searched]
          exact .withoutVictim opened searched none demand

/-- The frames held once an operation that hands out a frame has ended. -/
def gained (held : Finset Ppn) : Except PagingError Ppn → Finset Ppn
  | .ok ppn => insert ppn held
  | .error _ => held

/-- An eviction leaves the accounts right, with the frame that it answers in hand. -/
theorem Evicted.accounts {result : Except PagingError Ppn} {after : Pager φ}
    (evicted : Evicted pager result after) (accounts : Accounts config held pager) :
    Accounts config (gained held result) after := by
  cases evicted with
  | refused | withoutFile | withoutVictim | unwritten =>
    exact accounts.of_same rfl rfl rfl accounts.pins rfl
  | written _ eligible found atFrame _ _ =>
    have unmapped := accounts.remove found
    rw [atFrame] at unmapped
    exact unmapped.of_same rfl rfl rfl accounts.pins rfl

/-- A frame that was evicted was in nobody's hand. -/
theorem Evicted.not_held {after : Pager φ} (evicted : Evicted pager (.ok ppn) after)
    (accounts : Accounts config held pager) : ppn ∉ held := by
  cases evicted with
  | written _ eligible => exact accounts.not_held_of_owner eligible.owner_eq

/-- An eviction neither takes from the pool nor adds to it. -/
theorem Evicted.frames_eq {result : Except PagingError Ppn} {after : Pager φ}
    (evicted : Evicted pager result after) : after.frames = pager.frames := by
  cases evicted <;> rfl

/-- An evicted page's frame can always be put into the pool. -/
theorem evictToPool_ends (accounts : Accounts config held pager) :
    (evictToPool : PagerAction φ Ppn).Ends pager fun result next =>
      match result with
      | .ok ppn => ∃ after pool, Evicted pager (.ok ppn) after ∧
          pager.frames.release ppn = .ok pool ∧ next = { after with frames := pool }
      | .error cause => Evicted pager (.error cause) next := by
  rw [evictToPool]
  refine (evictPage_ends accounts).bind (fun ppn after evicted => ?_) (fun _ _ => id)
  have next := evicted.accounts accounts
  have inside : ppn < after.frames.size :=
    next.size_pool.symm ▸ next.held_lt ppn (Finset.mem_insert_self ppn held)
  obtain ⟨pool, released⟩ := FramePool.exists_release inside
  simp only [ends_bind, ends_releaseFrame, released, ends_pure]
  exact ⟨after, pool, evicted, evicted.frames_eq ▸ released, rfl⟩

/-! ### Handing out frames -/

/-- The ways in which handing out a frame can end. -/
inductive Obtained (pager : Pager φ) : Except PagingError Ppn → Pager φ → Prop where
  | fromPool {ppn : Ppn} {pool : FramePool} (taken : pager.frames.allocate = some (ppn, pool)) :
      Obtained pager (.ok ppn) (requestReclaim { pager with frames := pool })
  | byEviction {ppn : Ppn} {after : Pager φ} (empty : pager.frames.allocate = none)
      (evicted : Evicted pager (.ok ppn) after) :
      Obtained pager (.ok ppn) (requestReclaim after)
  | failed {cause : PagingError} {after : Pager φ} (empty : pager.frames.allocate = none)
      (evicted : Evicted pager (.error cause) after) :
      Obtained pager (.error cause) after

/-- However a frame is got, it comes from the pool or from an eviction. -/
theorem getFreeFrame_ends (accounts : Accounts config held pager) :
    (getFreeFrame : PagerAction φ Ppn).Ends pager (Obtained pager) := by
  rw [getFreeFrame]
  simp only [ends_bind, ends_takeFrame]
  cases taken : pager.frames.allocate with
  | some found =>
    simp only [ends_pure, ends_modify]
    exact .fromPool taken
  | none =>
    simp only [ends_bind, takeEvictedFrame]
    apply Ends.mono (evictToPool_ends accounts)
    intro result next holds
    cases result with
    | error cause => exact .failed taken holds
    | ok ppn =>
      rcases holds with ⟨after, pool, evicted, released, rfl⟩
      have again := FramePool.allocate_of_release accounts.pool taken released
      simp only [ends_takeFrame, again, ends_pure, ends_modify]
      rw [← evicted.frames_eq]
      exact .byEviction taken evicted

/-- Whoever gets a frame has it in hand, and the accounts are right. -/
theorem Obtained.accounts {result : Except PagingError Ppn} {after : Pager φ}
    (obtained : Obtained pager result after) (accounts : Accounts config held pager) :
    Accounts config (gained held result) after := by
  cases obtained with
  | fromPool taken => exact (accounts.allocate taken).requestReclaim
  | byEviction _ evicted => exact (evicted.accounts accounts).requestReclaim
  | failed _ evicted => exact evicted.accounts accounts

/-- A frame that was got was in nobody's hand. -/
theorem Obtained.not_held {after : Pager φ} (obtained : Obtained pager (.ok ppn) after)
    (accounts : Accounts config held pager) : ppn ∉ held := by
  cases obtained with
  | fromPool taken =>
    exact accounts.not_held_of_isFree (FramePool.isFree_of_allocate_self accounts.pool taken)
  | byEviction _ evicted => exact evicted.not_held accounts

/-- Handing out a frame unmaps at most one page, and maps none. -/
theorem Evicted.get_of_get {result : Except PagingError Ppn} {after : Pager φ}
    (evicted : Evicted pager result after) (found : after.tables.get page = some entry) :
    pager.tables.get page = some entry := by
  cases evicted with
  | refused | withoutFile | withoutVictim | unwritten => exact found
  | written =>
    rw [PageTables.get_remove] at found
    split at found
    · cases found
    · exact found

/-- To get a frame maps no page anew, and changes no entry that stays. -/
theorem Obtained.get_of_get {result : Except PagingError Ppn} {after : Pager φ}
    (obtained : Obtained pager result after) (found : after.tables.get page = some entry) :
    pager.tables.get page = some entry := by
  cases obtained with
  | fromPool =>
    rw [tables_requestReclaim] at found
    exact found
  | byEviction _ evicted =>
    rw [tables_requestReclaim] at found
    exact evicted.get_of_get found
  | failed _ evicted => exact evicted.get_of_get found

/-! ### Backing a page with a fresh frame -/

/-- The ways in which backing a page can end. -/
inductive Backed (pager : Pager φ) (page : PageId) (readOnly : Bool) :
    Except PagingError TranslationEntry → Pager φ → Prop where
  | outside (beyond : lastPage < page.vpn) :
      Backed pager page readOnly (.error (.invalidPage page.vpn)) pager
  | noFrame {cause : PagingError} {after : Pager φ} (inside : page.vpn ≤ lastPage)
      (obtained : Obtained pager (.error cause) after) :
      Backed pager page readOnly (.error cause) after
  | fresh {ppn : Ppn} {middle : Pager φ} (inside : page.vpn ≤ lastPage)
      (obtained : Obtained pager (.ok ppn) middle) :
      Backed pager page readOnly (.ok (.fresh page.vpn ppn readOnly))
        (middle.settle page.pid (.fresh page.vpn ppn readOnly) Page.zero)

omit [FileSystem φ] in
/-- A held frame can be cleared and mapped without fail. -/
theorem ends_mapZeroed {pid : Pid} (accounts : Accounts config held pager)
    (valid : entry.valid = true) (inside : entry.vpn ≤ lastPage) (isHeld : entry.ppn ∈ held)
    {post : Except PagingError (Option TranslationEntry) → Pager φ → Prop} :
    (mapZeroed pid entry).Ends pager post ↔
      post (.ok (pager.tables.get (entry.page pid)))
        { pager with
          memory := pager.memory.store entry.ppn Page.zero
          tables := (pager.tables.replace pid entry).2 } := by
  have frameInside := accounts.held_lt entry.ppn isHeld
  have accepted := @PageTables.refusal_eq_none pager.tables pid entry inside
    (accounts.size_tables.symm ▸ frameInside) (accounts.owner_of_held entry.ppn isHeld)
  obtain ⟨old, there⟩ := exists_copyOut (accounts.size_memory.symm ▸ frameInside)
  have cleared : pager.memory.zero entry.ppn = .ok (pager.memory.store entry.ppn Page.zero) := by
    simp only [PhysicalMemory.zero, there]
  have recorded : pager.tables.put pid entry =
      .ok (pager.tables.get (entry.page pid), (pager.tables.replace pid entry).2) := by
    rw [PageTables.put, if_pos valid, accepted]
    rfl
  simp only [mapZeroed, zeroFrame, onMemory, ends_bind, ends_within, ends_update, cleared,
    Except.map, ends_recordEntry, recorded]

omit [FileSystem φ] in
/-- A page that moves into a frame just handed out leaves the frames held as they
were. -/
theorem Accounts.settle_fresh (accounts : Accounts config (insert ppn held) pager)
    (notHeld : ppn ∉ held) (inside : page.vpn ≤ lastPage) (readOnly : Bool) (contents : Page) :
    Accounts config held
      (pager.settle page.pid (.fresh page.vpn ppn readOnly) contents) := by
  have isHeld : (TranslationEntry.fresh page.vpn ppn readOnly).ppn ∈ insert ppn held :=
    Finset.mem_insert_self ppn held
  have settled := accounts.settle page.pid rfl inside isHeld contents
  rwa [TranslationEntry.fresh, Finset.erase_insert notHeld] at settled

/-- However a page is made, it ends up backed by a zeroed frame or the call fails as told. -/
theorem newPage_ends (accounts : Accounts config held pager) (page : PageId) (readOnly : Bool) :
    (newPage page readOnly : PagerAction φ TranslationEntry).Ends pager
      (Backed pager page readOnly) := by
  rw [newPage]
  split
  · next beyond => exact .outside beyond
  · next notBeyond =>
    have inside : page.vpn ≤ lastPage := UInt32.not_lt.mp notBeyond
    refine (getFreeFrame_ends accounts).bind (fun ppn middle obtained => ?_)
      (fun cause after obtained => .noFrame inside obtained)
    have books := obtained.accounts accounts
    have isHeld : (TranslationEntry.fresh page.vpn ppn readOnly).ppn ∈ insert ppn held :=
      Finset.mem_insert_self ppn held
    have whole : Backed pager page readOnly _ _ := .fresh inside obtained
    rw [settle] at whole
    simp only
    rw [ends_bind, ends_attempt, ends_mapZeroed books rfl inside isHeld]
    cases found : middle.tables.get
        ((TranslationEntry.fresh page.vpn ppn readOnly).page page.pid) with
    | none =>
      rw [found] at whole
      exact whole
    | some old =>
      rw [found] at whole
      have oldInside : old.ppn < middle.frames.size :=
        books.size_pool.symm ▸ books.owner_lt (books.tables.owner_of_get found)
      simp only [ends_bind]
      exact (ends_releaseReplaced (by exact oldInside)).mpr whole

/-- The frames held stay the same while a page is backed. -/
theorem Backed.accounts {readOnly : Bool} {result : Except PagingError TranslationEntry}
    {after : Pager φ} (backed : Backed pager page readOnly result after)
    (accounts : Accounts config held pager) : Accounts config held after := by
  cases backed with
  | outside => exact accounts
  | noFrame _ obtained => exact obtained.accounts accounts
  | fresh inside obtained =>
    exact (obtained.accounts accounts).settle_fresh (obtained.not_held accounts) inside _ _

/-- A page that was backed is resident. -/
theorem Backed.get_eq {readOnly : Bool} {after : Pager φ}
    (backed : Backed pager page readOnly (.ok entry) after) :
    after.tables.get page = some entry := by
  cases backed with
  | fresh => rw [get_settle, if_pos (TranslationEntry.page_fresh page _ _)]

end Pager

end VirtualMemory
