/-
Module: VirtualMemory.Proofs.Pager.Settled
Purpose: A pager from which nobody holds a frame, with a swap file that can be closed and removed,
  stays so whatever its processes ask for, and is at rest once it is terminated.
Main exports:
  SwapFile.Removable, Removable.terminate; SwapDevice.Removable, removable_lasting;
  Pager.Settled and its lemma for every operation; terminate_of_removable, terminate_of_closed

On files in memory that nobody else touches, the name and the handle of a swap file are there until
the file is given up, and the name is gone from then on.
-/
import VirtualMemory.Proofs.Pager.Devices
import VirtualMemory.Proofs.Process.Exit
import VirtualMemory.Proofs.Storage.Removal

namespace VirtualMemory

open VirtualMemory.Action FileSystem

/-! ### A swap file that can be removed -/

namespace SwapFile

variable {swap after : SwapFile EphemeralFiles} {name : String}

/-- A swap file that can be closed and removed, or that was. -/
structure Removable (name : String) (swap : SwapFile EphemeralFiles) : Prop where
  name_eq : swap.name = name
  named : ∀ handle, swap.handle = some handle → ∃ number, swap.files.names[name]? = some number
  isOpen : ∀ handle, swap.handle = some handle →
    ∃ number, swap.files.handles[handle]? = some number
  removed : swap.handle = none → swap.files.names[name]? = none

namespace Removable

/-- What is in the file does not matter, and neither do the slots. -/
theorem of_same (removable : swap.Removable name) (sameName : after.name = swap.name)
    (sameHandle : after.handle = swap.handle) (names : after.files.names = swap.files.names)
    (handles : after.files.handles = swap.files.handles) : after.Removable name where
  name_eq := sameName.trans removable.name_eq
  named handle isHandle := names ▸ removable.named handle (sameHandle ▸ isHandle)
  isOpen handle isHandle := handles ▸ removable.isOpen handle (sameHandle ▸ isHandle)
  removed gone := names ▸ removable.removed (sameHandle ▸ gone)

theorem of_removed (sameName : swap.name = name) (gone : swap.handle = none)
    (removed : swap.files.names[name]? = none) : swap.Removable name where
  name_eq := sameName
  named handle isHandle := by cases gone.symm.trans isHandle
  isOpen handle isHandle := by cases gone.symm.trans isHandle
  removed _ := removed

theorem fresh {files made : EphemeralFiles} {handle : FileHandle}
    (created : (create name).outcome files = (.ok handle, made)) :
    (SwapFile.fresh made name handle).Removable name := by
  obtain ⟨before, opened⟩ := exists_openFile_of_create created
  obtain ⟨named, isOpen⟩ := (before.openFile_ends name).outcome opened handle rfl
  exact {
    name_eq := rfl
    named := fun _ _ => named
    isOpen := fun _ same => Option.some.inj same ▸ isOpen
    removed := nofun }

theorem wrote {page : PageId} {readOnly : Bool} {contents : Page} {result : Except SwapError Unit}
    (removable : swap.Removable name) (wrote : swap.Wrote page readOnly contents result after) :
    after.Removable name := by
  cases wrote with
  | closed => exact removable
  | failed _ wrote | short _ wrote | whole _ wrote =>
    obtain ⟨names, handles⟩ := (swap.files.writeFile_keeps _ _ _).outcome wrote
    exact removable.of_same rfl rfl names handles

theorem loaded {page : PageId} {result : Except SwapError (Option (Page × Bool))}
    (removable : swap.Removable name) (loaded : swap.Loaded page result after) :
    after.Removable name := by
  have reads : ∀ file offset length, (readFile file offset length).Ends swap.files
      fun _ files => files.names = swap.files.names ∧ files.handles = swap.files.handles :=
    fun _ _ _ => ends_inspect.mpr ⟨rfl, rfl⟩
  cases loaded with
  | absent | closed => exact removable
  | failed _ _ read | short _ _ read | whole _ _ read =>
    obtain ⟨names, handles⟩ := (reads _ _ _).outcome read
    exact removable.of_same rfl rfl names handles

/-- The file is closed and removed, unless it was before. -/
theorem terminate (removable : swap.Removable name) :
    (SwapFile.terminate : Action (SwapFile EphemeralFiles) SwapError Unit).Ends swap
      fun result after => result = .ok () ∧ after.handle = none ∧ after.Removable name := by
  obtain rfl := removable.name_eq
  simp only [SwapFile.terminate, ends_bind, ends_get]
  cases isHandle : swap.handle with
  | none => exact ⟨rfl, isHandle, removable⟩
  | some handle =>
    obtain ⟨inode, named⟩ := removable.named handle isHandle
    obtain ⟨opened, isOpen⟩ := removable.isOpen handle isHandle
    obtain ⟨closed, closes, sameNames, _⟩ := EphemeralFiles.close_of_open isOpen
    obtain ⟨removed, removes, fewerNames, _⟩ := EphemeralFiles.remove_of_named (sameNames ▸ named)
    simp only [ends_bind, ends_set, ends_onFiles]
    change (update fun files => files.close handle).Ends swap.files _
    simp only [ends_update, closes, mapError_ok]
    change (update fun files => files.remove swap.name).Ends closed _
    simp only [ends_update, removes, mapError_ok]
    refine ⟨trivial, trivial, of_removed rfl rfl ?_⟩
    rw [fewerNames]
    exact Std.ExtTreeMap.getElem?_erase_self

end Removable

end SwapFile

namespace SwapDevice

/-- The swap file, once it is made, can be closed and removed, or it was. -/
def Removable (name : String) : SwapDevice EphemeralFiles → Prop
  | unused _ => True
  | inUse swap => swap.Removable name

theorem removable_lasting (name : String) : Lasting name (Removable name) where
  opened := by
    intro device next result removable opened
    cases device with
    | inUse swap =>
      cases opened
      exact removable
    | unused files =>
      rcases opened_unused opened with ⟨_, _, _, _, rfl⟩ | ⟨handle, made, created, _, rfl⟩
      · trivial
      · exact .fresh created
  wrote removable _ wrote := SwapFile.Removable.wrote removable wrote
  loaded removable loaded := SwapFile.Removable.loaded removable loaded

end SwapDevice

/-! ### A pager without guests -/

namespace Pager

section Settled

variable {φ : Type} {config : Config} {gone other : PageId → Prop} {holds : SwapDevice φ → Prop}
  {pager : Pager φ} {process : UserProcess}

/-- The books of a pager balance and nobody else holds a frame, some pages are not resident, and
its swap device is as it has to be. -/
structure Settled (config : Config) (gone : PageId → Prop) (holds : SwapDevice φ → Prop)
    (pager : Pager φ) : Prop where
  accounts : Accounts config ∅ pager
  absent : ∀ page, gone page → pager.tables.get page = none
  device : holds pager.device

namespace Settled

theorem of_gone (settled : pager.Settled config gone holds)
    (fewer : ∀ page, other page → gone page) : pager.Settled config other holds :=
  { settled with absent := fun page isGone => settled.absent page (fewer page isGone) }

/-- A process that exits takes its pages along. If it has exited before it has none. -/
theorem exit (settled : pager.Settled config gone holds)
    (before : process.exited = true → ∀ vpn, gone (process.page vpn)) :
    (process.exit pager).2.2.Settled config (fun page => gone page ∨ page.pid = process.pid)
      holds := by
  have accounts := settled.accounts.exit process
  revert accounts
  rw [UserProcess.exit]
  split
  · next exited =>
    intro _
    refine settled.of_gone fun page isGone => isGone.elim id fun same => ?_
    exact (show process.page page.vpn = page by rw [UserProcess.page, ← same]) ▸
      before exited page.vpn
  · intro accounts
    obtain ⟨pool, tlbs, freed⟩ := exists_deallocate pager process.pid
    simp only [freed] at accounts ⊢
    refine ⟨accounts, fun page isGone => ?_, settled.device⟩
    rw [PageTables.get_removeAll]
    split
    · rfl
    · next others => exact settled.absent page (isGone.resolve_right others)

variable [FileSystem φ]

/-- What a process asks for is about its own pages. If it has exited it has none. -/
theorem serve (lasting : SwapDevice.Lasting config.swapFile holds)
    (mine : process.exited = false → ∀ vpn, ¬ gone (process.page vpn)) (request : ProcessRequest) :
    (process.serve request).Preserves (Settled (φ := φ) config gone holds) := by
  intro pager settled
  cases exited : process.exited with
  | false =>
    have keeps : process.Keeps fun pager : Pager φ =>
        (Accounts config ∅ pager ∧ ∀ page, gone page → pager.tables.get page = none) ∧
          Accounts config ∅ pager ∧ holds pager.device :=
      (UserProcess.keeps_absent (mine exited)).and (keeps_lasting process lasting)
    refine (keeps.serve request pager
      ⟨⟨settled.accounts, settled.absent⟩, settled.accounts, settled.device⟩).mono ?_
    rintro _ _ ⟨⟨accounts, absent⟩, _, device⟩
    exact ⟨accounts, absent, device⟩
  | true =>
    -- Its own pages may be among those that are gone, so nothing may be brought back for it.
    have emptied : ∀ {pager : Pager φ}, pager.Settled config gone holds →
        (process.changeCache Tlb.invalidateAll pager).Settled config gone holds :=
      fun settled => ⟨settled.accounts.withTlbs _, settled.absent, settled.device⟩
    have accessed : ∀ {pager : Pager φ} {vpn write}, pager.Settled config gone holds →
        Settled config gone holds
          { pager with tables := (pager.tables.markAccessed (process.page vpn) write).2 } := by
      intro pager vpn write settled
      refine ⟨settled.accounts.markAccessed _ _, fun page isGone => ?_, settled.device⟩
      have absent := settled.absent page isGone
      rw [PageTables.get_markAccessed]
      split
      · next same => rw [same, absent, Option.map_none]
      · exact absent
    apply Ends.mono (UserProcess.serve_of_exited exited request)
    rintro _ after (rfl | rfl | rfl)
    · exact settled
    · exact UserProcess.saveState_keeps accessed emptied settled
    · exact emptied settled

theorem evictToPool (lasting : SwapDevice.Lasting config.swapFile holds) :
    (Pager.evictToPool : PagerAction φ Ppn).Preserves (Settled config gone holds) := by
  intro pager settled
  apply Ends.mono settled.accounts.evictToPool
  rintro _ _ ⟨accounts, result, after, pool, evicted, rfl⟩
  exact ⟨accounts, fun page isGone => evicted.absent (settled.absent page isGone),
    evicted.lasting lasting settled.accounts settled.device⟩

theorem initializeSwap (lasting : SwapDevice.Lasting config.swapFile holds) :
    (Pager.initializeSwap : PagerAction φ Unit).Preserves (Settled config gone holds) := by
  intro pager settled
  have accounts := settled.accounts
  rw [ends_initializeSwap]
  cases opened : pager.device.opened pager.config.swapFile with
  | mk result device =>
    refine ⟨accounts.of_same rfl rfl rfl accounts.pins rfl, settled.absent, ?_⟩
    exact lasting.opened settled.device (accounts.config_eq ▸ opened)

end Settled

end Settled

theorem swapExists_eq_false_iff {φ : Type} {pager : Pager φ} :
    pager.swapExists = false ↔ ∀ swap, pager.device = .inUse swap → swap.handle = none := by
  rw [swapExists]
  cases pager.device with
  | unused files => exact iff_of_true rfl nofun
  | inUse swap =>
    simp only [SwapDevice.swap?, SwapFile.isOpen, Option.isSome_eq_false_iff,
      Option.isNone_iff_eq_none, SwapDevice.inUse.injEq, forall_eq']

/-- An open swap file is closed and removed, and a pager that has none is left as it is. -/
theorem terminate_of_removable {config : Config} {pager : Pager EphemeralFiles}
    (removable : pager.device.Removable config.swapFile) :
    (Pager.terminate : PagerAction EphemeralFiles Unit).Ends pager fun result after =>
      result = .ok () ∧
        after = { pager with tlbs := pager.tlbs.detachAll, device := after.device } ∧
        after.swapExists = false ∧ after.device.Removable config.swapFile := by
  simp only [Pager.terminate, ends_bind, ends_modify, ends_get]
  split
  · next files used =>
    refine ⟨rfl, rfl, swapExists_eq_false_iff.mpr fun swap same => ?_, removable⟩
    cases used.symm.trans same
  · next swap used =>
    rw [show pager.device = .inUse swap from used] at removable
    refine (ends_onSwap (by exact used)).mpr ?_
    rw [ends_causing]
    apply Ends.mono (SwapFile.Removable.terminate removable)
    rintro result after ⟨rfl, gone, removed⟩
    refine ⟨rfl, rfl, swapExists_eq_false_iff.mpr fun swap same => ?_, removed⟩
    exact SwapDevice.inUse.inj same ▸ gone

/-- Without a swap file that is open there is nothing to do but to forget the caches. -/
theorem terminate_of_closed {φ : Type} [FileSystem φ] {pager : Pager φ}
    (closed : pager.swapExists = false) :
    (Pager.terminate : PagerAction φ Unit).outcome pager =
      (.ok (), { pager with tlbs := pager.tlbs.detachAll }) := by
  suffices ends : (Pager.terminate : PagerAction φ Unit).Ends pager fun result after =>
      result = .ok () ∧ after = { pager with tlbs := pager.tlbs.detachAll } from
    Prod.ext_iff.mpr ends
  simp only [Pager.terminate, ends_bind, ends_modify, ends_get]
  split
  · exact ⟨rfl, rfl⟩
  · next swap used =>
    have gone : swap.handle = none := swapExists_eq_false_iff.mp closed swap used
    refine (ends_onSwap (by exact used)).mpr ?_
    simp only [ends_causing, SwapFile.terminate, ends_bind, ends_get, gone]
    exact ⟨rfl, by rw [show pager.device = .inUse swap from used]; rfl⟩

end Pager

end VirtualMemory
