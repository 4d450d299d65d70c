/-
Module: VirtualMemory.Pager.State
Purpose: The pager: physical memory and everything that keeps track of it.
Main exports:
  SwapDevice, Pager, Pager.boot, PagerAction
-/
import VirtualMemory.Config
import VirtualMemory.Eviction
import VirtualMemory.Frame.Pool
import VirtualMemory.Storage.SwapFile
import VirtualMemory.TlbBank

namespace VirtualMemory

/-- The file system for the swap file, before and after the file is made. -/
inductive SwapDevice (φ : Type) where
  | unused (files : φ)
  | inUse (swap : SwapFile φ)

namespace SwapDevice

variable {φ : Type}

/-- The swap file, once it is made. -/
def swap? : SwapDevice φ → Option (SwapFile φ)
  | unused _ => none
  | inUse swap => some swap

/-- The file system. -/
def files : SwapDevice φ → φ
  | unused files => files
  | inUse swap => swap.files

/-- The device with its file system replaced. -/
def withFiles (device : SwapDevice φ) (files : φ) : SwapDevice φ :=
  match device with
  | unused _ => .unused files
  | inUse swap => .inUse { swap with files := files }

end SwapDevice

/-- Owns physical memory and every structure that tracks it. -/
structure Pager (φ : Type) where
  config : Config
  memory : PhysicalMemory
  frames : FramePool
  tables : PageTables
  pins : PinSet
  device : SwapDevice φ
  policy : Policy
  tlbs : TlbBank
  /-- Whether background reclamation was asked for and has not started yet. -/
  reclaimRequested : Bool := false
  evictions : Nat := 0

/-- An operation of the pager. -/
abbrev PagerAction (φ α : Type) := Action (Pager φ) PagingError α

namespace Pager

variable {φ : Type}

/-- A pager for a machine as configured, with every frame free. -/
def boot (config : Config) (files : φ) (policy : Policy) (chance : Chance) :
    Except ConfigError (Pager φ) :=
  match config.validate with
  | .error cause => .error cause
  | .ok () =>
      .ok
        { config := config
          memory := .blank config.frames
          frames := .full config.frames
          tables := .empty config.frames
          pins := .empty
          device := .unused files
          policy := policy
          tlbs := { chance := chance } }

/-- Whether pages may be written out. -/
def usesSwap (pager : Pager φ) : Bool :=
  pager.config.paging == .demand

/-- Whether there is a swap file and it is open. -/
def swapExists (pager : Pager φ) : Bool :=
  match pager.device.swap? with
  | some swap => swap.isOpen
  | none => false

/-- Whether a page was ever written out. -/
def swapContains (pager : Pager φ) (page : PageId) : Bool :=
  match pager.device.swap? with
  | some swap => swap.contains page
  | none => false

/-- The number of swap slots handed out. -/
def swapSlotCount (pager : Pager φ) : Nat :=
  match pager.device.swap? with
  | some swap => swap.slotCount
  | none => 0

/-- The number of free frames. -/
def freeFrameCount (pager : Pager φ) : Nat := pager.frames.freeCount

/-- The number of resident pages. -/
def residentPageCount (pager : Pager φ) : Nat := pager.tables.residentCount

/-- The number of pinned frames. -/
def pinnedFrameCount (pager : Pager φ) : Nat := pager.pins.pinnedCount

/-- The entry of a page, if it is resident. -/
def translation (pager : Pager φ) (page : PageId) : Option TranslationEntry :=
  pager.tables.get page

/-- An action on the frame pool. -/
def onFrames {ε α : Type} (action : Action FramePool ε α) : Action (Pager φ) ε α :=
  action.within Pager.frames fun pager frames => { pager with frames := frames }

/-- An action on the page tables. -/
def onTables {ε α : Type} (action : Action PageTables ε α) : Action (Pager φ) ε α :=
  action.within Pager.tables fun pager tables => { pager with tables := tables }

/-- An action on physical memory. -/
def onMemory {ε α : Type} (action : Action PhysicalMemory ε α) : Action (Pager φ) ε α :=
  action.within Pager.memory fun pager memory => { pager with memory := memory }

/-- An action on the translation caches. -/
def onTlbs {ε α : Type} (action : Action TlbBank ε α) : Action (Pager φ) ε α :=
  action.within Pager.tlbs fun pager tlbs => { pager with tlbs := tlbs }

/-- The pager with a frame pinned once more. -/
def pin (pager : Pager φ) (ppn : Ppn) : Pager φ :=
  { pager with pins := pager.pins.hold ppn }

/-- The pager with one pin of a frame gone. -/
def unpin (pager : Pager φ) (ppn : Ppn) : Pager φ :=
  { pager with pins := pager.pins.release ppn }

/-- Runs an action with a frame pinned, and lets go of the frame however the
action ends. -/
def whilePinned {ε α : Type} (ppn : Ppn) (action : Action (Pager φ) ε α) :
    Action (Pager φ) ε α := do
  modify (·.pin ppn)
  action.thenAlways (·.unpin ppn)

/-- Gives a frame back to the pool. -/
def releaseFrame (ppn : Ppn) : PagerAction φ Unit :=
  onFrames (.update fun pool => (pool.release ppn).map fun released => ((), released))

/-- Records an entry in the page tables and answers the one it replaces. -/
def recordEntry (pid : Pid) (entry : TranslationEntry) :
    PagerAction φ (Option TranslationEntry) :=
  onTables (.update fun tables => tables.put pid entry)

/-- Drops a page's translation from the cache attached to its process. -/
def shootDown (pager : Pager φ) (page : PageId) : Pager φ :=
  { pager with tlbs := pager.tlbs.shootDown page }

end Pager

end VirtualMemory
