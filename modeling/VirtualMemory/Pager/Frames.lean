/-
Module: VirtualMemory.Pager.Frames
Purpose: Handing out frames, and evicting pages when none is left.
Main exports:
  Pager.initializeSwap, Pager.evictPage, Pager.evictToPool, Pager.getFreeFrame,
  Pager.returnFrame
-/
import VirtualMemory.Pager.State

namespace VirtualMemory.Pager

variable {φ : Type}

/-- Chooses and pins the page to evict. -/
def chooseVictim : PagerAction φ Victim := fun pager =>
  match selectVictim pager.tables pager.pins pager.policy pager.config.evictionRounds with
  | (.ok victim, pins, policy) =>
      .ok victim { pager with pins := pins, policy := policy }
  | (.error cause, pins, policy) =>
      .error cause { pager with pins := pins, policy := policy }

/-- An action on the swap file; without one there is nothing to act on. -/
def onSwap {α : Type} (action : Action (SwapFile φ) PagingError α) :
    PagerAction φ α := fun pager =>
  match pager.device with
  | .unused _ => .error (.swap .noFileSystem) pager
  | .inUse swap =>
      match action swap with
      | .ok answer next => .ok answer { pager with device := .inUse next }
      | .error cause next => .error cause { pager with device := .inUse next }

/-- The entry of a victim's page. -/
def victimEntry (victim : Victim) : PagerAction φ TranslationEntry :=
  .inspect fun pager =>
    match pager.tables.get victim.owner with
    | some entry => .ok entry
    | none =>
        .error (.inconsistent
          (s!"frame {victim.frame} names {PageTables.describePage victim.owner}, " ++
            "which is not mapped"))

/-- Takes a frame from the pool, if there is one. -/
def takeFrame : PagerAction φ (Option Ppn) :=
  onFrames (.always fun pool =>
    match pool.allocate with
    | some (ppn, rest) => (some ppn, rest)
    | none => (none, pool))

/-- Asks for background reclamation if few frames are left. -/
def requestReclaim (pager : Pager φ) : Pager φ :=
  if pager.usesSwap && pager.freeFrameCount < pager.config.lowWaterMark then
    { pager with reclaimRequested := true }
  else pager

/-- Takes back a frame that was handed out and never mapped. A frame that holds a
page is refused. -/
def returnFrame (ppn : Ppn) : PagerAction φ Unit := do
  match (← get).tables.owner ppn with
  | some owner => throw (.frameInUse ppn owner)
  | none => releaseFrame ppn

variable [FileSystem φ]

/-- Makes the swap file on first use. A failed attempt can be repeated. -/
def initializeSwap : PagerAction φ Unit := fun pager =>
  match pager.device with
  | .inUse _ => .ok () pager
  | .unused files =>
      match SwapFile.create pager.config.swapFile files with
      | .error cause after =>
          .error (.swap cause) { pager with device := .unused after }
      | .ok handle after =>
          .ok ()
            { pager with
              device := .inUse (.fresh after pager.config.swapFile handle) }

/-- Writes a chosen victim out and unmaps it. The cached translation goes first,
so that its process faults and leaves the frame alone while it is written. -/
def expel (victim : Victim) : PagerAction φ Unit := do
  let entry ← victimEntry victim
  modify (·.shootDown victim.owner)
  let memory := (← get).memory
  onSwap (SwapFile.writePage memory victim.owner.pid entry)
  onTables (.always fun tables => ((), (tables.remove victim.owner).2))
  modify fun pager => { pager with evictions := pager.evictions + 1 }

/-- Writes out one resident, unpinned page and answers its frame, which then
belongs to the caller. -/
def evictPage : PagerAction φ Ppn := do
  if !(← get).usesSwap then
    throw .outOfMemory
  initializeSwap
  let victim ← chooseVictim
  (expel victim).thenAlways (·.unpin victim.frame)
  return victim.frame

/-- Evicts one page, puts its frame into the pool and answers it. -/
def evictToPool : PagerAction φ Ppn := do
  let evicted ← evictPage
  releaseFrame evicted
  return evicted

/-- Makes a frame free by evicting a page, and takes it. -/
def takeEvictedFrame : PagerAction φ Ppn := do
  let _ ← evictToPool
  match ← takeFrame with
  | some ppn => return ppn
  | none => throw .outOfMemory

/-- Hands out a frame. If none is free, a page is evicted for it. -/
def getFreeFrame : PagerAction φ Ppn := do
  let ppn ←
    match ← takeFrame with
    | some ppn => pure ppn
    | none => takeEvictedFrame
  modify requestReclaim
  return ppn

end VirtualMemory.Pager
