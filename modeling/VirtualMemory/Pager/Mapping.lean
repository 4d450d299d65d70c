/-
Module: VirtualMemory.Pager.Mapping
Purpose: Giving pages frames, and taking the frames of a process back.
Main exports:
  Pager.newPage, Pager.newPagePinned, Pager.putTranslation,
  Pager.getTranslationPinned, Pager.deallocate
-/
import VirtualMemory.Pager.Frames

namespace VirtualMemory

/-- An entry whose frame is pinned, as a line of a report. -/
def TranslationEntry.describePinned (entry : TranslationEntry) : String :=
  s!"PinnedTranslation \x7b entry: {entry.describe}, " ++
    s!"frame: {PinSet.describePin entry.ppn} \x7d"

namespace Pager

variable {φ : Type}

/-- Gives back the frame that a page left when it was mapped elsewhere, and drops
the translation that led there. -/
def releaseReplaced (pid : Pid) (previous : TranslationEntry) : PagerAction φ Unit := do
  modify (·.shootDown (previous.page pid))
  releaseFrame previous.ppn

/-- Fills a frame with zeros. -/
def zeroFrame (ppn : Ppn) : PagerAction φ Unit :=
  onMemory (.update fun memory => (memory.zero ppn).map fun zeroed => ((), zeroed))

/-- Clears a frame and maps a page to it; answers the entry that was replaced. -/
def mapZeroed (pid : Pid) (entry : TranslationEntry) :
    PagerAction φ (Option TranslationEntry) := do
  zeroFrame entry.ppn
  recordEntry pid entry

/-- Records an entry whose frame was handed out. The frame that the page leaves
goes back to the pool. An entry that is not valid unmaps its page. -/
def putTranslation (pid : Pid) (entry : TranslationEntry) : PagerAction φ Unit := do
  if entry.valid && (← get).frames.isFree entry.ppn then
    throw (.frameNotAllocated entry.ppn)
  match ← recordEntry pid entry with
  | none => return
  | some previous =>
      if !entry.valid || previous.ppn ≠ entry.ppn then
        releaseReplaced pid previous

/-- Looks a page up and pins its frame, in one step. -/
def getTranslationPinned (page : PageId) : PagerAction φ (Option TranslationEntry) := do
  match (← get).tables.get page with
  | none => return none
  | some entry =>
      modify (·.pin entry.ppn)
      return some entry

/-- The pager with frames given back one after another. A frame that does not
exist is passed over. -/
def releaseAll (pager : Pager φ) (entries : List TranslationEntry) : Pager φ :=
  entries.foldl
    (fun state entry =>
      match state.frames.release entry.ppn with
      | .ok frames => { state with frames := frames }
      | .error _ => state)
    pager

/-- The pager with a process's cache emptied and taken away. -/
def forgetTlb (pager : Pager φ) (pid : Pid) : Pager φ :=
  match pager.tlbs.attachedTo pid with
  | none => pager
  | some id =>
      { pager with tlbs := (pager.tlbs.detach pid).change id Tlb.invalidateAll }

/-- Unmaps every page of a process, gives the frames back and forgets its
translation cache. Swap slots are kept. Answers the number of frames. -/
def deallocate (pager : Pager φ) (pid : Pid) : Nat × Pager φ :=
  let (entries, tables) := pager.tables.removeAll pid
  (entries.length, ({ pager with tables := tables }.releaseAll entries).forgetTlb pid)

variable [FileSystem φ]

/-- Backs a page with a fresh frame of zeros. A frame that cannot be mapped goes
back to the pool. -/
def newPage (page : PageId) (readOnly : Bool) : PagerAction φ TranslationEntry := do
  if lastPage < page.vpn then
    throw (.invalidPage page.vpn)
  let ppn ← getFreeFrame
  let entry := TranslationEntry.fresh page.vpn ppn readOnly
  match ← (mapZeroed page.pid entry).attempt with
  | .ok none => return entry
  | .ok (some previous) =>
      releaseReplaced page.pid previous
      return entry
  | .error cause =>
      releaseFrame ppn
      throw cause

/-- Backs a page with a fresh frame of zeros, which is pinned. -/
def newPagePinned (page : PageId) (readOnly : Bool) : PagerAction φ TranslationEntry := do
  let entry ← newPage page readOnly
  modify (·.pin entry.ppn)
  return entry

end Pager

end VirtualMemory
