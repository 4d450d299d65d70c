/-
Module: VirtualMemory.Pager.SwapIn
Purpose: Bringing pages back from swap.
Main exports:
  Pager.loadFromSwap
-/
import VirtualMemory.Pager.Mapping

namespace VirtualMemory.Pager

variable {φ : Type}

/-- A failure to read a page's own slot, told apart from other swap failures. -/
def ownSlotFailure (page : PageId) : PagingError → PagingError
  | .swap cause => .swapRead page cause
  | cause => cause

variable [FileSystem φ]

/-- Reads a page's slot into a frame. -/
def readSlot (page : PageId) (ppn : Ppn) :
    PagerAction φ (Option TranslationEntry) := fun pager =>
  match pager.device with
  | .unused _ => .ok none pager
  | .inUse swap =>
      match SwapFile.loadPage page ppn (swap, pager.memory) with
      | .ok found (next, memory) =>
          .ok found { pager with device := .inUse next, memory := memory }
      | .error cause (next, memory) =>
          .error (ownSlotFailure page cause)
            { pager with device := .inUse next, memory := memory }

/-- Reads a page's slot into a frame and maps the page to it. -/
def restore (page : PageId) (ppn : Ppn) : PagerAction φ (Option TranslationEntry) := do
  match ← readSlot page ppn with
  | none => return none
  | some entry =>
      let _ ← recordEntry page.pid entry
      return some entry

/-- Brings a page back from swap. A resident page is answered as it is. A page
that was never written out has no entry, and no frame is used for it. -/
def loadFromSwap (page : PageId) : PagerAction φ (Option TranslationEntry) := do
  let pager ← get
  match pager.tables.get page with
  | some entry => return some entry
  | none =>
      if !pager.swapContains page then
        return none
      let ppn ← getFreeFrame
      match ← (whilePinned ppn (restore page ppn)).attempt with
      | .ok (some entry) => return some entry
      | outcome =>
          releaseFrame ppn
          Action.conclude outcome

end VirtualMemory.Pager
