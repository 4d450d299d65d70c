/-
Module: VirtualMemory.Pager.Upkeep
Purpose: Keeping frames free in the background, checking the books, and the end.
Main exports:
  Pager.reclaimOnce, Pager.checkConsistency, Pager.terminate
-/
import VirtualMemory.Pager.SwapIn

namespace VirtualMemory.Pager

variable {φ : Type}

/-- Whether enough frames are free, or nothing is left to evict. -/
def reclaimed (pager : Pager φ) : Bool :=
  pager.config.lowWaterMark ≤ pager.freeFrameCount || pager.residentPageCount == 0

/-- Checks that the page table and the core map agree, and that no frame is both
mapped and free. -/
def checkConsistency (pager : Pager φ) : Except PagingError Unit :=
  match pager.tables.checkConsistency with
  | .error cause => .error cause
  | .ok () =>
      match pager.tables.mappedFrames.find? pager.frames.isFree with
      | some ppn => .error (.inconsistent s!"frame {ppn} is both mapped and free")
      | none => .ok ()

variable [FileSystem φ]

/-- Evicts up to `limit` pages, until enough frames are free or nothing is left to
evict. Answers `count` and the number of pages evicted. -/
def reclaimUpTo (count : Nat) : (limit : Nat) → PagerAction φ Nat
  | 0 => return count
  | limit + 1 => do
      if (← get).reclaimed then
        return count
      let _ ← evictToPool
      reclaimUpTo (count + 1) limit

/-- Evicts pages until the low water mark is reached or nothing is left to evict,
and answers the number of frames freed. Each eviction makes a resident page
leave, so there are no more of them than resident pages. -/
def reclaimOnce : PagerAction φ Nat := do
  reclaimUpTo 0 (← get).residentPageCount

/-- Forgets all translation caches and deletes the swap file. -/
def terminate : PagerAction φ Unit := do
  modify fun pager => { pager with tlbs := pager.tlbs.detachAll }
  match (← get).device with
  | .unused _ => return
  | .inUse _ => onSwap (SwapFile.terminate.causing PagingError.swap)

end VirtualMemory.Pager
