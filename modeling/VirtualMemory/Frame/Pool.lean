/-
Module: VirtualMemory.Frame.Pool
Purpose: The frames that are free to be handed out.
Main exports:
  FramePool and its allocate, release, isFree, freeCount
-/
import VirtualMemory.Failure

namespace VirtualMemory

/-- The pool of free frames: a stack of them, and for every frame whether it is
handed out. -/
structure FramePool where
  free : List Ppn
  allocated : Array Bool
deriving DecidableEq, Repr

namespace FramePool

/-- A pool of all `count` frames, to be handed out from the lowest on. -/
def full (count : Nat) : FramePool :=
  { free := List.range count
    allocated := Array.replicate count false }

/-- Hands out the frame that was released last. -/
def allocate (pool : FramePool) : Option (Ppn × FramePool) :=
  match pool.free with
  | [] => none
  | ppn :: rest =>
      some (ppn,
        { free := rest
          allocated := pool.allocated.setIfInBounds ppn true })

/-- Takes a frame back. A frame that is free already stays as it is. -/
def release (pool : FramePool) (ppn : Ppn) : Except PagingError FramePool :=
  match pool.allocated[ppn]? with
  | none => .error (.invalidFrame ppn)
  | some false => .ok pool
  | some true =>
      .ok
        { free := ppn :: pool.free
          allocated := pool.allocated.setIfInBounds ppn false }

/-- Whether a frame is in the pool. -/
def isFree (pool : FramePool) (ppn : Ppn) : Bool :=
  pool.allocated[ppn]? == some false

theorem isFree_full (count : Nat) (ppn : Ppn) :
    (full count).isFree ppn = decide (ppn < count) := by
  simp only [isFree, full, Array.getElem?_replicate]
  by_cases inside : ppn < count <;> simp [inside]

/-- A frame that is handed out is not in the pool any more; all others stay as
they were. -/
theorem isFree_of_allocate {pool next : FramePool} {ppn : Ppn}
    (allocated : pool.allocate = some (ppn, next)) (other : Ppn) :
    next.isFree other = (pool.isFree other && ppn != other) := by
  simp only [allocate] at allocated
  split at allocated
  · cases allocated
  · cases allocated
    simp only [isFree, Array.getElem?_setIfInBounds]
    by_cases same : ppn = other
    · subst same
      by_cases inside : ppn < pool.allocated.size <;> simp [inside]
    · simp [same]

/-- The number of free frames. -/
def freeCount (pool : FramePool) : Nat := pool.free.length

end FramePool

end VirtualMemory
