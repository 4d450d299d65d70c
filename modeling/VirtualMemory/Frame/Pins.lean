/-
Module: VirtualMemory.Frame.Pins
Purpose: Frames that must not be evicted for the time being.
Main exports:
  PinSet and its hold, tryHold, release, isPinned, pinnedCount
-/
import VirtualMemory.Address

namespace VirtualMemory

/-- How often each frame is pinned. Several users may pin one frame, and it is
pinned until all of them let go. -/
structure PinSet where
  counts : Std.ExtTreeMap Ppn Nat
deriving DecidableEq

namespace PinSet

/-- No frame is pinned. -/
def empty : PinSet := { counts := ∅ }

/-- How often a frame is pinned. -/
def count (pins : PinSet) (ppn : Ppn) : Nat := pins.counts[ppn]?.getD 0

theorem count_empty (ppn : Ppn) : empty.count ppn = 0 := by
  simp [count, empty]

/-- Whether anyone pins a frame. -/
def isPinned (pins : PinSet) (ppn : Ppn) : Bool := pins.counts.contains ppn

/-- The number of frames that are pinned, each counted once. -/
def pinnedCount (pins : PinSet) : Nat := pins.counts.size

/-- Pins a frame once more. -/
def hold (pins : PinSet) (ppn : Ppn) : PinSet :=
  { counts := pins.counts.insert ppn (pins.count ppn + 1) }

theorem count_hold (pins : PinSet) (ppn other : Ppn) :
    (pins.hold ppn).count other = pins.count other + if ppn = other then 1 else 0 := by
  simp only [hold, count, Std.ExtTreeMap.getElem?_insert, Std.LawfulEqCmp.compare_eq_iff_eq]
  split
  · next same => subst same; rfl
  · rfl

/-- Pins a frame that nobody else pins. -/
def tryHold (pins : PinSet) (ppn : Ppn) : Option PinSet :=
  if pins.isPinned ppn then none
  else some { counts := pins.counts.insert ppn 1 }

/-- Lets go of a frame once. A frame whose last pin goes is forgotten. -/
def release (pins : PinSet) (ppn : Ppn) : PinSet :=
  match pins.counts[ppn]? with
  | none => pins
  | some held =>
      if held - 1 = 0 then { counts := pins.counts.erase ppn }
      else { counts := pins.counts.insert ppn (held - 1) }

/-- Letting go of a frame takes one of its pins away, if it has any. -/
theorem count_release (pins : PinSet) (ppn other : Ppn) :
    (pins.release ppn).count other = pins.count other - if ppn = other then 1 else 0 := by
  simp only [release]
  split
  · next unpinned =>
    by_cases same : ppn = other
    · subst same; simp [count, unpinned]
    · simp [same]
  · next held present =>
    by_cases same : ppn = other
    · subst same
      split
      · next last => simp [count, present, last]
      · simp [count, present]
    · split <;>
        simp [count, Std.ExtTreeMap.getElem?_erase, Std.ExtTreeMap.getElem?_insert, same]

/-- A pin as a line of a report. -/
def describePin (ppn : Ppn) : String := s!"PinnedFrame({ppn})"

end PinSet

end VirtualMemory
