/-
Module: VirtualMemory.Proofs.Frame.PinCounts
Purpose: A frame counts as many pins as it has guards, in whichever order they are taken and
  dropped, and it is not counted at all when it has none.
Main exports:
  PinCall, PinSession and its drop, step and run; PinSession.Matched,
  PinSession.PinsCounted, pins_counted

A guard is given out for every pin and gives it back when it is dropped. What a set of pins
stores is compared with the guards that are alive.
-/
import Mathlib.Data.Finset.Card
import VirtualMemory.Proofs.Frame.Pins

namespace VirtualMemory

/-- A call of a set of pins, or the end of guards. -/
inductive PinCall where
  | hold (ppn : Ppn)
  | tryHold (ppn : Ppn)
  /-- The guard with a number among those that are alive is dropped. -/
  | drop (index : Nat)
  /-- A panic drops guards, one after another, on its way out. -/
  | unwind (indices : List Nat)
deriving DecidableEq, Repr

/-- A set of pins in use, and the frames of the guards that are alive, the oldest first. -/
structure PinSession where
  pins : PinSet := .empty
  guards : List Ppn := []

namespace PinSession

/-- A guard that is dropped gives its pin back. -/
def drop (session : PinSession) (index : Nat) : PinSession :=
  match session.guards[index]? with
  | none => session
  | some ppn =>
      { pins := session.pins.release ppn
        guards := session.guards.eraseIdx index }

/-- The session after a call. -/
def step (session : PinSession) : PinCall → PinSession
  | .hold ppn => { pins := session.pins.hold ppn, guards := session.guards ++ [ppn] }
  | .tryHold ppn =>
      match session.pins.tryHold ppn with
      | none => session
      | some pins => { pins := pins, guards := session.guards ++ [ppn] }
  | .drop index => session.drop index
  | .unwind indices => indices.foldl drop session

/-- The session after calls, one after another. -/
def run (session : PinSession) (calls : List PinCall) : PinSession :=
  calls.foldl step session

variable {session : PinSession} {ppn : Ppn} {index : Nat}

/-! ### What every call preserves -/

/-- Every frame counts its guards, and no count is kept at zero. -/
structure Matched (session : PinSession) : Prop where
  sound : session.pins.Sound
  count_eq : ∀ ppn, session.pins.count ppn = session.guards.count ppn

namespace Matched

theorem start : ({} : PinSession).Matched where
  sound := PinSet.sound_empty
  count_eq ppn := by rw [PinSet.count_empty, List.count_nil]

/-- A guard that is taken is counted. -/
theorem hold (matched : session.Matched) (ppn : Ppn) : (session.step (.hold ppn)).Matched where
  sound := matched.sound.hold ppn
  count_eq other := by
    change (session.pins.hold ppn).count other = (session.guards ++ [ppn]).count other
    rw [PinSet.count_hold, matched.count_eq, List.count_append, List.count_singleton]
    simp only [beq_iff_eq]

theorem isPinned_iff (matched : session.Matched) (ppn : Ppn) :
    session.pins.isPinned ppn = true ↔ ppn ∈ session.guards := by
  rw [PinSet.isPinned_iff matched.sound, matched.count_eq, List.count_pos_iff]

/-- A frame with a guard is refused, and any other one is pinned as if it was not asked
first. -/
theorem tryHold_eq (matched : session.Matched) (ppn : Ppn) :
    session.step (.tryHold ppn) =
      if ppn ∈ session.guards then session else session.step (.hold ppn) := by
  by_cases guarded : ppn ∈ session.guards
  · have refused : session.pins.tryHold ppn = none :=
      PinSet.tryHold_eq_none_iff.mpr ((matched.isPinned_iff ppn).mpr guarded)
    simp only [step, refused, if_pos guarded]
  · have unpinned : session.pins.isPinned ppn = false := by
      rw [← Bool.not_eq_true, matched.isPinned_iff]
      exact guarded
    simp only [step, PinSet.tryHold_of_unpinned unpinned, if_neg guarded]

/-- A guard that is dropped is not counted any more. -/
theorem drop (matched : session.Matched) (index : Nat) : (session.drop index).Matched := by
  rw [PinSession.drop]
  split
  · exact matched
  · next ppn alive =>
    exact ⟨matched.sound.release ppn, PinSet.count_release_eraseIdx matched.count_eq alive⟩

theorem unwind (matched : session.Matched) (indices : List Nat) :
    (indices.foldl PinSession.drop session).Matched := by
  induction indices generalizing session with
  | nil => exact matched
  | cons index rest hypothesis => exact hypothesis (matched.drop index)

theorem step (matched : session.Matched) (call : PinCall) : (session.step call).Matched := by
  cases call with
  | hold ppn => exact matched.hold ppn
  | tryHold ppn =>
    rw [matched.tryHold_eq]
    split
    · exact matched
    · exact matched.hold ppn
  | drop index => exact matched.drop index
  | unwind indices => exact matched.unwind indices

theorem run (matched : session.Matched) (calls : List PinCall) : (session.run calls).Matched := by
  induction calls generalizing session with
  | nil => exact matched
  | cons call rest hypothesis => exact hypothesis (matched.step call)

end Matched

/-! ### What is stored, and what is answered -/

/-- What a set of pins stores and answers, told by the guards that are alive. -/
structure PinsCounted (session : PinSession) : Prop where
  counts_eq : ∀ ppn : Ppn, session.pins.counts[ppn]? =
    if ppn ∈ session.guards then some (session.guards.count ppn) else none
  no_zero : ∀ ppn : Ppn, session.pins.counts[ppn]? ≠ some 0
  /-- The count that the drop of a guard lowers is there and is not zero. -/
  lowered : ∀ index ppn, session.guards[index]? = some ppn →
    ∃ left, session.pins.counts[ppn]? = some (left + 1) ∧
      (session.drop index).pins.counts[ppn]? = if left = 0 then none else some left
  isPinned_iff : ∀ ppn, session.pins.isPinned ppn = true ↔ ppn ∈ session.guards
  pinnedCount_eq : session.pins.pinnedCount = session.guards.toFinset.card
  granted_iff : ∀ ppn, (∃ next, session.pins.tryHold ppn = some next) ↔ ppn ∉ session.guards
  granted : ∀ ppn, ppn ∉ session.guards →
    session.step (.tryHold ppn) = session.step (.hold ppn)
  refused : ∀ ppn ∈ session.guards, session.step (.tryHold ppn) = session

namespace Matched

/-- A frame is counted once for each guard of it. -/
theorem counts_eq (matched : session.Matched) (ppn : Ppn) :
    session.pins.counts[ppn]? =
      if ppn ∈ session.guards then some (session.guards.count ppn) else none := by
  rw [PinSet.counts_eq matched.sound, matched.count_eq]
  simp only [List.count_pos_iff]

theorem lowered (matched : session.Matched) (alive : session.guards[index]? = some ppn) :
    ∃ left, session.pins.counts[ppn]? = some (left + 1) ∧
      (session.drop index).pins.counts[ppn]? = if left = 0 then none else some left := by
  have listed : ppn ∈ session.guards := List.mem_of_getElem? alive
  obtain ⟨left, counted⟩ := Nat.exists_eq_add_one.mpr (List.count_pos_iff.mpr listed)
  have before : session.pins.counts[ppn]? = some (left + 1) := by
    rw [matched.counts_eq, if_pos listed, counted]
  refine ⟨left, before, ?_⟩
  simp only [PinSession.drop, alive, PinSet.release, before, Nat.add_sub_cancel]
  split
  · exact Std.ExtTreeMap.getElem?_erase_self
  · exact Std.ExtTreeMap.getElem?_insert_self

theorem pinnedCount_eq (matched : session.Matched) :
    session.pins.pinnedCount = session.guards.toFinset.card := by
  rw [PinSet.pinnedCount, ← Std.ExtTreeMap.length_keys,
    ← List.toFinset_card_of_nodup Std.ExtTreeMap.nodup_keys]
  congr 1
  ext ppn
  rw [List.mem_toFinset, List.mem_toFinset, Std.ExtTreeMap.mem_keys,
    Std.ExtTreeMap.mem_iff_contains]
  exact matched.isPinned_iff ppn

/-- A frame is held by an attempt if it has no guard. -/
theorem granted_iff (matched : session.Matched) (ppn : Ppn) :
    (∃ next, session.pins.tryHold ppn = some next) ↔ ppn ∉ session.guards := by
  rw [← matched.isPinned_iff, ← PinSet.tryHold_eq_none_iff, ← Option.ne_none_iff_exists']

end Matched

/-- Whatever is pinned and let go, in whichever order, every frame counts the guards of it
that are alive, and a frame without one is not counted. -/
theorem pins_counted (calls : List PinCall) : PinsCounted (run {} calls) := by
  have matched : (run {} calls).Matched := Matched.start.run calls
  constructor
  case counts_eq => exact matched.counts_eq
  case no_zero => exact matched.sound
  case lowered => exact fun _ _ alive => matched.lowered alive
  case isPinned_iff => exact matched.isPinned_iff
  case pinnedCount_eq => exact matched.pinnedCount_eq
  case granted_iff => exact matched.granted_iff
  case granted =>
    intro ppn unguarded
    rw [matched.tryHold_eq, if_neg unguarded]
  case refused =>
    intro ppn guarded
    rw [matched.tryHold_eq, if_pos guarded]

/-- A frame that is pinned twice stays pinned when a panic drops one of its guards. -/
example :
    let session := run {} [.hold 3, .hold 3, .tryHold 3, .tryHold 5, .unwind [2, 0]]
    session.guards = [3] ∧ session.pins.isPinned 3 = true ∧ session.pins.pinnedCount = 1 := by
  decide +kernel

end PinSession

end VirtualMemory
