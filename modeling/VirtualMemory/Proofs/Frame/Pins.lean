/-
Module: VirtualMemory.Proofs.Frame.Pins
Purpose: Pins are counted, and a frame that nobody pins is not counted at all.
Main exports:
  PinSet.Sound, release_hold, isPinned_iff, isPinned_hold, counts_eq, tryHold_of_unpinned
-/
import Mathlib.Data.List.Perm.Basic
import VirtualMemory.Frame.Pins

namespace VirtualMemory.PinSet

/-- No count is kept at zero. -/
def Sound (pins : PinSet) : Prop :=
  ∀ ppn : Ppn, pins.counts[ppn]? ≠ some 0

variable {pins : PinSet} {ppn other : Ppn}

theorem sound_empty : empty.Sound := by
  intro ppn zero
  simp [empty] at zero

theorem isPinned_iff (sound : pins.Sound) : pins.isPinned ppn = true ↔ 0 < pins.count ppn := by
  rw [isPinned, count, Std.ExtTreeMap.contains_eq_isSome_getElem?]
  cases counted : pins.counts[ppn]? with
  | none => simp
  | some held =>
    have positive : held ≠ 0 := fun zero => sound ppn (zero ▸ counted)
    simp only [Option.isSome_some, Option.getD_some, true_iff]
    omega

@[simp] theorem isPinned_empty : empty.isPinned ppn = false := by
  simp [isPinned, empty]

theorem isPinned_hold :
    (pins.hold ppn).isPinned other = (ppn == other || pins.isPinned other) := by
  simp only [isPinned, hold, Std.ExtTreeMap.contains_insert]
  congr 1
  rw [Bool.eq_iff_iff, beq_iff_eq, beq_iff_eq, Std.LawfulEqCmp.compare_eq_iff_eq]

/-- What is kept of a frame is its count, if anyone pins it, and else nothing. -/
theorem counts_eq (sound : pins.Sound) (ppn : Ppn) :
    pins.counts[ppn]? = if 0 < pins.count ppn then some (pins.count ppn) else none := by
  cases counted : pins.counts[ppn]? with
  | none => simp [count, counted]
  | some held =>
    have positive : held ≠ 0 := fun zero => sound ppn (zero ▸ counted)
    simp [count, counted, Nat.pos_of_ne_zero positive]

/-- The first pin of a frame counts one. -/
theorem counts_hold_of_unpinned (unpinned : pins.isPinned ppn = false) :
    (pins.hold ppn).counts[ppn]? = some 1 := by
  rw [isPinned, Std.ExtTreeMap.contains_eq_isSome_getElem?, Option.isSome_eq_false_iff,
    Option.isNone_iff_eq_none] at unpinned
  simp [PinSet.hold, count, unpinned]

theorem counts_hold_of_ne (different : ppn ≠ other) :
    (pins.hold ppn).counts[other]? = pins.counts[other]? := by
  simp only [PinSet.hold, Std.ExtTreeMap.getElem?_insert, Std.LawfulEqCmp.compare_eq_iff_eq,
    different, if_false]

/-- A frame that nobody pins is pinned as any other is. -/
theorem tryHold_of_unpinned (unpinned : pins.isPinned ppn = false) :
    pins.tryHold ppn = some (pins.hold ppn) := by
  have absent : pins.counts[ppn]? = none := by
    rwa [isPinned, Std.ExtTreeMap.contains_eq_isSome_getElem?, Option.isSome_eq_false_iff,
      Option.isNone_iff_eq_none] at unpinned
  rw [tryHold, unpinned, if_neg Bool.false_ne_true, PinSet.hold, count, absent]
  rfl

theorem tryHold_eq_none_iff : pins.tryHold ppn = none ↔ pins.isPinned ppn = true := by
  rw [tryHold]
  split
  · next pinned => exact iff_of_true rfl pinned
  · next unpinned => exact iff_of_false (Option.some_ne_none _) unpinned

theorem Sound.hold (sound : pins.Sound) (ppn : Ppn) : (pins.hold ppn).Sound := by
  intro other zero
  simp only [PinSet.hold, Std.ExtTreeMap.getElem?_insert,
    Std.LawfulEqCmp.compare_eq_iff_eq] at zero
  split at zero
  · cases zero
  · exact sound other zero

/-- Where every guard has its pin, a guard that is dropped takes its own away. -/
theorem count_release_eraseIdx {guards : List Ppn} {index : Nat}
    (counted : ∀ other, pins.count other = guards.count other)
    (alive : guards[index]? = some ppn) (other : Ppn) :
    (pins.release ppn).count other = (guards.eraseIdx index).count other := by
  obtain ⟨inside, atIndex⟩ := List.getElem?_eq_some_iff.mp alive
  have whole := (List.getElem_cons_eraseIdx_perm inside).count_eq other
  rw [atIndex, List.count_cons, ← counted] at whole
  rw [count_release, ← whole]
  simp only [beq_iff_eq, Nat.add_sub_cancel]

theorem Sound.release (sound : pins.Sound) (ppn : Ppn) : (pins.release ppn).Sound := by
  intro other zero
  simp only [PinSet.release] at zero
  split at zero
  · exact sound other zero
  · split at zero
    · simp only [Std.ExtTreeMap.getElem?_erase] at zero
      split at zero
      · cases zero
      · exact sound other zero
    · next more =>
      simp only [Std.ExtTreeMap.getElem?_insert] at zero
      split at zero
      · exact more (Option.some.inj zero)
      · exact sound other zero

/-- Letting go of a frame undoes pinning it. -/
theorem release_hold (sound : pins.Sound) (ppn : Ppn) : (pins.hold ppn).release ppn = pins := by
  have counted : (pins.hold ppn).counts[ppn]? = some (pins.count ppn + 1) := by
    simp [hold]
  have restored : ((pins.hold ppn).release ppn).counts = pins.counts := by
    refine Std.ExtTreeMap.ext_getElem? fun other => ?_
    simp only [release, counted, Nat.add_sub_cancel]
    by_cases same : ppn = other
    · subst same
      split
      · next unpinned =>
        have absent : pins.counts[ppn]? = none := by
          cases present : pins.counts[ppn]? with
          | none => rfl
          | some held =>
            simp only [count, present, Option.getD_some] at unpinned
            exact absurd (unpinned ▸ present) (sound ppn)
        simp [absent]
      · next pinned =>
        cases present : pins.counts[ppn]? with
        | none => simp [count, present] at pinned
        | some held => simp [count, present]
    · split <;>
        simp [hold, Std.ExtTreeMap.getElem?_erase, Std.ExtTreeMap.getElem?_insert, same]
  cases pins
  exact congrArg PinSet.mk restored

end VirtualMemory.PinSet
