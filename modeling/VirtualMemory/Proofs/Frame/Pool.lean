/-
Module: VirtualMemory.Proofs.Frame.Pool
Purpose: The list of free frames and the marks of frames handed out say the same.
Main exports:
  FramePool.Sound, Sound.allocate, Sound.release, isFree_of_release,
  allocate_of_release
-/
import Mathlib.Data.List.Nodup
import VirtualMemory.Frame.Pool

namespace VirtualMemory.FramePool

/-- The free list has every free frame once. -/
structure Sound (pool : FramePool) : Prop where
  nodup : pool.free.Nodup
  mem_free_iff : ∀ ppn, ppn ∈ pool.free ↔ pool.isFree ppn = true

/-- The number of frames, free or not. -/
def size (pool : FramePool) : Nat := pool.allocated.size

variable {pool next : FramePool} {ppn : Ppn}

theorem lt_size_of_isFree (free : pool.isFree ppn = true) : ppn < pool.size := by
  by_contra outside
  simp [isFree, Array.getElem?_eq_none (Nat.le_of_not_lt outside)] at free

@[simp] theorem size_full (count : Nat) : (full count).size = count := by
  simp [size, full]

theorem sound_full (count : Nat) : (full count).Sound where
  nodup := List.nodup_range
  mem_free_iff ppn := by
    rw [isFree_full]
    simp [full]

/-! ### Handing out -/

/-- The first of the free list is handed out. -/
theorem free_of_allocate (taken : pool.allocate = some (ppn, next)) :
    pool.free = ppn :: next.free := by
  simp only [allocate] at taken
  split at taken
  · cases taken
  · next first rest listed =>
    cases taken
    exact listed

theorem isFree_of_allocate_self (sound : pool.Sound)
    (taken : pool.allocate = some (ppn, next)) : pool.isFree ppn = true := by
  rw [← sound.mem_free_iff]
  simp only [allocate] at taken
  split at taken
  · cases taken
  · next first rest listed =>
    cases taken
    rw [listed]
    exact List.mem_cons_self

theorem size_of_allocate (taken : pool.allocate = some (ppn, next)) : next.size = pool.size := by
  simp only [allocate] at taken
  split at taken
  · cases taken
  · cases taken
    simp [size]

theorem Sound.allocate (sound : pool.Sound) (taken : pool.allocate = some (ppn, next)) :
    next.Sound := by
  have view := isFree_of_allocate taken
  have members := sound.mem_free_iff
  have nodup := sound.nodup
  simp only [FramePool.allocate] at taken
  split at taken
  · cases taken
  · next first rest listed =>
    cases taken
    rw [listed, List.nodup_cons] at nodup
    refine ⟨nodup.2, fun other => ?_⟩
    rw [view, Bool.and_eq_true, bne_iff_ne, ← members, listed, List.mem_cons]
    constructor
    · intro listed
      exact ⟨Or.inr listed, fun same => nodup.1 (same ▸ listed)⟩
    · rintro ⟨same | listed, different⟩
      · exact absurd same.symm different
      · exact listed

/-- Nothing is handed out only if nothing is free. -/
theorem isFree_of_allocate_eq_none (sound : pool.Sound) (empty : pool.allocate = none)
    (ppn : Ppn) : pool.isFree ppn = false := by
  rw [← Bool.not_eq_true, ← sound.mem_free_iff]
  simp only [FramePool.allocate] at empty
  split at empty
  · next listed => simp [listed]
  · cases empty

theorem allocate_eq_none_iff : pool.allocate = none ↔ pool.freeCount = 0 := by
  rw [FramePool.allocate, freeCount, List.length_eq_zero_iff]
  split
  · next empty => exact iff_of_true rfl empty
  · next listed => exact iff_of_false (Option.some_ne_none _) (listed ▸ List.cons_ne_nil _ _)

/-! ### Taking back -/

/-- A frame is refused exactly if it does not exist. -/
theorem release_eq_error_iff {cause : PagingError} :
    pool.release ppn = .error cause ↔ pool.size ≤ ppn ∧ cause = .invalidFrame ppn := by
  simp only [release, size]
  split
  · next outside =>
    have beyond := Array.getElem?_eq_none_iff.mp outside
    simp only [Except.error.injEq, beyond, true_and]
    exact eq_comm
  all_goals
    next present =>
    have inside := (Array.getElem?_eq_some_iff.mp present).1
    simp only [reduceCtorEq, false_iff, not_and]
    intro beyond
    omega

theorem exists_release (inside : ppn < pool.size) : ∃ next, pool.release ppn = .ok next := by
  cases released : pool.release ppn with
  | ok next => exact ⟨next, rfl⟩
  | error cause =>
    exact absurd inside (Nat.not_lt.mpr (release_eq_error_iff.mp released).1)

theorem size_of_release (released : pool.release ppn = .ok next) : next.size = pool.size := by
  simp only [release] at released
  split at released
  · cases released
  · cases released
    rfl
  · cases released
    simp [size]

/-- A frame that is taken back is free; all others stay as they were. -/
theorem isFree_of_release (released : pool.release ppn = .ok next) (other : Ppn) :
    next.isFree other = (pool.isFree other || ppn == other) := by
  simp only [release] at released
  split at released
  · cases released
  · next free =>
    cases released
    by_cases same : ppn = other
    · subst same
      simp [isFree, free]
    · simp [same]
  · next handedOut =>
    cases released
    have inside := (Array.getElem?_eq_some_iff.mp handedOut).1
    by_cases same : ppn = other
    · subst same
      simp [isFree, inside]
    · simp [isFree, same]

theorem Sound.release (sound : pool.Sound) (released : pool.release ppn = .ok next) :
    next.Sound := by
  have view := isFree_of_release released
  simp only [FramePool.release] at released
  split at released
  · cases released
  · cases released
    exact sound
  · next handedOut =>
    cases released
    have absent : ppn ∉ pool.free := by
      rw [sound.mem_free_iff]
      simp [isFree, handedOut]
    refine ⟨List.nodup_cons.mpr ⟨absent, sound.nodup⟩, fun other => ?_⟩
    rw [view, Bool.or_eq_true, beq_iff_eq, ← sound.mem_free_iff, List.mem_cons]
    constructor
    · rintro (same | listed)
      · exact Or.inr same.symm
      · exact Or.inl listed
    · rintro (listed | same)
      · exact Or.inr listed
      · exact Or.inl same.symm

/-- A frame that is free already is taken back without effect. -/
theorem release_of_isFree (free : pool.isFree ppn = true) : pool.release ppn = .ok pool := by
  simp only [isFree, beq_iff_eq] at free
  simp only [release, free]

/-- A frame that was handed out becomes the first of the free list. -/
theorem free_of_release (handedOut : pool.isFree ppn = false)
    (released : pool.release ppn = .ok next) : next.free = ppn :: pool.free := by
  simp only [release] at released
  split at released
  · cases released
  · next free => simp [isFree, free] at handedOut
  · cases released
    rfl

/-- A frame that is given back at once leaves the pool as it was. -/
theorem release_of_allocate (sound : pool.Sound) (taken : pool.allocate = some (ppn, next)) :
    next.release ppn = .ok pool := by
  have wasFree := isFree_of_allocate_self sound taken
  simp only [isFree, beq_iff_eq] at wasFree
  obtain ⟨inside, marked⟩ := Array.getElem?_eq_some_iff.mp wasFree
  simp only [allocate] at taken
  split at taken
  · cases taken
  · next first rest listed =>
    cases taken
    have same : (pool.allocated.setIfInBounds ppn true).setIfInBounds ppn false =
        pool.allocated := by
      refine Array.ext_getElem? fun index => ?_
      by_cases here : ppn = index
      · subst here
        simp [inside, marked]
      · simp [here]
    simp [release, inside, same, ← listed]

/-- A frame given back to an empty pool is the next to be handed out, and leaves the
pool as it was. -/
theorem allocate_of_release (sound : pool.Sound) (empty : pool.allocate = none)
    (released : pool.release ppn = .ok next) : next.allocate = some (ppn, pool) := by
  have notFree := isFree_of_allocate_eq_none sound empty ppn
  have listed : pool.free = [] := by
    simp only [FramePool.allocate] at empty
    split at empty
    · assumption
    · cases empty
  simp only [FramePool.release] at released
  split at released
  · cases released
  · next free => simp [isFree, free] at notFree
  · next handedOut =>
    cases released
    obtain ⟨inside, marked⟩ := Array.getElem?_eq_some_iff.mp handedOut
    have same : (pool.allocated.setIfInBounds ppn false).setIfInBounds ppn true =
        pool.allocated := by
      refine Array.ext_getElem? fun index => ?_
      by_cases here : ppn = index
      · subst here
        simp [inside, marked]
      · simp [here]
    simp only [FramePool.allocate, same, listed]
    rw [← listed]

end VirtualMemory.FramePool
