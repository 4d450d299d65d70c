/-
Module: VirtualMemory.Proofs.Frame.Handouts
Purpose: Whatever is asked of the pool of free frames, a frame is in it or with somebody,
  never both, and the frame that was taken back last is the next to be handed out.
Main exports:
  PoolCall, FrameEvent and its isOut, LastBack, FirstUnused; PoolSession and its step and
  run; PoolSession.Orderly, PoolSession.PoolExact, frame_pool_exact

What a pool did is known from its answers: which frames it handed out, and which it took
back from somebody. From that alone it is told which frames it has, and in which order they
leave it.
-/
import Mathlib.Data.Finset.Card
import VirtualMemory.Proofs.Frame.Pool

namespace VirtualMemory

/-- A call of the pool of free frames. -/
inductive PoolCall where
  | allocate
  | release (ppn : Ppn)
deriving DecidableEq, Repr

/-- Something that became of a frame. -/
inductive FrameEvent where
  | handedOut (ppn : Ppn)
  | takenBack (ppn : Ppn)
deriving DecidableEq, Repr

namespace FrameEvent

/-- Whether somebody has a frame after events, the last of which stands first: it was handed
out, and not taken back since. -/
def isOut : List FrameEvent → Ppn → Bool
  | [], _ => false
  | .handedOut frame :: earlier, ppn => frame == ppn || isOut earlier ppn
  | .takenBack frame :: earlier, ppn => frame != ppn && isOut earlier ppn

/-- A frame was taken back, and all that were taken back after it are with somebody again. -/
def LastBack (events : List FrameEvent) (ppn : Ppn) : Prop :=
  ∃ later earlier, events = later ++ .takenBack ppn :: earlier ∧
    ∀ other, .takenBack other ∈ later → isOut events other = true

/-- All frames that were taken back are with somebody again, and a frame is the lowest of
those that were never handed out. -/
structure FirstUnused (events : List FrameEvent) (ppn : Ppn) : Prop where
  none_back : ∀ other, .takenBack other ∈ events → isOut events other = true
  unused : .handedOut ppn ∉ events
  lowest : ∀ other < ppn, .handedOut other ∈ events

/-- The frames below `count` that were never handed out, from the lowest on. -/
def unused (count : Nat) (events : List FrameEvent) : List Ppn :=
  (List.range count).filter fun ppn => .handedOut ppn ∉ events

/-- Whatever came back among the recent ones of all events is with somebody after all of them,
or listed. -/
def OutExcept (events recent : List FrameEvent) (listed : List Ppn) : Prop :=
  ∀ ppn, .takenBack ppn ∈ recent → isOut events ppn = true ∨ ppn ∈ listed

/-- A list has the frames that came back and that nobody has, the last one first. -/
structure Stacked (events : List FrameEvent) (back : List Ppn) : Prop where
  complete : OutExcept events events back
  latest : ∀ later ppn earlier, back = later ++ ppn :: earlier →
    ∃ after before, events = after ++ .takenBack ppn :: before ∧ OutExcept events after later

variable {events recent : List FrameEvent} {back listed : List Ppn} {ppn frame other : Ppn}
  {count : Nat}

/-- A frame is out once it is handed out. -/
theorem isOut_handedOut :
    isOut (.handedOut frame :: events) ppn = true ↔ frame = ppn ∨ isOut events ppn = true := by
  rw [isOut, Bool.or_eq_true, beq_iff_eq]

/-- A frame is not out once it is taken back. -/
theorem isOut_takenBack :
    isOut (.takenBack frame :: events) ppn = true ↔ frame ≠ ppn ∧ isOut events ppn = true := by
  rw [isOut, Bool.and_eq_true, bne_iff_ne]

/-! ### Frames that were never handed out -/

/-- The unused frames are those that were never handed out. -/
theorem mem_unused : ppn ∈ unused count events ↔ ppn < count ∧ .handedOut ppn ∉ events := by
  simp only [unused, List.mem_filter, List.mem_range, decide_eq_true_iff]

/-- Each unused frame is listed once. -/
theorem nodup_unused (count : Nat) (events : List FrameEvent) : (unused count events).Nodup :=
  List.nodup_range.filter _

theorem unused_handedOut :
    unused count (.handedOut frame :: events) = (unused count events).filter (· != frame) := by
  rw [unused, unused, List.filter_filter]
  refine List.filter_congr fun ppn _ => ?_
  rw [Bool.eq_iff_iff]
  simp

/-- To hand out a used frame leaves the unused ones as they are. -/
theorem unused_handedOut_of_notMem (absent : frame ∉ unused count events) :
    unused count (.handedOut frame :: events) = unused count events := by
  rw [unused_handedOut, List.filter_eq_self]
  intro ppn listed
  exact bne_iff_ne.mpr fun same => absent (same ▸ listed)

/-- To hand out the first unused frame leaves the others. -/
theorem unused_handedOut_of_cons {rest : List Ppn} (listed : unused count events = frame :: rest) :
    unused count (.handedOut frame :: events) = rest := by
  have absent : frame ∉ rest :=
    (List.nodup_cons.mp (listed ▸ nodup_unused count events)).1
  rw [unused_handedOut, listed, List.filter_cons, if_neg (by simp), List.filter_eq_self]
  intro ppn among
  exact bne_iff_ne.mpr fun same => absent (same ▸ among)

theorem unused_takenBack :
    unused count (.takenBack frame :: events) = unused count events := by
  simp [unused]

/-- Unused frames are listed in ascending order. -/
theorem lowest_of_unused {rest : List Ppn} (listed : unused count events = ppn :: rest)
    (lower : other < ppn) : .handedOut other ∈ events := by
  by_contra never
  have inside : ppn < count :=
    (mem_unused.mp (listed ▸ List.mem_cons_self)).1
  have among : other ∈ ppn :: rest :=
    listed ▸ mem_unused.mpr ⟨Nat.lt_trans lower inside, never⟩
  have ascending : (ppn :: rest).Pairwise (· < ·) :=
    listed ▸ List.pairwise_lt_range.filter _
  rcases List.mem_cons.mp among with same | later
  · exact absurd same (Nat.ne_of_lt lower)
  · exact absurd lower (Nat.lt_asymm (List.rel_of_pairwise_cons ascending later))

/-! ### Frames that came back -/

/-- A frame that is handed out needs not be listed any more. -/
theorem OutExcept.handedOut (except : OutExcept events recent (frame :: listed)) :
    OutExcept (.handedOut frame :: events) (.handedOut frame :: recent) listed := by
  intro ppn happened
  rw [List.mem_cons, or_iff_right FrameEvent.noConfusion] at happened
  rw [isOut_handedOut]
  rcases except ppn happened with out | here
  · exact Or.inl (Or.inr out)
  · rcases List.mem_cons.mp here with rfl | here
    · exact Or.inl (Or.inl rfl)
    · exact Or.inr here

/-- A frame that comes back is to be listed. -/
theorem OutExcept.takenBack (except : OutExcept events recent listed) :
    OutExcept (.takenBack frame :: events) (.takenBack frame :: recent) (frame :: listed) := by
  intro ppn happened
  rw [isOut_takenBack]
  by_cases same : frame = ppn
  · exact Or.inr (same ▸ List.mem_cons_self)
  · rcases List.mem_cons.mp happened with now | before
    · exact absurd (FrameEvent.takenBack.inj now).symm same
    · rcases except ppn before with out | here
      · exact Or.inl ⟨same, out⟩
      · exact Or.inr (List.mem_cons_of_mem _ here)

namespace Stacked

/-- Before anything happened no frame was returned. -/
theorem start : Stacked [] [] where
  complete _ happened := nomatch happened
  latest later _ _ listed := by
    cases later <;> cases listed

/-- The frame that came back last leaves. Those below it in the list see one more event, by
which the frame above them is out. -/
theorem handedOut (stacked : Stacked events (frame :: back)) :
    Stacked (.handedOut frame :: events) back where
  complete := stacked.complete.handedOut
  latest later ppn earlier listed := by
    obtain ⟨after, before, history, except⟩ :=
      stacked.latest (frame :: later) ppn earlier (by rw [listed, List.cons_append])
    exact ⟨.handedOut frame :: after, before, by rw [history, List.cons_append], except.handedOut⟩

/-- None has come back, and a frame leaves that was never handed out. -/
theorem handedOut_unused (stacked : Stacked events []) :
    Stacked (.handedOut frame :: events) [] where
  complete := by
    apply OutExcept.handedOut
    intro ppn happened
    exact (stacked.complete ppn happened).imp_right (List.mem_cons_of_mem _)
  latest later _ _ listed := by
    cases later <;> cases listed

/-- A frame comes back. -/
theorem takenBack (stacked : Stacked events back) :
    Stacked (.takenBack frame :: events) (frame :: back) where
  complete := stacked.complete.takenBack
  latest later ppn earlier listed := by
    cases later with
    | nil =>
      rw [List.nil_append, List.cons.injEq] at listed
      refine ⟨[], events, by rw [listed.1, List.nil_append], fun _ happened => ?_⟩
      cases happened
    | cons first later =>
      rw [List.cons_append, List.cons.injEq] at listed
      obtain ⟨rfl, split⟩ := listed
      obtain ⟨after, before, history, except⟩ := stacked.latest later ppn earlier split
      exact ⟨.takenBack frame :: after, before, by rw [history, List.cons_append],
        except.takenBack⟩

/-- The first of the list came back last. -/
theorem lastBack (stacked : Stacked events (ppn :: back)) : LastBack events ppn := by
  obtain ⟨after, before, history, except⟩ := stacked.latest [] ppn back rfl
  exact ⟨after, before, history, fun other happened =>
    (except other happened).resolve_right List.not_mem_nil⟩

/-- Where none has come back, the first of the frames that were never handed out is next. -/
theorem firstUnused {rest : List Ppn} (stacked : Stacked events [])
    (listed : unused count events = ppn :: rest) : FirstUnused events ppn where
  none_back other happened := (stacked.complete other happened).resolve_right List.not_mem_nil
  unused := (mem_unused.mp (listed ▸ List.mem_cons_self)).2
  lowest _ lower := lowest_of_unused listed lower

end Stacked

end FrameEvent

/-- A pool in use, and what became of its frames, the last event first. -/
structure PoolSession where
  pool : FramePool
  events : List FrameEvent := []

namespace PoolSession

open FrameEvent

/-- A pool of all `count` frames, of which nothing was asked yet. -/
def start (count : Nat) : PoolSession := { pool := .full count }

/-- The session after a call. A frame that is released is taken back if somebody has it. -/
def step (session : PoolSession) : PoolCall → PoolSession
  | .allocate =>
      match session.pool.allocate with
      | none => session
      | some (ppn, next) => { pool := next, events := .handedOut ppn :: session.events }
  | .release ppn =>
      match session.pool.release ppn with
      | .error _ => session
      | .ok next =>
          { pool := next
            events :=
              if isOut session.events ppn then .takenBack ppn :: session.events
              else session.events }

/-- The session after calls, one after another. -/
def run (session : PoolSession) (calls : List PoolCall) : PoolSession :=
  calls.foldl step session

variable {session : PoolSession} {count : Nat} {ppn : Ppn}

/-! ### What every call preserves -/

/-- The pool has the frames that nobody has: first those that came back, the last one
first, and then those that were never handed out. -/
structure Orderly (count : Nat) (session : PoolSession) : Prop where
  sound : session.pool.Sound
  size_eq : session.pool.size = count
  isFree_iff : ∀ ppn, session.pool.isFree ppn = true ↔
    ppn < count ∧ isOut session.events ppn = false
  free_eq : ∃ back, Stacked session.events back ∧
    session.pool.free = back ++ unused count session.events

namespace Orderly

/-- A new pool has all its frames unused. -/
theorem start (count : Nat) : (PoolSession.start count).Orderly count where
  sound := FramePool.sound_full count
  size_eq := FramePool.size_full count
  isFree_iff ppn := by
    simp [PoolSession.start, FramePool.isFree_full, isOut]
  free_eq := ⟨[], .start, by simp [PoolSession.start, FramePool.full, unused]⟩

/-- A frame that is allocated is the one returned last, or the first unused one. -/
theorem allocated (orderly : session.Orderly count) {next : FramePool}
    (taken : session.pool.allocate = some (ppn, next)) :
    Orderly count { pool := next, events := .handedOut ppn :: session.events } where
  sound := orderly.sound.allocate taken
  size_eq := (FramePool.size_of_allocate taken).trans orderly.size_eq
  isFree_iff other := by
    rw [FramePool.isFree_of_allocate taken, Bool.and_eq_true, bne_iff_ne, orderly.isFree_iff,
      ← Bool.not_eq_true, ← Bool.not_eq_true, isOut_handedOut]
    tauto
  free_eq := by
    obtain ⟨back, stacked, listed⟩ := orderly.free_eq
    have nodup := orderly.sound.nodup
    rw [FramePool.free_of_allocate taken] at listed nodup
    cases back with
    | nil =>
      rw [List.nil_append] at listed
      exact ⟨[], stacked.handedOut_unused, (unused_handedOut_of_cons listed.symm).symm⟩
    | cons first back =>
      rw [List.cons_append, List.cons.injEq] at listed
      obtain ⟨rfl, listed⟩ := listed
      refine ⟨back, stacked.handedOut, ?_⟩
      rw [listed, List.nodup_cons, List.mem_append, not_or] at nodup
      rw [listed, unused_handedOut_of_notMem nodup.1.2]

/-- A frame that nobody has is not taken back, and a frame that somebody has is. -/
theorem released (orderly : session.Orderly count) {next : FramePool}
    (taken : session.pool.release ppn = .ok next) :
    Orderly count
      { pool := next
        events :=
          if isOut session.events ppn then .takenBack ppn :: session.events
          else session.events } := by
  have inside : ppn < count := by
    by_contra beyond
    rw [FramePool.release_eq_error_iff.mpr
      ⟨orderly.size_eq.le.trans (Nat.le_of_not_lt beyond), rfl⟩] at taken
    cases taken
  by_cases out : isOut session.events ppn = true
  · rw [if_pos out]
    have handedOut : session.pool.isFree ppn = false := by
      rw [← Bool.not_eq_true, orderly.isFree_iff, out]
      simp
    obtain ⟨back, stacked, listed⟩ := orderly.free_eq
    constructor
    case sound => exact orderly.sound.release taken
    case size_eq => exact (FramePool.size_of_release taken).trans orderly.size_eq
    case isFree_iff =>
      intro other
      rw [FramePool.isFree_of_release taken, Bool.or_eq_true, beq_iff_eq, orderly.isFree_iff,
        ← Bool.not_eq_true, ← Bool.not_eq_true, isOut_takenBack]
      by_cases same : ppn = other
      · subst same
        simp [inside]
      · simp [same]
    case free_eq =>
      refine ⟨ppn :: back, stacked.takenBack, ?_⟩
      rw [FramePool.free_of_release handedOut taken, listed, unused_takenBack, List.cons_append]
  · rw [if_neg out]
    have free : session.pool.isFree ppn = true :=
      (orderly.isFree_iff ppn).mpr ⟨inside, Bool.not_eq_true _ ▸ out⟩
    rw [FramePool.release_of_isFree free] at taken
    cases taken
    exact orderly

/-- A call keeps the order. -/
theorem step (orderly : session.Orderly count) (call : PoolCall) :
    (session.step call).Orderly count := by
  cases call with
  | allocate =>
    simp only [PoolSession.step]
    split
    · exact orderly
    · next taken => exact orderly.allocated taken
  | release ppn =>
    simp only [PoolSession.step]
    split
    · exact orderly
    · next taken => exact orderly.released taken

/-- A session keeps the order. -/
theorem run (orderly : session.Orderly count) (calls : List PoolCall) :
    (session.run calls).Orderly count := by
  induction calls generalizing session with
  | nil => exact orderly
  | cons call rest hypothesis => exact hypothesis (orderly.step call)

end Orderly

/-! ### What the pool answers -/

/-- The pool as its callers know it: the free list and the flags are the same set of frames,
and both follow from what was handed out and taken back. -/
structure PoolExact (count : Nat) (session : PoolSession) : Prop where
  nodup : session.pool.free.Nodup
  mem_free_iff : ∀ ppn, ppn ∈ session.pool.free ↔
    ppn < count ∧ session.pool.allocated[ppn]? = some false
  flag_eq : ∀ ppn < count, session.pool.allocated[ppn]? = some (isOut session.events ppn)
  freeCount_eq : session.pool.freeCount =
    ((Finset.range count).filter fun ppn => session.pool.allocated[ppn]? = some false).card
  exhausted_iff : session.pool.allocate = none ↔
    ∀ ppn < count, session.pool.allocated[ppn]? = some true
  handed_out : ∀ ppn next, session.pool.allocate = some (ppn, next) →
    ppn < count ∧ isOut session.events ppn = false ∧
      (LastBack session.events ppn ∨ FirstUnused session.events ppn)
  refused_iff : ∀ ppn cause, session.pool.release ppn = .error cause ↔
    count ≤ ppn ∧ cause = .invalidFrame ppn
  ignored : ∀ ppn ∈ session.pool.free, session.pool.release ppn = .ok session.pool

namespace Orderly

/-- The free frames are those with a flag that says so. -/
theorem mem_free_iff (orderly : session.Orderly count) (ppn : Ppn) :
    ppn ∈ session.pool.free ↔ ppn < count ∧ session.pool.allocated[ppn]? = some false := by
  have marked : session.pool.isFree ppn = true ↔ session.pool.allocated[ppn]? = some false := by
    rw [FramePool.isFree, beq_iff_eq]
  rw [orderly.sound.mem_free_iff, marked, iff_and_self, ← marked]
  exact fun free => ((orderly.isFree_iff ppn).mp free).1

/-- A flag tells whether its frame is out. -/
theorem flag_eq (orderly : session.Orderly count) (inside : ppn < count) :
    session.pool.allocated[ppn]? = some (isOut session.events ppn) := by
  have within : ppn < session.pool.size := orderly.size_eq.symm ▸ inside
  obtain ⟨flag, marked⟩ : ∃ flag, session.pool.allocated[ppn]? = some flag :=
    ⟨_, Array.getElem?_eq_getElem within⟩
  have meaning := orderly.isFree_iff ppn
  rw [FramePool.isFree, marked, beq_iff_eq, Option.some.injEq] at meaning
  rw [marked, Option.some.injEq, Bool.eq_iff_iff, ← not_iff_not, Bool.not_eq_true,
    Bool.not_eq_true, meaning, and_iff_right inside]

/-- As many frames are free as there are flags that say so. -/
theorem freeCount_eq (orderly : session.Orderly count) :
    session.pool.freeCount =
      ((Finset.range count).filter fun ppn => session.pool.allocated[ppn]? = some false).card := by
  rw [FramePool.freeCount, ← List.toFinset_card_of_nodup orderly.sound.nodup]
  congr 1
  ext ppn
  rw [List.mem_toFinset, orderly.mem_free_iff, Finset.mem_filter, Finset.mem_range]

/-- The pool has nothing to give when all its frames are out. -/
theorem exhausted_iff (orderly : session.Orderly count) :
    session.pool.allocate = none ↔
      ∀ ppn < count, session.pool.allocated[ppn]? = some true := by
  rw [FramePool.allocate_eq_none_iff, FramePool.freeCount, List.length_eq_zero_iff,
    List.eq_nil_iff_forall_not_mem]
  refine forall_congr' fun ppn => ?_
  rw [orderly.mem_free_iff, not_and]
  refine forall_congr' fun inside => ?_
  rw [orderly.flag_eq inside]
  simp

/-- The frame that is handed out was returned last or is the first unused one. -/
theorem handed_out (orderly : session.Orderly count) {next : FramePool}
    (taken : session.pool.allocate = some (ppn, next)) :
    LastBack session.events ppn ∨ FirstUnused session.events ppn := by
  obtain ⟨back, stacked, listed⟩ := orderly.free_eq
  rw [FramePool.free_of_allocate taken] at listed
  cases back with
  | nil => exact Or.inr (stacked.firstUnused listed.symm)
  | cons first back =>
    rw [List.cons_append, List.cons.injEq] at listed
    exact Or.inl (listed.1 ▸ stacked.lastBack)

end Orderly

/-- After any calls, the pool has every frame once that nobody has, and hands out the one
that came back last, or the lowest unused one where none has come back. -/
theorem frame_pool_exact (count : Nat) (calls : List PoolCall) :
    PoolExact count ((start count).run calls) := by
  have orderly : Orderly count ((start count).run calls) := (Orderly.start count).run calls
  constructor
  case nodup => exact orderly.sound.nodup
  case mem_free_iff => exact orderly.mem_free_iff
  case flag_eq => exact fun _ inside => orderly.flag_eq inside
  case freeCount_eq => exact orderly.freeCount_eq
  case exhausted_iff => exact orderly.exhausted_iff
  case handed_out =>
    intro ppn next taken
    have free := FramePool.isFree_of_allocate_self orderly.sound taken
    obtain ⟨inside, notOut⟩ := (orderly.isFree_iff ppn).mp free
    exact ⟨inside, notOut, orderly.handed_out taken⟩
  case refused_iff =>
    intro ppn cause
    rw [FramePool.release_eq_error_iff, orderly.size_eq]
  case ignored =>
    intro ppn listed
    exact FramePool.release_of_isFree ((orderly.sound.mem_free_iff ppn).mp listed)

/-- A frame that is released again while it is free keeps its place. -/
example :
    ((start 3).run [.allocate, .allocate, .release 0, .release 1, .release 0]).pool.free =
      [1, 0, 2] := by
  decide

end PoolSession

end VirtualMemory
