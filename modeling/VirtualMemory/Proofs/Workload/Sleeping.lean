/-
Module: VirtualMemory.Proofs.Workload.Sleeping
Purpose: Threads that count together under a sleeping lock make all their additions and lose
  none.
Main exports:
  Counting.Approach, approach_sleepLock; Calm, Calm.moves, Calm.nearer; sleeping,
  underSleepLock_eq
-/
import VirtualMemory.Proofs.Lock.HandOver
import VirtualMemory.Proofs.Workload.Counting

namespace VirtualMemory.Counting

open SleepLock

variable {lock next : SleepLock} {thread other : ThreadId} {turn : Turn SleepLock}

/-- What a counter may do about a sleeping lock. -/
inductive Approach (lock : SleepLock) (thread : ThreadId) : Turn SleepLock → Prop where
  /-- It has a guard. -/
  | inside : 0 < lock.guards thread → Approach lock thread .inside
  /-- It sleeps, and the lock is not handed to it. -/
  | rests :
      lock.phase thread = .parked → lock.holder ≠ thread → Approach lock thread (.underway lock)
  /-- It comes on in its call. It does not call while it has a guard, and wakes up only when the
  lock was handed to it. -/
  | moves {move : Move} {next : SleepLock} :
      lock.step thread move = some next → (Event.move move).dropsGuard = false →
      (move = .start → lock.guards thread = 0) →
      (lock.phase thread = .parked → lock.holder = thread) → Approach lock thread (.underway next)

/-- The step that brings a thread forward is possible. It neither calls for the lock nor drops a
guard, and it wakes nobody to whom the lock was not handed. -/
theorem nextMove_spec {move : Move} (forward : lock.nextMove thread = some move) :
    (lock.step thread move).isSome = true ∧ (Event.move move).dropsGuard = false ∧
      move ≠ .start ∧ (lock.phase thread = .parked → lock.holder = thread) := by
  rw [nextMove] at forward
  split at forward
  case h_1 => cases forward
  case h_2 again grabbing =>
    cases forward
    refine ⟨?_, rfl, by decide, fun parked => (by cases grabbing.symm.trans parked)⟩
    cases again <;> by_cases free : lock.holder = 0 <;> simp [SleepLock.step, grabbing, free]
  case h_3 leaving =>
    cases forward
    refine ⟨?_, rfl, by decide, fun parked => (by cases leaving.symm.trans parked)⟩
    simp only [SleepLock.step, leaving, Option.isSome_some]
  case h_4 again checking =>
    cases forward
    refine ⟨?_, rfl, by decide, fun parked => (by cases checking.symm.trans parked)⟩
    cases again <;> by_cases ours : lock.holder = thread <;> simp [SleepLock.step, checking, ours]
  case h_5 again queueing =>
    cases forward
    refine ⟨?_, rfl, by decide, fun parked => (by cases queueing.symm.trans parked)⟩
    by_cases free : lock.holder = 0 <;> simp [SleepLock.step, queueing, free]
  case h_6 parked =>
    split at forward
    · next handed =>
      cases forward
      refine ⟨?_, rfl, by decide, fun _ => handed⟩
      simp only [SleepLock.step, parked, Option.isSome_some]
    · cases forward
  case h_7 refused =>
    cases forward
    refine ⟨?_, rfl, by decide, fun parked => (by cases refused.symm.trans parked)⟩
    simp only [SleepLock.step, refused, Option.isSome_some]

/-- Without a step that brings it forward, a thread is in no call or waits. -/
theorem phase_of_nextMove_eq_none (stuck : lock.nextMove thread = none) :
    lock.phase thread = .idle ∨ lock.phase thread = .parked ∧ lock.holder ≠ thread := by
  rw [nextMove] at stuck
  split at stuck
  case h_1 idle => exact .inl idle
  case h_6 parked => exact .inr ⟨parked, by simpa using stuck⟩
  all_goals cases stuck

/-- A thread does one of the things that are listed. -/
theorem approach_sleepLock (lock : SleepLock) (thread : ThreadId) :
    Approach lock thread (approachSleepLock lock thread) := by
  rw [approachSleepLock]
  split
  · next move forward =>
    obtain ⟨possible, keeps, started, woken⟩ := nextMove_spec forward
    obtain ⟨next, stepped⟩ := Option.isSome_iff_exists.mp possible
    rw [run, List.foldl_cons, List.foldl_nil, stepped]
    exact .moves stepped keeps (fun start => absurd start started) woken
  · next stuck =>
    rcases phase_of_nextMove_eq_none stuck with idle | ⟨parked, elsewhere⟩
    · rw [idle, if_neg (by decide)]
      split
      · next without =>
        have stepped : lock.step thread .start = some (lock.enter thread (.grabbing false)) := by
          simp only [SleepLock.step, idle]
        rw [run, List.foldl_cons, List.foldl_nil, stepped]
        exact .moves stepped rfl (fun _ => without) fun parked => by cases idle.symm.trans parked
      · next owns => exact .inside (Nat.pos_of_ne_zero owns)
    · rw [if_pos parked]
      exact .rests parked elsewhere

/-- Nothing but the drop of a guard takes the lock from a thread. -/
theorem holder_of_effect {event : Event} (keeps : event.dropsGuard = false)
    (effect : Effect lock thread event next) :
    next.holder = lock.holder ∨ lock.holder = 0 ∧ next.holder = thread := by
  cases effect with
  | advances | fails | leaves | receives | parks => exact .inl rfl
  | takes _ free | takesQueued _ free => exact .inr ⟨free, rfl⟩
  | drops drops => cases keeps.symm.trans drops

/-- Other threads are where they were. -/
theorem phase_of_effect {event : Event} (effect : Effect lock thread event next)
    (different : other ≠ thread) : next.phase other = lock.phase other := by
  cases effect with
  | advances | takesQueued | parks => rw [phase_enter, if_neg different, phase_mk]
  | fails => rfl
  | takes | leaves | receives => rw [phase_acquire, if_neg different, phase_mk]
  | drops => rw [phase_handOver, phase_dropGuard]

/-- Nobody misses that the lock is handed over: whoever is queued is asleep. -/
structure Calm (lock : SleepLock) : Prop where
  handsOver : HandsOver lock
  asleep : ∀ thread ∈ lock.queue, lock.phase thread = .parked

namespace Calm

theorem free : Calm SleepLock.free where
  handsOver := .free
  asleep thread found := by cases found

/-- A counter comes on in its call. -/
theorem moves {event : Event} (calm : Calm lock) (nonzero : thread ≠ 0)
    (keeps : event.dropsGuard = false) (single : event = .move .start → lock.guards thread = 0)
    (woken : lock.phase thread = .parked → lock.holder = thread)
    (effect : Effect lock thread event next) : Calm next where
  handsOver := by
    refine calm.handsOver.effect nonzero single (fun drops => ?_) effect
    cases keeps.symm.trans drops
  asleep other queued := by
    have before : other ∈ lock.queue → next.phase other = .parked := fun found => by
      have parked := calm.asleep other found
      rw [phase_of_effect effect, parked]
      rintro rfl
      exact (calm.handsOver.queued other found).1 (woken parked)
    cases effect with
    | advances | fails | takes | takesQueued | receives => exact before queued
    | leaves leaving => exact absurd leaving (calm.handsOver.unleaving thread)
    | parks =>
      rcases mem_enqueued.mp queued with found | rfl
      · exact before found
      · rw [phase_enter, if_pos rfl]
    | drops drops => cases keeps.symm.trans drops

/-- A counter drops its guard. -/
theorem drops (calm : Calm lock) (nonzero : thread ≠ 0) (owns : 0 < lock.guards thread) :
    Calm (lock.dropGuard thread).handOver where
  handsOver := by
    have dropped : Effect lock thread .dropped (lock.dropGuard thread).handOver := .drops rfl owns
    refine calm.handsOver.effect nonzero (fun started => ?_)
      (fun _ _ first rest again queue queueing => ?_) dropped
    · cases started
    have parked := calm.asleep first (queue ▸ List.mem_cons_self)
    cases queueing.symm.trans parked
  asleep other queued := by
    rw [queue_handOver, queue_dropGuard] at queued
    rw [phase_handOver, phase_dropGuard]
    exact calm.asleep other (List.mem_of_mem_tail queued)

/-- A thread with a guard is in no call. -/
theorem unlock_eq (calm : Calm lock) (owns : 0 < lock.guards thread) :
    lock.unlock thread = (lock.dropGuard thread).handOver := by
  have stepped : lock.step thread .unlock = some (lock.dropGuard thread).handOver := by
    simp only [SleepLock.step, calm.handsOver.idle thread owns, if_neg (Nat.ne_of_gt owns)]
  rw [unlock, run, List.foldl_cons, List.foldl_nil, stepped, Option.getD_some]

end Calm

/-- How many steps a thread is from its guard if the lock is free or was handed to it. -/
def stepsFrom : Phase → Nat
  | .parked | .checking false | .refused => 3
  | .idle | .queueing false | .grabbing true => 2
  | .grabbing false | .checking true => 1
  | .leaving | .queueing true => 0

/-- How many steps a thread is from having a guard. -/
def stepsLeft (lock : SleepLock) (thread : ThreadId) : Nat :=
  if 0 < lock.guards thread then 0 else stepsFrom (lock.phase thread)

theorem stepsLeft_le (lock : SleepLock) (thread : ThreadId) : stepsLeft lock thread ≤ 3 := by
  unfold stepsLeft stepsFrom
  split
  · omega
  · split <;> omega

theorem stepsLeft_of_guards (owns : 0 < lock.guards thread) : stepsLeft lock thread = 0 :=
  if_pos owns

theorem stepsLeft_of_without (without : lock.guards thread = 0) :
    stepsLeft lock thread = stepsFrom (lock.phase thread) :=
  if_neg (without ▸ Nat.lt_irrefl 0)

/-- Where a lock is free or was handed to the thread, each step in its call counts. -/
theorem stepsFrom_of_advance {holder : ThreadId} {move : Move} {old new : Phase}
    (advance : Advance holder thread move old new) (nonzero : thread ≠ 0)
    (ready : holder = 0 ∧ old.hasQueued = false ∨ holder = thread ∧ 0 < old.turnsLeft) :
    stepsFrom new < stepsFrom old := by
  cases advance with
  | started | woken | recovered => decide
  | @notFree queued taken =>
    obtain ⟨_, left⟩ := ready.resolve_left fun free => taken free.1
    cases queued with
    | true => decide
    | false => cases left
  | refused held =>
    obtain ⟨_, left⟩ := ready.resolve_left fun free => nonzero (held.symm.trans free.1)
    cases left
  | @notOurs queued notOurs =>
    obtain ⟨_, unqueued⟩ := ready.resolve_right fun handed => notOurs handed.1
    cases queued with
    | true => cases unqueued
    | false => decide
  | @freeAgain queued =>
    rcases ready with ⟨_, unqueued⟩ | ⟨_, left⟩
    · cases queued with
      | true => cases unqueued
      | false => decide
    · cases left

/-- A thread that comes on towards a lock that is free, or was handed to it, gets a guard or
comes nearer to it. -/
theorem Calm.nearer {event : Event} (calm : Calm lock) (nonzero : thread ≠ 0)
    (without : lock.guards thread = 0) (ready : lock.holder = 0 ∨ lock.holder = thread)
    (effect : Effect lock thread event next) : stepsLeft next thread < stepsLeft lock thread := by
  have right := calm.handsOver
  have learns : lock.holder = thread → 0 < (lock.phase thread).turnsLeft := fun held =>
    (right.handed thread nonzero held).resolve_left (without ▸ Nat.lt_irrefl 0)
  rw [stepsLeft_of_without without]
  cases effect with
  | advances at_phase advance =>
    rw [stepsLeft_of_without (by rw [guards_enter, without]), phase_enter, if_pos rfl, at_phase]
    refine stepsFrom_of_advance advance nonzero
      (ready.imp (fun free => ⟨free, ?_⟩) fun held => ⟨held, ?_⟩)
    · rw [← at_phase, right.hasQueued_of_free free]
    · rw [← at_phase]
      exact learns held
  | fails idle taken =>
    have left := learns (ready.resolve_left taken)
    rw [idle] at left
    cases left
  | takes at_phase =>
    rw [stepsLeft_of_guards (by rw [guards_acquire, if_pos rfl]; exact Nat.succ_pos _)]
    rcases at_phase with idle | grabbing
    · rw [idle]
      decide
    · rw [grabbing]
      decide
  | takesQueued grabbing free =>
    have unqueued := right.hasQueued_of_free free thread
    rw [grabbing] at unqueued
    cases unqueued
  | leaves leaving => exact absurd leaving (right.unleaving thread)
  | receives checking =>
    rw [stepsLeft_of_guards (by rw [guards_acquire, if_pos rfl]; exact Nat.succ_pos _), checking]
    decide
  | parks queueing taken =>
    exact absurd (ready.resolve_left taken) (right.ne_holder_of_queueing nonzero queueing)
  | drops _ owns => exact absurd owns (without ▸ Nat.lt_irrefl 0)

/-- A thread that is inside has a guard. -/
theorem guards_of_inside (inside : approachSleepLock lock thread = .inside) :
    0 < lock.guards thread := by
  have approach : Approach lock thread .inside := inside ▸ approach_sleepLock lock thread
  cases approach with
  | inside owns => exact owns

theorem underway_of_eq (underway : approachSleepLock lock thread = .underway next) :
    Approach lock thread (.underway next) :=
  underway ▸ approach_sleepLock lock thread

/-- What a thread does leaves the others as far from their guards as they were. -/
theorem stepsLeft_of_effect {event : Event} (effect : Effect lock thread event next)
    (different : other ≠ thread) : stepsLeft next other = stepsLeft lock other := by
  have guards : next.guards other = lock.guards other := by
    cases effect with
    | advances | takesQueued | parks => rw [guards_enter, guards_mk]
    | fails => rfl
    | takes | leaves | receives => rw [guards_acquire, if_neg different, guards_mk]
    | drops => rw [guards_handOver, guards_dropGuard, if_neg different]
  rw [stepsLeft, stepsLeft, guards, phase_of_effect effect different]

theorem stepsLeft_underway (underway : approachSleepLock lock thread = .underway next)
    (different : other ≠ thread) : stepsLeft next other = stepsLeft lock other := by
  cases underway_of_eq underway with
  | rests => rfl
  | moves stepped => exact stepsLeft_of_effect (effect_of_step stepped) different

theorem Calm.stepsLeft_unlock (calm : Calm lock)
    (inside : approachSleepLock lock thread = .inside) (different : other ≠ thread) :
    stepsLeft (lock.unlock thread) other = stepsLeft lock other := by
  have owns := guards_of_inside inside
  have dropped : Effect lock thread .dropped (lock.dropGuard thread).handOver := .drops rfl owns
  rw [calm.unlock_eq owns]
  exact stepsLeft_of_effect dropped different

/-- The sleeping lock, used by any threads. -/
def sleeping : Discipline SleepLock where
  approach := approachSleepLock
  unlock := SleepLock.unlock
  member thread := thread ≠ 0
  good := Calm
  first lock thread := thread ≠ 0 ∧ lock.holder = thread
  busy lock thread := thread ≠ 0 ∧ (lock.phase thread ≠ .idle ∨ lock.holder = thread)
  steps := stepsLeft
  steps_le := stepsLeft_le
  good_underway := by
    intro lock next thread calm nonzero underway
    cases underway_of_eq underway with
    | rests => exact calm
    | moves stepped keeps single woken =>
      exact calm.moves nonzero keeps (fun start => single (by cases start; rfl)) woken
        (effect_of_step stepped)
  good_unlock := by
    intro lock thread calm nonzero inside
    have owns := guards_of_inside inside
    exact calm.unlock_eq owns ▸ calm.drops nonzero owns
  first_unique _ one two := one.2.symm.trans two.2
  first_inside calm _ inside :=
    calm.handsOver.exclusive.owner _ (guards_of_inside inside)
  first_underway := by
    intro lock next thread other calm nonzero isFirst underway
    cases underway_of_eq underway with
    | rests => exact isFirst
    | moves stepped keeps =>
      rcases holder_of_effect keeps (effect_of_step stepped) with same | ⟨free, _⟩
      · exact ⟨isFirst.1, same.trans isFirst.2⟩
      · exact absurd (isFirst.2.symm.trans free) isFirst.1
  comes := by
    intro lock thread calm nonzero clear
    rcases Nat.eq_zero_or_pos (lock.guards thread) with without | owns
    · have ready : lock.holder = 0 ∨ lock.holder = thread :=
        (eq_or_ne lock.holder 0).imp_right fun taken => clear lock.holder ⟨taken, rfl⟩
      cases turn : approachSleepLock lock thread with
      | inside => exact .inl rfl
      | underway next =>
        cases underway_of_eq turn with
        | rests parked elsewhere =>
          have unqueued := calm.handsOver.hasQueued_of_free (ready.resolve_right elsewhere) thread
          rw [parked] at unqueued
          cases unqueued
        | moves stepped keeps =>
          have effect := effect_of_step stepped
          refine .inr ⟨next, rfl, fun other isFirst => ?_, calm.nearer nonzero without ready effect⟩
          rcases holder_of_effect keeps effect with same | ⟨_, taken⟩
          · exact clear other ⟨isFirst.1, same.symm.trans isFirst.2⟩
          · exact isFirst.2.symm.trans taken
    · have idle := calm.handsOver.idle thread owns
      left
      simp only [approachSleepLock, nextMove, idle, reduceCtorEq, if_false,
        if_neg (Nat.ne_of_gt owns)]
  busy_first _ isFirst := ⟨isFirst.1, .inr isFirst.2⟩
  busy_underway := by
    intro lock next thread other calm nonzero underway isBusy
    by_cases same : other = thread
    · exact .inl same
    cases underway_of_eq underway with
    | rests => exact .inr isBusy
    | moves stepped keeps =>
      have effect := effect_of_step stepped
      refine .inr ⟨isBusy.1, ?_⟩
      rw [← phase_of_effect effect same]
      refine isBusy.2.imp_right fun held => ?_
      rcases holder_of_effect keeps effect with kept | ⟨_, taken⟩
      · exact kept ▸ held
      · exact absurd (held.symm.trans taken) same
  busy_unlock := by
    intro lock thread other calm nonzero inside isBusy
    have owns := guards_of_inside inside
    have held := (calm.handsOver.exclusive.owner thread owns).2
    rw [calm.unlock_eq owns, phase_handOver, phase_dropGuard, holder_handOver,
      queue_dropGuard] at isBusy
    rcases isBusy.2 with calls | handed
    · refine ⟨?_, isBusy.1, .inl calls⟩
      rintro rfl
      exact calls (calm.handsOver.idle other owns)
    · cases queue : lock.queue with
      | nil =>
        rw [queue] at handed
        exact absurd handed.symm isBusy.1
      | cons first rest =>
        rw [queue, List.head?_cons, Option.getD_some] at handed
        subst handed
        have queued := queue ▸ List.mem_cons_self
        refine ⟨fun same => (calm.handsOver.queued first queued).1 (held.trans same.symm),
          isBusy.1, .inl ?_⟩
        rw [calm.asleep first queued]
        exact Phase.noConfusion

/-- Threads that count under a sleeping lock make all their additions, and none is lost. -/
theorem underSleepLock_eq (threads rounds : Nat) :
    underSleepLock threads rounds = threads * rounds := by
  refine sleeping.total_eq rounds Calm.free (fun index _ => Nat.succ_ne_zero index) ?_
  rintro thread ⟨nonzero, calls | held⟩
  · exact calls rfl
  · exact nonzero held.symm

end VirtualMemory.Counting
