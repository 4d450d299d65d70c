/-
Module: VirtualMemory.Proofs.Lock.HandOver
Purpose: When a sleeping lock is handed over, whoever it goes to takes it, as long as no
  thread locks it twice and none is chosen between its last look at the lock and its
  return to the queue.
Main exports:
  SleepLock.Avoids, Relocks, Overlooks, Mishandles; Delivers, Faithful, handed_to_nobody,
  HandsOver, hand_over_faithful

A thread that wakes up unasked looks at the lock and, when another thread holds it, goes
back to the queue, in which it still stands. If the lock is handed to it in between, it
queues once more although the lock is its own, and later hands the lock to itself.
-/
import VirtualMemory.Proofs.Lock.Exclusion

namespace VirtualMemory

namespace SleepLock

variable {lock next : SleepLock} {thread other : ThreadId} {event : Event} {turn : Turn}

/-! ### Runs without certain turns -/

/-- No turn of a run is a bad one where it is taken. -/
def Avoids (bad : SleepLock → Turn → Prop) : SleepLock → List Turn → Prop
  | _, [] => True
  | lock, turn :: turns => ¬ bad lock turn ∧ Avoids bad ((lock.take turn).getD lock) turns

instance decidableAvoids {bad : SleepLock → Turn → Prop}
    [∀ lock turn, Decidable (bad lock turn)] :
    (lock : SleepLock) → (turns : List Turn) → Decidable (Avoids bad lock turns)
  | _, [] => .isTrue trivial
  | lock, turn :: turns =>
      have : Decidable (Avoids bad ((lock.take turn).getD lock) turns) := decidableAvoids _ turns
      inferInstanceAs (Decidable (¬ bad lock turn ∧ _))

/-- A thread that owns a guard calls for the lock. -/
def Relocks (lock : SleepLock) (turn : Turn) : Prop :=
  turn.event = .move .start ∧ 0 < lock.guards turn.thread

instance : Decidable (Relocks lock turn) := inferInstanceAs (Decidable (_ ∧ _))

/-- Whether a thread has looked at the lock and is about to queue for it. -/
def Phase.isQueueing : Phase → Bool
  | .queueing _ => true
  | .idle | .grabbing _ | .leaving | .checking _ | .parked | .refused => false

/-- The guard is dropped while the thread that the lock goes to is about to queue for it
again. -/
def Overlooks (lock : SleepLock) (turn : Turn) : Prop :=
  turn.event.dropsGuard = true ∧ 0 < lock.guards turn.thread ∧
    lock.queue.head?.any (fun first => (lock.phase first).isQueueing) = true

instance : Decidable (Overlooks lock turn) := inferInstanceAs (Decidable (_ ∧ _ ∧ _))

/-- The turns after which the lock may go to a thread that does not take it. -/
def Mishandles (lock : SleepLock) (turn : Turn) : Prop :=
  lock.Relocks turn ∨ lock.Overlooks turn

instance : Decidable (Mishandles lock turn) := inferInstanceAs (Decidable (_ ∨ _))

/-! ### What is promised -/

/-- Whether a thread is inside a call for the lock. -/
def Phase.isCalling : Phase → Bool
  | .idle | .refused => false
  | .grabbing _ | .leaving | .checking _ | .queueing _ | .parked => true

/-- How many turns of a thread a run has, of those that are possible where they come. -/
def turnsOf (thread : ThreadId) : SleepLock → List Turn → Nat
  | _, [] => 0
  | lock, turn :: turns =>
      (if turn.thread = thread ∧ (lock.take turn).isSome = true then 1 else 0) +
        turnsOf thread ((lock.take turn).getD lock) turns

/-- Whatever follows, apart from bad turns, the thread keeps the lock and can go on until it
has a guard, which it gets with the third of its turns at the latest. -/
def Delivers (bad : SleepLock → Turn → Prop) (lock : SleepLock) (thread : ThreadId) : Prop :=
  ∀ turns, Avoids bad lock turns →
    (∃ before, before <+: turns ∧ 0 < (lock.play before).guards thread) ∨
    ((lock.play turns).holder = thread ∧ turnsOf thread lock turns < 3 ∧
      ∃ move, (lock.play turns).nextMove thread = some move ∧
        ((lock.play turns).step thread move).isSome = true)

/-- The lock is never with a thread that does not take it. -/
structure Faithful (bad : SleepLock → Turn → Prop) (lock : SleepLock) : Prop where
  /-- The thread that holds the lock has a guard, or is in its call and returns with one. -/
  holderServed : ∀ thread, thread ≠ 0 → lock.holder = thread →
    0 < lock.guards thread ∨ (lock.phase thread).isCalling = true ∧ lock.Delivers bad thread
  /-- Each waiting thread is queued once, and inside its call without a guard. -/
  queuedOnce : lock.queue.Nodup
  queuedCalling : ∀ thread ∈ lock.queue,
    (lock.phase thread).isCalling = true ∧ lock.guards thread = 0
  /-- A lock that nobody has or calls for is free, and nobody is queued for it. -/
  settled : (∀ thread, lock.guards thread = 0) →
    (∀ thread, (lock.phase thread).isCalling = false) → lock.isLocked = false ∧ lock.queue = []
  /-- No thread is told that it locks twice. -/
  neverRefused : ∀ thread, lock.phase thread ≠ .refused

/-! ### The hand-over that goes wrong -/

/-- The second thread waits for the first, wakes up unasked, finds the lock taken, has the
lock handed to it, and queues for it all the same. It finds out later that the lock is its
own, and when it drops its guard hands the lock to itself. -/
def handOverMissed : List Turn :=
  [⟨1, .move .start, by decide⟩, ⟨1, .move .exchange, by decide⟩,
   ⟨2, .move .start, by decide⟩, ⟨2, .move .exchange, by decide⟩,
   ⟨2, .move .check, by decide⟩, ⟨2, .move .enqueue, by decide⟩,
   ⟨2, .move .wake, by decide⟩, ⟨2, .move .exchange, by decide⟩,
   ⟨2, .move .check, by decide⟩, ⟨1, .move .unlock, by decide⟩,
   ⟨2, .move .enqueue, by decide⟩, ⟨2, .move .wake, by decide⟩,
   ⟨2, .move .exchange, by decide⟩, ⟨2, .move .check, by decide⟩,
   ⟨2, .move .unlock, by decide⟩]

/-- Without a guard and outside its call, a thread holds the lock, though nobody locked
twice. -/
theorem handed_to_nobody :
    ¬ ∀ turns, free.Avoids Relocks turns → (free.play turns).Faithful Relocks := by
  intro faithful
  rcases (faithful handOverMissed (by decide)).holderServed 2 (by decide) (by decide) with
    owns | ⟨calls, _⟩
  · exact absurd owns (by decide)
  · exact absurd calls (by decide)

/-! ### Why other hand-overs go right -/

/-- Whether a thread in a call for the lock has queued for it. -/
def Phase.hasQueued : Phase → Bool
  | .parked | .grabbing true | .checking true | .queueing true => true
  | .idle | .refused | .leaving | .grabbing false | .checking false | .queueing false => false

/-- How many turns a thread that has queued is from the look at the lock by which it learns
that the lock was handed to it. When it has already looked, no turn brings it there. -/
def Phase.turnsLeft : Phase → Nat
  | .checking true => 1
  | .grabbing true => 2
  | .parked => 3
  | .idle | .refused | .leaving | .grabbing false | .checking false | .queueing _ => 0

/-- A thread that has queued learns of the lock in time unless it is about to queue again. -/
theorem Phase.turnsLeft_pos {phase : Phase} (queued : phase.hasQueued = true)
    (notLate : ∀ again, phase ≠ .queueing again) : 0 < phase.turnsLeft := by
  cases phase with
  | grabbing again | checking again =>
    cases again with
    | true => decide
    | false => cases queued
  | parked => decide
  | queueing again => exact absurd rfl (notLate again)
  | idle | leaving | refused => cases queued

theorem Phase.isCalling_of_hasQueued {phase : Phase} (queued : phase.hasQueued = true) :
    phase.isCalling = true := by
  cases phase with
  | idle | leaving | refused => cases queued
  | grabbing | checking | queueing | parked => rfl

theorem Phase.hasQueued_of_turnsLeft {phase : Phase} (left : 0 < phase.turnsLeft) :
    phase.hasQueued = true := by
  cases phase with
  | grabbing again | checking again =>
    cases again with
    | true => rfl
    | false => cases left
  | parked => rfl
  | idle | leaving | refused | queueing => cases left

theorem Phase.turnsLeft_le (phase : Phase) : phase.turnsLeft ≤ 3 := by
  unfold turnsLeft
  split <;> decide

section Advance

variable {holder : ThreadId} {move : Move} {old new : Phase}

/-- As a thread comes on in its call, it stays one that has queued, or one that has not. -/
theorem Advance.hasQueued (advance : Advance holder thread move old new) :
    new.hasQueued = old.hasQueued := by
  cases advance with
  | notFree | notOurs | freeAgain => rename_i queued _; cases queued <;> rfl
  | started | refused | woken | recovered => rfl

/-- A thread that was chosen in time is a turn nearer to its guard with each turn. -/
theorem Advance.turnsLeft (advance : Advance holder thread move old new) (left : 0 < old.turnsLeft)
    (held : holder = thread) : 0 < new.turnsLeft ∧ new.turnsLeft + 1 = old.turnsLeft := by
  cases advance with
  | notFree =>
    rename_i queued _
    cases queued with
    | true => decide
    | false => cases left
  | notOurs notOurs => exact absurd held notOurs
  | woken => decide
  | started | refused | freeAgain | recovered => cases left

end Advance

/-- What keeps a lock from going to a thread that does not take it. -/
structure HandsOver (lock : SleepLock) : Prop where
  exclusive : Exclusive lock
  nobody : lock.phase 0 = .idle
  idle : ∀ thread, 0 < lock.guards thread → lock.phase thread = .idle
  ordered : lock.queue.Nodup
  queued : ∀ thread ∈ lock.queue, lock.holder ≠ thread ∧ (lock.phase thread).hasQueued = true
  waiting : ∀ thread, (lock.phase thread).hasQueued = true →
    thread ∈ lock.queue ∨ lock.holder = thread
  handed : ∀ thread, thread ≠ 0 → lock.holder = thread →
    0 < lock.guards thread ∨ 0 < (lock.phase thread).turnsLeft
  unleaving : ∀ thread, lock.phase thread ≠ .leaving
  unrefused : ∀ thread, lock.phase thread ≠ .refused

namespace HandsOver

/-- A new lock hands over nothing. -/
theorem free : HandsOver SleepLock.free where
  exclusive := Exclusive.free
  nobody := rfl
  idle _ _ := rfl
  ordered := List.nodup_nil
  queued thread found := by cases found
  waiting thread queued := by cases queued
  handed thread nonzero held := absurd held.symm nonzero
  unleaving thread leaving := by cases leaving
  unrefused thread refused := by cases refused

/-- Nobody waits for a free lock. -/
theorem hasQueued_of_free (right : HandsOver lock) (free : lock.holder = 0) (thread : ThreadId) :
    (lock.phase thread).hasQueued = false := by
  refine Bool.eq_false_iff.mpr fun queued => ?_
  rcases right.waiting thread queued with found | held
  · rw [right.exclusive.freed free] at found
    cases found
  · rw [← held, free, right.nobody] at queued
    cases queued

/-- A thread that the lock goes to in time is not about to queue. -/
theorem ne_holder_of_queueing {again : Bool} (right : HandsOver lock) (nonzero : thread ≠ 0)
    (queueing : lock.phase thread = .queueing again) : lock.holder ≠ thread := by
  intro held
  rcases right.handed thread nonzero held with owns | left
  · cases queueing.symm.trans (right.idle thread owns)
  · rw [queueing] at left
    cases left

theorem advances {move : Move} {old new : Phase} (right : HandsOver lock) (nonzero : thread ≠ 0)
    (exclusive : Exclusive (lock.enter thread new))
    (single : move = .start → lock.guards thread = 0) (at_phase : lock.phase thread = old)
    (advance : Advance lock.holder thread move old new) : HandsOver (lock.enter thread new) := by
  have hasQueued : ∀ other, ((lock.enter thread new).phase other).hasQueued =
      (lock.phase other).hasQueued := fun other => by
    rw [phase_enter]
    split
    · rename_i same
      rw [same, at_phase, advance.hasQueued]
    · rfl
  refine {
    exclusive, nobody := ?_, idle := fun other owns => ?_, ordered := right.ordered
    queued := fun other found => ?_, waiting := fun other queued => ?_
    handed := fun other otherNonzero held => ?_, unleaving := fun other => ?_
    unrefused := fun other => ?_ }
  · rw [phase_enter, if_neg nonzero.symm]
    exact right.nobody
  · rw [guards_enter] at owns
    rw [phase_enter]
    split
    · rename_i same
      subst same
      have idle := at_phase.symm.trans (right.idle other owns)
      subst idle
      cases advance
      exact absurd owns (single rfl ▸ Nat.lt_irrefl 0)
    · exact right.idle other owns
  · rw [hasQueued]
    exact right.queued other found
  · rw [hasQueued] at queued
    exact right.waiting other queued
  · rw [guards_enter, phase_enter]
    split
    · rename_i same
      subst same
      refine (right.handed other otherNonzero held).imp_right fun left => ?_
      exact (advance.turnsLeft (at_phase ▸ left) held).1
    · exact right.handed other otherNonzero held
  · rw [phase_enter]
    split
    · rintro rfl
      cases advance
    · exact right.unleaving other
  · rw [phase_enter]
    split
    · rename_i same
      subst same
      rintro rfl
      cases advance with
      | refused held =>
        rcases right.handed other nonzero held with owns | left
        · cases at_phase.symm.trans (right.idle other owns)
        · rw [at_phase] at left
          cases left
    · exact right.unrefused other

/-- A thread gets its guard when it finds the lock free, or finds that it has been chosen. -/
theorem acquires (right : HandsOver lock) (nonzero : thread ≠ 0)
    (exclusive : Exclusive (SleepLock.acquire ⟨thread, lock.queue, lock.users⟩ thread))
    (ready : lock.holder = 0 ∨ lock.holder = thread) :
    HandsOver (SleepLock.acquire ⟨thread, lock.queue, lock.users⟩ thread) := by
  have notQueued : thread ∉ lock.queue := fun found => by
    rcases ready with free | held
    · rw [right.exclusive.freed free] at found
      cases found
    · exact (right.queued thread found).1 held
  refine {
    exclusive, nobody := ?_, idle := fun other owns => ?_, ordered := right.ordered
    queued := fun other found => ?_, waiting := fun other queued => ?_
    handed := fun other otherNonzero held => ?_, unleaving := fun other => ?_
    unrefused := fun other => ?_ }
  · rw [phase_acquire, if_neg nonzero.symm]
    exact right.nobody
  · rw [guards_acquire] at owns
    rw [phase_acquire]
    split
    · rfl
    · rename_i different
      rw [if_neg different] at owns
      exact right.idle other owns
  · have different : other ≠ thread := fun same => notQueued (same ▸ found)
    rw [phase_acquire, if_neg different]
    exact ⟨different.symm, (right.queued other found).2⟩
  · rw [phase_acquire] at queued
    split at queued
    · cases queued
    · rename_i different
      refine (right.waiting other queued).imp_right fun held => ?_
      rcases ready with free | chosen
      · cases queued.symm.trans (right.hasQueued_of_free free other)
      · exact chosen.symm.trans held
  · left
    rw [guards_acquire, if_pos (show other = thread from held.symm)]
    exact Nat.succ_pos _
  · rw [phase_acquire]
    split
    · exact Phase.noConfusion
    · exact right.unleaving other
  · rw [phase_acquire]
    split
    · exact Phase.noConfusion
    · exact right.unrefused other

theorem parks {again : Bool} (right : HandsOver lock) (nonzero : thread ≠ 0)
    (exclusive : Exclusive ({ lock with queue := lock.enqueued thread }.enter thread .parked))
    (queueing : lock.phase thread = .queueing again) :
    HandsOver ({ lock with queue := lock.enqueued thread }.enter thread .parked) := by
  have notHeld := right.ne_holder_of_queueing nonzero queueing
  refine {
    exclusive, nobody := ?_, idle := fun other owns => ?_, ordered := ?_
    queued := fun other found => ?_, waiting := fun other queued => ?_
    handed := fun other otherNonzero held => ?_, unleaving := fun other => ?_
    unrefused := fun other => ?_ }
  · rw [phase_enter, if_neg nonzero.symm]
    exact right.nobody
  · rw [guards_enter] at owns
    have idle := right.idle other owns
    rw [phase_enter, if_neg]
    · exact idle
    · rintro rfl
      cases queueing.symm.trans idle
  · exact nodup_enqueued right.ordered
  · rw [phase_enter]
    split
    · rename_i same
      exact ⟨same ▸ notHeld, rfl⟩
    · rename_i different
      exact right.queued other ((mem_enqueued.mp found).resolve_right different)
  · rw [phase_enter] at queued
    split at queued
    · rename_i same
      exact .inl (mem_enqueued.mpr (.inr same))
    · exact (right.waiting other queued).imp_left fun found => mem_enqueued.mpr (.inl found)
  · have different : other ≠ thread := fun same => notHeld (same ▸ held)
    rw [guards_enter, phase_enter, if_neg different]
    exact right.handed other otherNonzero held
  · rw [phase_enter]
    split
    · exact Phase.noConfusion
    · exact right.unleaving other
  · rw [phase_enter]
    split
    · exact Phase.noConfusion
    · exact right.unrefused other

/-- The lock goes to the first in the queue, who has yet to look at it, or to nobody. -/
theorem drops (right : HandsOver lock) (exclusive : Exclusive (lock.dropGuard thread).handOver)
    (owns : 0 < lock.guards thread)
    (inTime : ∀ first rest again, lock.queue = first :: rest → lock.phase first ≠ .queueing again) :
    HandsOver (lock.dropGuard thread).handOver := by
  have phase_next : ∀ other, (lock.dropGuard thread).handOver.phase other = lock.phase other :=
    fun other => by rw [phase_handOver, phase_dropGuard]
  have gone : ∀ other, (lock.phase other).hasQueued = true → lock.holder ≠ other := by
    rintro other queued held
    have idle := right.idle thread owns
    rw [(right.exclusive.owner thread owns).2.symm.trans held] at idle
    rw [idle] at queued
    cases queued
  refine {
    exclusive, nobody := (phase_next 0).trans right.nobody, idle := fun other owned => ?_
    ordered := ?_, queued := fun other found => ?_, waiting := fun other queued => ?_
    handed := fun other nonzero held => .inr ?_
    unleaving := fun other => phase_next other ▸ right.unleaving other
    unrefused := fun other => phase_next other ▸ right.unrefused other }
  · rw [guards_handOver, guards_dropGuard] at owned
    rw [phase_next]
    split at owned
    · rename_i same
      exact same ▸ right.idle thread owns
    · exact right.idle other owned
  · rw [queue_handOver, queue_dropGuard]
    exact right.ordered.tail
  · rw [queue_handOver, queue_dropGuard] at found
    rw [holder_handOver, queue_dropGuard, phase_next]
    refine ⟨?_, (right.queued other (List.mem_of_mem_tail found)).2⟩
    cases queue : lock.queue with
    | nil =>
      rw [queue] at found
      cases found
    | cons first rest =>
      rw [queue] at found
      rintro rfl
      exact (List.nodup_cons.mp (queue ▸ right.ordered)).1 found
  · rw [phase_next] at queued
    have found := (right.waiting other queued).resolve_right (gone other queued)
    rw [holder_handOver, queue_handOver, queue_dropGuard]
    cases queue : lock.queue with
    | nil =>
      rw [queue] at found
      cases found
    | cons first rest =>
      rw [queue] at found
      exact (List.mem_cons.mp found).symm.imp_right Eq.symm
  · rw [holder_handOver, queue_dropGuard] at held
    rw [phase_next]
    cases queue : lock.queue with
    | nil =>
      rw [queue] at held
      exact absurd held.symm nonzero
    | cons first rest =>
      rw [queue, List.head?_cons, Option.getD_some] at held
      subst held
      have queued := (right.queued first (queue ▸ List.mem_cons_self)).2
      exact Phase.turnsLeft_pos queued fun again => inTime first rest again queue

theorem effect (right : HandsOver lock) (nonzero : thread ≠ 0)
    (single : event = .move .start → lock.guards thread = 0)
    (inTime : event.dropsGuard = true → 0 < lock.guards thread →
      ∀ first rest again, lock.queue = first :: rest → lock.phase first ≠ .queueing again)
    (effect : Effect lock thread event next) : HandsOver next := by
  have exclusive := right.exclusive.effect nonzero effect
  cases effect with
  | advances at_phase advance =>
    exact right.advances nonzero exclusive (fun started => single (started ▸ rfl)) at_phase advance
  | fails => exact right
  | takes _ free => exact right.acquires nonzero exclusive (.inl free)
  | takesQueued grabbing free =>
    have queued := right.hasQueued_of_free free thread
    rw [grabbing] at queued
    cases queued
  | leaves leaving => exact absurd leaving (right.unleaving thread)
  | receives _ held =>
    subst held
    exact right.acquires nonzero exclusive (.inr rfl)
  | parks queueing => exact right.parks nonzero exclusive queueing
  | drops drops owns => exact right.drops exclusive owns (inTime drops owns)

/-- What a turn that is not a bad one makes of a lock. -/
theorem take (right : HandsOver lock) (good : ¬ lock.Mishandles turn)
    (taken : lock.take turn = some next) : HandsOver next := by
  refine right.effect turn.nonzero (fun started => ?_) ?_ (effect_of_take taken)
  · exact Nat.eq_zero_of_not_pos fun owns => good (.inl ⟨started, owns⟩)
  · intro drops owns first rest again queue queueing
    refine good (.inr ⟨drops, owns, ?_⟩)
    rw [queue, List.head?_cons, Option.any_some, queueing, Phase.isQueueing]

/-- A lock hands over well through a whole run without bad turns. -/
theorem play (right : HandsOver lock) (turns : List Turn)
    (avoids : lock.Avoids Mishandles turns) : HandsOver (lock.play turns) := by
  induction turns generalizing lock with
  | nil => exact right
  | cons turn turns ih =>
    rw [play_cons]
    cases taken : lock.take turn with
    | none => exact ih right (taken ▸ avoids.2)
    | some next => exact ih (right.take avoids.1 taken) (taken ▸ avoids.2)

/-! ### A thread that the lock goes to gets its guard -/

/-- What others do leaves the lock with the thread that was chosen, and the thread where it
was in its call. -/
theorem stays (right : HandsOver lock) (held : lock.holder = other) (nonzero : other ≠ 0)
    (different : other ≠ thread) (effect : Effect lock thread event next) :
    next.holder = other ∧ next.phase other = lock.phase other := by
  cases effect with
  | advances =>
    rw [phase_enter, if_neg different]
    exact ⟨held, rfl⟩
  | fails => exact ⟨held, rfl⟩
  | takes _ free | takesQueued _ free => exact absurd (held.symm.trans free) nonzero
  | leaves leaving => exact absurd leaving (right.unleaving thread)
  | receives _ chosen => exact absurd (held.symm.trans chosen) different
  | parks =>
    rw [phase_enter, if_neg different]
    exact ⟨held, rfl⟩
  | drops _ owns =>
    exact absurd (held.symm.trans (right.exclusive.owner thread owns).2) different

/-- Each turn of the thread that was chosen brings it nearer to its guard. -/
theorem nearer (right : HandsOver lock) (held : lock.holder = thread) (nonzero : thread ≠ 0)
    (left : 0 < (lock.phase thread).turnsLeft) (effect : Effect lock thread event next) :
    0 < next.guards thread ∨ next.holder = thread ∧ 0 < (next.phase thread).turnsLeft ∧
      (next.phase thread).turnsLeft + 1 = (lock.phase thread).turnsLeft := by
  cases effect with
  | advances at_phase advance =>
    rw [phase_enter, if_pos rfl, at_phase]
    exact .inr ⟨held, advance.turnsLeft (at_phase ▸ left) held⟩
  | fails at_phase | leaves at_phase | parks at_phase =>
    rw [at_phase] at left
    cases left
  | takes _ free | takesQueued _ free => exact absurd (held.symm.trans free) nonzero
  | receives =>
    rw [guards_acquire, if_pos rfl]
    exact .inl (Nat.succ_pos _)
  | drops _ owns =>
    rw [right.idle thread owns] at left
    cases left

/-- A thread that was chosen can go on. -/
theorem nextMove_enabled (held : lock.holder = thread) (nonzero : thread ≠ 0)
    (left : 0 < (lock.phase thread).turnsLeft) :
    ∃ move, lock.nextMove thread = some move ∧ (lock.step thread move).isSome = true := by
  cases at_phase : lock.phase thread with
  | parked =>
    refine ⟨.wake, ?_, ?_⟩
    · simp only [nextMove, at_phase, if_pos held]
    · simp only [step, at_phase, Option.isSome_some]
  | grabbing again =>
    refine ⟨.exchange, ?_, ?_⟩
    · simp only [nextMove, at_phase]
    · simp only [step, at_phase, if_neg (held ▸ nonzero), Option.isSome_some]
  | checking again =>
    refine ⟨.check, ?_, ?_⟩
    · simp only [nextMove, at_phase]
    · cases again <;> simp [step, at_phase, held]
  | idle | leaving | queueing | refused =>
    rw [at_phase] at left
    cases left

/-- Until it has a guard, the thread that was chosen keeps the lock, and has as many turns
behind it as it is nearer to its guard. -/
theorem comes (right : HandsOver lock) (held : lock.holder = thread) (nonzero : thread ≠ 0)
    (left : 0 < (lock.phase thread).turnsLeft) (turns : List Turn)
    (avoids : lock.Avoids Mishandles turns) :
    (∃ before, before <+: turns ∧ 0 < (lock.play before).guards thread) ∨
    ((lock.play turns).holder = thread ∧ 0 < ((lock.play turns).phase thread).turnsLeft ∧
      turnsOf thread lock turns + ((lock.play turns).phase thread).turnsLeft =
        (lock.phase thread).turnsLeft) := by
  induction turns generalizing lock with
  | nil => exact .inr ⟨held, left, Nat.zero_add _⟩
  | cons turn turns ih =>
    obtain ⟨good, avoids⟩ := avoids
    have later : ∀ before, before <+: turns →
        0 < (((lock.take turn).getD lock).play before).guards thread →
        ∃ before, before <+: turn :: turns ∧ 0 < (lock.play before).guards thread :=
      fun before earlier owns =>
        ⟨turn :: before, List.cons_prefix_cons.mpr ⟨rfl, earlier⟩,
          play_cons lock turn before ▸ owns⟩
    rw [play_cons, turnsOf]
    cases taken : lock.take turn with
    | none =>
      simp only [taken, Option.getD_none] at later avoids ⊢
      rcases ih right held left avoids with ⟨before, earlier, owns⟩ | ⟨kept, more, count⟩
      · exact .inl (later before earlier owns)
      · refine .inr ⟨kept, more, ?_⟩
        simpa using count
    | some next =>
      simp only [taken, Option.getD_some] at later avoids ⊢
      have nextRight := right.take good taken
      have effect := effect_of_take taken
      by_cases same : turn.thread = thread
      · rw [same] at effect
        rcases right.nearer held nonzero left effect with owns | ⟨nextHeld, nextLeft, nearer⟩
        · exact .inl (later [] (List.nil_prefix) owns)
        · rcases ih nextRight nextHeld nextLeft avoids with
            ⟨before, earlier, owns⟩ | ⟨kept, more, count⟩
          · exact .inl (later before earlier owns)
          · refine .inr ⟨kept, more, ?_⟩
            rw [if_pos ⟨same, rfl⟩]
            omega
      · obtain ⟨nextHeld, samePhase⟩ := right.stays held nonzero (Ne.symm same) effect
        rw [← samePhase] at left ⊢
        rcases ih nextRight nextHeld left avoids with ⟨before, earlier, owns⟩ | ⟨kept, more, count⟩
        · exact .inl (later before earlier owns)
        · refine .inr ⟨kept, more, ?_⟩
          rw [if_neg fun own => same own.1]
          omega

/-- The thread that was chosen is delivered its guard. -/
theorem delivers (right : HandsOver lock) (held : lock.holder = thread) (nonzero : thread ≠ 0)
    (left : 0 < (lock.phase thread).turnsLeft) : lock.Delivers Mishandles thread := by
  intro turns avoids
  refine (right.comes held nonzero left turns avoids).imp_right fun ⟨kept, more, count⟩ => ?_
  have atMost := Phase.turnsLeft_le (lock.phase thread)
  exact ⟨kept, by omega, nextMove_enabled kept nonzero more⟩

/-- What makes a lock hand over well says all that is promised. -/
theorem faithful (right : HandsOver lock) : lock.Faithful Mishandles where
  holderServed thread nonzero held := by
    refine (right.handed thread nonzero held).imp_right fun left => ⟨?_, ?_⟩
    · exact Phase.isCalling_of_hasQueued (Phase.hasQueued_of_turnsLeft left)
    · exact right.delivers held nonzero left
  queuedOnce := right.ordered
  queuedCalling thread found :=
    have ⟨notHeld, queued⟩ := right.queued thread found
    ⟨Phase.isCalling_of_hasQueued queued, right.exclusive.guards_of_ne notHeld⟩
  settled unowned uncalled := by
    have free : lock.holder = 0 := Decidable.byContradiction fun nonzero => by
      rcases right.handed lock.holder nonzero rfl with owns | left
      · exact absurd (unowned lock.holder) (Nat.ne_of_gt owns)
      · have calls := Phase.isCalling_of_hasQueued (Phase.hasQueued_of_turnsLeft left)
        cases (uncalled lock.holder).symm.trans calls
    exact ⟨by rw [isLocked, free]; rfl, right.exclusive.freed free⟩
  neverRefused := right.unrefused

end HandsOver

/-- However threads interleave their calls, if no thread locks twice and the lock is handed to
no thread that is about to queue for it again, whoever holds the lock has a guard or returns
with one, only threads inside their calls are queued, each once, the lock is free when nobody
has it or calls for it, and no thread is refused. -/
theorem hand_over_faithful (turns : List Turn) (avoids : free.Avoids Mishandles turns) :
    (free.play turns).Faithful Mishandles :=
  (HandsOver.free.play turns avoids).faithful

/-- The first thread hands the lock to the second, which is parked. -/
theorem hand_over_faithful_two_threads :
    let turns : List Turn :=
      [⟨1, .move .start, by decide⟩, ⟨1, .move .exchange, by decide⟩,
       ⟨2, .move .start, by decide⟩, ⟨2, .move .exchange, by decide⟩,
       ⟨2, .move .check, by decide⟩, ⟨2, .move .enqueue, by decide⟩,
       ⟨1, .move .unlock, by decide⟩]
    free.Avoids Mishandles turns ∧ (free.play turns).holder = 2 ∧
      (free.play turns).Faithful Mishandles :=
  ⟨by decide, by decide, hand_over_faithful _ (by decide)⟩

end SleepLock

end VirtualMemory
