/-
Module: VirtualMemory.Proofs.Lock.Exclusion
Purpose: However the steps of threads are interleaved, a sleeping lock gives out one guard
  at a time, and nobody overtakes the threads that wait for it.
Main exports:
  SleepLock.Event, Turn, SleepLock.take, SleepLock.play; SleepLock.Advance, Effect,
  effect_of_take; Exclusive, Excludes, mutual_exclusion

A guard may be given to another thread and dropped there, at any point of what its owner
does; the owner of a guard is the thread that got it from the lock.
-/
import VirtualMemory.Lock.Sleep

namespace VirtualMemory

namespace SleepLock

/-- What happens to a lock. -/
inductive Event where
  /-- A thread takes a step. -/
  | move (move : Move)
  /-- A guard that the thread gave away is dropped where it went. -/
  | dropped
deriving DecidableEq, Repr

/-- Whether a guard goes out of scope. -/
def Event.dropsGuard : Event → Bool
  | .move .unlock | .dropped => true
  | .move _ => false

/-- A thread and what it does to the lock. No thread has the number zero. -/
structure Turn where
  thread : ThreadId
  event : Event
  nonzero : thread ≠ 0
deriving DecidableEq, Repr

variable {lock next : SleepLock} {thread other : ThreadId}

/-- The lock after a turn, if the turn is possible. -/
def take (lock : SleepLock) (turn : Turn) : Option SleepLock :=
  match turn.event with
  | .move move => lock.step turn.thread move
  | .dropped =>
      if lock.guards turn.thread = 0 then none
      else some (lock.dropGuard turn.thread).handOver

/-- The lock after the turns of a list, in which a turn that is not possible is no turn. -/
def play (lock : SleepLock) (turns : List Turn) : SleepLock :=
  turns.foldl (fun state turn => (state.take turn).getD state) lock

@[simp] theorem play_cons (lock : SleepLock) (turn : Turn) (turns : List Turn) :
    lock.play (turn :: turns) = ((lock.take turn).getD lock).play turns := rfl

/-- What every turn keeps, every run of turns keeps. -/
theorem play_keeps {invariant : SleepLock → Prop}
    (keeps : ∀ {lock next turn}, invariant lock → lock.take turn = some next → invariant next)
    (holds : invariant lock) (turns : List Turn) : invariant (lock.play turns) := by
  induction turns generalizing lock with
  | nil => exact holds
  | cons turn turns ih =>
    rw [play_cons]
    cases taken : lock.take turn with
    | none => exact ih holds
    | some next => exact ih (keeps holds taken)

/-! ### Phases and guards after a write -/

/-- A user that is written is read back, and the others are as they were. -/
theorem user_insert (lock : SleepLock) (holder : ThreadId) (queue : List ThreadId)
    (thread : ThreadId) (written : User) (other : ThreadId) :
    user ⟨holder, queue, lock.users.insert thread written⟩ other =
      if other = thread then written else lock.user other := by
  simp only [user, Std.ExtTreeMap.getElem?_insert, Std.LawfulEqCmp.compare_eq_iff_eq]
  split <;> rename_i same
  · rw [if_pos same.symm]
    rfl
  · rw [if_neg (Ne.symm same)]

@[simp] theorem phase_mk (lock : SleepLock) (holder : ThreadId) (queue : List ThreadId) :
    phase ⟨holder, queue, lock.users⟩ thread = lock.phase thread := rfl

@[simp] theorem guards_mk (lock : SleepLock) (holder : ThreadId) (queue : List ThreadId) :
    guards ⟨holder, queue, lock.users⟩ thread = lock.guards thread := rfl

@[simp] theorem phase_enter (phase : Phase) :
    (lock.enter thread phase).phase other = if other = thread then phase else lock.phase other := by
  rw [SleepLock.phase, enter, user_insert]
  split <;> rfl

@[simp] theorem guards_enter (phase : Phase) :
    (lock.enter thread phase).guards other = lock.guards other := by
  rw [guards, enter, user_insert]
  split <;> rename_i same
  · rw [same]
    rfl
  · rfl

@[simp] theorem phase_acquire :
    (lock.acquire thread).phase other = if other = thread then .idle else lock.phase other := by
  rw [phase, acquire, user_insert]
  split <;> rfl

@[simp] theorem guards_acquire :
    (lock.acquire thread).guards other =
      if other = thread then lock.guards thread + 1 else lock.guards other := by
  rw [guards, acquire, user_insert]
  split <;> rfl

@[simp] theorem phase_dropGuard : (lock.dropGuard thread).phase other = lock.phase other := by
  rw [phase, dropGuard, user_insert]
  split <;> rename_i same
  · rw [same]
    rfl
  · rfl

@[simp] theorem guards_dropGuard :
    (lock.dropGuard thread).guards other =
      if other = thread then lock.guards thread - 1 else lock.guards other := by
  rw [guards, dropGuard, user_insert]
  split <;> rfl

@[simp] theorem phase_handOver : lock.handOver.phase other = lock.phase other := by
  rw [handOver]
  split <;> rfl

@[simp] theorem guards_handOver : lock.handOver.guards other = lock.guards other := by
  rw [handOver]
  split <;> rfl

@[simp] theorem holder_enter (phase : Phase) : (lock.enter thread phase).holder = lock.holder := rfl

@[simp] theorem queue_dropGuard : (lock.dropGuard thread).queue = lock.queue := rfl

/-- A lock that is handed over goes to the head of the queue, or to nobody. -/
theorem holder_handOver : lock.handOver.holder = lock.queue.head?.getD 0 := by
  rw [handOver]
  split <;> rename_i queued <;> rw [queued] <;> rfl

/-- Whoever the lock is handed to leaves the queue. -/
theorem queue_handOver : lock.handOver.queue = lock.queue.tail := by
  rw [handOver]
  split <;> rename_i queued <;> rw [queued] <;> rfl

/-! ### What a turn can do -/

/-- How a thread comes on in its call, or goes back in it, without touching the lock. -/
inductive Advance (holder thread : ThreadId) : Move → Phase → Phase → Prop where
  | started : Advance holder thread .start .idle (.grabbing false)
  | notFree {queued} :
      holder ≠ 0 → Advance holder thread .exchange (.grabbing queued) (.checking queued)
  | refused : holder = thread → Advance holder thread .check (.checking false) .refused
  | notOurs {queued} :
      holder ≠ thread → Advance holder thread .check (.checking queued) (.queueing queued)
  | freeAgain {queued} :
      holder = 0 → Advance holder thread .enqueue (.queueing queued) (.grabbing queued)
  | woken : Advance holder thread .wake .parked (.grabbing true)
  | recovered : Advance holder thread .recover .refused .idle

/-- The queue with a thread in it, where it was if it was there. -/
def enqueued (lock : SleepLock) (thread : ThreadId) : List ThreadId :=
  if thread ∈ lock.queue then lock.queue else lock.queue ++ [thread]

/-- In the queue with a thread in it are the thread and those who were there. -/
theorem mem_enqueued : other ∈ lock.enqueued thread ↔ other ∈ lock.queue ∨ other = thread := by
  rw [enqueued]
  split
  · rename_i queued
    constructor
    · exact .inl
    · rintro (found | rfl)
      · exact found
      · exact queued
  · rw [List.mem_append, List.mem_singleton]

/-- No thread is queued twice. -/
theorem nodup_enqueued (ordered : lock.queue.Nodup) : (lock.enqueued thread).Nodup := by
  rw [enqueued]
  split
  · exact ordered
  · rename_i absent
    refine List.nodup_append.mpr ⟨ordered, List.pairwise_singleton _ thread, ?_⟩
    intro first found second single
    exact fun same => absent (List.mem_singleton.mp single ▸ same ▸ found)

/-- All that may become of a lock when something happens to it. -/
inductive Effect (lock : SleepLock) (thread : ThreadId) : Event → SleepLock → Prop where
  /-- The thread comes on in its call. -/
  | advances {move : Move} {old new : Phase} :
      lock.phase thread = old → Advance lock.holder thread move old new →
      Effect lock thread (.move move) (lock.enter thread new)
  /-- It tries for a lock that somebody holds. -/
  | fails :
      lock.phase thread = .idle → lock.holder ≠ 0 →
      Effect lock thread (.move .tryExchange) lock
  /-- It takes a free lock, for which it has not queued. -/
  | takes {move : Move} :
      lock.phase thread = .idle ∨ lock.phase thread = .grabbing false → lock.holder = 0 →
      Effect lock thread (.move move) ({ lock with holder := thread }.acquire thread)
  /-- It takes a free lock, for which it has queued. -/
  | takesQueued :
      lock.phase thread = .grabbing true → lock.holder = 0 →
      Effect lock thread (.move .exchange) ({ lock with holder := thread }.enter thread .leaving)
  /-- It leaves the queue with the lock that it took. -/
  | leaves :
      lock.phase thread = .leaving →
      Effect lock thread (.move .leave)
        ({ lock with queue := lock.queue.filter (· != thread) }.acquire thread)
  /-- It finds that the lock was handed to it. -/
  | receives :
      lock.phase thread = .checking true → lock.holder = thread →
      Effect lock thread (.move .check) (lock.acquire thread)
  /-- It queues for a lock that somebody holds, and parks. -/
  | parks {queued : Bool} :
      lock.phase thread = .queueing queued → lock.holder ≠ 0 →
      Effect lock thread (.move .enqueue)
        ({ lock with queue := lock.enqueued thread }.enter thread .parked)
  /-- A guard of it is dropped. -/
  | drops {event : Event} :
      event.dropsGuard = true → 0 < lock.guards thread →
      Effect lock thread event (lock.dropGuard thread).handOver

/-- All that a step can do is listed. -/
theorem effect_of_step {move : Move} (stepped : lock.step thread move = some next) :
    Effect lock thread (.move move) next := by
  cases move <;> cases at_phase : lock.phase thread <;>
    simp only [step, at_phase, reduceCtorEq, Option.some.injEq] at stepped
  case start.idle => exact stepped ▸ .advances at_phase .started
  case exchange.grabbing queued =>
    split at stepped
    · rename_i free
      cases queued with
      | true => cases stepped; exact .takesQueued at_phase free
      | false => cases stepped; exact .takes (.inr at_phase) free
    · rename_i notFree
      cases stepped
      exact .advances at_phase (.notFree notFree)
  case leave.leaving => exact stepped ▸ .leaves at_phase
  case check.checking queued =>
    split at stepped
    · rename_i ours
      cases queued with
      | true => cases stepped; exact .receives at_phase ours
      | false => cases stepped; exact .advances at_phase (.refused ours)
    · rename_i notOurs
      cases stepped
      exact .advances at_phase (.notOurs notOurs)
  case enqueue.queueing queued =>
    split at stepped
    · rename_i free
      cases stepped
      exact .advances at_phase (.freeAgain free)
    · rename_i notFree
      cases stepped
      exact .parks at_phase notFree
  case wake.parked => exact stepped ▸ .advances at_phase .woken
  case tryExchange.idle =>
    split at stepped
    · rename_i free
      cases stepped
      exact .takes (.inl at_phase) free
    · rename_i notFree
      cases stepped
      exact .fails at_phase notFree
  case unlock.idle =>
    split at stepped
    · cases stepped
    · rename_i owns
      cases stepped
      exact .drops rfl (Nat.pos_of_ne_zero owns)
  case recover.refused => exact stepped ▸ .advances at_phase .recovered

/-- All that a turn can do is listed. -/
theorem effect_of_take {turn : Turn} (taken : lock.take turn = some next) :
    Effect lock turn.thread turn.event next := by
  rw [take] at taken
  split at taken <;> rename_i event <;> rw [event]
  · exact effect_of_step taken
  · split at taken
    · cases taken
    · rename_i owns
      cases taken
      exact .drops rfl (Nat.pos_of_ne_zero owns)

/-! ### One guard at a time -/

/-- Whether a thread is in a call for the lock and has queued in it, is about to, or has
taken the lock by itself. -/
def Phase.waits : Phase → Bool
  | .leaving | .queueing _ | .parked | .grabbing true | .checking true => true
  | .idle | .refused | .grabbing false | .checking false => false

/-- A thread that begins to wait in its call has found that the lock is not its own. -/
theorem Advance.waits {holder : ThreadId} {move : Move} {old new : Phase}
    (advance : Advance holder thread move old new) (waits : new.waits = true) :
    old.waits = true ∨ holder ≠ thread := by
  cases advance with
  | notOurs notOurs => exact .inr notOurs
  | woken => exact .inl rfl
  | freeAgain => exact .inl rfl
  | notFree => rename_i queued _; cases queued <;> exact .inl waits
  | started | refused | recovered => cases waits

/-- What makes the guards of a lock exclusive. -/
structure Exclusive (lock : SleepLock) : Prop where
  freed : lock.holder = 0 → lock.queue = []
  queued : 0 ∉ lock.queue
  once : ∀ thread, lock.guards thread ≤ 1
  owner : ∀ thread, 0 < lock.guards thread → thread ≠ 0 ∧ lock.holder = thread
  waiting : ∀ thread, (lock.phase thread).waits = true → lock.guards thread = 0
  leaving : ∀ thread, lock.phase thread = .leaving → thread ≠ 0 ∧ lock.holder = thread

namespace Exclusive

/-- Of a new lock there is no guard. -/
theorem free : Exclusive SleepLock.free where
  freed _ := rfl
  queued := List.not_mem_nil
  once thread := Nat.zero_le 1
  owner thread owns := absurd owns (Nat.lt_irrefl 0)
  waiting thread _ := rfl
  leaving thread leaving := by cases leaving

/-- Only the thread that holds the lock can own a guard. -/
theorem guards_of_ne (exclusive : Exclusive lock) (notHeld : lock.holder ≠ thread) :
    lock.guards thread = 0 :=
  Nat.eq_zero_of_not_pos fun owns => notHeld (exclusive.owner thread owns).2

/-- Of a free lock there is no guard. -/
theorem guards_of_free (exclusive : Exclusive lock) (free : lock.holder = 0)
    (thread : ThreadId) : lock.guards thread = 0 :=
  Nat.eq_zero_of_not_pos fun owns =>
    have ⟨nonzero, holds⟩ := exclusive.owner thread owns
    nonzero (holds.symm.trans free)

/-- While the thread that holds the lock waits for its guard, there is no guard. -/
theorem guards_of_waiting (exclusive : Exclusive lock) (held : lock.holder = thread)
    (waits : (lock.phase thread).waits = true) (other : ThreadId) : lock.guards other = 0 := by
  by_cases same : lock.holder = other
  · exact held.symm.trans same ▸ exclusive.waiting thread waits
  · exact exclusive.guards_of_ne same

/-- A thread that comes on in its call neither takes the lock nor drops a guard. -/
theorem advances {move : Move} {old new : Phase} (exclusive : Exclusive lock)
    (at_phase : lock.phase thread = old) (advance : Advance lock.holder thread move old new) :
    Exclusive (lock.enter thread new) where
  freed := exclusive.freed
  queued := exclusive.queued
  once other := by simpa using exclusive.once other
  owner other := by simpa using exclusive.owner other
  waiting other waits := by
    rw [guards_enter]
    rw [phase_enter] at waits
    split at waits
    · rename_i same
      subst same
      rcases advance.waits waits with waited | notHeld
      · exact exclusive.waiting other (at_phase ▸ waited)
      · exact exclusive.guards_of_ne notHeld
    · exact exclusive.waiting other waits
  leaving other leaving := by
    rw [phase_enter] at leaving
    split at leaving
    · cases leaving
      cases advance
    · exact exclusive.leaving other leaving

/-- A thread gets a guard when it has just taken a free lock, when it has the lock that it
took and leaves the queue, or when the lock was handed to it. Each time it holds the lock and
owns no guard. -/
theorem acquires (queue : List ThreadId) (nonzero : thread ≠ 0) (queued : 0 ∉ queue)
    (none : ∀ other, lock.guards other = 0)
    (leaving : ∀ other, lock.phase other = .leaving → other = thread) :
    Exclusive (SleepLock.acquire ⟨thread, queue, lock.users⟩ thread) := by
  refine { freed := ?_, queued := queued, once := ?_, owner := ?_, waiting := ?_, leaving := ?_ }
  · exact fun free => absurd free nonzero
  · intro other
    simp only [guards_acquire, guards_mk, none]
    split <;> omega
  · intro other owns
    simp only [guards_acquire, guards_mk, none] at owns
    split at owns
    · rename_i same
      exact ⟨same ▸ nonzero, same.symm⟩
    · cases owns
  · intro other waits
    simp only [phase_acquire, phase_mk] at waits
    split at waits
    · cases waits
    · rename_i different
      rw [guards_acquire, if_neg different]
      exact none other
  · intro other waits
    simp only [phase_acquire, phase_mk] at waits
    split at waits
    · cases waits
    · rename_i different
      exact absurd (leaving other waits) different

/-- A thread that takes a free lock is the only one to have it. -/
theorem takesQueued (exclusive : Exclusive lock) (nonzero : thread ≠ 0)
    (free : lock.holder = 0) :
    Exclusive ({ lock with holder := thread }.enter thread .leaving) where
  freed free := absurd free nonzero
  queued := exclusive.queued
  once other := by simpa using exclusive.once other
  owner other owns := by
    rw [guards_enter, guards_mk, exclusive.guards_of_free free] at owns
    cases owns
  waiting other _ := by
    rw [guards_enter, guards_mk]
    exact exclusive.guards_of_free free other
  leaving other leaving := by
    rw [phase_enter, phase_mk] at leaving
    split at leaving
    · rename_i same
      exact ⟨same ▸ nonzero, same.symm⟩
    · have ⟨otherNonzero, held⟩ := exclusive.leaving other leaving
      exact absurd (held.symm.trans free) otherNonzero

/-- A thread that parks has no guard. -/
theorem parks {queued : Bool} (exclusive : Exclusive lock) (nonzero : thread ≠ 0)
    (at_phase : lock.phase thread = .queueing queued) (notFree : lock.holder ≠ 0) :
    Exclusive ({ lock with queue := lock.enqueued thread }.enter thread .parked) where
  freed free := absurd free notFree
  queued zero := by
    rcases mem_enqueued.mp zero with there | same
    · exact exclusive.queued there
    · exact nonzero same.symm
  once other := by simpa using exclusive.once other
  owner other := by simpa using exclusive.owner other
  waiting other waits := by
    rw [phase_enter, phase_mk] at waits
    rw [guards_enter, guards_mk]
    split at waits
    · rename_i same
      exact same ▸ exclusive.waiting thread (at_phase ▸ rfl)
    · exact exclusive.waiting other waits
  leaving other leaving := by
    rw [phase_enter, phase_mk] at leaving
    split at leaving
    · cases leaving
    · exact exclusive.leaving other leaving

/-- The only guard is dropped, and the lock goes to the head of the queue or to nobody. -/
theorem drops (exclusive : Exclusive lock) (owns : 0 < lock.guards thread) :
    Exclusive (lock.dropGuard thread).handOver := by
  have none : ∀ other, (lock.dropGuard thread).handOver.guards other = 0 := fun other => by
    rw [guards_handOver, guards_dropGuard]
    split
    · exact Nat.sub_eq_zero_of_le (exclusive.once thread)
    · rename_i different
      refine exclusive.guards_of_ne fun held => different ?_
      exact held.symm.trans (exclusive.owner thread owns).2
  refine { freed := ?_, queued := ?_, once := ?_, owner := ?_, waiting := ?_, leaving := ?_ }
  · rw [holder_handOver, queue_handOver, queue_dropGuard]
    intro free
    cases queue : lock.queue with
    | nil => rfl
    | cons first rest =>
      rw [queue, List.head?_cons, Option.getD_some] at free
      exact absurd (queue ▸ free ▸ List.mem_cons_self) exclusive.queued
  · rw [queue_handOver]
    exact fun zero => exclusive.queued (List.mem_of_mem_tail zero)
  · exact fun other => (none other).symm ▸ Nat.zero_le 1
  · exact fun other owns => absurd owns (none other ▸ Nat.lt_irrefl 0)
  · exact fun other _ => none other
  · intro other leaving
    -- A thread that took the lock by itself has no guard yet, so it is not the one that
    -- dropped its guard, and it would hold the lock all the same.
    rw [phase_handOver, phase_dropGuard] at leaving
    have held := (exclusive.leaving other leaving).2
    have same : thread = other := (exclusive.owner thread owns).2.symm.trans held
    have none := exclusive.waiting other (leaving ▸ rfl)
    exact absurd owns (same ▸ none ▸ Nat.lt_irrefl 0)

/-- Whatever happens to a lock keeps its guards exclusive. -/
theorem effect {event : Event} (exclusive : Exclusive lock) (nonzero : thread ≠ 0)
    (effect : Effect lock thread event next) : Exclusive next := by
  cases effect with
  | advances at_phase advance => exact exclusive.advances at_phase advance
  | fails => exact exclusive
  | takes _ free =>
    refine acquires lock.queue nonzero exclusive.queued (exclusive.guards_of_free free) ?_
    intro other leaving
    have ⟨otherNonzero, held⟩ := exclusive.leaving other leaving
    exact absurd (held.symm.trans free) otherNonzero
  | takesQueued _ free => exact exclusive.takesQueued nonzero free
  | leaves leaving =>
    have held := (exclusive.leaving thread leaving).2
    have none := exclusive.guards_of_waiting held (leaving ▸ rfl)
    subst held
    refine acquires _ nonzero (fun zero => exclusive.queued (List.mem_filter.mp zero).1) none ?_
    exact fun other leaving => (exclusive.leaving other leaving).2.symm
  | receives at_phase held =>
    have none := exclusive.guards_of_waiting held (at_phase ▸ rfl)
    subst held
    refine acquires lock.queue nonzero exclusive.queued none ?_
    exact fun other leaving => (exclusive.leaving other leaving).2.symm
  | parks at_phase notFree => exact exclusive.parks nonzero at_phase notFree
  | drops _ owns => exact exclusive.drops owns

/-- Guards are exclusive through a whole run. -/
theorem play (exclusive : Exclusive lock) (turns : List Turn) : Exclusive (lock.play turns) :=
  play_keeps
    (fun {_ _ turn} exclusive taken => exclusive.effect turn.nonzero (effect_of_take taken))
    exclusive turns

/-- A thread that tries for a lock which somebody holds changes nothing but how far it
has come. -/
theorem attempt_fails {move : Move} (attempts : move = .exchange ∨ move = .tryExchange)
    (notFree : lock.holder ≠ 0) (stepped : lock.step thread move = some next) :
    next.holder = lock.holder ∧ next.queue = lock.queue ∧
      ∀ other, next.guards other = lock.guards other := by
  rcases attempts with rfl | rfl <;> cases at_phase : lock.phase thread <;>
    simp only [step, at_phase, if_neg notFree, reduceCtorEq, Option.some.injEq] at stepped <;>
    subst stepped
  · exact ⟨rfl, rfl, fun other => guards_enter _⟩
  · exact ⟨rfl, rfl, fun other => rfl⟩

end Exclusive

/-- What a sleeping lock promises at any time. -/
structure Excludes (lock : SleepLock) : Prop where
  /-- No two guards are alive, and the owner of the one that may be holds the lock. -/
  oneOwner : ∀ first second, 0 < lock.guards first → 0 < lock.guards second → first = second
  oneGuard : ∀ thread, lock.guards thread ≤ 1
  ownerHolds : ∀ thread, 0 < lock.guards thread → lock.holder = thread
  /-- A lock that somebody waits for is not free, so that no other thread that tries to take
  it succeeds. -/
  freeUnqueued : lock.holder = 0 → lock.queue = []
  noOvertaking : lock.queue ≠ [] → ∀ thread move next,
    move = .exchange ∨ move = .tryExchange → lock.step thread move = some next →
      next.holder = lock.holder ∧ next.queue = lock.queue ∧
        ∀ other, next.guards other = lock.guards other
  tryFails : lock.queue ≠ [] → ∀ thread, (lock.tryLock thread).1 = false
  /-- Whatever happens while threads wait, the lock stays where it is or goes to the thread
  that has waited longest, and no thread gets a guard that does not hold the lock already. -/
  inOrder : ∀ first rest, lock.queue = first :: rest → ∀ turn next,
    lock.take turn = some next → next.holder = lock.holder ∨ next.holder = first ∧ next.queue = rest
  onlyHandedOver : lock.queue ≠ [] → ∀ turn next, lock.take turn = some next →
    ∀ thread, lock.guards thread < next.guards thread → lock.holder = thread
  /-- A thread that has the guard is refused when it calls for the lock again, and as long as
  the guard is alive the thread gets no other. -/
  relockRefused : ∀ thread, 0 < lock.guards thread → lock.phase thread = .idle →
    lock.lock thread = .error ⟨thread⟩
  relockStopped : ∀ thread, 0 < lock.guards thread → ∀ queued,
    lock.phase thread = .checking queued →
      lock.step thread .check = some (lock.enter thread .refused)
  noSecondGuard : ∀ thread, 0 < lock.guards thread → ∀ turn next,
    lock.take turn = some next → next.guards thread ≤ lock.guards thread

namespace Exclusive

/-- Where somebody holds the lock, an attempt fails. -/
theorem tryLock_fails (notFree : lock.holder ≠ 0) (thread : ThreadId) :
    (lock.tryLock thread).1 = false := by
  have unchanged : (lock.run thread [.tryExchange]).guards thread = lock.guards thread := by
    rw [run, List.foldl_cons, List.foldl_nil]
    cases stepped : lock.step thread .tryExchange with
    | none => rfl
    | some next => exact (attempt_fails (.inr rfl) notFree stepped).2.2 thread
  rw [tryLock, unchanged]
  exact decide_eq_false (Nat.lt_irrefl _)

/-- A call by the thread that holds the lock goes through its check, and no further. -/
theorem lock_refused (held : lock.holder = thread) (nonzero : thread ≠ 0)
    (idle : lock.phase thread = .idle) : lock.lock thread = .error ⟨thread⟩ := by
  have notFree : lock.holder ≠ 0 := held ▸ nonzero
  let calling := lock.enter thread (.grabbing false)
  let checking := calling.enter thread (.checking false)
  let refused := checking.enter thread .refused
  have started : lock.step thread .start = some calling := by simp only [step, idle, calling]
  have tried : calling.step thread .exchange = some checking := by
    simp [step, calling, checking, notFree]
  have found : checking.step thread .check = some refused := by
    simp [step, calling, checking, refused, held]
  have stopped : refused.step thread .enqueue = none := by simp [step, refused]
  have reached :
      (lock.run thread [.start, .exchange, .check, .enqueue]).phase thread = .refused := by
    simp [run, started, tried, found, stopped, refused]
  rw [SleepLock.lock, if_pos reached]

/-- While threads wait, nothing but a hand-over moves the lock. -/
theorem holder_of_effect {event : Event} {first : ThreadId} {rest : List ThreadId}
    (exclusive : Exclusive lock) (queue : lock.queue = first :: rest)
    (effect : Effect lock thread event next) :
    next.holder = lock.holder ∨ next.holder = first ∧ next.queue = rest := by
  have notFree : lock.holder ≠ 0 := fun free =>
    List.cons_ne_nil first rest (queue.symm.trans (exclusive.freed free))
  cases effect with
  | advances | fails | leaves | receives | parks => exact .inl rfl
  | takes _ free | takesQueued _ free => exact absurd free notFree
  | drops =>
    rw [holder_handOver, queue_handOver, queue_dropGuard, queue]
    exact .inr ⟨rfl, rfl⟩

/-- Nobody gets a guard of a lock that another thread holds. -/
theorem holds_of_guarded {event : Event} (exclusive : Exclusive lock)
    (notFree : lock.holder ≠ 0) (effect : Effect lock thread event next)
    (guarded : lock.guards other < next.guards other) :
    lock.holder = other := by
  cases effect with
  | advances | takesQueued | parks =>
    rw [guards_enter] at guarded
    exact absurd guarded (Nat.lt_irrefl _)
  | fails => exact absurd guarded (Nat.lt_irrefl _)
  | takes _ free => exact absurd free notFree
  | leaves leaving =>
    rw [guards_acquire] at guarded
    split at guarded
    · rename_i same
      exact same ▸ (exclusive.leaving thread leaving).2
    · exact absurd guarded (Nat.lt_irrefl _)
  | receives _ held =>
    rw [guards_acquire] at guarded
    split at guarded
    · rename_i same
      exact same ▸ held
    · exact absurd guarded (Nat.lt_irrefl _)
  | drops =>
    rw [guards_handOver, guards_dropGuard] at guarded
    split at guarded
    · rename_i same
      subst same
      omega
    · exact absurd guarded (Nat.lt_irrefl _)

/-- A thread that owns a guard has not queued since, so its check refuses it. -/
theorem check_refused {queued : Bool} (exclusive : Exclusive lock)
    (owns : 0 < lock.guards thread) (checking : lock.phase thread = .checking queued) :
    lock.step thread .check = some (lock.enter thread .refused) := by
  cases queued with
  | true =>
    have none := exclusive.waiting thread (checking ▸ rfl)
    exact absurd owns (none ▸ Nat.lt_irrefl 0)
  | false => simp [step, checking, (exclusive.owner thread owns).2]

/-- What keeps guards exclusive says all that is promised. -/
theorem excludes (exclusive : Exclusive lock) : Excludes lock := by
  have held : ∀ {thread}, 0 < lock.guards thread → lock.holder = thread := fun owns =>
    (exclusive.owner _ owns).2
  have notFree : lock.queue ≠ [] → lock.holder ≠ 0 := fun queued free =>
    queued (exclusive.freed free)
  exact {
    oneOwner := fun _ _ first second => (held first).symm.trans (held second)
    oneGuard := exclusive.once
    ownerHolds := fun _ => held
    freeUnqueued := exclusive.freed
    noOvertaking := fun queued _ _ _ attempts => attempt_fails attempts (notFree queued)
    tryFails := fun queued => tryLock_fails (notFree queued)
    inOrder := fun _ _ queue _ _ taken => exclusive.holder_of_effect queue (effect_of_take taken)
    onlyHandedOver := fun queued _ _ taken _ =>
      exclusive.holds_of_guarded (notFree queued) (effect_of_take taken)
    relockRefused := fun _ owns => lock_refused (held owns) (exclusive.owner _ owns).1
    relockStopped := fun _ owns _ => exclusive.check_refused owns
    noSecondGuard := fun thread owns turn _ taken =>
      Nat.le_trans ((exclusive.effect turn.nonzero (effect_of_take taken)).once thread) owns }

end Exclusive

/-- However threads interleave their calls, and wherever their guards are dropped, at most one
guard of the lock is alive, its owner holds the lock, a free lock has no queue, nobody
overtakes a thread that waits, and a thread with the guard gets no second one. -/
theorem mutual_exclusion (turns : List Turn) : (free.play turns).Excludes :=
  (Exclusive.free.play turns).excludes

end SleepLock

end VirtualMemory
