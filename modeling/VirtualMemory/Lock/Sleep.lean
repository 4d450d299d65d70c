/-
Module: VirtualMemory.Lock.Sleep
Purpose: A blocking lock that hands itself to the thread that waited longest.
Main exports:
  SleepLock, SleepLock.Move, SleepLock.step, SleepLock.lock, SleepLock.tryLock,
  SleepLock.unlock

The lock is described by its atomic steps: reads and exchanges of the holder, and
sections of code that run with the wait queue to themselves. A parked thread may
wake at any time, also when nobody woke it. The calls that a single thread makes
are runs of the same steps.
-/
import VirtualMemory.Lock.Ticket

namespace VirtualMemory

namespace SleepLock

/-- How far a thread has come in its present call. `queued` tells whether it was
in the wait queue before. -/
inductive Phase where
  /-- In no call. -/
  | idle
  /-- About to take the lock if nobody holds it. -/
  | grabbing (queued : Bool)
  /-- Took the lock by itself and has yet to leave the wait queue. -/
  | leaving
  /-- About to check whether the lock was handed to it. -/
  | checking (queued : Bool)
  /-- About to enter the wait queue. -/
  | queueing (queued : Bool)
  /-- Parked until it is woken. -/
  | parked
  /-- Found that it holds the lock already. -/
  | refused
deriving DecidableEq, Repr

/-- A thread that uses the lock: where it is, and how many guards of the lock it
owns. -/
structure User where
  phase : Phase := .idle
  guards : Nat := 0
deriving DecidableEq, Repr

/-- The atomic steps. -/
inductive Move where
  /-- Calls for the lock. -/
  | start
  /-- Takes the lock if nobody holds it. -/
  | exchange
  /-- Leaves the wait queue. -/
  | leave
  /-- Reads who holds the lock. -/
  | check
  /-- Enters the wait queue, unless the lock has become free. -/
  | enqueue
  /-- Wakes up. -/
  | wake
  /-- Takes the lock if nobody holds it, and gives up otherwise. -/
  | tryExchange
  /-- Drops a guard: hands the lock to the head of the queue, or frees it. -/
  | unlock
  /-- Recovers from having been refused. -/
  | recover
deriving DecidableEq, Repr

end SleepLock

/-- A sleeping lock with the threads that use it. -/
structure SleepLock where
  /-- The thread that holds the lock, or zero. -/
  holder : ThreadId := 0
  /-- The threads that wait, longest first. -/
  queue : List ThreadId := []
  users : Std.ExtTreeMap ThreadId SleepLock.User := ∅

/-- A thread that holds a lock cannot lock it again. -/
structure LockedTwice where
  thread : ThreadId
deriving DecidableEq, Repr

/-- The wording of the refusal. -/
def LockedTwice.message (refusal : LockedTwice) : String :=
  s!"SleepMutex locked twice by thread {refusal.thread}"

namespace SleepLock

/-- A lock that no thread has used. -/
def free : SleepLock := {}

/-- A thread's relation to the lock. -/
def user (lock : SleepLock) (thread : ThreadId) : User :=
  lock.users[thread]?.getD {}

/-- How far a thread has come. -/
def phase (lock : SleepLock) (thread : ThreadId) : Phase := (lock.user thread).phase

/-- The number of guards that a thread owns. -/
def guards (lock : SleepLock) (thread : ThreadId) : Nat := (lock.user thread).guards

/-- The lock with a thread in another phase. -/
def enter (lock : SleepLock) (thread : ThreadId) (phase : Phase) : SleepLock :=
  { lock with
    users := lock.users.insert thread { lock.user thread with phase := phase } }

/-- The lock with a thread's call ended and a guard given to it. -/
def acquire (lock : SleepLock) (thread : ThreadId) : SleepLock :=
  { lock with
    users :=
      lock.users.insert thread { phase := .idle, guards := lock.guards thread + 1 } }

/-- The lock with one guard of a thread gone. -/
def dropGuard (lock : SleepLock) (thread : ThreadId) : SleepLock :=
  { lock with
    users :=
      lock.users.insert thread
        { lock.user thread with guards := lock.guards thread - 1 } }

/-- The lock handed to the head of the queue, or freed if nobody waits. -/
def handOver (lock : SleepLock) : SleepLock :=
  match lock.queue with
  | [] => { lock with holder := 0 }
  | next :: rest => { lock with holder := next, queue := rest }

/-- Whether some thread holds the lock. -/
def isLocked (lock : SleepLock) : Bool := lock.holder != 0

/-- Whether a thread is the one that holds the lock. -/
def heldBy (lock : SleepLock) (thread : ThreadId) : Bool := lock.holder == thread

/-- One step of a thread, if its phase allows it. -/
def step (lock : SleepLock) (thread : ThreadId) (move : Move) : Option SleepLock :=
  match move, lock.phase thread with
  | .start, .idle => some (lock.enter thread (.grabbing false))
  | .exchange, .grabbing queued =>
      if lock.holder = 0 then
        let taken := { lock with holder := thread }
        if queued then some (taken.enter thread .leaving) else some (taken.acquire thread)
      else some (lock.enter thread (.checking queued))
  | .leave, .leaving =>
      some
        ({ lock with queue := lock.queue.filter (· != thread) }.acquire thread)
  | .check, .checking queued =>
      if lock.holder = thread then
        if queued then some (lock.acquire thread) else some (lock.enter thread .refused)
      else some (lock.enter thread (.queueing queued))
  | .enqueue, .queueing queued =>
      if lock.holder = 0 then some (lock.enter thread (.grabbing queued))
      else
        let queue :=
          if thread ∈ lock.queue then lock.queue else lock.queue ++ [thread]
        some ({ lock with queue := queue }.enter thread .parked)
  | .wake, .parked => some (lock.enter thread (.grabbing true))
  | .tryExchange, .idle =>
      if lock.holder = 0 then some ({ lock with holder := thread }.acquire thread)
      else some lock
  | .unlock, .idle =>
      if lock.guards thread = 0 then none
      else some (lock.dropGuard thread).handOver
  | .recover, .refused => some (lock.enter thread .idle)
  | _, _ => none

/-- Takes the steps of a list one after another, leaving out those that are not
allowed. -/
def run (lock : SleepLock) (thread : ThreadId) (moves : List Move) : SleepLock :=
  moves.foldl (fun state move => (state.step thread move).getD state) lock

/-- Locks, as far as a thread gets without the help of others. A thread that
holds the lock is refused, and nothing changes. -/
def lock (state : SleepLock) (thread : ThreadId) : Except LockedTwice SleepLock :=
  let reached := state.run thread [.start, .exchange, .check, .enqueue]
  if reached.phase thread = .refused then .error ⟨thread⟩ else .ok reached

/-- Takes the lock if nobody holds it, and answers whether it did. -/
def tryLock (state : SleepLock) (thread : ThreadId) : Bool × SleepLock :=
  let reached := state.run thread [.tryExchange]
  (state.guards thread < reached.guards thread, reached)

/-- Drops a guard. -/
def unlock (state : SleepLock) (thread : ThreadId) : SleepLock :=
  state.run thread [.unlock]

/-- The step that brings a thread forward in its call for the lock. A parked
thread waits until the lock is handed to it. -/
def nextMove (lock : SleepLock) (thread : ThreadId) : Option Move :=
  match lock.phase thread with
  | .idle => none
  | .grabbing _ => some .exchange
  | .leaving => some .leave
  | .checking _ => some .check
  | .queueing _ => some .enqueue
  | .parked => if lock.holder = thread then some .wake else none
  | .refused => some .recover

end SleepLock

end VirtualMemory
