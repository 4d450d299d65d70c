/-
Module: VirtualMemory.Lock.Ticket
Purpose: A spinning lock that serves threads in the order in which they came.
Main exports:
  TicketLock, TicketLock.Move, TicketLock.step, TicketLock.lock,
  TicketLock.tryLock, TicketLock.unlock

The lock is described by its atomic steps, each a single read or update of one
of its two counters. Any number of threads take steps in any order; the calls
that a single thread makes are runs of the same steps.
-/
import Std.Data.ExtTreeMap

namespace VirtualMemory

/-- The number of a thread. Zero means that there is none. -/
abbrev ThreadId := Nat

namespace TicketLock

/-- How far a thread has come in its present call. -/
inductive Phase where
  /-- In no call, without the lock. -/
  | outside
  /-- Spinning until its ticket is served. -/
  | waiting (ticket : UInt64)
  /-- In possession of the lock. -/
  | holding (ticket : UInt64)
  /-- Trying: it has read the next ticket. -/
  | seen (ticket : UInt64)
  /-- Trying: it has found that the ticket would be served at once. -/
  | promised (ticket : UInt64)
deriving DecidableEq, Repr

/-- The atomic steps. -/
inductive Move where
  /-- Takes a ticket. -/
  | takeTicket
  /-- Looks once whether the ticket is served. -/
  | look
  /-- Begins to try by reading the next ticket. -/
  | readTicket
  /-- Reads which ticket is served. -/
  | readServing
  /-- Takes the ticket if it is still the next one. -/
  | swap
  /-- Fails to take the ticket although it may still be the next one. -/
  | swapSpuriously
  /-- Gives the lock up by serving the next ticket. -/
  | release
deriving DecidableEq, Repr

end TicketLock

/-- A ticket lock with the threads that use it. -/
structure TicketLock where
  nextTicket : UInt64 := 0
  nextServing : UInt64 := 0
  phases : Std.ExtTreeMap ThreadId TicketLock.Phase := ∅

namespace TicketLock

/-- A lock that no thread has used. -/
def free : TicketLock := {}

/-- How far a thread has come. -/
def phase (lock : TicketLock) (thread : ThreadId) : Phase :=
  lock.phases[thread]?.getD .outside

/-- The lock with a thread in another phase. -/
def enter (lock : TicketLock) (thread : ThreadId) (phase : Phase) : TicketLock :=
  { lock with phases := lock.phases.insert thread phase }

/-- Whether some thread holds the lock or waits for it. -/
def isLocked (lock : TicketLock) : Bool := lock.nextServing != lock.nextTicket

/-- Whether a thread holds the lock. -/
def holds (lock : TicketLock) (thread : ThreadId) : Bool :=
  match lock.phase thread with
  | .holding _ => true
  | _ => false

/-- One step of a thread, if its phase allows it. -/
def step (lock : TicketLock) (thread : ThreadId) (move : Move) : Option TicketLock :=
  match move, lock.phase thread with
  | .takeTicket, .outside =>
      some
        ({ lock with nextTicket := lock.nextTicket + 1 }.enter thread
          (.waiting lock.nextTicket))
  | .look, .waiting ticket =>
      if lock.nextServing = ticket then some (lock.enter thread (.holding ticket))
      else some lock
  | .readTicket, .outside => some (lock.enter thread (.seen lock.nextTicket))
  | .readServing, .seen ticket =>
      if lock.nextServing = ticket then some (lock.enter thread (.promised ticket))
      else some (lock.enter thread .outside)
  | .swap, .promised ticket =>
      if lock.nextTicket = ticket then
        some ({ lock with nextTicket := ticket + 1 }.enter thread (.holding ticket))
      else some (lock.enter thread (.seen lock.nextTicket))
  | .swapSpuriously, .promised _ => some (lock.enter thread (.seen lock.nextTicket))
  | .release, .holding ticket =>
      some ({ lock with nextServing := ticket + 1 }.enter thread .outside)
  | _, _ => none

/-- Takes the steps of a list one after another, leaving out those that are not
allowed. -/
def run (lock : TicketLock) (thread : ThreadId) (moves : List Move) : TicketLock :=
  moves.foldl (fun state move => (state.step thread move).getD state) lock

/-- Locks, as far as a thread gets without the help of others: it takes a ticket
and has the lock if the ticket is served. -/
def lock (state : TicketLock) (thread : ThreadId) : TicketLock :=
  state.run thread [.takeTicket, .look]

/-- Takes the lock if nobody holds it or waits for it, and answers whether it
did. -/
def tryLock (state : TicketLock) (thread : ThreadId) : Bool × TicketLock :=
  let reached := state.run thread [.readTicket, .readServing, .swap]
  (reached.holds thread && !state.holds thread, reached)

/-- Gives the lock up. -/
def unlock (state : TicketLock) (thread : ThreadId) : TicketLock :=
  state.run thread [.release]

/-- The lock as a line of a report, made by a thread that tries to look inside:
what it guards, unless it is locked. -/
def describe (lock : TicketLock) (thread : ThreadId) (guarded : String) : String :=
  if (lock.tryLock thread).1 then s!"TicketMutex \x7b data: {guarded} \x7d"
  else "TicketMutex \x7b <locked> \x7d"

end TicketLock

end VirtualMemory
