/-
Module: VirtualMemory.Lock.Condition
Purpose: A condition variable: threads that sleep until they are notified.
Main exports:
  Condition and its sleep, notifyOne, notifyAll, wake
-/
import VirtualMemory.Lock.Ticket

namespace VirtualMemory

/-- The threads that sleep, longest first, and those that were notified and have
not gone on yet. -/
structure Condition where
  sleepers : List ThreadId := []
  notified : List ThreadId := []
deriving DecidableEq, Repr

namespace Condition

/-- Enters a thread among the sleepers. It does so before it gives up its lock, so
that no notification by a later holder of the lock is lost. -/
def sleep (condition : Condition) (thread : ThreadId) : Condition :=
  { condition with sleepers := condition.sleepers ++ [thread] }

/-- Notifies the thread that has slept longest. -/
def notifyOne (condition : Condition) : Condition :=
  match condition.sleepers with
  | [] => condition
  | first :: rest =>
      { sleepers := rest, notified := condition.notified ++ [first] }

/-- Notifies every sleeping thread. -/
def notifyAll (condition : Condition) : Condition :=
  { sleepers := [], notified := condition.notified ++ condition.sleepers }

/-- Whether a thread was notified. -/
def isNotified (condition : Condition) (thread : ThreadId) : Bool :=
  condition.notified.contains thread

/-- Lets a notified thread go on. -/
def wake (condition : Condition) (thread : ThreadId) : Condition :=
  { condition with notified := condition.notified.filter (· != thread) }

end Condition

end VirtualMemory
