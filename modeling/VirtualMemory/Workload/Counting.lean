/-
Module: VirtualMemory.Workload.Counting
Purpose: Threads that count together under a lock.
Main exports:
  Counting.underSleepLock, Counting.underTicketLock

Every thread adds one to a shared number a given number of times. It reads the
number and writes it back in separate steps, so the total is right only if the
lock keeps the others out in between. The threads take turns, a few steps each.
-/
import VirtualMemory.Lock.Sleep

namespace VirtualMemory.Counting

/-- A thread that counts: how many additions are left, and the number it has read
for the one it is at. -/
structure Counter where
  thread : ThreadId
  left : Nat
  seen : Option Nat := none
deriving DecidableEq, Repr

/-- Counters under a lock, and the shared number. -/
structure Scene (κ : Type) where
  lock : κ
  total : Nat := 0

/-- What a counter does next. -/
inductive Turn (κ : Type) where
  /-- It is on its way to the lock. -/
  | underway (lock : κ)
  /-- It holds the lock. -/
  | inside

/-- One step of a counter. `approach` moves it towards the lock, and `unlock` lets
go of the lock. -/
def advance {κ : Type} (approach : κ → ThreadId → Turn κ)
    (unlock : κ → ThreadId → κ) (scene : Scene κ) (counter : Counter) :
    Scene κ × Counter :=
  if counter.left = 0 then (scene, counter)
  else
    match approach scene.lock counter.thread with
    | .underway lock => ({ scene with lock := lock }, counter)
    | .inside =>
        match counter.seen with
        | none => (scene, { counter with seen := some scene.total })
        | some number =>
            ({ lock := unlock scene.lock counter.thread, total := number + 1 },
              { counter with left := counter.left - 1, seen := none })

/-- Several steps of a counter. -/
def advanceBy {κ : Type} (approach : κ → ThreadId → Turn κ)
    (unlock : κ → ThreadId → κ) : (steps : Nat) → Scene κ → Counter → Scene κ × Counter
  | 0, scene, counter => (scene, counter)
  | steps + 1, scene, counter =>
      let (next, moved) := advance approach unlock scene counter
      advanceBy approach unlock steps next moved

/-- The steps that a counter may take before the others have their turn. An
addition without waiting takes four, so a turn may end between reading the number
and writing it back. -/
def turnLength : Nat := 7

/-- One turn of every counter. -/
def sweep {κ : Type} (approach : κ → ThreadId → Turn κ)
    (unlock : κ → ThreadId → κ) (scene : Scene κ) :
    List Counter → Scene κ × List Counter
  | [] => (scene, [])
  | counter :: rest =>
      let (next, moved) := advanceBy approach unlock turnLength scene counter
      let (final, others) := sweep approach unlock next rest
      (final, moved :: others)

/-- Sweeps until no counter has anything left to add, at most `limit` times. -/
def sweeps {κ : Type} (approach : κ → ThreadId → Turn κ)
    (unlock : κ → ThreadId → κ) : (limit : Nat) → Scene κ → List Counter → Nat
  | 0, scene, _ => scene.total
  | limit + 1, scene, counters =>
      if counters.all (·.left == 0) then scene.total
      else
        let (next, moved) := sweep approach unlock scene counters
        sweeps approach unlock limit next moved

/-- As many counters as told, each with its additions ahead. -/
def counters (threads rounds : Nat) : List Counter :=
  (List.range threads).map fun index => { thread := index + 1, left := rounds }

/-- Enough sweeps for all additions: once the one before it is done, an addition
takes at most sixteen steps. -/
def sweepLimit (threads rounds : Nat) : Nat :=
  16 * (threads * rounds + 1)

/-- A step towards a sleeping lock. -/
def approachSleepLock (lock : SleepLock) (thread : ThreadId) : Turn SleepLock :=
  match lock.nextMove thread with
  | some move => .underway (lock.run thread [move])
  | none =>
      if lock.phase thread = .parked then .underway lock
      else if lock.guards thread = 0 then .underway (lock.run thread [.start])
      else .inside

/-- The total after all threads have counted under a sleeping lock. -/
def underSleepLock (threads rounds : Nat) : Nat :=
  sweeps approachSleepLock SleepLock.unlock (sweepLimit threads rounds)
    { lock := SleepLock.free } (counters threads rounds)

/-- A step towards a ticket lock. -/
def approachTicketLock (lock : TicketLock) (thread : ThreadId) : Turn TicketLock :=
  match lock.phase thread with
  | .holding _ => .inside
  | .waiting _ => .underway (lock.run thread [.look])
  | _ => .underway (lock.run thread [.takeTicket])

/-- The total after all threads have counted under a ticket lock. -/
def underTicketLock (threads rounds : Nat) : Nat :=
  sweeps approachTicketLock TicketLock.unlock (sweepLimit threads rounds)
    { lock := TicketLock.free } (counters threads rounds)

end VirtualMemory.Counting
