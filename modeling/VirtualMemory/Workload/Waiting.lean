/-
Module: VirtualMemory.Workload.Waiting
Purpose: Threads that wait for a value under a condition variable.
Main exports:
  Waiting.returned

Waiters sleep until a shared switch is set; one more thread sets it and notifies
them. The threads take turns, a few steps each.
-/
import VirtualMemory.Lock.Condition
import VirtualMemory.Workload.Counting

namespace VirtualMemory.Waiting

open Counting

/-- How the setter notifies: everyone at once, or one thread after another. -/
inductive Notice where
  | everyone
  | oneByOne (count : Nat)
deriving DecidableEq, Repr

/-- Where a waiter is. -/
inductive Waiter where
  /-- On its way to the lock, or about to look at the switch. -/
  | looking
  /-- Asleep until notified. -/
  | asleep
  /-- Has seen the switch set and come back. -/
  | back
deriving DecidableEq, Repr

/-- Waiters, the lock and condition they use, and the switch. The setter has the
number after the last waiter's. -/
structure Scene where
  lock : SleepLock := .free
  condition : Condition := {}
  switch : Bool := false
  waiters : Array Waiter
  /-- What the setter still has to do. -/
  pending : Option Notice

/-- One step of a waiter. -/
def Scene.advanceWaiter (scene : Scene) (index : Nat) : Scene :=
  let thread := index + 1
  match scene.waiters[index]? with
  | some .looking =>
      match approachSleepLock scene.lock thread with
      | .underway lock => { scene with lock := lock }
      | .inside =>
          if scene.switch then
            { scene with
              lock := scene.lock.unlock thread
              waiters := scene.waiters.setIfInBounds index .back }
          else
            { scene with
              condition := scene.condition.sleep thread
              lock := scene.lock.unlock thread
              waiters := scene.waiters.setIfInBounds index .asleep }
  | some .asleep =>
      if scene.condition.isNotified thread then
        { scene with
          condition := scene.condition.wake thread
          waiters := scene.waiters.setIfInBounds index .looking }
      else scene
  | _ => scene

/-- The condition after a notice. -/
def notify (condition : Condition) : Notice → Condition
  | .everyone => condition.notifyAll
  | .oneByOne count => (List.range count).foldl (fun state _ => state.notifyOne) condition

/-- One step of the setter: on its way to the lock, or setting the switch and
notifying the waiters. -/
def Scene.advanceSetter (scene : Scene) : Scene :=
  let thread := scene.waiters.size + 1
  match scene.pending with
  | none => scene
  | some notice =>
      match approachSleepLock scene.lock thread with
      | .underway lock => { scene with lock := lock }
      | .inside =>
          { scene with
            switch := true
            lock := scene.lock.unlock thread
            condition := notify scene.condition notice
            pending := none }

/-- Several steps of a waiter. -/
def Scene.advanceWaiterBy (scene : Scene) (index : Nat) : (steps : Nat) → Scene
  | 0 => scene
  | steps + 1 => (scene.advanceWaiter index).advanceWaiterBy index steps

/-- One turn of every waiter, and one step of the setter. -/
def Scene.sweep (scene : Scene) : Scene :=
  let waited := (List.range scene.waiters.size).foldl
    (fun state index => state.advanceWaiterBy index turnLength) scene
  waited.advanceSetter

/-- The number of waiters that have come back. -/
def Scene.backCount (scene : Scene) : Nat :=
  scene.waiters.countP (· == .back)

/-- Sweeps until all waiters have come back, at most `limit` times. -/
def sweeps : (limit : Nat) → Scene → Nat
  | 0, scene => scene.backCount
  | limit + 1, scene =>
      if scene.backCount = scene.waiters.size then scene.backCount
      else sweeps limit scene.sweep

/-- The number of waiters that come back after the switch was set. -/
def returned (threads : Nat) (notice : Notice) : Nat :=
  sweeps (32 * (threads + 2))
    { waiters := Array.replicate threads .looking, pending := some notice }

end VirtualMemory.Waiting
