/-
Module: VirtualMemory.ProcessTable
Purpose: The live processes, and how the others ended.
Main exports:
  ProcessTable and its add, get, remove, exitStatus, pids
-/
import Std.Data.ExtTreeMap
import VirtualMemory.Address

namespace VirtualMemory

/-- The live processes by number, and the exit status of every process that has
ended. `π` is what is known of a process. -/
structure ProcessTable (π : Type) where
  live : Std.ExtTreeMap Pid π := ∅
  statuses : Std.ExtTreeMap Pid Int32 := ∅

/-- A process number that is live already cannot be added. -/
structure AlreadyLive where
  pid : Pid
deriving DecidableEq, Repr

/-- The wording of the refusal. -/
def AlreadyLive.message (refusal : AlreadyLive) : String :=
  s!"process {refusal.pid.toNat} already added to process table"

namespace ProcessTable

variable {π : Type}

/-- No process was ever added. -/
def empty : ProcessTable π := {}

/-- Adds a live process. -/
def add (table : ProcessTable π) (pid : Pid) (process : π) :
    Except AlreadyLive (ProcessTable π) :=
  if table.live.contains pid then .error ⟨pid⟩
  else .ok { table with live := table.live.insert pid process }

/-- A live process. -/
def get (table : ProcessTable π) (pid : Pid) : Option π := table.live[pid]?

/-- Replaces what is known of a live process. -/
def change (table : ProcessTable π) (pid : Pid) (step : π → π) : ProcessTable π :=
  match table.get pid with
  | none => table
  | some process => { table with live := table.live.insert pid (step process) }

/-- Takes a live process out and records its exit status. -/
def remove (table : ProcessTable π) (pid : Pid) (status : Int32) :
    Option (π × ProcessTable π) :=
  match table.get pid with
  | none => none
  | some process =>
      some (process,
        { live := table.live.erase pid
          statuses := table.statuses.insert pid status })

/-- The exit status of a process that has ended. -/
def exitStatus (table : ProcessTable π) (pid : Pid) : Option Int32 :=
  table.statuses[pid]?

theorem get_of_add {table next : ProcessTable π} {pid : Pid} {process : π}
    (added : table.add pid process = .ok next) (other : Pid) :
    next.get other = if pid = other then some process else table.get other := by
  simp only [add] at added
  split at added
  · cases added
  · cases added
    simp only [get, Std.ExtTreeMap.getElem?_insert, Std.LawfulEqCmp.compare_eq_iff_eq]

theorem get_of_remove {table next : ProcessTable π} {pid : Pid} {status : Int32}
    {process : π} (removed : table.remove pid status = some (process, next)) (other : Pid) :
    next.get other = if pid = other then none else table.get other := by
  simp only [remove] at removed
  split at removed
  · cases removed
  · cases removed
    simp only [get, Std.ExtTreeMap.getElem?_erase, Std.LawfulEqCmp.compare_eq_iff_eq]

theorem exitStatus_of_remove {table next : ProcessTable π} {pid : Pid} {status : Int32}
    {process : π} (removed : table.remove pid status = some (process, next)) (other : Pid) :
    next.exitStatus other = if pid = other then some status else table.exitStatus other := by
  simp only [remove] at removed
  split at removed
  · cases removed
  · cases removed
    simp only [exitStatus, Std.ExtTreeMap.getElem?_insert, Std.LawfulEqCmp.compare_eq_iff_eq]

/-- The numbers of the live processes, in order. -/
def pids (table : ProcessTable π) : List Pid := table.live.keys

end ProcessTable

end VirtualMemory
