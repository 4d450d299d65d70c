/-
Module: VirtualMemory.Storage.Faulty
Purpose: A file system whose calls fail as planned.
Main exports:
  FileCall, FaultAction, Fault, FaultyFiles, FaultyFiles.plan
-/
import VirtualMemory.Storage.FileSystem

namespace VirtualMemory

/-- The calls that can be made to fail. -/
inductive FileCall where
  | open
  | read
  | write
  | close
  | remove
deriving DecidableEq, Repr

/-- What happens to a call in place of what was asked for. -/
inductive FaultAction where
  /-- The call fails and does not reach the file system. -/
  | fail (cause : FileError)
  /-- A read or write is cut to this many bytes; other calls pass. -/
  | shorten (limit : Nat)
deriving DecidableEq, Repr

/-- The plan for one kind of call: what happens to the call with each number,
counted from when the plan was made, and the number of the next call. -/
structure Fault where
  schedule : Nat → Option FaultAction
  calls : Nat := 0

namespace Fault

/-- Every call passes. -/
def never : Fault := { schedule := fun _ => none }

/-- The first `count` calls pass, and all later ones meet with `action`. -/
def after (count : Nat) (action : FaultAction) : Fault :=
  { schedule := fun call => if call < count then none else some action }

end Fault

/-- A file system with a plan for each kind of call. -/
structure FaultyFiles (φ : Type) where
  base : φ
  onOpen : Fault := .never
  onRead : Fault := .never
  onWrite : Fault := .never
  onClose : Fault := .never
  onRemove : Fault := .never

namespace FaultyFiles

variable {φ : Type}

/-- The plan for a kind of call. -/
def fault (files : FaultyFiles φ) : FileCall → Fault
  | .open => files.onOpen
  | .read => files.onRead
  | .write => files.onWrite
  | .close => files.onClose
  | .remove => files.onRemove

/-- Replaces the plan for a kind of call. -/
def plan (files : FaultyFiles φ) (call : FileCall) (fault : Fault) : FaultyFiles φ :=
  match call with
  | .open => { files with onOpen := fault }
  | .read => { files with onRead := fault }
  | .write => { files with onWrite := fault }
  | .close => { files with onClose := fault }
  | .remove => { files with onRemove := fault }

/-- What happens to the next call of a kind, which is counted. -/
def meet (call : FileCall) : Action (FaultyFiles φ) FileError (Option FaultAction) :=
  .always fun files =>
    let fault := files.fault call
    (fault.schedule fault.calls,
      files.plan call { fault with calls := fault.calls + 1 })

/-- A call on the file system itself. -/
def onBase {α : Type} (action : Action φ FileError α) :
    Action (FaultyFiles φ) FileError α :=
  action.within FaultyFiles.base fun files base => { files with base := base }

/-- A call that passes, is cut to a length, or fails, as planned. -/
def guarded {α : Type} (call : FileCall) (action : Action φ FileError α)
    (shortened : Nat → Action φ FileError α) : Action (FaultyFiles φ) FileError α := do
  match ← meet call with
  | none => onBase action
  | some (.shorten limit) => onBase (shortened limit)
  | some (.fail cause) => throw cause

open FileSystem in
instance [FileSystem φ] : FileSystem (FaultyFiles φ) where
  openFile name create :=
    guarded .open (openFile name create) fun _ => openFile name create
  readFile file offset length :=
    guarded .read (readFile file offset length) fun limit =>
      readFile file offset (min limit length)
  writeFile file offset data :=
    guarded .write (writeFile file offset data) fun limit =>
      writeFile file offset (data.take limit)
  fileLength file := onBase (fileLength file)
  closeFile file := guarded .close (closeFile file) fun _ => closeFile file
  removeFile name := guarded .remove (removeFile name) fun _ => removeFile name

end FaultyFiles

end VirtualMemory
