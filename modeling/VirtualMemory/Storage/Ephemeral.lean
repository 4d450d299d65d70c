/-
Module: VirtualMemory.Storage.Ephemeral
Purpose: A file system that lives in memory.
Main exports:
  EphemeralFiles

A file has an inode, which names and handles refer to. Removing a name or closing
a handle takes one reference away, and an inode without references is freed.
-/
import Std.Data.ExtTreeMap
import VirtualMemory.Storage.Contents
import VirtualMemory.Storage.FileSystem

namespace VirtualMemory

/-- A file: its bytes, whether a name refers to it, and how many handles do. -/
structure Inode where
  data : FileContents := {}
  linked : Bool := true
  openHandles : Nat := 0
deriving DecidableEq

/-- The files in memory. Inode and handle numbers are counted up and never used
again. -/
structure EphemeralFiles where
  names : Std.ExtTreeMap String Nat := ∅
  inodes : Std.ExtTreeMap Nat Inode := ∅
  handles : Std.ExtTreeMap FileHandle Nat := ∅
  lastInode : Nat := 0
  lastHandle : FileHandle := 0
deriving DecidableEq

namespace EphemeralFiles

/-- No file has been made. -/
def empty : EphemeralFiles := {}

/-- What memory cannot hold: a file that reaches this length. -/
def lengthLimit : Nat := 1 <<< 62

/-- The inode that a handle refers to, with its number. -/
def inodeOf (files : EphemeralFiles) (file : FileHandle) :
    Except FileError (Nat × Inode) :=
  match files.handles[file]? with
  | none => .error .badHandle
  | some number =>
      match files.inodes[number]? with
      | none => .error .badHandle
      | some inode => .ok (number, inode)

/-- Frees an inode that nothing refers to. -/
def freeUnreferenced (files : EphemeralFiles) (number : Nat) : EphemeralFiles :=
  match files.inodes[number]? with
  | none => files
  | some inode =>
      if !inode.linked && inode.openHandles == 0 then
        { files with inodes := files.inodes.erase number }
      else files

/-- Replaces an inode by a change of it, and frees it if nothing refers to it
any more. -/
def unreference (files : EphemeralFiles) (number : Nat) (change : Inode → Inode) :
    EphemeralFiles :=
  match files.inodes[number]? with
  | none => files
  | some inode =>
      { files with inodes := files.inodes.insert number (change inode) }
        |>.freeUnreferenced number

/-- Makes an empty file with a name. -/
def makeFile (files : EphemeralFiles) (name : String) : Nat × EphemeralFiles :=
  let number := files.lastInode + 1
  (number,
    { files with
      names := files.names.insert name number
      inodes := files.inodes.insert number {}
      lastInode := number })

/-- Makes a handle of the file with an inode number. -/
def makeHandle (files : EphemeralFiles) (number : Nat) :
    Except FileError (FileHandle × EphemeralFiles) :=
  match files.inodes[number]? with
  | none => .error .notFound
  | some inode =>
      let handle := files.lastHandle + 1
      .ok (handle,
        { files with
          inodes :=
            files.inodes.insert number
              { inode with openHandles := inode.openHandles + 1 }
          handles := files.handles.insert handle number
          lastHandle := handle })

/-- Opens a file by name. -/
def openNamed (files : EphemeralFiles) (name : String) (create : Bool) :
    Except FileError (FileHandle × EphemeralFiles) :=
  match files.names[name]? with
  | some number => files.makeHandle number
  | none =>
      if create then
        let (number, made) := files.makeFile name
        made.makeHandle number
      else .error .notFound

/-- The bytes of an open file. -/
def read (files : EphemeralFiles) (file : FileHandle) (offset length : Nat) :
    Except FileError Bytes :=
  match files.inodeOf file with
  | .error cause => .error cause
  | .ok (_, inode) => .ok (inode.data.read offset length)

/-- Writes to an open file. A gap between its end and the offset is filled with
zeros, also when there is nothing to write. -/
def write (files : EphemeralFiles) (file : FileHandle) (offset : Nat) (data : Bytes) :
    Except FileError (Nat × EphemeralFiles) :=
  match files.inodeOf file with
  | .error cause => .error cause
  | .ok (number, inode) =>
      if lengthLimit ≤ offset + data.length then .error .noSpace
      else
        .ok (data.length,
          { files with
            inodes :=
              files.inodes.insert number { inode with data := inode.data.write offset data } })

/-- The size of an open file. -/
def length (files : EphemeralFiles) (file : FileHandle) : Except FileError Nat :=
  match files.inodeOf file with
  | .error cause => .error cause
  | .ok (_, inode) => .ok inode.data.length

/-- Closes a handle. -/
def close (files : EphemeralFiles) (file : FileHandle) :
    Except FileError (Unit × EphemeralFiles) :=
  match files.handles[file]? with
  | none => .error .badHandle
  | some number =>
      let closed := { files with handles := files.handles.erase file }
      .ok ((),
        closed.unreference number fun inode =>
          { inode with openHandles := inode.openHandles - 1 })

/-- Removes a name. -/
def remove (files : EphemeralFiles) (name : String) :
    Except FileError (Unit × EphemeralFiles) :=
  match files.names[name]? with
  | none => .error .notFound
  | some number =>
      let unnamed := { files with names := files.names.erase name }
      .ok ((), unnamed.unreference number fun inode => { inode with linked := false })

instance : FileSystem EphemeralFiles where
  openFile name create := .update fun files => files.openNamed name create
  readFile file offset length := .inspect fun files => files.read file offset length
  writeFile file offset data := .update fun files => files.write file offset data
  fileLength file := .inspect fun files => files.length file
  closeFile file := .update fun files => files.close file
  removeFile name := .update fun files => files.remove name

end EphemeralFiles

end VirtualMemory
