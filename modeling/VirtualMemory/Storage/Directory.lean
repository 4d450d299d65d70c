/-
Module: VirtualMemory.Storage.Directory
Purpose: Files kept in a directory of the host machine.
Main exports:
  DirectoryFiles

The directory behaves as its host promises: a removed file lives on through its
open handles, seeking past the end does not change a file, gaps read as zeros,
and writing nothing changes nothing.
-/
import Std.Data.ExtTreeMap
import VirtualMemory.Storage.Contents
import VirtualMemory.Storage.FileSystem

namespace VirtualMemory

/-- The files of a directory. Handle numbers are counted up and never used
again. -/
structure DirectoryFiles where
  names : Std.ExtTreeMap String Nat := ∅
  contents : Std.ExtTreeMap Nat FileContents := ∅
  handles : Std.ExtTreeMap FileHandle Nat := ∅
  lastFile : Nat := 0
  lastHandle : FileHandle := 0
deriving DecidableEq

namespace DirectoryFiles

/-- An empty directory. -/
def empty : DirectoryFiles := {}

/-- The longest name the host takes, in bytes. -/
def nameLimit : Nat := 255

/-- The highest offset the host can seek to. -/
def offsetLimit : Nat := (1 <<< 63) - 1

/-- Whether a name stays within the directory and has no byte that the host
cannot take. -/
def isPlainName (name : String) : Bool :=
  !name.isEmpty && name != "." && name != ".." &&
    name.toList.all fun character =>
      character != '/' && character != '\\' && character != '\x00'

/-- Why a name cannot be that of a file, if there is a reason. -/
def nameDefect (name : String) : Option FileError :=
  if !isPlainName name then some (.host .invalidInput)
  else if nameLimit < name.utf8ByteSize then some (.host .invalidFilename)
  else none

/-- The file that a handle refers to: its number and bytes. -/
def fileOf (files : DirectoryFiles) (file : FileHandle) :
    Except FileError (Nat × FileContents) :=
  match files.handles[file]? with
  | none => .error .badHandle
  | some number =>
      match files.contents[number]? with
      | none => .error .badHandle
      | some bytes => .ok (number, bytes)

/-- The file that a handle refers to, for an access at an offset. -/
def fileAt (files : DirectoryFiles) (file : FileHandle) (offset : Nat) :
    Except FileError (Nat × FileContents) :=
  match files.fileOf file with
  | .error cause => .error cause
  | .ok found => if offsetLimit < offset then .error (.host .invalidInput) else .ok found

/-- Makes a handle of a file. -/
def makeHandle (files : DirectoryFiles) (number : Nat) : FileHandle × DirectoryFiles :=
  let handle := files.lastHandle + 1
  (handle,
    { files with
      handles := files.handles.insert handle number
      lastHandle := handle })

/-- Makes an empty file with a name. -/
def makeFile (files : DirectoryFiles) (name : String) : Nat × DirectoryFiles :=
  let number := files.lastFile + 1
  (number,
    { files with
      names := files.names.insert name number
      contents := files.contents.insert number {}
      lastFile := number })

/-- Opens a file by name. -/
def openNamed (files : DirectoryFiles) (name : String) (create : Bool) :
    Except FileError (FileHandle × DirectoryFiles) :=
  match nameDefect name with
  | some cause => .error cause
  | none =>
      match files.names[name]? with
      | some number => .ok (files.makeHandle number)
      | none =>
          if create then
            let (number, made) := files.makeFile name
            .ok (made.makeHandle number)
          else .error .notFound

/-- The bytes of an open file. -/
def read (files : DirectoryFiles) (file : FileHandle) (offset length : Nat) :
    Except FileError Bytes :=
  match files.fileAt file offset with
  | .error cause => .error cause
  | .ok (_, bytes) => .ok (bytes.read offset length)

/-- Writes to an open file. A gap between its end and the offset is filled with
zeros if there is something to write. -/
def write (files : DirectoryFiles) (file : FileHandle) (offset : Nat) (data : Bytes) :
    Except FileError (Nat × DirectoryFiles) :=
  match files.fileAt file offset with
  | .error cause => .error cause
  | .ok (number, bytes) =>
      if data.isEmpty then .ok (0, files)
      else if offsetLimit < offset + data.length then .error (.host .fileTooLarge)
      else
        .ok (data.length,
          { files with contents := files.contents.insert number (bytes.write offset data) })

/-- The size of an open file. -/
def length (files : DirectoryFiles) (file : FileHandle) : Except FileError Nat :=
  match files.fileOf file with
  | .error cause => .error cause
  | .ok (_, bytes) => .ok bytes.length

/-- Closes a handle. -/
def close (files : DirectoryFiles) (file : FileHandle) :
    Except FileError (Unit × DirectoryFiles) :=
  if files.handles.contains file then
    .ok ((), { files with handles := files.handles.erase file })
  else .error .badHandle

/-- Removes a name. -/
def remove (files : DirectoryFiles) (name : String) :
    Except FileError (Unit × DirectoryFiles) :=
  match nameDefect name with
  | some cause => .error cause
  | none =>
      if files.names.contains name then
        .ok ((), { files with names := files.names.erase name })
      else .error .notFound

instance : FileSystem DirectoryFiles where
  openFile name create := .update fun files => files.openNamed name create
  readFile file offset length := .inspect fun files => files.read file offset length
  writeFile file offset data := .update fun files => files.write file offset data
  fileLength file := .inspect fun files => files.length file
  closeFile file := .update fun files => files.close file
  removeFile name := .update fun files => files.remove name

end DirectoryFiles

end VirtualMemory
