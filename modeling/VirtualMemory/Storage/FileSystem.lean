/-
Module: VirtualMemory.Storage.FileSystem
Purpose: What the kernel expects of a file system.
Main exports:
  FileHandle, FileSystem, readInto, plantFile, peekFile

A file system is flat: names are looked up directly, and there are no
directories.
-/
import VirtualMemory.Action
import VirtualMemory.Failure
import VirtualMemory.Page

namespace VirtualMemory

/-- The number of an open file within its file system. -/
abbrev FileHandle := Nat

/-- The operations of a file system with states `φ`. -/
class FileSystem (φ : Type) where
  /-- Opens a file. With the switch set, a file that does not exist is made
  first, empty. Existing contents stay. -/
  openFile : (name : String) → (create : Bool) → Action φ FileError FileHandle
  /-- The bytes of a file from an offset on: as many as asked for, or fewer at
  the end of the file. -/
  readFile : (file : FileHandle) → (offset length : Nat) → Action φ FileError Bytes
  /-- Writes bytes from an offset on and answers their number. The file grows as
  needed. -/
  writeFile : (file : FileHandle) → (offset : Nat) → (data : Bytes) →
    Action φ FileError Nat
  /-- The present size of a file. -/
  fileLength : (file : FileHandle) → Action φ FileError Nat
  /-- Gives a handle back. -/
  closeFile : (file : FileHandle) → Action φ FileError Unit
  /-- Removes a file by name. Handles of the file keep working. -/
  removeFile : (name : String) → Action φ FileError Unit

namespace FileSystem

variable {φ : Type} [FileSystem φ]

/-- Reads into a buffer: the number of bytes read, and the buffer with its start
replaced by them. -/
def readInto (file : FileHandle) (offset : Nat) (buffer : Bytes) :
    Action φ FileError (Nat × Bytes) := do
  let bytes ← readFile file offset buffer.length
  return (bytes.length, fillStart buffer bytes)

/-- Makes sure that a file exists and starts with the given bytes. -/
def plantFile (name : String) (data : Bytes) : Action φ FileError Unit := do
  let file ← openFile name true
  let _ ← writeFile file 0 data
  closeFile file

/-- The length of an existing file, and up to `length` of its bytes from an
offset on. -/
def peekFile (name : String) (offset length : Nat) :
    Action φ FileError (Nat × Bytes) := do
  let file ← openFile name false
  let size ← fileLength file
  let bytes ← readFile file offset length
  closeFile file
  return (size, bytes)

end FileSystem

end VirtualMemory
