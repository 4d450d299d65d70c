/-
Module: VirtualMemory.Storage.Volume
Purpose: A file system of either kind, chosen when the machine is set up.
Main exports:
  Volume
-/
import VirtualMemory.Storage.Directory
import VirtualMemory.Storage.Ephemeral

namespace VirtualMemory

/-- A file system in memory or in a directory of the host. -/
inductive Volume where
  | ephemeral (files : EphemeralFiles)
  | directory (files : DirectoryFiles)

namespace Volume

/-- Runs the one of two actions that fits the kind of the volume. -/
def dispatch {α : Type} (onEphemeral : Action EphemeralFiles FileError α)
    (onDirectory : Action DirectoryFiles FileError α) : Action Volume FileError α
  | .ephemeral files =>
      match onEphemeral files with
      | .ok answer next => .ok answer (.ephemeral next)
      | .error cause next => .error cause (.ephemeral next)
  | .directory files =>
      match onDirectory files with
      | .ok answer next => .ok answer (.directory next)
      | .error cause next => .error cause (.directory next)

open FileSystem in
instance : FileSystem Volume where
  openFile name create := dispatch (openFile name create) (openFile name create)
  readFile file offset length :=
    dispatch (readFile file offset length) (readFile file offset length)
  writeFile file offset data :=
    dispatch (writeFile file offset data) (writeFile file offset data)
  fileLength file := dispatch (fileLength file) (fileLength file)
  closeFile file := dispatch (closeFile file) (closeFile file)
  removeFile name := dispatch (removeFile name) (removeFile name)

end Volume

end VirtualMemory
