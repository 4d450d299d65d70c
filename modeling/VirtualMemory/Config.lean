/-
Module: VirtualMemory.Config
Purpose: The settings of a machine and its kernel, and which of them go together.
Main exports:
  PagingMode, Config, Config.validate
-/
import VirtualMemory.Failure

namespace VirtualMemory

/-- What happens when the free frames run out. -/
inductive PagingMode where
  /-- A resident page is written to swap and its frame handed out. -/
  | demand
  /-- Every page stays resident, and running out of frames is fatal. -/
  | resident
deriving DecidableEq, Repr

/-- The word for a mode, in the configuration and in reports. -/
def PagingMode.name : PagingMode → String
  | .demand => "demand"
  | .resident => "resident"

/-- The settings of a machine and its kernel. -/
structure Config where
  /-- Frames of physical memory. -/
  frames : Nat := 32
  /-- Slots in each translation cache. -/
  tlbEntries : Nat := 4
  /-- Pages a stack may grow below its topmost page. -/
  stackPages : UInt32 := 8
  /-- Frames that background reclamation keeps free. -/
  lowWaterMark : Nat := 4
  /-- Name of the swap file. -/
  swapFile : String := "vmkern.swp"
  /-- Rounds of victim search before eviction gives up. -/
  evictionRounds : Nat := 8
  paging : PagingMode := .demand
  backgroundReclaim : Bool := true
deriving DecidableEq, Repr

namespace Config

/-- The first reason why the settings do not go together, if there is one. -/
def defect (config : Config) : Option String :=
  if config.frames = 0 then
    some "the machine needs at least one frame"
  else if config.tlbEntries = 0 then
    some "the TLB needs at least one slot"
  else if config.evictionRounds = 0 then
    some "eviction needs at least one round"
  else if config.frames ≤ config.lowWaterMark then
    some "low water mark must be below the frame count"
  else if config.swapFile.isEmpty then
    some "swap file name is empty"
  else none

/-- Refuses settings that do not go together. -/
def validate (config : Config) : Except ConfigError Unit :=
  match config.defect with
  | some reason => .error (.invalid reason)
  | none => .ok ()

end Config

end VirtualMemory
