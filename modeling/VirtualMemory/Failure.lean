/-
Module: VirtualMemory.Failure
Purpose: Why operations fail, and the wording of each cause.
Main exports:
  FileError, SwapError, PagingError, FaultError, ConfigError, BootError
-/
import VirtualMemory.Address
import VirtualMemory.Text.Numeral

namespace VirtualMemory

open Text

/-- What a host directory reports beyond a missing file. -/
inductive HostFailure where
  | invalidInput
  | invalidFilename
  | permissionDenied
  | fileTooLarge
deriving DecidableEq, Repr

/-- The host's wording. -/
def HostFailure.message : HostFailure → String
  | .invalidInput => "invalid input parameter"
  | .invalidFilename => "invalid filename"
  | .permissionDenied => "permission denied"
  | .fileTooLarge => "file too large"

/-- Failures of a file system. -/
inductive FileError where
  | notFound
  | noSpace
  | badHandle
  | host (failure : HostFailure)
deriving DecidableEq, Repr

/-- The wording of a file system failure. -/
def FileError.message : FileError → String
  | .notFound => "not found"
  | .noSpace => "no space left on device"
  | .badHandle => "bad file handle"
  | .host failure => s!"host I/O error: {failure.message}"

/-- Failures of the swap file. -/
inductive SwapError where
  | shortRead (offset : Nat) (count : Nat)
  | shortWrite (offset : Nat) (count : Nat)
  | files (cause : FileError)
  | closed
  | noFileSystem
deriving DecidableEq, Repr

/-- The wording of a swap failure. -/
def SwapError.message : SwapError → String
  | .shortRead offset count => s!"short read at swap offset {offset}: got {count} bytes"
  | .shortWrite offset count => s!"short write at swap offset {offset}: wrote {count} bytes"
  | .files cause => s!"file system: {cause.message}"
  | .closed => "swap file is closed"
  | .noFileSystem => "no file system to hold the swap file"

/-- Failures of the pager. -/
inductive PagingError where
  | outOfMemory
  | evictionStalled (rounds : Nat)
  | invalidFrame (ppn : Ppn)
  | invalidPage (vpn : Vpn)
  | frameInUse (ppn : Ppn) (owner : PageId)
  | frameNotAllocated (ppn : Ppn)
  | swap (cause : SwapError)
  /-- The page's own slot could not be read back. Frame shortages and failed
  evictions on the way to a frame are reported as they are. -/
  | swapRead (page : PageId) (cause : SwapError)
  | inconsistent (detail : String)
  | pidsExhausted
deriving DecidableEq, Repr

namespace PagingError

/-- The wording of a paging failure. -/
def message : PagingError → String
  | outOfMemory => "out of physical memory: no free frame and nothing could be evicted"
  | evictionStalled rounds =>
      s!"eviction found no unpinned resident frame after {rounds} rounds"
  | invalidFrame ppn => s!"frame {ppn} does not exist"
  | invalidPage vpn =>
      s!"page {hexNumeral vpn.toNat} is outside the virtual address space"
  | frameInUse ppn owner =>
      s!"frame {ppn} already backs page {hexNumeral owner.vpn.toNat} " ++
        s!"of process {owner.pid.toNat}"
  | frameNotAllocated ppn =>
      s!"frame {ppn} was not handed out by the frame allocator"
  | swap cause => s!"swap: {cause.message}"
  | swapRead page cause =>
      s!"could not read page {hexNumeral page.vpn.toNat} " ++
        s!"of process {page.pid.toNat} from swap: {cause.message}"
  | inconsistent detail => s!"page table corrupted: {detail}"
  | pidsExhausted => "no process ids left"

/-- Conditions that ending one process does not cure. -/
def isFatal : PagingError → Bool
  | outOfMemory | evictionStalled _ | inconsistent _ => true
  | _ => false

end PagingError

/-- Why a translation fault could not be resolved. -/
inductive FaultError where
  | segfault (page : PageId)
  | pageIn (page : PageId) (cause : SwapError)
  | kernel (cause : PagingError)
  | exited (pid : Pid)
deriving DecidableEq, Repr

namespace FaultError

/-- The wording of a fault; a failure of the pager speaks for itself. -/
def message : FaultError → String
  | segfault page =>
      s!"process {page.pid.toNat} accessed unmapped page {hexNumeral page.vpn.toNat}"
  | pageIn page cause =>
      s!"process {page.pid.toNat} could not page in {hexNumeral page.vpn.toNat}: " ++
        cause.message
  | kernel cause => cause.message
  | exited pid => s!"process {pid.toNat} has exited"

/-- Faults that end the process that caused them and leave the kernel running. -/
def killsProcess : FaultError → Bool
  | segfault _ | pageIn _ _ => true
  | _ => false

end FaultError

/-- Why a configuration is refused. Lines are counted from one. -/
inductive ConfigError where
  | syntaxError (line : Nat)
  | unknownKey (line : Nat) (key : String)
  | invalidValue (line : Nat) (key : String) (value : String)
  | invalid (reason : String)
deriving DecidableEq, Repr

/-- The wording of a configuration error. -/
def ConfigError.message : ConfigError → String
  | .syntaxError line => s!"line {line}: expected `key = value`"
  | .unknownKey line key => s!"line {line}: unknown key `{key}`"
  | .invalidValue line key value => s!"line {line}: invalid value `{value}` for `{key}`"
  | .invalid reason => s!"invalid configuration: {reason}"

/-- Why the kernel does not start. -/
inductive BootError where
  | config (cause : ConfigError)
deriving DecidableEq, Repr

/-- The wording of a boot failure; a configuration error speaks for itself. -/
def BootError.message : BootError → String
  | .config cause => cause.message

end VirtualMemory
