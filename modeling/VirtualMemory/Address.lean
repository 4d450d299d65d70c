/-
Module: VirtualMemory.Address
Purpose: Address layout of the 32-bit processor, and the names of pages and
  frames.
Main exports:
  Pid, Vpn, Ppn, PageId, VirtualAddress
-/
import Std.Data.ExtTreeMap

namespace VirtualMemory

/-- Process number. Zero names the kernel itself and is never given out. -/
abbrev Pid := UInt16

/-- Virtual page number. -/
abbrev Vpn := UInt32

/-- Physical page number: the number of a frame. -/
abbrev Ppn := Nat

/-- Bytes in a page and in the frame that holds it. -/
def pageBytes : Nat := 1024

/-- The highest page number a 32-bit address can name. -/
def lastPage : Vpn := 0x3FFFFF

/-- A page of a process: what a translation maps and a swap slot stores. -/
structure PageId where
  pid : Pid
  vpn : Vpn
deriving DecidableEq, Repr

namespace PageId

/-- Pages are ordered by process first and by page number within it. -/
instance : Ord PageId :=
  ⟨compareLex (compareOn PageId.pid) (compareOn PageId.vpn)⟩

instance : Std.TransOrd PageId :=
  inferInstanceAs
    (Std.TransCmp (compareLex (compareOn PageId.pid) (compareOn PageId.vpn)))

instance : Std.LawfulEqOrd PageId where
  eq_of_compare := by
    intro first second equal
    obtain ⟨samePid, sameVpn⟩ :
        compare first.pid second.pid = .eq ∧ compare first.vpn second.vpn = .eq :=
      Ordering.then_eq_eq.mp equal
    cases first
    cases second
    simp_all

end PageId

/-- An address: a 22-bit page number above a 10-bit offset into the page. -/
structure VirtualAddress where
  raw : UInt32
deriving DecidableEq, Repr

namespace VirtualAddress

/-- The page an address lies in. -/
def vpn (address : VirtualAddress) : Vpn :=
  address.raw >>> 10

/-- How far into its page an address lies. -/
def offset (address : VirtualAddress) : Nat :=
  (address.raw &&& 0x3FF).toNat

/-- The address at `offset` within page `vpn`. Only the low 22 bits of the page
number and the low 10 bits of the offset fit. -/
def ofParts (vpn : Vpn) (offset : UInt16) : VirtualAddress :=
  ⟨(vpn <<< 10) ||| (offset.toUInt32 &&& 0x3FF)⟩

end VirtualAddress

end VirtualMemory
