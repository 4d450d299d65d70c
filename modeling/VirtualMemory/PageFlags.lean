/-
Module: VirtualMemory.PageFlags
Purpose: Status bits of a translation.
Main exports:
  PageFlags, PageFlags.ofByte, PageFlags.toByte
-/

namespace VirtualMemory

/-- Status bits of a translation. The processor keeps them in one byte: bit 0
is `valid`, bit 1 `readOnly`, bit 2 `used`, bit 3 `dirty`, and the four bits
above have no meaning but are kept. -/
structure PageFlags where
  valid : Bool := false
  readOnly : Bool := false
  used : Bool := false
  dirty : Bool := false
  reserved : BitVec 4 := 0
deriving DecidableEq, Repr

namespace PageFlags

/-- No bit is set. -/
def none : PageFlags := {}

/-- Reads the bits of a byte. -/
def ofByte (byte : UInt8) : PageFlags :=
  let bits := byte.toBitVec
  { valid := bits.getLsbD 0
    readOnly := bits.getLsbD 1
    used := bits.getLsbD 2
    dirty := bits.getLsbD 3
    reserved := bits.extractLsb' 4 4 }

/-- The byte with these bits. -/
def toByte (flags : PageFlags) : UInt8 :=
  let low : BitVec 4 :=
    BitVec.ofBool flags.dirty ++ BitVec.ofBool flags.used ++
      BitVec.ofBool flags.readOnly ++ BitVec.ofBool flags.valid
  UInt8.ofBitVec (flags.reserved ++ low)

theorem toByte_ofByte (byte : UInt8) : (ofByte byte).toByte = byte := by
  have every : ∀ bits : BitVec 8, (ofByte (UInt8.ofBitVec bits)).toByte = UInt8.ofBitVec bits := by
    decide +kernel
  exact every byte.toBitVec

theorem ofByte_toByte (flags : PageFlags) : ofByte flags.toByte = flags := by
  have every :
      ∀ (valid readOnly used dirty : Bool) (reserved : BitVec 4),
        ofByte (toByte ⟨valid, readOnly, used, dirty, reserved⟩) =
          ⟨valid, readOnly, used, dirty, reserved⟩ := by
    decide +kernel
  exact every flags.valid flags.readOnly flags.used flags.dirty flags.reserved

end PageFlags

end VirtualMemory
