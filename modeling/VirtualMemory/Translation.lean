/-
Module: VirtualMemory.Translation
Purpose: The mapping of one virtual page to the frame that holds it.
Main exports:
  TranslationEntry, TranslationEntry.fresh, TranslationEntry.touch
-/
import VirtualMemory.Address
import VirtualMemory.PageFlags

namespace VirtualMemory

/-- The live mapping of one virtual page to a frame. The process it belongs to
follows from where the entry is kept. -/
structure TranslationEntry where
  vpn : Vpn
  ppn : Ppn
  flags : PageFlags
deriving DecidableEq, Repr

namespace TranslationEntry

/-- What an empty slot of a translation cache holds. -/
def invalid : TranslationEntry :=
  { vpn := 0, ppn := 0, flags := .none }

instance : Inhabited TranslationEntry := ⟨invalid⟩

/-- The entry of a page that has just become resident: valid, not yet used and
clean. -/
def fresh (vpn : Vpn) (ppn : Ppn) (readOnly : Bool) : TranslationEntry :=
  { vpn := vpn
    ppn := ppn
    flags := { valid := true, readOnly := readOnly } }

/-- Whether the entry maps anything. -/
def valid (entry : TranslationEntry) : Bool := entry.flags.valid

/-- Whether stores to the page are refused. -/
def readOnly (entry : TranslationEntry) : Bool := entry.flags.readOnly

/-- Whether the page was accessed since the bit was last cleared. -/
def used (entry : TranslationEntry) : Bool := entry.flags.used

/-- Whether the page was written since it became resident. -/
def dirty (entry : TranslationEntry) : Bool := entry.flags.dirty

/-- Records an access; a write also makes the page dirty. -/
def touch (entry : TranslationEntry) (write : Bool) : TranslationEntry :=
  { entry with
    flags :=
      { entry.flags with
        used := true
        dirty := entry.flags.dirty || write } }

/-- The entry as a line of a report. -/
def describe (entry : TranslationEntry) : String :=
  s!"TranslationEntry \x7b vpn: {entry.vpn.toNat}, ppn: {entry.ppn}, " ++
    s!"valid: {entry.valid}, read_only: {entry.readOnly}, " ++
    s!"used: {entry.used}, dirty: {entry.dirty} \x7d"

end TranslationEntry

end VirtualMemory
