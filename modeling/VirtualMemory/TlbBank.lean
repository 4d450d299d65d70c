/-
Module: VirtualMemory.TlbBank
Purpose: The translation caches of a machine, and which process uses which.
Main exports:
  TlbId, TlbBank and its make, attach, detach, attachedTo
-/
import Std.Data.ExtTreeMap
import VirtualMemory.Chance
import VirtualMemory.Tlb

namespace VirtualMemory

/-- The number of a translation cache. -/
abbrev TlbId := Nat

/-- All translation caches that were made, the ones attached to a process, and
the choices of the slots that full caches give up. -/
structure TlbBank where
  units : Array Tlb := #[]
  attached : Std.ExtTreeMap Pid TlbId := ∅
  chance : Chance

namespace TlbBank

/-- Makes a cache of empty slots. -/
def make (bank : TlbBank) (size : Nat) : TlbId × TlbBank :=
  (bank.units.size, { bank with units := bank.units.push (.empty size) })

/-- The cache with a number. -/
def unit (bank : TlbBank) (id : TlbId) : Option Tlb := bank.units[id]?

/-- Changes the cache with a number. -/
def change (bank : TlbBank) (id : TlbId) (step : Tlb → Tlb) : TlbBank :=
  { bank with units := bank.units.modify id step }

/-- The cache attached to a process, by number. -/
def attachedTo (bank : TlbBank) (pid : Pid) : Option TlbId := bank.attached[pid]?

/-- Attaches a cache to a process, in place of the one it had. -/
def attach (bank : TlbBank) (pid : Pid) (id : TlbId) : TlbBank :=
  { bank with attached := bank.attached.insert pid id }

/-- Takes the cache of a process away. The cache itself stays. -/
def detach (bank : TlbBank) (pid : Pid) : TlbBank :=
  { bank with attached := bank.attached.erase pid }

/-- Takes the caches of all processes away. -/
def detachAll (bank : TlbBank) : TlbBank :=
  { bank with attached := ∅ }

/-- Drops a page's translation from the cache attached to its process. -/
def shootDown (bank : TlbBank) (page : PageId) : TlbBank :=
  match bank.attachedTo page.pid with
  | none => bank
  | some id => bank.change id fun tlb => (tlb.invalidate page.vpn).2

/-- Caches an entry, and answers the slot it went to. A choice is made only
where the entry displaces another translation. -/
def install (bank : TlbBank) (id : TlbId) (entry : TranslationEntry) : Nat × TlbBank :=
  match bank.unit id with
  | none => (0, bank)
  | some tlb =>
      let (number, chance) :=
        if tlb.displaces entry.vpn then bank.chance.draw else (0, bank.chance)
      let (slot, installed) := tlb.install number entry
      (slot, { bank with units := bank.units.setIfInBounds id installed, chance := chance })

end TlbBank

end VirtualMemory
