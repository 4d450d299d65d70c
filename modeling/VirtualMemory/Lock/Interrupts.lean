/-
Module: VirtualMemory.Lock.Interrupts
Purpose: Interrupt masking of a processor.
Main exports:
  Interrupts and its disable, enable, level
-/

namespace VirtualMemory

/-- Whether a processor takes interrupts. -/
inductive InterruptLevel where
  | on
  | off
deriving DecidableEq, Repr

/-- How often interrupts were disabled on a processor and not enabled again. Every
thread is a processor of its own. -/
structure Interrupts where
  disabled : Nat := 0
deriving DecidableEq, Repr

/-- Interrupts cannot be enabled more often than they were disabled. -/
structure UnmatchedEnable where
deriving DecidableEq, Repr

/-- The wording of the refusal. -/
def UnmatchedEnable.message (_ : UnmatchedEnable) : String :=
  "intr_enable without matching intr_disable"

namespace Interrupts

/-- A processor that takes interrupts. -/
def fresh : Interrupts := {}

/-- Interrupts are on while nobody keeps them disabled. -/
def level (interrupts : Interrupts) : InterruptLevel :=
  if interrupts.disabled = 0 then .on else .off

/-- Disables interrupts once more. -/
def disable (interrupts : Interrupts) : Interrupts :=
  { disabled := interrupts.disabled + 1 }

/-- Takes one disabling back. -/
def enable (interrupts : Interrupts) : Except UnmatchedEnable Interrupts :=
  if interrupts.disabled = 0 then .error {}
  else .ok { disabled := interrupts.disabled - 1 }

end Interrupts

end VirtualMemory
