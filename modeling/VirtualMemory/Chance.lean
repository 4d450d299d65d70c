/-
Module: VirtualMemory.Chance
Purpose: Endless sequences of numbers that stand for random choices.
Main exports:
  Chance, Chance.draw, scramble

A random choice takes the next number of such a sequence. Which numbers come is
open: every statement about the machine holds for all sequences.
-/

namespace VirtualMemory

/-- A sequence of numbers, and how many of them were taken. -/
structure Chance where
  numbers : Nat → Nat
  drawn : Nat := 0

namespace Chance

/-- Takes the next number. -/
def draw (chance : Chance) : Nat × Chance :=
  (chance.numbers chance.drawn, { chance with drawn := chance.drawn + 1 })

end Chance

/-- A bijection of 64-bit words that spreads similar words far apart. -/
def scramble (word : UInt64) : UInt64 :=
  let first := (word ^^^ (word >>> 30)) * 0xBF58476D1CE4E5B9
  let second := (first ^^^ (first >>> 27)) * 0x94D049BB133111EB
  second ^^^ (second >>> 31)

/-- A sequence without apparent pattern, the same for the same seed. -/
def Chance.seeded (seed : UInt64) : Chance :=
  { numbers := fun index =>
      (scramble (seed + (index.toUInt64 + 1) * 0x9E3779B97F4A7C15)).toNat }

end VirtualMemory
