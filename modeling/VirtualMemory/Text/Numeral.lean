/-
Module: VirtualMemory.Text.Numeral
Purpose: Numerals as the configuration reads them and the messages write them.
Main exports:
  hexNumeral, readNatural, readBelow
-/

namespace VirtualMemory.Text

/-- A number in lower-case hexadecimal after `0x`, without leading zeros. -/
def hexNumeral (value : Nat) : String :=
  "0x" ++ String.ofList (Nat.toDigits 16 value)

/-- The decimal digits, and no other character of any script. -/
def isDigit (character : Char) : Bool :=
  '0' ≤ character && character ≤ '9'

/-- The value of a run of decimal digits; leading zeros do not matter. -/
def digitsValue (digits : List Char) : Nat :=
  digits.foldl (fun value digit => value * 10 + (digit.toNat - '0'.toNat)) 0

/-- The text after one optional plus sign. -/
def unsignedPart : List Char → List Char
  | '+' :: rest => rest
  | text => text

/-- A natural number is an optional plus sign and one or more decimal digits,
with nothing before, between or after them. -/
def readNatural (text : List Char) : Option Nat :=
  let digits := unsignedPart text
  if !digits.isEmpty && digits.all isDigit then some (digitsValue digits) else none

/-- Reads a natural number and refuses one that is not below `bound`. -/
def readBelow (bound : Nat) (text : List Char) : Option Nat :=
  match readNatural text with
  | some value => if value < bound then some value else none
  | none => none

end VirtualMemory.Text
