/-
Module: VirtualMemory.Text.Blank
Purpose: White space of the Unicode standard, and cutting text into lines.
Main exports:
  isBlank, trimStart, trimEnd, trim, lines
-/

namespace VirtualMemory.Text

/-- The characters with the Unicode property White_Space: 25 in number. -/
def isBlank (character : Char) : Bool :=
  let code := character.toNat
  (0x09 ≤ code && code ≤ 0x0D) || code == 0x20 || code == 0x85 || code == 0xA0 ||
    code == 0x1680 || (0x2000 ≤ code && code ≤ 0x200A) || code == 0x2028 ||
    code == 0x2029 || code == 0x202F || code == 0x205F || code == 0x3000

/-- Text without the white space it starts with. -/
def trimStart (text : List Char) : List Char :=
  text.dropWhile isBlank

/-- Text without the white space it ends with. -/
def trimEnd (text : List Char) : List Char :=
  (text.reverse.dropWhile isBlank).reverse

/-- Text without white space at either end. -/
def trim (text : List Char) : List Char :=
  trimEnd (trimStart text)

/-- A line without the carriage return that may stand before its line feed. -/
def dropReturn (line : List Char) : List Char :=
  match line.reverse with
  | '\r' :: rest => rest.reverse
  | _ => line

/-- Cuts text after every line feed. `current` is the line read so far, last
character first. What follows the last line feed is a line only if it is not
empty, and a carriage return at its end belongs to it. -/
def linesFrom (current : List Char) : List Char → List (List Char)
  | [] => if current.isEmpty then [] else [current.reverse]
  | '\n' :: rest => dropReturn current.reverse :: linesFrom [] rest
  | character :: rest => linesFrom (character :: current) rest

/-- The lines of a text, without their line endings. -/
def lines (text : List Char) : List (List Char) :=
  linesFrom [] text

end VirtualMemory.Text
