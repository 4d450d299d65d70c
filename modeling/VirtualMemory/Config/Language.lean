/-
Module: VirtualMemory.Config.Language
Purpose: Reading a configuration from lines of the form `key = value`.
Main exports:
  Setting, Config.readLine, Config.assign, Config.parse

A text is cut into lines. What follows the first number sign of a line is a
comment; white space at both ends of the rest is dropped, and a line of which
nothing is left is skipped. Every other line assigns a value to a key. A later
assignment to a key replaces an earlier one, and a key that no line mentions
keeps its default.
-/
import VirtualMemory.Config
import VirtualMemory.Text.Blank
import VirtualMemory.Text.Numeral

namespace VirtualMemory

open Text

/-- One line of a configuration: a key and the text assigned to it. -/
structure Setting where
  key : List Char
  value : List Char
deriving DecidableEq, Repr

namespace Config

/-- The characters of a key: ASCII letters and digits, point and underscore. -/
def isKeyCharacter (character : Char) : Bool :=
  character.isAlphanum || character == '.' || character == '_'

/-- Spaces and tabs, which may stand on both sides of the equals sign. -/
def isGap (character : Char) : Bool :=
  character == ' ' || character == '\t'

/-- The part of a line that counts: what stands before the first number sign,
without white space at its ends. -/
def content (line : List Char) : List Char :=
  trim (line.takeWhile (· != '#'))

/-- Reads a key, an equals sign with gaps around it, and a value, which is the
rest of the line and must hold more than white space. -/
def readSetting (text : List Char) : Option Setting :=
  let key := text.takeWhile isKeyCharacter
  match (text.dropWhile isKeyCharacter).dropWhile isGap with
  | '=' :: rest =>
      let value := rest.dropWhile isGap
      if key.isEmpty || (trim value).isEmpty then none
      else some { key := key, value := trimEnd value }
  | _ => none

/-- The word `true` or `false`. -/
def readSwitch (text : List Char) : Option Bool :=
  if text = "true".toList then some true
  else if text = "false".toList then some false
  else none

/-- The word for a paging mode. -/
def readMode (text : List Char) : Option PagingMode :=
  if text = "demand".toList then some .demand
  else if text = "resident".toList then some .resident
  else none

/-- A count of the machine's word size, 64 bits. -/
def readCount (text : List Char) : Option Nat :=
  readBelow UInt64.size text

/-- A count of 32 bits. -/
def readShortCount (text : List Char) : Option UInt32 :=
  (readBelow UInt32.size text).map Nat.toUInt32

/-- The keys that can be assigned. -/
inductive Key where
  | frames
  | tlbEntries
  | stackPages
  | lowWaterMark
  | swapFile
  | evictionRounds
  | paging
  | backgroundReclaim
deriving DecidableEq, Repr

/-- The written form of a key. -/
def Key.name : Key → String
  | .frames => "vm.frames"
  | .tlbEntries => "vm.tlb_entries"
  | .stackPages => "vm.stack_pages"
  | .lowWaterMark => "vm.low_water_mark"
  | .swapFile => "vm.swap_file"
  | .evictionRounds => "vm.eviction_rounds"
  | .paging => "vm.paging"
  | .backgroundReclaim => "vm.background_reclaim"

/-- Every key. -/
def Key.all : List Key :=
  [.frames, .tlbEntries, .stackPages, .lowWaterMark, .swapFile, .evictionRounds,
    .paging, .backgroundReclaim]

/-- The key with a written form. -/
def Key.named? (text : List Char) : Option Key :=
  Key.all.find? fun key => key.name.toList = text

/-- The settings after a value was assigned to a key, if the text is a value of
the key's type. -/
def assign (config : Config) (key : Key) (value : List Char) : Option Config :=
  match key with
  | .frames => (readCount value).map fun count => { config with frames := count }
  | .tlbEntries => (readCount value).map fun count => { config with tlbEntries := count }
  | .stackPages =>
      (readShortCount value).map fun count => { config with stackPages := count }
  | .lowWaterMark =>
      (readCount value).map fun count => { config with lowWaterMark := count }
  | .swapFile => some { config with swapFile := String.ofList value }
  | .evictionRounds =>
      (readCount value).map fun count => { config with evictionRounds := count }
  | .paging => (readMode value).map fun mode => { config with paging := mode }
  | .backgroundReclaim =>
      (readSwitch value).map fun switch => { config with backgroundReclaim := switch }

/-- The settings after one line, the `number`-th of its text. -/
def readLine (config : Config) (number : Nat) (line : List Char) :
    Except ConfigError Config :=
  let text := content line
  if text.isEmpty then .ok config
  else
    match readSetting text with
    | none => .error (.syntaxError number)
    | some setting =>
        match Key.named? setting.key with
        | none => .error (.unknownKey number (String.ofList setting.key))
        | some key =>
            match config.assign key setting.value with
            | none =>
                .error (.invalidValue number (String.ofList setting.key)
                  (String.ofList setting.value))
            | some assigned => .ok assigned

/-- The settings after all lines, the first of which has the number `number`.
The first line that cannot be read ends the reading. -/
def readLines (config : Config) (number : Nat) :
    List (List Char) → Except ConfigError Config
  | [] => .ok config
  | line :: rest =>
      match config.readLine number line with
      | .error cause => .error cause
      | .ok next => next.readLines (number + 1) rest

/-- Reads a configuration on top of the defaults, and refuses settings that do
not go together. -/
def parse (text : String) : Except ConfigError Config :=
  match readLines {} 1 (lines text.toList) with
  | .error cause => .error cause
  | .ok config =>
      match config.validate with
      | .error cause => .error cause
      | .ok () => .ok config

end Config

end VirtualMemory
