/-
Module: VirtualMemory.Eviction
Purpose: Choosing the page that has to leave memory.
Main exports:
  Policy, Victim, selectVictim

A policy proposes frames to evict. Its proposals are hints: frames that hold no
page or are pinned are passed over.
-/
import VirtualMemory.Chance
import VirtualMemory.Frame.Pins
import VirtualMemory.Frame.Tables

namespace VirtualMemory

/-- A replacement policy: the frame it proposes at each draw, given the number
of frames, and how many proposals were drawn. -/
structure Policy where
  candidate : (draw : Nat) → (frames : Nat) → Ppn
  drawn : Nat := 0

namespace Policy

/-- Draws the next proposal. -/
def next (policy : Policy) (frames : Nat) : Ppn × Policy :=
  (policy.candidate policy.drawn frames, { policy with drawn := policy.drawn + 1 })

/-- Proposes the frames of a list over and over, and frame 0 if it is empty. -/
def scripted (script : List Ppn) : Policy :=
  { candidate := fun draw _ => script.getD (draw % script.length) 0 }

/-- Proposes frames without apparent pattern, the same for the same seed. -/
def seeded (seed : UInt64) : Policy :=
  let chance := Chance.seeded seed
  { candidate := fun draw frames => chance.numbers draw % frames }

/-- The next `count` proposals. -/
def proposals (policy : Policy) (frames count : Nat) : List Ppn :=
  (List.range count).map fun index => policy.candidate (policy.drawn + index) frames

end Policy

/-- A resident frame chosen for eviction, and the page it holds. It is pinned,
so that nobody else can choose it too. -/
structure Victim where
  frame : Ppn
  owner : PageId
deriving DecidableEq, Repr

/-- A victim as a line of a report. -/
def Victim.describe (victim : Victim) : String :=
  s!"Victim \x7b frame: {PinSet.describePin victim.frame}, " ++
    s!"owner: {victim.owner.describeOwner} \x7d"

namespace Eviction

/-- The victim that a frame makes, if it is resident and unpinned. -/
def victimAt (tables : PageTables) (pins : PinSet) (ppn : Ppn) : Option Victim :=
  match tables.owner ppn with
  | none => none
  | some owner => if pins.isPinned ppn then none else some { frame := ppn, owner := owner }

/-- Draws up to `draws` proposals, each taken modulo the number of frames, until
one is a victim. -/
def drawVictim (tables : PageTables) (pins : PinSet) (policy : Policy) :
    (draws : Nat) → Option Victim × Policy
  | 0 => (none, policy)
  | draws + 1 =>
      let (proposal, rest) := policy.next tables.frameCount
      match victimAt tables pins (proposal % tables.frameCount) with
      | some victim => (some victim, rest)
      | none => drawVictim tables pins rest draws

/-- The victim in the lowest frame. -/
def sweepVictim (tables : PageTables) (pins : PinSet) : Option Victim :=
  (List.range tables.frameCount).findSome? (victimAt tables pins)

/-- One round: as many draws as there are frames, then a sweep over all of
them. -/
def round (tables : PageTables) (pins : PinSet) (policy : Policy) :
    Option Victim × Policy :=
  match drawVictim tables pins policy tables.frameCount with
  | (some victim, rest) => (some victim, rest)
  | (none, rest) => (sweepVictim tables pins, rest)

/-- Runs `left` more of `rounds` rounds. A round without a victim is the last if
nothing is resident. -/
def search (tables : PageTables) (pins : PinSet) (rounds : Nat) (policy : Policy) :
    (left : Nat) → Except PagingError Victim × Policy
  | 0 => (.error (.evictionStalled rounds), policy)
  | left + 1 =>
      match round tables pins policy with
      | (some victim, rest) => (.ok victim, rest)
      | (none, rest) =>
          if tables.residentCount = 0 then (.error .outOfMemory, rest)
          else search tables pins rounds rest left

end Eviction

/-- Finds a frame that is resident and unpinned, and pins it. The policy moves
on by the proposals drawn, whether a victim is found or not. -/
def selectVictim (tables : PageTables) (pins : PinSet) (policy : Policy)
    (rounds : Nat) : Except PagingError Victim × PinSet × Policy :=
  if tables.frameCount = 0 then (.error .outOfMemory, pins, policy)
  else
    match Eviction.search tables pins rounds policy rounds with
    | (.ok victim, rest) => (.ok victim, pins.hold victim.frame, rest)
    | (.error cause, rest) => (.error cause, pins, rest)

end VirtualMemory
