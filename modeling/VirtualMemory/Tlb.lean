/-
Module: VirtualMemory.Tlb
Purpose: A small translation cache, fully associative.
Main exports:
  Tlb and its lookup, install, invalidate, invalidateAll, markAccessed
-/
import VirtualMemory.Translation

namespace VirtualMemory

/-- A translation cache: its slots, of which the valid ones cache a
translation. -/
structure Tlb where
  slots : List TranslationEntry
deriving DecidableEq, Repr

/-- Whether a slot caches the translation of a page. -/
def TranslationEntry.caches (slot : TranslationEntry) (vpn : Vpn) : Bool :=
  slot.valid && slot.vpn == vpn

/-- The slot emptied. What it held stays readable. -/
def TranslationEntry.dropped (slot : TranslationEntry) : TranslationEntry :=
  { slot with flags := { slot.flags with valid := false } }

/-- The entry with its used bit cleared. -/
def TranslationEntry.unused (entry : TranslationEntry) : TranslationEntry :=
  { entry with flags := { entry.flags with used := false } }

namespace Tlb

/-- A cache of `size` empty slots. -/
def empty (size : Nat) : Tlb :=
  { slots := List.replicate size TranslationEntry.invalid }

/-- The number of slots. -/
def size (tlb : Tlb) : Nat := tlb.slots.length

/-- What slot `index` holds, valid or not. -/
def readSlot (tlb : Tlb) (index : Nat) : Option TranslationEntry :=
  tlb.slots[index]?

/-- Replaces what slot `index` holds; answers what it held before. -/
def writeSlot (tlb : Tlb) (index : Nat) (entry : TranslationEntry) :
    Option TranslationEntry × Tlb :=
  (tlb.slots[index]?, { slots := tlb.slots.set index entry })

/-- The number of slots that cache a translation. -/
def validCount (tlb : Tlb) : Nat := tlb.slots.countP TranslationEntry.valid

/-- The cached translation of a page. -/
def lookup (tlb : Tlb) (vpn : Vpn) : Option TranslationEntry :=
  tlb.slots.find? (·.caches vpn)

/-- The slot that a translation of page `vpn` goes to without displacing that of
another page: the slot that caches the page already, or else the first empty
slot. -/
def slotFor (tlb : Tlb) (vpn : Vpn) : Option Nat :=
  (tlb.slots.findIdx? (·.caches vpn)).or (tlb.slots.findIdx? (!·.valid))

/-- Whether a translation of page `vpn` displaces that of another page. -/
def displaces (tlb : Tlb) (vpn : Vpn) : Bool :=
  !tlb.slots.isEmpty && (tlb.slotFor vpn).isNone

/-- Caches an entry with its used bit cleared, and answers the slot it went to.
Where it displaces another translation, `chance` chooses which. A cache without
slots caches nothing. -/
def install (tlb : Tlb) (chance : Nat) (entry : TranslationEntry) : Nat × Tlb :=
  if tlb.slots.isEmpty then (0, tlb)
  else
    let index := (tlb.slotFor entry.vpn).getD (chance % tlb.size)
    (index, { slots := tlb.slots.set index entry.unused })

/-- Drops the cached translation of a page; answers whether there was one. -/
def invalidate (tlb : Tlb) (vpn : Vpn) : Bool × Tlb :=
  (tlb.slots.any (·.caches vpn),
    { slots := tlb.slots.map fun slot => if slot.caches vpn then slot.dropped else slot })

/-- Drops every cached translation. -/
def invalidateAll (tlb : Tlb) : Tlb :=
  { slots := tlb.slots.map TranslationEntry.dropped }

/-- Records an access in the cached translation of a page and answers it. A
store to a read-only page leaves the slot as it is. -/
def markAccessed (tlb : Tlb) (vpn : Vpn) (write : Bool) :
    Option TranslationEntry × Tlb :=
  match tlb.slots.findIdx? (·.caches vpn) with
  | none => (none, tlb)
  | some index =>
      let mark (slot : TranslationEntry) : TranslationEntry :=
        if write && slot.readOnly then slot else slot.touch write
      let slots := tlb.slots.modify index mark
      (slots[index]?, { slots := slots })

end Tlb

end VirtualMemory
