/-
Module: VirtualMemory.Proofs.Flat.Memory
Purpose: The memory of a process as it would be without frames, swap and caches.
Main exports:
  Page.ofFn, PageView, PageViews and its byteAt and bytesFrom; Mishap, FlatMemory;
  pageNumbers; FlatProcess and its access, read, write, loadSection, serve

A flat memory is a map from page numbers to bytes. It goes by the addresses of bytes: of a
run of bytes it asks which pages some of them are on, and of a page which byte stands at
each position.

The memory knows of paging only that a page may fail to be had when it is needed. Such
mishaps come in a sequence that is given beforehand, and a memory without any is the memory
that a process believes to have.
-/
import Mathlib.Data.Stream.Init
import Mathlib.Logic.Function.Basic
import VirtualMemory.Proofs.Process.Requests

namespace VirtualMemory

open VirtualMemory.Action

/-- The page with a given byte at every position. -/
def Page.ofFn (value : Nat → UInt8) : Page :=
  { bytes := (List.range pageBytes).map value
    length_bytes := by rw [List.length_map, List.length_range] }

/-- What a process sees of a page: its bytes, and whether stores to it are refused. -/
structure PageView where
  contents : Page
  readOnly : Bool
deriving DecidableEq

/-- A page of zeros that takes stores. -/
def PageView.blank : PageView := { contents := .ofFn fun _ => 0, readOnly := false }

/-- The pages that a process sees, by their numbers. -/
abbrev PageViews := Vpn → Option PageView

namespace PageViews

/-- The byte at an address. A page that is not there yet is one of zeros. -/
def byteAt (pages : PageViews) (position : Nat) : UInt8 :=
  match pages (position / pageBytes).toUInt32 with
  | some view => view.contents.bytes.getD (position % pageBytes) 0
  | none => 0

/-- The `length` bytes from an address on. -/
def bytesFrom (pages : PageViews) (start length : Nat) : Bytes :=
  (List.range length).map fun index => pages.byteAt (start + index)

end PageViews

/-- What can go wrong when a page is needed. -/
inductive Mishap where
  /-- There is no place for the page, for the swap file does not take another one. -/
  | noRoom (cause : SwapError)
  /-- The page is there, but it cannot be read. -/
  | unreadable (cause : SwapError)
deriving DecidableEq, Repr

/-- What goes wrong, each time that a page is needed. -/
abbrev Mishaps := Stream' (Option Mishap)

/-- Nothing ever goes wrong. -/
def Mishaps.never : Mishaps := Stream'.const none

/-- The pages of a process, and the mishaps to come. -/
structure FlatMemory where
  pages : PageViews
  coming : Mishaps

/-- An operation of a process on its memory. -/
abbrev FlatAction (α : Type) := Action FlatMemory FaultError α

namespace FlatMemory

/-- The memory with a page replaced or added. -/
def setPage (memory : FlatMemory) (vpn : Vpn) (view : PageView) : FlatMemory :=
  { memory with pages := Function.update memory.pages vpn (some view) }

/-- The memory after the next mishap, if it is one, has happened. -/
def later (memory : FlatMemory) : FlatMemory :=
  { memory with coming := memory.coming.tail }

end FlatMemory

/-- The numbers of the pages that some of the `length` bytes from `start` on are on, in
their order. -/
def pageNumbers (start length : Nat) : List Nat :=
  if length = 0 then []
  else
    let first := start / pageBytes
    let last := (start + length - 1) / pageBytes
    List.range' first (last + 1 - first)

/-- How many pages bytes take that begin with a page. -/
def pagesFor (length : Nat) : Nat :=
  (length + pageBytes - 1) / pageBytes

/-- What a page holds once the bytes of `data` stand from address `start` on: on the page
of a number these replace what was there before. -/
def covered (start : Nat) (data : Bytes) (number : Nat) (before : Page) : Page :=
  .ofFn fun offset =>
    let position := number * pageBytes + offset
    if start ≤ position ∧ position < start + data.length then data.getD (position - start) 0
    else before.bytes.getD offset 0

/-- A process as its memory is concerned with it: its number, the topmost page of its
stack, and how many pages the stack may reach below. -/
structure FlatProcess where
  pid : Pid
  stackTop : Vpn
  stackPages : UInt32
deriving DecidableEq, Repr

namespace FlatProcess

variable (process : FlatProcess)

/-- A page of the process. -/
def page (vpn : Vpn) : PageId := { pid := process.pid, vpn := vpn }

/-- Whether the stack may reach a page. -/
def isStackPage (vpn : Vpn) : Bool :=
  vpn.toNat ≤ process.stackTop.toNat &&
    process.stackTop.toNat ≤ vpn.toNat + process.stackPages.toNat

theorem isStackPage_iff {vpn : Vpn} :
    process.isStackPage vpn = true ↔
      vpn.toNat ≤ process.stackTop.toNat ∧
        process.stackTop.toNat ≤ vpn.toNat + process.stackPages.toNat := by
  rw [isStackPage, Bool.and_eq_true, decide_eq_true_iff, decide_eq_true_iff]

/-- What goes wrong this time, if anything does. -/
def meet : FlatAction (Option Mishap) :=
  .always fun memory => (memory.coming.head, memory.later)

/-- Makes a page, in place of what there was. A page without addresses is refused. -/
def place (vpn : Vpn) (view : PageView) : FlatAction Unit := do
  if UInt32.size ≤ vpn.toNat * pageBytes then
    throw (.kernel (.invalidPage vpn))
  match ← meet with
  | some (.noRoom cause) => throw (.kernel (.swap cause))
  | some (.unreadable _) | none => modify (·.setPage vpn view)

/-- Finds a page, or makes it where the stack may grow. -/
def access (vpn : Vpn) : FlatAction PageView := do
  match (← get).pages vpn with
  | some view =>
      match ← meet with
      | none => return view
      | some (.noRoom cause) => throw (.kernel (.swap cause))
      | some (.unreadable cause) => throw (.pageIn (process.page vpn) cause)
  | none =>
      if process.isStackPage vpn then
        place vpn .blank
        return .blank
      else throw (.segfault (process.page vpn))

/-- Finds or makes pages, in their order. -/
def accessAll : List Nat → FlatAction Unit
  | [] => return
  | number :: rest => do
      let _ ← process.access number.toUInt32
      accessAll rest

/-- The `length` bytes at an address, or fewer at the top of the address space. -/
def read (address : UInt32) (length : Nat) : FlatAction Bytes := do
  let count := min length (UInt32.size - address.toNat)
  process.accessAll (pageNumbers address.toNat count)
  return (← get).pages.bytesFrom address.toNat count

/-- Puts the bytes of `data` that are for a page over what it holds, `start` being the
address of the first of them all. Answers whether the page takes stores. -/
def writePage (start : Nat) (data : Bytes) (number : Nat) : FlatAction Bool := do
  let view ← process.access number.toUInt32
  if view.readOnly then
    return false
  modify (·.setPage number.toUInt32
    { view with contents := covered start data number view.contents })
  return true

/-- Puts `data` over pages, in their order, up to the first one that refuses stores. Answers
how many bytes of it are for the pages before that. -/
def writePages (start : Nat) (data : Bytes) : List Nat → FlatAction Nat
  | [] => return data.length
  | number :: rest => do
      if ← process.writePage start data number then
        writePages start data rest
      else return number * pageBytes - start

/-- Puts `data` at an address, up to the first page that refuses stores or the top of the
address space, and answers the number of bytes written. -/
def write (address : UInt32) (data : Bytes) : FlatAction Nat :=
  let start := address.toNat
  let fitting := data.take (UInt32.size - start)
  process.writePages start fitting (pageNumbers start fitting.length)

/-- The page of a section that comes `index` pages after its first one: the contents stand
there one page after the other, with zeros after the last byte. -/
def sectionView (contents : Bytes) (readOnly : Bool) (index : Nat) : PageView :=
  { contents := .ofFn fun offset => contents.getD (index * pageBytes + offset) 0
    readOnly := readOnly }

/-- Makes pages of a section, in their order. -/
def loadPages (first : Vpn) (contents : Bytes) (readOnly : Bool) : List Nat → FlatAction Unit
  | [] => return
  | index :: rest => do
      if UInt32.size ≤ first.toNat + index then
        throw (.kernel (.invalidPage first))
      place (first.toNat + index).toUInt32 (sectionView contents readOnly index)
      loadPages first contents readOnly rest

/-- Makes as many pages from `first` on as the contents take, and answers their number when
all are made. -/
def loadSection (first : Vpn) (contents : Bytes) (readOnly : Bool) : FlatAction Nat := do
  let count := pagesFor contents.length
  loadPages first contents readOnly (List.range count)
  return count

/-- Performs what a process was asked for. -/
def serve : ProcessRequest → FlatAction ProcessAnswer
  | .fault address => do
      let _ ← process.access (address.toNat / pageBytes).toUInt32
      return .done
  | .loadSection first contents readOnly => do
      return .loaded (← loadSection first contents readOnly)
  | .allocateStack => do
      place process.stackTop .blank
      return .mapped process.stackTop { valid := true }
  | .read address length => do
      return .bytes (← process.read address length)
  | .write address data => do
      return .written (← process.write address data)
  | .saveState | .restoreState => return .done

end FlatProcess

/-! ### Pages by their bytes -/

namespace Page

variable {value : Nat → UInt8} {offset : Nat}

theorem getD_ofFn (within : offset < pageBytes) :
    (ofFn value).bytes.getD offset 0 = value offset := by
  rw [List.getD_eq_getElem?_getD, ofFn, List.getElem?_map, List.getElem?_range within,
    Option.map_some, Option.getD_some]

/-- A page is told by the bytes at its positions. -/
theorem eq_ofFn {page : Page}
    (same : ∀ offset < pageBytes, page.bytes.getD offset 0 = value offset) :
    page = ofFn value := by
  apply eq_of_bytes
  apply List.ext_getElem
  · rw [page.length_bytes, (ofFn value).length_bytes]
  · intro offset inside _
    have within : offset < pageBytes := page.length_bytes ▸ inside
    have told := same offset within
    rw [List.getD_eq_getElem?_getD, List.getElem?_eq_getElem inside, Option.getD_some] at told
    simp only [ofFn, List.getElem_map, List.getElem_range, told]

theorem zero_eq_ofFn : zero = ofFn fun _ => 0 := by
  apply eq_ofFn
  intro offset within
  rw [List.getD_eq_getElem?_getD, getElem?_zero within, Option.getD_some]

end Page

namespace PageViews

variable {pages : PageViews} {vpn : Vpn} {view : PageView}

/-- A byte is that of the page that it is in. -/
theorem byteAt_of_page {position : Nat}
    (found : pages (position / pageBytes).toUInt32 = some view) :
    pages.byteAt position = view.contents.bytes.getD (position % pageBytes) 0 := by
  simp only [byteAt, found]

/-- Another page changes the bytes of that page only. -/
theorem byteAt_update (position : Nat) :
    byteAt (Function.update pages vpn (some view)) position =
      if (position / pageBytes).toUInt32 = vpn then
        view.contents.bytes.getD (position % pageBytes) 0
      else pages.byteAt position := by
  simp only [byteAt, Function.update_apply]
  by_cases here : (position / pageBytes).toUInt32 = vpn
  · rw [if_pos here, if_pos here]
  · rw [if_neg here, if_neg here]

@[simp] theorem length_bytesFrom (pages : PageViews) (start length : Nat) :
    (pages.bytesFrom start length).length = length := by
  rw [bytesFrom, List.length_map, List.length_range]

theorem getElem?_bytesFrom {start length index : Nat} (inside : index < length) :
    (pages.bytesFrom start length)[index]? = some (pages.byteAt (start + index)) := by
  rw [bytesFrom, List.getElem?_map, List.getElem?_range inside, Option.map_some]

/-- A run of bytes is its first part and the rest. -/
theorem bytesFrom_add (pages : PageViews) (start first rest : Nat) :
    pages.bytesFrom start (first + rest) =
      pages.bytesFrom start first ++ pages.bytesFrom (start + first) rest := by
  simp only [bytesFrom, List.range_add, List.map_append, List.map_map, Function.comp_def,
    Nat.add_assoc]

end PageViews

/-! ### The pages of a run of bytes -/

@[simp] theorem pageNumbers_zero (start : Nat) : pageNumbers start 0 = [] := rfl

/-- A run of bytes that is not empty is on the page of its first byte, and on the pages of
those after the end of that page. -/
theorem pageNumbers_of_pos (start : Nat) {length : Nat} (positive : 0 < length) :
    pageNumbers start length =
      (Span.first start length).page ::
        pageNumbers (start + (Span.first start length).count)
          (length - (Span.first start length).count) := by
  rw [pageNumbers, if_neg (Nat.ne_of_gt positive)]
  change List.range' (start / pageBytes) _ = start / pageBytes :: _
  by_cases within : length ≤ pageBytes - start % pageBytes
  · have whole : (Span.first start length).count = length := Nat.min_eq_left within
    have one : (start + length - 1) / pageBytes + 1 - start / pageBytes = 1 := by
      simp only [pageBytes] at within ⊢
      omega
    rw [whole, Nat.sub_self, pageNumbers_zero, one, List.range'_one]
  · have part : (Span.first start length).count = pageBytes - start % pageBytes :=
      Nat.min_eq_right (Nat.le_of_not_le within)
    have next : (start + (pageBytes - start % pageBytes)) / pageBytes =
        start / pageBytes + 1 := by
      simp only [pageBytes]
      omega
    have last : start + (pageBytes - start % pageBytes) +
        (length - (pageBytes - start % pageBytes)) - 1 = start + length - 1 := by
      omega
    have more : (start + length - 1) / pageBytes + 1 - start / pageBytes =
        ((start + length - 1) / pageBytes + 1 - (start / pageBytes + 1)) + 1 := by
      simp only [pageBytes] at within ⊢
      omega
    rw [part, pageNumbers, if_neg (by omega)]
    simp only [next, last]
    rw [more, List.range'_succ]

theorem pagesFor_of_pos {length : Nat} (positive : 0 < length) :
    pagesFor length = pagesFor (length - pageBytes) + 1 := by
  simp only [pagesFor, pageBytes]
  omega

end VirtualMemory
