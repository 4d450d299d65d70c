/-
Module: VirtualMemory.Proofs.Storage.PlainFiles
Purpose: Files in memory answer every sequence of calls as plain files do, in which names and
  handles stand for files, and a file is a string of bytes.
Main exports:
  FileRequest, FileReply, FileSystem.answers; spliced, PlainFiles and its reply and answers;
  FileContents.toBytes, EphemeralFiles.Shows, answers_as_plain_files

Plain files are never freed, and nothing counts what refers to them. That files in memory
are freed when neither a name nor a handle is left must not be seen.
-/
import Mathlib.Data.Finset.Card
import VirtualMemory.Proofs.Storage.Bytes

namespace VirtualMemory

open VirtualMemory.Action FileSystem

/-! ### Calls and answers -/

/-- A call to a file system. -/
inductive FileRequest where
  | openFile (name : String) (create : Bool)
  | readInto (file : FileHandle) (offset : Nat) (buffer : Bytes)
  | writeFile (file : FileHandle) (offset : Nat) (data : Bytes)
  | fileLength (file : FileHandle)
  | closeFile (file : FileHandle)
  | removeFile (name : String)
deriving DecidableEq, Repr

/-- What a call answers when it does not fail. -/
inductive FileReply where
  | opened (file : FileHandle)
  /-- How many bytes were read, and the buffer afterwards. -/
  | read (count : Nat) (buffer : Bytes)
  | written (count : Nat)
  | length (length : Nat)
  | done
deriving DecidableEq, Repr

namespace FileSystem

variable {φ : Type} [FileSystem φ]

/-- The operation that a call is. -/
def serve : FileRequest → Action φ FileError FileReply
  | .openFile name create => do return .opened (← openFile name create)
  | .readInto file offset buffer => do
      let (count, filled) ← readInto file offset buffer
      return .read count filled
  | .writeFile file offset data => do return .written (← writeFile file offset data)
  | .fileLength file => do return .length (← fileLength file)
  | .closeFile file => do
      closeFile file
      return .done
  | .removeFile name => do
      removeFile name
      return .done

/-- The answers to calls, one after another. -/
def answers (files : φ) : List FileRequest → List (Except FileError FileReply)
  | [] => []
  | request :: requests =>
      ((serve request).outcome files).1 :: answers ((serve request).outcome files).2 requests

end FileSystem

/-! ### Plain files -/

/-- Bytes with others put over them from an offset on. They become as long as needed, and
what neither of the two covers is zero. -/
def spliced (old : Bytes) (offset : Nat) (data : Bytes) : Bytes :=
  (List.range (max old.length (offset + data.length))).map fun position =>
    if offset ≤ position ∧ position < offset + data.length then data.getD (position - offset) 0
    else old.getD position 0

/-- Files by number, the names and handles that stand for them, and how many files were made
and handles given so far. -/
structure PlainFiles where
  names : String → Option Nat := fun _ => none
  handles : FileHandle → Option Nat := fun _ => none
  bytes : Nat → Bytes := fun _ => []
  made : Nat := 0
  given : Nat := 0

namespace PlainFiles

/-- No file has been made. -/
def empty : PlainFiles := {}

/-- A new handle of a file. -/
def give (plain : PlainFiles) (number : Nat) : Except FileError FileReply × PlainFiles :=
  (.ok (.opened (plain.given + 1)),
    { plain with
      handles := Function.update plain.handles (plain.given + 1) (some number)
      given := plain.given + 1 })

/-- The plain files with a new one, which is empty and has a name. -/
def make (plain : PlainFiles) (name : String) : PlainFiles :=
  { plain with
    names := Function.update plain.names name (some (plain.made + 1))
    bytes := Function.update plain.bytes (plain.made + 1) []
    made := plain.made + 1 }

/-- The plain files with other bytes in a file. -/
def put (plain : PlainFiles) (number : Nat) (bytes : Bytes) : PlainFiles :=
  { plain with bytes := Function.update plain.bytes number bytes }

/-- The plain files with a handle that stands for nothing any more. -/
def drop (plain : PlainFiles) (file : FileHandle) : PlainFiles :=
  { plain with handles := Function.update plain.handles file none }

/-- The plain files with a name that stands for nothing any more. -/
def unname (plain : PlainFiles) (name : String) : PlainFiles :=
  { plain with names := Function.update plain.names name none }

theorem names_make (plain : PlainFiles) (name : String) :
    (plain.make name).names = Function.update plain.names name (some (plain.made + 1)) := rfl

theorem bytes_make (plain : PlainFiles) (name : String) :
    (plain.make name).bytes = Function.update plain.bytes (plain.made + 1) [] := rfl

theorem handles_give (plain : PlainFiles) (number : Nat) :
    (plain.give number).2.handles =
      Function.update plain.handles (plain.given + 1) (some number) := rfl

theorem bytes_put (plain : PlainFiles) (number : Nat) (bytes : Bytes) :
    (plain.put number bytes).bytes = Function.update plain.bytes number bytes := rfl

theorem handles_drop (plain : PlainFiles) (file : FileHandle) :
    (plain.drop file).handles = Function.update plain.handles file none := rfl

theorem names_unname (plain : PlainFiles) (name : String) :
    (plain.unname name).names = Function.update plain.names name none := rfl

/-- What a call is answered, and the files after it. -/
def reply (plain : PlainFiles) : FileRequest → Except FileError FileReply × PlainFiles
  | .openFile name create =>
      match plain.names name with
      | some number => plain.give number
      | none =>
          if create then (plain.make name).give (plain.made + 1)
          else (.error .notFound, plain)
  | .readInto file offset buffer =>
      match plain.handles file with
      | none => (.error .badHandle, plain)
      | some number =>
          let data := slice (plain.bytes number) offset buffer.length
          (.ok (.read data.length (data ++ buffer.drop data.length)), plain)
  | .writeFile file offset data =>
      match plain.handles file with
      | none => (.error .badHandle, plain)
      | some number =>
          if EphemeralFiles.lengthLimit ≤ offset + data.length then (.error .noSpace, plain)
          else
            (.ok (.written data.length),
              plain.put number (spliced (plain.bytes number) offset data))
  | .fileLength file =>
      match plain.handles file with
      | none => (.error .badHandle, plain)
      | some number => (.ok (.length (plain.bytes number).length), plain)
  | .closeFile file =>
      match plain.handles file with
      | none => (.error .badHandle, plain)
      | some _ => (.ok .done, plain.drop file)
  | .removeFile name =>
      match plain.names name with
      | none => (.error .notFound, plain)
      | some _ => (.ok .done, plain.unname name)

/-- Whether a name or a handle stands for a file. -/
def Refers (plain : PlainFiles) (number : Nat) : Prop :=
  (∃ name, plain.names name = some number) ∨ ∃ handle, plain.handles handle = some number

/-- The answers to calls, one after another. -/
def answers (plain : PlainFiles) : List FileRequest → List (Except FileError FileReply)
  | [] => []
  | request :: requests => (plain.reply request).1 :: answers (plain.reply request).2 requests

end PlainFiles

/-! ### The bytes of a file -/

/-- Bytes that are put in reach as far as the old ones or the new ones, whichever is farther. -/
theorem length_spliced (old : Bytes) (offset : Nat) (data : Bytes) :
    (spliced old offset data).length = max old.length (offset + data.length) := by
  rw [spliced, List.length_map, List.length_range]

/-- A buffer that is filled from the start keeps what is behind the data. -/
theorem fillStart_eq (buffer data : Bytes) :
    fillStart buffer data = data ++ buffer.drop data.length := by
  rw [fillStart, overlay, List.take_zero, List.nil_append, Nat.zero_add]

namespace FileContents

/-- All bytes of a file. -/
def toBytes (contents : FileContents) : Bytes :=
  contents.read 0 contents.length

@[simp] theorem length_toBytes (contents : FileContents) :
    contents.toBytes.length = contents.length := by
  rw [toBytes, length_read, Nat.sub_zero, Nat.min_self]

/-- The bytes of a file are those at its positions. -/
theorem getElem?_toBytes (contents : FileContents) {position : Nat}
    (inside : position < contents.length) :
    contents.toBytes[position]? = some (contents.byteAt position) := by
  rw [toBytes, getElem?_read contents (by omega), Nat.zero_add]

/-- Past the end of a file, its bytes count as zeros. -/
theorem getD_toBytes (contents : FileContents) (position : Nat) :
    contents.toBytes.getD position 0 = contents.byteAt position := by
  rw [List.getD_eq_getElem?_getD]
  by_cases inside : position < contents.length
  · rw [getElem?_toBytes contents inside, Option.getD_some]
  · have beyond := Nat.not_lt.mp inside
    rw [List.getElem?_eq_none (by rw [length_toBytes]; exact beyond)]
    exact (contents.zero_beyond position beyond).symm

/-- To read is to cut a slice out of the bytes. -/
theorem read_eq_slice (contents : FileContents) (offset length : Nat) :
    contents.read offset length = slice contents.toBytes offset length := by
  have size : (contents.read offset length).length =
      (slice contents.toBytes offset length).length := by
    rw [length_read, length_slice, length_toBytes]
  apply List.ext_getElem?
  intro index
  by_cases inside : index < min length (contents.length - offset)
  · rw [getElem?_read contents inside, slice, List.getElem?_take_of_lt (by omega),
      List.getElem?_drop, getElem?_toBytes contents (by omega)]
  · rw [List.getElem?_eq_none (by rw [length_read]; omega),
      List.getElem?_eq_none (by rw [← size, length_read]; omega)]

/-- To write is to put the data into the bytes. -/
theorem toBytes_write (contents : FileContents) (offset : Nat) (data : Bytes) :
    (contents.write offset data).toBytes = spliced contents.toBytes offset data := by
  apply List.ext_getElem?
  intro position
  by_cases inside : position < max contents.length (offset + data.length)
  · rw [getElem?_toBytes _ inside, byteAt_write, spliced, length_toBytes, List.getElem?_map,
      List.getElem?_range inside, Option.map_some, getD_toBytes]
  · rw [List.getElem?_eq_none (by rw [length_toBytes, length_write]; omega),
      List.getElem?_eq_none (by rw [length_spliced, length_toBytes]; omega)]

theorem toBytes_empty : FileContents.toBytes {} = [] :=
  List.eq_nil_of_length_eq_zero (length_toBytes _)

end FileContents

/-! ### Trees that tabulate functions -/

section Tabulates

variable {κ α : Type} [Ord κ] [Std.TransOrd κ] [Std.LawfulEqOrd κ] [DecidableEq κ]
  {tree : Std.ExtTreeMap κ α} {table : κ → Option α}

/-- A tree has for each key what a function has for it. -/
def Tabulates (tree : Std.ExtTreeMap κ α) (table : κ → Option α) : Prop :=
  ∀ key, tree[key]? = table key

/-- A tree and a table stay the same when one entry is written in both. -/
theorem Tabulates.insert (same : Tabulates tree table) (key : κ) (value : α) :
    Tabulates (tree.insert key value) (Function.update table key (some value)) := by
  intro other
  simp only [Std.ExtTreeMap.getElem?_insert, Std.LawfulEqCmp.compare_eq_iff_eq,
    Function.update_apply, eq_comm (a := key), same other]

/-- A tree and a table stay the same when one entry is erased in both. -/
theorem Tabulates.erase (same : Tabulates tree table) (key : κ) :
    Tabulates (tree.erase key) (Function.update table key none) := by
  intro other
  simp only [Std.ExtTreeMap.getElem?_erase, Std.LawfulEqCmp.compare_eq_iff_eq,
    Function.update_apply, eq_comm (a := key), same other]

omit [Ord κ] [Std.TransOrd κ] [Std.LawfulEqOrd κ] in
/-- Where neither the old entry of a key nor the new one is the value in question, entering
the new one changes nothing about who has that value. -/
theorem update_eq_some_iff {key : κ} {entry : Option α} {value : α} (new : entry ≠ some value)
    (old : table key ≠ some value) (other : κ) :
    Function.update table key entry other = some value ↔ table other = some value := by
  rw [Function.update_apply]
  split
  · rename_i same
    subst same
    exact ⟨fun entered => absurd entered new, fun there => absurd there old⟩
  · exact Iff.rfl

end Tabulates

/-! ### Files in memory and the plain files that they show -/

/-- An inode keeps the bytes of a plain file, and knows what stands for it. -/
structure Inode.Shows (inode : Inode) (plain : PlainFiles) (number : Nat) : Prop where
  bytes : inode.data.toBytes = plain.bytes number
  linked : inode.linked = true ↔ ∃ name, plain.names name = some number
  counted : ∃ holders : Finset FileHandle,
    (∀ handle, handle ∈ holders ↔ plain.handles handle = some number) ∧
      holders.card = inode.openHandles

/-- A file is as it was: its bytes, and what stands for it. -/
structure PlainFiles.Same (before after : PlainFiles) (number : Nat) : Prop where
  bytes : after.bytes number = before.bytes number
  names : ∀ name, after.names name = some number ↔ before.names name = some number
  handles : ∀ handle, after.handles handle = some number ↔ before.handles handle = some number

/-- A number that is the same in both is referred to in both, or in neither. -/
theorem PlainFiles.Same.refers {before after : PlainFiles} {number : Nat}
    (same : before.Same after number) : after.Refers number ↔ before.Refers number := by
  simp only [Refers, same.names, same.handles]

/-- An inode shows the same file before and after if nothing about it changed. -/
theorem Inode.Shows.congr {inode : Inode} {before after : PlainFiles} {number : Nat}
    (shows : inode.Shows before number) (same : before.Same after number) :
    inode.Shows after number where
  bytes := shows.bytes.trans same.bytes.symm
  linked := by simpa only [same.names] using shows.linked
  counted := by simpa only [same.handles] using shows.counted

/-- Names and handles stand for the same files, and every file that something stands for is
in memory. -/
structure EphemeralFiles.Shows (files : EphemeralFiles) (plain : PlainFiles) : Prop where
  names : Tabulates files.names plain.names
  handles : Tabulates files.handles plain.handles
  made : files.lastInode = plain.made
  given : files.lastHandle = plain.given
  shown : ∀ number (inode : Inode), files.inodes[number]? = some inode → inode.Shows plain number
  numbered : ∀ number (inode : Inode), files.inodes[number]? = some inode → number ≤ plain.made
  kept : ∀ number, plain.Refers number → ∃ inode, files.inodes[number]? = some inode
  handled : ∀ handle number, plain.handles handle = some number → handle ≤ plain.given
  distinct : ∀ first second number, plain.names first = some number →
    plain.names second = some number → first = second

namespace EphemeralFiles

variable {files next : EphemeralFiles} {plain after : PlainFiles} {name : String}
  {file : FileHandle} {number : Nat} {inode : Inode}

/-- A new inode is one more entry of the table. -/
theorem inodes_insert (files : EphemeralFiles) (number : Nat) (inode : Inode) :
    Tabulates (files.inodes.insert number inode)
      (Function.update (fun other => files.inodes[other]?) number (some inode)) :=
  Tabulates.insert (fun _ => rfl) number inode

/-- An inode is freed when, after a change, nothing refers to it. -/
theorem inodes_unreference (change : Inode → Inode) (found : files.inodes[number]? = some inode) :
    Tabulates (files.unreference number change).inodes
      (Function.update (fun other => files.inodes[other]?) number
        (if !(change inode).linked && (change inode).openHandles == 0 then none
        else some (change inode))) := by
  simp only [unreference, found, freeUnreferenced, Std.ExtTreeMap.getElem?_insert_self]
  split
  · have erased := (inodes_insert files number (change inode)).erase number
    rwa [Function.update_idem] at erased
  · exact inodes_insert files number (change inode)

/-- Taking a reference away changes no more than the inodes. -/
theorem unreference_eq (files : EphemeralFiles) (number : Nat) (change : Inode → Inode) :
    files.unreference number change =
      { files with inodes := (files.unreference number change).inodes } := by
  simp only [unreference, freeUnreferenced]
  split
  · rfl
  · split
    · rfl
    · split <;> rfl

namespace Shows

/-- Where there are no files, none are shown. -/
theorem empty : EphemeralFiles.empty.Shows PlainFiles.empty where
  names _ := Std.ExtTreeMap.getElem?_empty
  handles _ := Std.ExtTreeMap.getElem?_empty
  made := rfl
  given := rfl
  shown number inode found := by cases Std.ExtTreeMap.getElem?_empty.symm.trans found
  numbered number inode found := by cases Std.ExtTreeMap.getElem?_empty.symm.trans found
  kept number refers := by rcases refers with ⟨name, ⟨⟩⟩ | ⟨handle, ⟨⟩⟩
  handled handle number found := by cases found
  distinct first second number found := by cases found

/-- A call changes one file. What is known of the others stays true, and what is known of
that one has to be said. -/
theorem change (shows : files.Shows plain) (number : Nat) (changed : Option Inode)
    (inodes : Tabulates next.inodes
      (Function.update (fun other => files.inodes[other]?) number changed))
    (apart : ∀ other, other ≠ number → plain.Same after other)
    (more : plain.made ≤ after.made ∧ plain.given ≤ after.given)
    (names : Tabulates next.names after.names) (handles : Tabulates next.handles after.handles)
    (made : next.lastInode = after.made) (given : next.lastHandle = after.given)
    (shown : ∀ inode, changed = some inode → inode.Shows after number)
    (numbered : number ≤ after.made) (kept : after.Refers number → ∃ inode, changed = some inode)
    (handled : ∀ handle, after.handles handle = some number → handle ≤ after.given)
    (distinct : ∀ first second, after.names first = some number →
      after.names second = some number → first = second) :
    next.Shows after := by
  have here : next.inodes[number]? = changed := by rw [inodes, Function.update_self]
  have elsewhere : ∀ other, other ≠ number → next.inodes[other]? = files.inodes[other]? :=
    fun other different => by rw [inodes, Function.update_of_ne different]
  refine {
    names, handles, made, given, shown := fun other inode found => ?_
    numbered := fun other inode found => ?_, kept := fun other refers => ?_
    handled := fun handle other found => ?_, distinct := fun first second other one two => ?_ } <;>
    by_cases same : other = number <;> try subst same
  · exact shown inode (here.symm.trans found)
  · have before := shows.shown other inode ((elsewhere other same).symm.trans found)
    exact before.congr (apart other same)
  · exact numbered
  · have before := shows.numbered other inode ((elsewhere other same).symm.trans found)
    exact Nat.le_trans before more.1
  · obtain ⟨inode, kept⟩ := kept refers
    exact ⟨inode, here.trans kept⟩
  · rw [elsewhere other same]
    exact shows.kept other ((apart other same).refers.mp refers)
  · exact handled handle found
  · have before := shows.handled handle other (((apart other same).handles handle).mp found)
    exact Nat.le_trans before more.2
  · exact distinct first second one two
  · have names := (apart other same).names
    exact shows.distinct first second other ((names first).mp one) ((names second).mp two)

/-- Nothing stands for a file that is yet to be made. -/
theorem unmade (shows : files.Shows plain) : ¬ plain.Refers (plain.made + 1) := by
  intro refers
  obtain ⟨inode, found⟩ := shows.kept _ refers
  exact absurd (shows.numbered _ inode found) (Nat.not_succ_le_self _)

/-- A handle that is yet to be given stands for nothing. -/
theorem ungiven (shows : files.Shows plain) (number : Nat) :
    plain.handles (plain.given + 1) ≠ some number := fun found =>
  absurd (shows.handled _ number found) (Nat.not_succ_le_self _)

/-- A new file is shown under its name. -/
theorem make (shows : files.Shows plain) (unnamed : plain.names name = none) :
    (files.makeFile name).2.Shows (plain.make name) := by
  have fresh : ∀ other, (plain.make name).names other = some (plain.made + 1) → other = name := by
    intro other named
    by_contra different
    rw [PlainFiles.names_make, Function.update_of_ne different] at named
    exact shows.unmade (.inl ⟨other, named⟩)
  have unopened : ∀ handle, (plain.make name).handles handle ≠ some (plain.made + 1) :=
    fun handle opened => shows.unmade (.inr ⟨handle, opened⟩)
  refine shows.change (plain.made + 1) (some {}) ?_ (fun other different => ?_)
    ⟨Nat.le_succ _, Nat.le_refl _⟩ ?_ shows.handles (congrArg (· + 1) shows.made) shows.given ?_
    (Nat.le_refl _) (fun _ => ⟨_, rfl⟩) (fun handle opened => absurd opened (unopened handle)) ?_
  · rw [← shows.made]
    exact inodes_insert files _ _
  · exact {
      bytes := Function.update_of_ne different _ _
      names := update_eq_some_iff (fun same => different (Option.some.inj same).symm)
        (unnamed ▸ (Option.some_ne_none other).symm)
      handles := fun _ => Iff.rfl }
  · rw [PlainFiles.names_make, ← shows.made]
    exact shows.names.insert name _
  · rintro inode ⟨⟩
    exact {
      bytes := by rw [FileContents.toBytes_empty, PlainFiles.bytes_make, Function.update_self]
      linked := ⟨fun _ => ⟨name, Function.update_self _ _ _⟩, fun _ => rfl⟩
      counted := ⟨∅, fun handle => ⟨fun found => absurd found (Finset.notMem_empty _),
        fun opened => absurd opened (unopened handle)⟩, rfl⟩ }
  · exact fun first second one two => (fresh first one).trans (fresh second two).symm

/-- The file that a handle is made for counts one handle more. -/
theorem give (shows : files.Shows plain) (found : files.inodes[number]? = some inode) :
    ∃ next, files.makeHandle number = .ok (plain.given + 1, next) ∧
      next.Shows (plain.give number).2 := by
  have shown := shows.shown number inode found
  refine ⟨_, by rw [makeHandle, found, shows.given], ?_⟩
  refine shows.change number _ (inodes_insert files _ _) (fun other different => ?_)
    ⟨Nat.le_refl _, Nat.le_succ _⟩ shows.names (shows.handles.insert _ _) shows.made rfl ?_
    (shows.numbered number inode found) (fun _ => ⟨_, rfl⟩) (fun handle opened => ?_)
    (fun first second => shows.distinct first second number)
  · exact {
      bytes := rfl
      names := fun _ => Iff.rfl
      handles := update_eq_some_iff (fun same => different (Option.some.inj same).symm)
        (shows.ungiven other) }
  · rintro inode ⟨⟩
    obtain ⟨holders, holds, count⟩ := shown.counted
    refine {
      bytes := shown.bytes, linked := shown.linked
      counted := ⟨insert (plain.given + 1) holders, fun handle => ?_, ?_⟩ }
    · rw [Finset.mem_insert, holds, PlainFiles.handles_give, Function.update_apply]
      split
      · exact ⟨fun _ => rfl, fun _ => .inl ‹_›⟩
      · exact ⟨fun held => held.resolve_left ‹_›, .inr⟩
    · rw [Finset.card_insert_of_notMem fun held => shows.ungiven number ((holds _).mp held), count]
  · rw [PlainFiles.handles_give, Function.update_apply] at opened
    split at opened
    · rename_i same
      exact same ▸ Nat.le_refl _
    · exact Nat.le_trans (shows.handled handle number opened) (Nat.le_succ _)

/-- A write is shown in the file that it goes to, and in no other. -/
theorem write (shows : files.Shows plain) (found : files.inodes[number]? = some inode)
    (offset : Nat) (data : Bytes) :
    Shows
      { files with
        inodes := files.inodes.insert number { inode with data := inode.data.write offset data } }
      (plain.put number (spliced (plain.bytes number) offset data)) := by
  have shown := shows.shown number inode found
  refine shows.change number _ (inodes_insert files _ _) (fun other different => ?_)
    ⟨Nat.le_refl _, Nat.le_refl _⟩ shows.names shows.handles shows.made shows.given ?_
    (shows.numbered number inode found) (fun _ => ⟨_, rfl⟩)
    (fun handle => shows.handled handle number)
    (fun first second => shows.distinct first second number)
  · exact {
      bytes := Function.update_of_ne different _ _
      names := fun _ => Iff.rfl
      handles := fun _ => Iff.rfl }
  · rintro inode ⟨⟩
    exact {
      bytes := by
        rw [FileContents.toBytes_write, shown.bytes, PlainFiles.bytes_put, Function.update_self]
      linked := shown.linked
      counted := shown.counted }

/-- Something stops standing for a file. It stays in memory as long as anything is left that
stands for it. -/
theorem unreference {change : Inode → Inode} {before : EphemeralFiles}
    (shows : files.Shows plain) (found : files.inodes[number]? = some inode)
    (inodes : before.inodes = files.inodes)
    (apart : ∀ other, other ≠ number → plain.Same after other)
    (more : plain.made ≤ after.made ∧ plain.given ≤ after.given)
    (names : Tabulates before.names after.names) (handles : Tabulates before.handles after.handles)
    (made : before.lastInode = after.made) (given : before.lastHandle = after.given)
    (shown : (change inode).Shows after number)
    (handled : ∀ handle, after.handles handle = some number → handle ≤ after.given)
    (distinct : ∀ first second, after.names first = some number →
      after.names second = some number → first = second) :
    (before.unreference number change).Shows after := by
  have rest := before.unreference_eq number change
  refine shows.change number
    (if !(change inode).linked && (change inode).openHandles == 0 then none
      else some (change inode))
    ?_ apart more ?_ ?_ ?_ ?_ (fun inode kept => ?_) ?_ (fun refers => ?_) handled distinct
  · rw [← inodes] at found ⊢
    exact inodes_unreference change found
  · rw [rest]
    exact names
  · rw [rest]
    exact handles
  · rw [rest]
    exact made
  · rw [rest]
    exact given
  · split at kept <;> cases kept
    exact shown
  · exact Nat.le_trans (shows.numbered number inode found) more.1
  · refine ⟨change inode, if_neg fun unreferenced => ?_⟩
    rw [Bool.and_eq_true, Bool.not_eq_true', beq_iff_eq] at unreferenced
    rcases refers with named | ⟨handle, opened⟩
    · rw [shown.linked.mpr named] at unreferenced
      cases unreferenced.1
    · obtain ⟨holders, holds, count⟩ := shown.counted
      rw [unreferenced.2, Finset.card_eq_zero] at count
      exact Finset.notMem_empty handle (count ▸ (holds handle).mpr opened)

/-- A handle that is closed is closed for the plain files too. -/
theorem close (shows : files.Shows plain) (opened : plain.handles file = some number) :
    ∃ next, files.close file = .ok ((), next) ∧ next.Shows (plain.drop file) := by
  obtain ⟨inode, found⟩ := shows.kept number (.inr ⟨file, opened⟩)
  have shown := shows.shown number inode found
  have fewer : ∀ handle other, (plain.drop file).handles handle = some other →
      handle ≠ file ∧ plain.handles handle = some other := by
    intro handle other opened
    rw [PlainFiles.handles_drop, Function.update_apply] at opened
    split at opened
    · cases opened
    · exact ⟨‹_›, opened⟩
  refine ⟨_, by rw [EphemeralFiles.close, shows.handles file, opened], ?_⟩
  refine shows.unreference found rfl (fun other different => ?_) ⟨Nat.le_refl _, Nat.le_refl _⟩
    shows.names (shows.handles.erase file) shows.made shows.given ?_
    (fun handle opened => shows.handled handle number (fewer handle number opened).2)
    (fun first second => shows.distinct first second number)
  · exact {
      bytes := rfl
      names := fun _ => Iff.rfl
      handles := update_eq_some_iff (Option.some_ne_none other).symm
        (fun same => different (Option.some.inj (same.symm.trans opened))) }
  · obtain ⟨holders, holds, count⟩ := shown.counted
    refine {
      bytes := shown.bytes, linked := shown.linked
      counted := ⟨holders.erase file, fun handle => ?_, ?_⟩ }
    · rw [Finset.mem_erase, holds]
      constructor
      · rintro ⟨different, held⟩
        rwa [PlainFiles.handles_drop, Function.update_of_ne different]
      · exact fewer handle number
    · rw [Finset.card_erase_of_mem ((holds file).mpr opened), count]

/-- A file that is removed loses its name in the plain files too. -/
theorem remove (shows : files.Shows plain) (named : plain.names name = some number) :
    ∃ next, files.remove name = .ok ((), next) ∧ next.Shows (plain.unname name) := by
  obtain ⟨inode, found⟩ := shows.kept number (.inl ⟨name, named⟩)
  have shown := shows.shown number inode found
  have gone : ∀ other, (plain.unname name).names other ≠ some number := by
    intro other otherNamed
    rw [PlainFiles.names_unname, Function.update_apply] at otherNamed
    split at otherNamed
    · cases otherNamed
    · exact absurd (shows.distinct other name number otherNamed named) ‹_›
  refine ⟨_, by rw [EphemeralFiles.remove, shows.names name, named], ?_⟩
  refine shows.unreference found rfl (fun other different => ?_) ⟨Nat.le_refl _, Nat.le_refl _⟩
    (shows.names.erase name) shows.handles shows.made shows.given ?_
    (fun handle => shows.handled handle number)
    (fun first second named => absurd named (gone first))
  · exact {
      bytes := rfl
      names := update_eq_some_iff (Option.some_ne_none other).symm
        (fun same => different (Option.some.inj (same.symm.trans named)))
      handles := fun _ => Iff.rfl }
  · exact {
      bytes := shown.bytes
      linked := ⟨fun linked => absurd linked Bool.false_ne_true,
        fun ⟨other, named⟩ => absurd named (gone other)⟩
      counted := shown.counted }

/-- The inode that an open handle is of. -/
theorem inodeOf (shows : files.Shows plain) (opened : plain.handles file = some number) :
    ∃ inode, files.inodeOf file = .ok (number, inode) ∧ inode.Shows plain number := by
  obtain ⟨inode, found⟩ := shows.kept number (.inr ⟨file, opened⟩)
  exact ⟨inode, inodeOf_eq_ok_iff.mpr ⟨(shows.handles file).trans opened, found⟩,
    shows.shown number inode found⟩

/-- A handle that is not open leads to no inode. -/
theorem inodeOf_unopened (shows : files.Shows plain) (unopened : plain.handles file = none) :
    files.inodeOf file = .error .badHandle := by
  simp only [EphemeralFiles.inodeOf, (shows.handles file).trans unopened]

/-- An ending of files in memory is that of the plain files that they show. -/
def Follows (plain : PlainFiles) (request : FileRequest) (result : Except FileError FileReply)
    (next : EphemeralFiles) : Prop :=
  result = (plain.reply request).1 ∧ next.Shows (plain.reply request).2

/-- A request is followed if the answers agree and what is shown agrees. -/
theorem Follows.of_reply {request : FileRequest} {result : Except FileError FileReply}
    (reply : plain.reply request = (result, after)) (shows : next.Shows after) :
    Follows plain request result next := by
  rw [Follows, reply]
  exact ⟨rfl, shows⟩

/-- To open a file follows the plain files. -/
theorem serve_open (shows : files.Shows plain) (name : String) (create : Bool) :
    (FileSystem.serve (.openFile name create)).Ends files
      (Follows plain (.openFile name create)) := by
  rw [FileSystem.serve, ends_bind]
  change (update fun files : EphemeralFiles => files.openNamed name create).Ends files _
  rw [ends_update]
  cases named : plain.names name with
  | some number =>
    obtain ⟨inode, found⟩ := shows.kept number (.inl ⟨name, named⟩)
    obtain ⟨next, made, shown⟩ := shows.give found
    simp only [openNamed, (shows.names name).trans named, made]
    exact .of_reply (by simp only [PlainFiles.reply, named]; rfl) shown
  | none =>
    simp only [openNamed, (shows.names name).trans named]
    cases create with
    | false => exact .of_reply (by simp only [PlainFiles.reply, named]; rfl) shows
    | true =>
      have found : (files.makeFile name).2.inodes[plain.made + 1]? = some {} := by
        rw [← shows.made]
        exact Std.ExtTreeMap.getElem?_insert_self
      obtain ⟨next, made, shown⟩ := (shows.make named).give found
      have number : (files.makeFile name).1 = plain.made + 1 := congrArg (· + 1) shows.made
      simp only [if_true, number, made]
      exact .of_reply (by simp only [PlainFiles.reply, named]; rfl) shown

/-- To read follows the plain files. -/
theorem serve_read (shows : files.Shows plain) (file : FileHandle) (offset : Nat)
    (buffer : Bytes) :
    (FileSystem.serve (.readInto file offset buffer)).Ends files
      (Follows plain (.readInto file offset buffer)) := by
  rw [FileSystem.serve, readInto, ends_bind, ends_bind]
  change (inspect fun files : EphemeralFiles => files.read file offset buffer.length).Ends files _
  rw [ends_inspect, EphemeralFiles.read]
  cases opened : plain.handles file with
  | none =>
    rw [shows.inodeOf_unopened opened]
    exact .of_reply (by simp only [PlainFiles.reply, opened]) shows
  | some number =>
    obtain ⟨inode, found, shown⟩ := shows.inodeOf opened
    simp only [found, FileContents.read_eq_slice, shown.bytes, ends_pure, fillStart_eq]
    exact .of_reply (by simp only [PlainFiles.reply, opened]) shows

/-- To write follows the plain files. -/
theorem serve_write (shows : files.Shows plain) (file : FileHandle) (offset : Nat)
    (data : Bytes) :
    (FileSystem.serve (.writeFile file offset data)).Ends files
      (Follows plain (.writeFile file offset data)) := by
  rw [FileSystem.serve, ends_bind]
  change (update fun files : EphemeralFiles => files.write file offset data).Ends files _
  rw [ends_update, EphemeralFiles.write]
  cases opened : plain.handles file with
  | none =>
    rw [shows.inodeOf_unopened opened]
    exact .of_reply (by simp only [PlainFiles.reply, opened]) shows
  | some number =>
    obtain ⟨inode, found, _⟩ := shows.inodeOf opened
    rw [found]
    by_cases full : lengthLimit ≤ offset + data.length
    · simp only [if_pos full]
      exact .of_reply (by simp only [PlainFiles.reply, opened, if_pos full]) shows
    · simp only [if_neg full]
      exact .of_reply (by simp only [PlainFiles.reply, opened, if_neg full]; rfl)
        (shows.write (inodeOf_eq_ok_iff.mp found).2 offset data)

/-- To ask for a length follows the plain files. -/
theorem serve_length (shows : files.Shows plain) (file : FileHandle) :
    (FileSystem.serve (.fileLength file)).Ends files (Follows plain (.fileLength file)) := by
  rw [FileSystem.serve, ends_bind]
  change (inspect fun files : EphemeralFiles => files.length file).Ends files _
  rw [ends_inspect, EphemeralFiles.length]
  cases opened : plain.handles file with
  | none =>
    rw [shows.inodeOf_unopened opened]
    exact .of_reply (by simp only [PlainFiles.reply, opened]) shows
  | some number =>
    obtain ⟨inode, found, shown⟩ := shows.inodeOf opened
    simp only [found, ends_pure, ← FileContents.length_toBytes, shown.bytes]
    exact .of_reply (by simp only [PlainFiles.reply, opened]) shows

/-- To close a file follows the plain files. -/
theorem serve_close (shows : files.Shows plain) (file : FileHandle) :
    (FileSystem.serve (.closeFile file)).Ends files (Follows plain (.closeFile file)) := by
  rw [FileSystem.serve, ends_bind]
  change (update fun files : EphemeralFiles => files.close file).Ends files _
  rw [ends_update]
  cases opened : plain.handles file with
  | none =>
    simp only [EphemeralFiles.close, (shows.handles file).trans opened]
    exact .of_reply (by simp only [PlainFiles.reply, opened]) shows
  | some number =>
    obtain ⟨next, closed, shown⟩ := shows.close opened
    rw [closed]
    exact .of_reply (by simp only [PlainFiles.reply, opened]; rfl) shown

/-- To remove a file follows the plain files. -/
theorem serve_remove (shows : files.Shows plain) (name : String) :
    (FileSystem.serve (.removeFile name)).Ends files (Follows plain (.removeFile name)) := by
  rw [FileSystem.serve, ends_bind]
  change (update fun files : EphemeralFiles => files.remove name).Ends files _
  rw [ends_update]
  cases named : plain.names name with
  | none =>
    simp only [EphemeralFiles.remove, (shows.names name).trans named]
    exact .of_reply (by simp only [PlainFiles.reply, named]) shows
  | some number =>
    obtain ⟨next, removed, shown⟩ := shows.remove named
    rw [removed]
    exact .of_reply (by simp only [PlainFiles.reply, named]; rfl) shown

/-- Every call is answered as by the plain files, and leaves files that show those that the
call leaves there. -/
theorem serve (shows : files.Shows plain) (request : FileRequest) :
    (FileSystem.serve request).Ends files (Follows plain request) := by
  cases request with
  | openFile name create => exact shows.serve_open name create
  | readInto file offset buffer => exact shows.serve_read file offset buffer
  | writeFile file offset data => exact shows.serve_write file offset data
  | fileLength file => exact shows.serve_length file
  | closeFile file => exact shows.serve_close file
  | removeFile name => exact shows.serve_remove name

/-- All requests of a list are answered as the plain files answer them. -/
theorem answers_eq (shows : files.Shows plain) (requests : List FileRequest) :
    FileSystem.answers files requests = plain.answers requests := by
  induction requests generalizing files plain with
  | nil => rfl
  | cons request requests ih =>
    obtain ⟨answer, shown⟩ := shows.serve request
    rw [FileSystem.answers, PlainFiles.answers, answer, ih shown]

end Shows

end EphemeralFiles

/-! ### Handles are not given twice -/

namespace PlainFiles

variable {plain : PlainFiles}

/-- The handle that an answer gives, if it gives one. -/
def handle? : Except FileError FileReply → Option FileHandle
  | .ok (.opened file) => some file
  | _ => none

/-- A call is answered with the next handle or with none. -/
theorem handle?_reply (plain : PlainFiles) (request : FileRequest) :
    (handle? (plain.reply request).1 = none ∧ (plain.reply request).2.given = plain.given) ∨
    (handle? (plain.reply request).1 = some (plain.given + 1) ∧
      (plain.reply request).2.given = plain.given + 1) := by
  cases request with
  | openFile name create =>
    cases named : plain.names name <;> cases create <;> simp [reply, named, give, make, handle?]
  | readInto file | fileLength file | closeFile file =>
    cases opened : plain.handles file <;> simp [reply, opened, drop, handle?]
  | writeFile file offset data =>
    cases opened : plain.handles file with
    | none => simp [reply, opened, handle?]
    | some number =>
      simp only [reply, opened]
      split <;> exact .inl ⟨rfl, rfl⟩
  | removeFile name => cases named : plain.names name <;> simp [reply, named, unname, handle?]

/-- The handles that calls are answered with are counted up from the last one given. -/
theorem handles_answers (plain : PlainFiles) (requests : List FileRequest) :
    ∃ count, (plain.answers requests).filterMap handle? = List.range' (plain.given + 1) count := by
  induction requests generalizing plain with
  | nil => exact ⟨0, rfl⟩
  | cons request requests ih =>
    obtain ⟨count, handles⟩ := ih (plain.reply request).2
    rw [answers]
    rcases plain.handle?_reply request with ⟨answer, given⟩ | ⟨answer, given⟩
    · exact ⟨count, by rw [List.filterMap_cons_none answer, handles, given]⟩
    · exact ⟨count + 1, by rw [List.filterMap_cons_some answer, handles, given, List.range'_succ]⟩

end PlainFiles

/-- Whatever is asked of files in memory, they answer as plain files do. No handle is answered
twice. -/
theorem EphemeralFiles.answers_as_plain_files (requests : List FileRequest) :
    FileSystem.answers EphemeralFiles.empty requests = PlainFiles.empty.answers requests ∧
      ((FileSystem.answers EphemeralFiles.empty requests).filterMap PlainFiles.handle?).Nodup := by
  have same := Shows.empty.answers_eq requests
  refine ⟨same, ?_⟩
  obtain ⟨count, handles⟩ := PlainFiles.empty.handles_answers requests
  rw [same, handles]
  exact List.nodup_range'

end VirtualMemory
