/-
Module: VirtualMemory.Proofs.Storage.Agreement
Purpose: Where files in memory and files of a directory answer alike, and where they do not.
Main exports:
  OrdinaryName, FileRequest.Fits, FileRequest.atStart; DirectoryFiles.Shows, served;
  EphemeralFiles.PastEnd, DirectoryFiles.answers_agree, empty_write_tells_apart

Files of a directory show plain files as files in memory do, but for one thing. A write of no
bytes past the end of a file makes a file in memory grow, and leaves one of a directory alone.
-/
import VirtualMemory.Proofs.Storage.Inodes
import VirtualMemory.Storage.Directory

namespace VirtualMemory

open VirtualMemory.Action FileSystem

/-! ### Calls that both can serve -/

/-- A name that a file of a directory can have. -/
def OrdinaryName (name : String) : Prop :=
  name ≠ "" ∧ name.utf8ByteSize ≤ 255 ∧ name ≠ "." ∧ name ≠ ".." ∧
    ∀ character ∈ name.toList, character ≠ '/' ∧ character ≠ '\\' ∧ character ≠ '\x00'

/-- A directory has nothing against the ordinary names, and something against all others. -/
theorem DirectoryFiles.nameDefect_eq_none_iff {name : String} :
    nameDefect name = none ↔ OrdinaryName name := by
  have plain : isPlainName name = true ↔ name ≠ "" ∧ name ≠ "." ∧ name ≠ ".." ∧
      ∀ character ∈ name.toList, character ≠ '/' ∧ character ≠ '\\' ∧ character ≠ '\x00' := by
    simp [isPlainName, and_assoc]
  have short : ¬ nameLimit < name.utf8ByteSize ↔ name.utf8ByteSize ≤ 255 := Nat.not_lt
  constructor
  · intro fine
    simp only [nameDefect] at fine
    split at fine
    · cases fine
    · split at fine
      · cases fine
      · rename_i isPlain isShort
        rw [Bool.not_eq_true', Bool.not_eq_false] at isPlain
        obtain ⟨nonempty, notHere, notAbove, clean⟩ := plain.mp isPlain
        exact ⟨nonempty, short.mp isShort, notHere, notAbove, clean⟩
  · rintro ⟨nonempty, isShort, notHere, notAbove, clean⟩
    have isPlain := plain.mpr ⟨nonempty, notHere, notAbove, clean⟩
    simp only [nameDefect, isPlain, Bool.not_true, Bool.false_eq_true, if_false,
      if_neg (short.mpr isShort)]

instance (name : String) : Decidable (OrdinaryName name) :=
  decidable_of_iff (DirectoryFiles.nameDefect name = none) DirectoryFiles.nameDefect_eq_none_iff

namespace FileRequest

/-- The names of a call are ordinary, and its offsets are such that both kinds of files can
hold them. -/
def Fits : FileRequest → Prop
  | .openFile name _ | .removeFile name => OrdinaryName name
  | .readInto _ offset _ => offset ≤ DirectoryFiles.offsetLimit
  | .writeFile _ offset data => offset + data.length < EphemeralFiles.lengthLimit
  | .fileLength _ | .closeFile _ => True

instance : (request : FileRequest) → Decidable request.Fits
  | .openFile name _ | .removeFile name => inferInstanceAs (Decidable (OrdinaryName name))
  | .readInto _ offset _ =>
      inferInstanceAs (Decidable (offset ≤ DirectoryFiles.offsetLimit))
  | .writeFile _ offset data =>
      inferInstanceAs (Decidable (offset + data.length < EphemeralFiles.lengthLimit))
  | .fileLength _ | .closeFile _ => inferInstanceAs (Decidable True)

/-- The call, but with a write of nothing moved to the start of the file, where it changes
nothing. -/
def atStart : FileRequest → FileRequest
  | .writeFile file _ [] => .writeFile file 0 []
  | request => request

end FileRequest

/-! ### Writes of nothing -/

/-- Nothing put within the bytes or at their end leaves them as they are. -/
theorem spliced_nil {old : Bytes} {offset : Nat} (within : offset ≤ old.length) :
    spliced old offset [] = old := by
  have size : max old.length (offset + ([] : Bytes).length) = old.length :=
    Nat.max_eq_left within
  apply List.ext_getElem?
  intro position
  rw [spliced, size, List.getElem?_map]
  by_cases inside : position < old.length
  · rw [List.getElem?_range inside, Option.map_some, List.getElem?_eq_getElem inside,
      if_neg (fun covered => Nat.not_lt.mpr covered.1 covered.2),
      List.getD_eq_getElem?_getD, List.getElem?_eq_getElem inside, Option.getD_some]
  · have beyond := Nat.not_lt.mp inside
    rw [List.getElem?_eq_none beyond, List.getElem?_eq_none (by rwa [List.length_range]),
      Option.map_none]

namespace PlainFiles

variable {plain : PlainFiles} {file : FileHandle} {number offset : Nat}

/-- To put back what a file has changes nothing. -/
theorem put_same (plain : PlainFiles) (number : Nat) :
    plain.put number (plain.bytes number) = plain := by
  simp only [put, Function.update_eq_self]

/-- A write of nothing that does not go past the end is answered, and changes nothing. -/
theorem reply_write_nothing (opened : plain.handles file = some number)
    (within : offset ≤ (plain.bytes number).length) (fits : offset < EphemeralFiles.lengthLimit) :
    plain.reply (.writeFile file offset []) = (.ok (.written 0), plain) := by
  simp only [reply, opened]
  rw [if_neg (by simpa using fits), spliced_nil within, put_same]
  rfl

/-! ### What names and handles stand for after a call -/

/-- What has a value after an update had it before, or was given it. -/
theorem eq_some_of_update {κ α : Type} [DecidableEq κ] {table : κ → Option α} {key other : κ}
    {entry : Option α} {value : α} (found : Function.update table key entry other = some value) :
    entry = some value ∨ table other = some value := by
  rw [Function.update_apply] at found
  split at found
  · exact .inl found
  · exact .inr found

variable {other : Nat} {name : String}

/-- With one more handle only its file may be referred to that was not before. -/
theorem refers_give (refers : (plain.give number).2.Refers other) :
    number = other ∨ plain.Refers other := by
  rcases refers with ⟨name, named⟩ | ⟨handle, opened⟩
  · exact .inr (.inl ⟨name, named⟩)
  · cases eq_some_of_update opened with
    | inl new => exact .inl (Option.some.inj new)
    | inr old => exact .inr (.inr ⟨handle, old⟩)

/-- With one more name only the new file may be referred to that was not before. -/
theorem refers_make (refers : (plain.make name).Refers other) :
    plain.made + 1 = other ∨ plain.Refers other := by
  rcases refers with ⟨name, named⟩ | ⟨handle, opened⟩
  · cases eq_some_of_update named with
    | inl new => exact .inl (Option.some.inj new)
    | inr old => exact .inr (.inl ⟨name, old⟩)
  · exact .inr (.inr ⟨handle, opened⟩)

/-- With a handle less no file is referred to that was not before. -/
theorem refers_drop (refers : (plain.drop file).Refers other) : plain.Refers other := by
  rcases refers with ⟨name, named⟩ | ⟨handle, opened⟩
  · exact .inl ⟨name, named⟩
  · exact .inr ⟨handle, (eq_some_of_update opened).resolve_left (Option.some_ne_none other).symm⟩

/-- With a name less no file is referred to that was not before. -/
theorem refers_unname (refers : (plain.unname name).Refers other) : plain.Refers other := by
  rcases refers with ⟨name, named⟩ | ⟨handle, opened⟩
  · exact .inl ⟨name, (eq_some_of_update named).resolve_left (Option.some_ne_none other).symm⟩
  · exact .inr ⟨handle, opened⟩

end PlainFiles

/-! ### Files of a directory and the plain files that they show -/

namespace DirectoryFiles

variable {files next : DirectoryFiles} {plain after : PlainFiles} {name : String}
  {file : FileHandle} {number offset : Nat} {contents : FileContents}

/-- Names and handles stand for the same files, and the directory has the bytes of every file
that something stands for. -/
structure Shows (files : DirectoryFiles) (plain : PlainFiles) : Prop where
  names : Tabulates files.names plain.names
  handles : Tabulates files.handles plain.handles
  made : files.lastFile = plain.made
  given : files.lastHandle = plain.given
  bytes : ∀ number (contents : FileContents), files.contents[number]? = some contents →
    contents.toBytes = plain.bytes number
  kept : ∀ number, plain.Refers number → number ∈ files.contents

namespace Shows

/-- Where there are no files, none are shown. -/
theorem empty : DirectoryFiles.empty.Shows PlainFiles.empty where
  names _ := Std.ExtTreeMap.getElem?_empty
  handles _ := Std.ExtTreeMap.getElem?_empty
  made := rfl
  given := rfl
  bytes number contents found := by cases Std.ExtTreeMap.getElem?_empty.symm.trans found
  kept number refers := by rcases refers with ⟨name, ⟨⟩⟩ | ⟨handle, ⟨⟩⟩

/-- New contents of a file are its bytes from then on. -/
theorem bytes_insert (shows : files.Shows plain) (number : Nat) (contents : FileContents)
    (other : Nat) (found : FileContents)
    (stored : (files.contents.insert number contents)[other]? = some found) :
    found.toBytes = Function.update plain.bytes number contents.toBytes other := by
  have table : Tabulates files.contents fun other => files.contents[other]? := fun _ => rfl
  rw [table.insert number contents other, Function.update_apply] at stored
  rw [Function.update_apply]
  split at stored
  · rename_i same
    cases stored
    rw [if_pos same]
  · rename_i different
    rw [if_neg different]
    exact shows.bytes other found stored

/-- A new file is shown under its name. -/
theorem make (shows : files.Shows plain) (name : String) :
    (files.makeFile name).2.Shows (plain.make name) where
  names := by
    rw [PlainFiles.names_make, ← shows.made]
    exact shows.names.insert name _
  handles := shows.handles
  made := congrArg (· + 1) shows.made
  given := shows.given
  bytes := by
    rw [PlainFiles.bytes_make, ← shows.made, ← FileContents.toBytes_empty]
    exact shows.bytes_insert _ _
  kept other refers := by
    apply Std.ExtTreeMap.mem_insert.mpr
    cases PlainFiles.refers_make refers with
    | inl new =>
      rw [← shows.made] at new
      exact .inl (Std.LawfulEqCmp.compare_eq_iff_eq.mpr new)
    | inr old => exact .inr (shows.kept other old)

/-- A new handle is shown at its file. -/
theorem give (shows : files.Shows plain) (stored : number ∈ files.contents) :
    (files.makeHandle number).2.Shows (plain.give number).2 where
  names := shows.names
  handles := by
    rw [PlainFiles.handles_give, ← shows.given]
    exact shows.handles.insert _ _
  made := shows.made
  given := congrArg (· + 1) shows.given
  bytes := shows.bytes
  kept other refers := by
    cases PlainFiles.refers_give refers with
    | inl new => exact new ▸ stored
    | inr old => exact shows.kept other old

/-- A write is shown in the file that it goes to. -/
theorem write (shows : files.Shows plain) (stored : files.contents[number]? = some contents)
    (offset : Nat) (data : Bytes) :
    Shows { files with contents := files.contents.insert number (contents.write offset data) }
      (plain.put number (spliced (plain.bytes number) offset data)) where
  names := shows.names
  handles := shows.handles
  made := shows.made
  given := shows.given
  bytes := by
    rw [PlainFiles.bytes_put, ← shows.bytes number contents stored, ← FileContents.toBytes_write]
    exact shows.bytes_insert _ _
  kept other refers := Std.ExtTreeMap.mem_insert.mpr (.inr (shows.kept other refers))

/-- A handle that is closed is closed for the plain files too. -/
theorem close (shows : files.Shows plain) (file : FileHandle) :
    Shows { files with handles := files.handles.erase file } (plain.drop file) where
  names := shows.names
  handles := shows.handles.erase file
  made := shows.made
  given := shows.given
  bytes := shows.bytes
  kept other refers := shows.kept other (PlainFiles.refers_drop refers)

/-- A name that is removed is removed from the plain files too. -/
theorem remove (shows : files.Shows plain) (name : String) :
    Shows { files with names := files.names.erase name } (plain.unname name) where
  names := shows.names.erase name
  handles := shows.handles
  made := shows.made
  given := shows.given
  bytes := shows.bytes
  kept other refers := shows.kept other (PlainFiles.refers_unname refers)

/-- The file that an open handle is of. -/
theorem fileOf (shows : files.Shows plain) (opened : plain.handles file = some number) :
    ∃ contents, files.fileOf file = .ok (number, contents) ∧
      files.contents[number]? = some contents := by
  have stored := shows.kept number (.inr ⟨file, opened⟩)
  rw [Std.ExtTreeMap.mem_iff_isSome_getElem?, Option.isSome_iff_exists] at stored
  obtain ⟨contents, found⟩ := stored
  refine ⟨contents, ?_, found⟩
  simp only [DirectoryFiles.fileOf, (shows.handles file).trans opened, found]

/-- A handle that is not open leads to no file. -/
theorem fileOf_unopened (shows : files.Shows plain) (unopened : plain.handles file = none) :
    files.fileOf file = .error .badHandle := by
  simp only [DirectoryFiles.fileOf, (shows.handles file).trans unopened]

/-- A call ends as with the plain files that the directory shows. -/
def Follows (plain : PlainFiles) (request : FileRequest) (result : Except FileError FileReply)
    (next : DirectoryFiles) : Prop :=
  result = (plain.reply request).1 ∧ next.Shows (plain.reply request).2

/-- A request is followed if the answers agree and what is shown agrees. -/
theorem Follows.of_reply {request : FileRequest} {result : Except FileError FileReply}
    (reply : plain.reply request = (result, after)) (shows : next.Shows after) :
    Follows plain request result next := by
  rw [Follows, reply]
  exact ⟨rfl, shows⟩

/-- To open a file follows the plain files, if the name is an ordinary one. -/
theorem serve_open (shows : files.Shows plain) (ordinary : OrdinaryName name) (create : Bool) :
    (FileSystem.serve (.openFile name create)).Ends files
      (Follows plain (.openFile name create)) := by
  have fine := nameDefect_eq_none_iff.mpr ordinary
  rw [FileSystem.serve, ends_bind]
  change (update fun files : DirectoryFiles => files.openNamed name create).Ends files _
  rw [ends_update]
  cases named : plain.names name with
  | some number =>
    simp only [openNamed, fine, (shows.names name).trans named]
    apply Follows.of_reply _ (shows.give (shows.kept number (.inl ⟨name, named⟩)))
    simp only [PlainFiles.reply, named, DirectoryFiles.makeHandle, shows.given]
    rfl
  | none =>
    simp only [openNamed, fine, (shows.names name).trans named]
    cases create with
    | false => exact .of_reply (by simp only [PlainFiles.reply, named]; rfl) shows
    | true =>
      have stored : plain.made + 1 ∈ (files.makeFile name).2.contents := by
        rw [← shows.made]
        exact Std.ExtTreeMap.mem_insert_self
      have number : (files.makeFile name).1 = plain.made + 1 := congrArg (· + 1) shows.made
      have made := shows.make name
      simp only [if_true, number]
      apply Follows.of_reply _ (made.give stored)
      simp only [PlainFiles.reply, named, DirectoryFiles.makeHandle, made.given]
      rfl

/-- To read follows the plain files, if the offset can be sought. -/
theorem serve_read (shows : files.Shows plain) (file : FileHandle) (buffer : Bytes)
    (fits : offset ≤ offsetLimit) :
    (FileSystem.serve (.readInto file offset buffer)).Ends files
      (Follows plain (.readInto file offset buffer)) := by
  rw [FileSystem.serve, readInto, ends_bind, ends_bind]
  change (inspect fun files : DirectoryFiles => files.read file offset buffer.length).Ends files _
  rw [ends_inspect, DirectoryFiles.read]
  cases opened : plain.handles file with
  | none =>
    simp only [fileAt, shows.fileOf_unopened opened]
    exact .of_reply (by simp only [PlainFiles.reply, opened]) shows
  | some number =>
    obtain ⟨contents, found, stored⟩ := shows.fileOf opened
    simp only [fileAt, found, if_neg (Nat.not_lt.mpr fits), FileContents.read_eq_slice,
      shows.bytes number contents stored, ends_pure, fillStart_eq]
    exact .of_reply (by simp only [PlainFiles.reply, opened]) shows

/-- To write follows the plain files, except that an empty write changes nothing wherever it is. -/
theorem serve_write (shows : files.Shows plain) (file : FileHandle) (data : Bytes)
    (fits : offset + data.length < EphemeralFiles.lengthLimit) :
    (FileSystem.serve (.writeFile file offset data)).Ends files
      (Follows plain (FileRequest.atStart (.writeFile file offset data))) := by
  have reachable : EphemeralFiles.lengthLimit ≤ offsetLimit := by decide
  have short : offset + data.length ≤ offsetLimit := Nat.le_trans (Nat.le_of_lt fits) reachable
  have near : ¬ offsetLimit < offset :=
    Nat.not_lt.mpr (Nat.le_trans (Nat.le_add_right offset data.length) short)
  rw [FileSystem.serve, ends_bind]
  change (update fun files : DirectoryFiles => files.write file offset data).Ends files _
  rw [ends_update, DirectoryFiles.write]
  cases opened : plain.handles file with
  | none =>
    simp only [fileAt, shows.fileOf_unopened opened]
    cases data with
    | nil => exact .of_reply (by simp only [FileRequest.atStart, PlainFiles.reply, opened]) shows
    | cons first rest =>
      exact .of_reply (by simp only [FileRequest.atStart, PlainFiles.reply, opened]) shows
  | some number =>
    obtain ⟨contents, found, stored⟩ := shows.fileOf opened
    simp only [fileAt, found, if_neg near]
    cases data with
    | nil =>
      exact .of_reply (PlainFiles.reply_write_nothing opened (Nat.zero_le _) (by decide)) shows
    | cons first rest =>
      simp only [List.isEmpty_cons, Bool.false_eq_true, if_false, if_neg (Nat.not_lt.mpr short)]
      apply Follows.of_reply _ (shows.write stored offset (first :: rest))
      simp only [FileRequest.atStart, PlainFiles.reply, opened, if_neg (Nat.not_le.mpr fits)]
      rfl

/-- To ask for a length follows the plain files. -/
theorem serve_length (shows : files.Shows plain) (file : FileHandle) :
    (FileSystem.serve (.fileLength file)).Ends files (Follows plain (.fileLength file)) := by
  rw [FileSystem.serve, ends_bind]
  change (inspect fun files : DirectoryFiles => files.length file).Ends files _
  rw [ends_inspect, DirectoryFiles.length]
  cases opened : plain.handles file with
  | none =>
    rw [shows.fileOf_unopened opened]
    exact .of_reply (by simp only [PlainFiles.reply, opened]) shows
  | some number =>
    obtain ⟨contents, found, stored⟩ := shows.fileOf opened
    simp only [found, ends_pure, ← FileContents.length_toBytes,
      shows.bytes number contents stored]
    exact .of_reply (by simp only [PlainFiles.reply, opened]) shows

/-- To close a file follows the plain files. -/
theorem serve_close (shows : files.Shows plain) (file : FileHandle) :
    (FileSystem.serve (.closeFile file)).Ends files (Follows plain (.closeFile file)) := by
  rw [FileSystem.serve, ends_bind]
  change (update fun files : DirectoryFiles => files.close file).Ends files _
  rw [ends_update]
  cases opened : plain.handles file with
  | none =>
    simp only [DirectoryFiles.close, Std.ExtTreeMap.contains_eq_isSome_getElem?,
      (shows.handles file).trans opened]
    exact .of_reply (by simp only [PlainFiles.reply, opened]) shows
  | some number =>
    simp only [DirectoryFiles.close, Std.ExtTreeMap.contains_eq_isSome_getElem?,
      (shows.handles file).trans opened, Option.isSome_some, if_true]
    exact .of_reply (by simp only [PlainFiles.reply, opened]; rfl) (shows.close file)

/-- To remove a file follows the plain files, if the name is an ordinary one. -/
theorem serve_remove (shows : files.Shows plain) (ordinary : OrdinaryName name) :
    (FileSystem.serve (.removeFile name)).Ends files (Follows plain (.removeFile name)) := by
  have fine := nameDefect_eq_none_iff.mpr ordinary
  rw [FileSystem.serve, ends_bind]
  change (update fun files : DirectoryFiles => files.remove name).Ends files _
  rw [ends_update]
  cases named : plain.names name with
  | none =>
    simp only [DirectoryFiles.remove, fine, Std.ExtTreeMap.contains_eq_isSome_getElem?,
      (shows.names name).trans named]
    exact .of_reply (by simp only [PlainFiles.reply, named]) shows
  | some number =>
    simp only [DirectoryFiles.remove, fine, Std.ExtTreeMap.contains_eq_isSome_getElem?,
      (shows.names name).trans named, Option.isSome_some, if_true]
    exact .of_reply (by simp only [PlainFiles.reply, named]; rfl) (shows.remove name)

/-- A call that fits is answered as by the plain files, except that a write of nothing is
answered as one at the start of the file. -/
theorem serve (shows : files.Shows plain) (request : FileRequest) (fits : request.Fits) :
    (FileSystem.serve request).Ends files (Follows plain request.atStart) := by
  cases request with
  | openFile name create => exact shows.serve_open fits create
  | readInto file offset buffer => exact shows.serve_read file buffer fits
  | writeFile file offset data => exact shows.serve_write file data fits
  | fileLength file => exact shows.serve_length file
  | closeFile file => exact shows.serve_close file
  | removeFile name => exact shows.serve_remove fits

/-- All requests of a list are answered as the plain files answer them, if they fit. -/
theorem answers_eq (shows : files.Shows plain) (requests : List FileRequest)
    (fit : ∀ request ∈ requests, request.Fits) :
    FileSystem.answers files requests = plain.answers (requests.map FileRequest.atStart) := by
  induction requests generalizing files plain with
  | nil => rfl
  | cons request requests ih =>
    obtain ⟨first, others⟩ := List.forall_mem_cons.mp fit
    obtain ⟨answer, shown⟩ := shows.serve request first
    rw [FileSystem.answers, List.map_cons, PlainFiles.answers, answer, ih shown others]

end Shows

end DirectoryFiles

/-! ### Where both answer alike -/

namespace EphemeralFiles

variable {files : EphemeralFiles} {plain : PlainFiles}

/-- Whether a call writes no bytes past the end of an open file. -/
def writesPastEnd (files : EphemeralFiles) : FileRequest → Bool
  | .writeFile file offset [] =>
      match files.length file with
      | .ok length => decide (length < offset)
      | .error _ => false
  | _ => false

/-- Along calls, none writes no bytes past the end of an open file. -/
def StaysWithin (files : EphemeralFiles) : List FileRequest → Prop
  | [] => True
  | request :: requests =>
      files.writesPastEnd request = false ∧
        StaysWithin ((FileSystem.serve request).outcome files).2 requests

instance : (files : EphemeralFiles) → (requests : List FileRequest) →
    Decidable (files.StaysWithin requests)
  | _, [] => inferInstanceAs (Decidable True)
  | files, request :: requests =>
      have := instDecidableStaysWithin ((FileSystem.serve request).outcome files).2 requests
      inferInstanceAs (Decidable (_ ∧ _))

namespace Shows

/-- A call that writes nothing past the end is answered as if it wrote at the start. -/
theorem reply_atStart (shows : files.Shows plain) (request : FileRequest) (fits : request.Fits)
    (within : files.writesPastEnd request = false) :
    plain.reply request = plain.reply request.atStart := by
  cases request with
  | openFile | readInto | fileLength | closeFile | removeFile => rfl
  | writeFile file offset data =>
    cases data with
    | cons first rest => rfl
    | nil =>
      simp only [FileRequest.atStart]
      cases opened : plain.handles file with
      | none => simp only [PlainFiles.reply, opened]
      | some number =>
        obtain ⟨inode, found, shown⟩ := shows.inodeOf opened
        have reaches : offset ≤ (plain.bytes number).length := by
          simp only [writesPastEnd, EphemeralFiles.length, found, decide_eq_false_iff_not,
            Nat.not_lt] at within
          rwa [← shown.bytes, FileContents.length_toBytes]
        rw [PlainFiles.reply_write_nothing opened reaches fits,
          PlainFiles.reply_write_nothing opened (Nat.zero_le _) (by decide)]

/-- Within the files, it makes no difference where an empty write is. -/
theorem answers_atStart (shows : files.Shows plain) (requests : List FileRequest)
    (fit : ∀ request ∈ requests, request.Fits) (within : files.StaysWithin requests) :
    plain.answers requests = plain.answers (requests.map FileRequest.atStart) := by
  induction requests generalizing files plain with
  | nil => rfl
  | cons request requests ih =>
    obtain ⟨first, others⟩ := List.forall_mem_cons.mp fit
    obtain ⟨here, later⟩ := within
    have same := shows.reply_atStart request first here
    have shown := (shows.serve request).2
    rw [List.map_cons, PlainFiles.answers, PlainFiles.answers, ih shown others later, same]

end Shows

end EphemeralFiles

/-- Files of a directory answer calls that both can serve as files in memory do if every write
of no bytes is made at the start of its file. So the two answer alike if no such write goes
past the end of its file. -/
theorem DirectoryFiles.answers_agree (requests : List FileRequest)
    (fit : ∀ request ∈ requests, request.Fits) :
    FileSystem.answers DirectoryFiles.empty requests =
        FileSystem.answers EphemeralFiles.empty (requests.map FileRequest.atStart) ∧
      (EphemeralFiles.empty.StaysWithin requests →
        FileSystem.answers EphemeralFiles.empty requests =
          FileSystem.answers DirectoryFiles.empty requests) := by
  have directory := DirectoryFiles.Shows.empty.answers_eq requests fit
  have memory := EphemeralFiles.Shows.empty.answers_eq
  constructor
  · rw [directory, memory]
  · intro within
    rw [directory, memory]
    exact EphemeralFiles.Shows.empty.answers_atStart requests fit within

/-- A file is removed while it is open, and grows past a gap. A write of nothing at its end
tells nobody apart. -/
def removedAndGrown : List FileRequest :=
  [.openFile "a" true, .removeFile "a", .writeFile 1 4 [7], .writeFile 1 5 [],
    .readInto 1 0 [9, 9, 9, 9, 9, 9, 9], .openFile "a" false]

/-- A file that was removed and grows through its handle is answered alike by both. -/
theorem DirectoryFiles.answers_agree_removed :
    (∀ request ∈ removedAndGrown, request.Fits) ∧
      EphemeralFiles.empty.StaysWithin removedAndGrown ∧
      FileSystem.answers EphemeralFiles.empty removedAndGrown =
        FileSystem.answers DirectoryFiles.empty removedAndGrown :=
  ⟨by decide +kernel, by decide +kernel,
    (answers_agree removedAndGrown (by decide +kernel)).2 (by decide +kernel)⟩

/-- Nothing is written ten bytes past the end of an empty file, which is then measured. -/
def emptyWritePastEnd : List FileRequest :=
  [.openFile "a" true, .writeFile 1 10 [], .fileLength 1]

/-- A write of nothing past the end makes a file in memory grow, and one of a directory not. -/
theorem empty_write_tells_apart :
    (∀ request ∈ emptyWritePastEnd, request.Fits) ∧
      FileSystem.answers EphemeralFiles.empty emptyWritePastEnd =
        [.ok (.opened 1), .ok (.written 0), .ok (.length 10)] ∧
      FileSystem.answers DirectoryFiles.empty emptyWritePastEnd =
        [.ok (.opened 1), .ok (.written 0), .ok (.length 0)] := by
  decide +kernel

end VirtualMemory
