/-
Module: VirtualMemory.Proofs.Storage.Bytes
Purpose: Pages within a file, and file systems that keep the bytes of open files.
Main exports:
  FileContents.pageAt and its laws; ByteFiles and OpenFilesOnly, with instances for files in
  memory and for file systems whose calls fail as planned
-/
import VirtualMemory.Proofs.Storage.SwapFile
import VirtualMemory.Storage.Ephemeral
import VirtualMemory.Storage.Faulty

namespace VirtualMemory

open VirtualMemory.Action FileSystem

namespace FileContents

/-- The page of bytes from an offset on. -/
def pageAt (contents : FileContents) (offset : Nat) : Page :=
  { bytes := (List.range pageBytes).map fun index => contents.byteAt (offset + index)
    length_bytes := by rw [List.length_map, List.length_range] }

theorem getElem?_pageAt (contents : FileContents) (offset : Nat) {index : Nat}
    (inside : index < pageBytes) :
    (contents.pageAt offset).bytes[index]? = some (contents.byteAt (offset + index)) := by
  simp only [pageAt, List.getElem?_map, List.getElem?_range inside, Option.map_some]

theorem pageAt_eq {contents : FileContents} {offset : Nat} {page : Page}
    (same : ∀ index < pageBytes, page.bytes[index]? = some (contents.byteAt (offset + index))) :
    contents.pageAt offset = page := by
  apply Page.eq_of_bytes
  apply List.ext_getElem?
  intro index
  by_cases inside : index < pageBytes
  · rw [getElem?_pageAt contents offset inside, same index inside]
  · rw [List.getElem?_eq_none (by rw [Page.length_bytes]; exact Nat.not_lt.mp inside),
      List.getElem?_eq_none (by rw [Page.length_bytes]; exact Nat.not_lt.mp inside)]

/-- Reading a whole page answers it. -/
theorem pageAt_of_read {contents : FileContents} {offset asked : Nat} {page : Page}
    (read : contents.read offset asked = page.bytes) : contents.pageAt offset = page := by
  have size := page.length_bytes
  rw [← read, length_read] at size
  apply pageAt_eq
  intro index inside
  rw [← read]
  exact contents.getElem?_read (by omega)

/-- A page that lies within the contents can be read. -/
theorem read_pageAt {contents : FileContents} {offset : Nat}
    (inside : offset + pageBytes ≤ contents.length) :
    contents.read offset pageBytes = (contents.pageAt offset).bytes := by
  have size : (contents.read offset pageBytes).length = pageBytes := by
    rw [length_read]
    omega
  have whole : contents.read offset pageBytes =
      (⟨contents.read offset pageBytes, size⟩ : Page).bytes := rfl
  rw [pageAt_of_read whole]

/-- A page that was written is there. -/
theorem pageAt_write_same (contents : FileContents) (offset : Nat) (page : Page) :
    (contents.write offset page.bytes).pageAt offset = page := by
  have size := page.length_bytes
  apply pageAt_eq
  intro index inside
  rw [byteAt_write, if_pos (by omega), Nat.add_sub_cancel_left, List.getD_eq_getElem?_getD,
    List.getElem?_eq_getElem (by omega), Option.getD_some]

/-- A page stays the same if its bytes do. -/
theorem pageAt_congr {contents next : FileContents} {offset : Nat}
    (same : ∀ position, offset ≤ position → position < offset + pageBytes →
      next.byteAt position = contents.byteAt position) :
    next.pageAt offset = contents.pageAt offset := by
  apply pageAt_eq
  intro index inside
  rw [getElem?_pageAt contents offset inside, same (offset + index) (by omega) (by omega)]

theorem length_write (contents : FileContents) (offset : Nat) (data : Bytes) :
    (contents.write offset data).length = max contents.length (offset + data.length) := rfl

end FileContents

/-- A file system that keeps the bytes of its open files. Its calls may fail, and reads and
writes may be cut short, unless it is said to be faultless. -/
class ByteFiles (φ : Type) [FileSystem φ] where
  /-- The bytes of an open file. -/
  contents : φ → FileHandle → Option FileContents
  /-- Whether calls fail only for want of space. -/
  Faultless : Prop
  opened : ∀ (files : φ) (name : String),
    (openFile name true).Ends files fun result next =>
      ∀ handle, result = .ok handle → ∃ bytes, contents next handle = some bytes
  created : Faultless → ∀ (files : φ) (name : String),
    (SwapFile.create name).Ends files fun result _ => ∃ handle, result = .ok handle
  read : ∀ {files : φ} {file : FileHandle} {bytes : FileContents},
    contents files file = some bytes → ∀ offset length : Nat,
      (readFile file offset length).Ends files fun result next =>
        contents next file = some bytes ∧
          match result with
          | .ok data => ∃ asked ≤ length, data = bytes.read offset asked ∧
              (Faultless → asked = length)
          | .error _ => ¬ Faultless
  written : ∀ {files : φ} {file : FileHandle} {bytes : FileContents},
    contents files file = some bytes → ∀ (offset : Nat) (data : Bytes),
      (writeFile file offset data).Ends files fun result next =>
        match result with
        | .ok count => count ≤ data.length ∧
            contents next file = some (bytes.write offset (data.take count)) ∧
            (Faultless → count = data.length)
        | .error _ => contents next file = some bytes ∧
            (Faultless → EphemeralFiles.lengthLimit ≤ offset + data.length)

/-- A file system that writes to no file but an open one. -/
class OpenFilesOnly (φ : Type) [FileSystem φ] [ByteFiles φ] : Prop where
  refused : ∀ {files : φ} {file : FileHandle}, ByteFiles.contents files file = none →
    ∀ (offset : Nat) (data : Bytes),
      (writeFile file offset data).Ends files fun result _ => ∃ cause, result = .error cause

namespace EphemeralFiles

/-- The bytes that a handle gives access to. -/
def contentsOf (files : EphemeralFiles) (file : FileHandle) : Option FileContents :=
  match files.inodeOf file with
  | .ok (_, inode) => some inode.data
  | .error _ => none

theorem exists_inodeOf {files : EphemeralFiles} {file : FileHandle} {bytes : FileContents}
    (found : files.contentsOf file = some bytes) :
    ∃ number inode, files.inodeOf file = .ok (number, inode) ∧ inode.data = bytes := by
  simp only [contentsOf] at found
  split at found
  · next number inode known =>
    cases found
    exact ⟨number, inode, known, rfl⟩
  · cases found

theorem inodeOf_eq_ok_iff {files : EphemeralFiles} {file : FileHandle} {number : Nat}
    {inode : Inode} :
    files.inodeOf file = .ok (number, inode) ↔
      files.handles[file]? = some number ∧ files.inodes[number]? = some inode := by
  simp only [inodeOf]
  cases files.handles[file]? with
  | none => simp
  | some known =>
    simp only
    cases present : files.inodes[known]? with
    | none =>
      simp only [reduceCtorEq, Option.some.injEq, false_iff, not_and]
      rintro rfl
      simp [present]
    | some other =>
      simp only [Except.ok.injEq, Prod.mk.injEq, Option.some.injEq]
      constructor
      · rintro ⟨rfl, rfl⟩
        exact ⟨rfl, present⟩
      · rintro ⟨rfl, found⟩
        rw [present] at found
        exact ⟨rfl, Option.some.inj found⟩

/-- A handle that was just made gives access to its file. -/
theorem contentsOf_of_makeHandle {files next : EphemeralFiles} {number : Nat}
    {handle : FileHandle} (made : files.makeHandle number = .ok (handle, next)) :
    ∃ bytes, next.contentsOf handle = some bytes := by
  simp only [makeHandle] at made
  split at made
  · cases made
  · next inode known =>
    cases made
    refine ⟨inode.data, ?_⟩
    simp [contentsOf, inodeOf]

theorem makeHandle_of_makeFile (files : EphemeralFiles) (name : String) :
    ∃ handle next, (files.makeFile name).2.makeHandle (files.makeFile name).1 =
      .ok (handle, next) := by
  simp [makeFile, makeHandle]

theorem openNamed_of_unnamed {files : EphemeralFiles} {name : String}
    (unnamed : files.names[name]? = none) :
    ∃ handle next, files.openNamed name true = .ok (handle, next) := by
  obtain ⟨handle, next, made⟩ := files.makeHandle_of_makeFile name
  exact ⟨handle, next, by simp only [openNamed, unnamed, if_true, made]⟩

theorem names_unreference (files : EphemeralFiles) (number : Nat) (change : Inode → Inode) :
    (files.unreference number change).names = files.names := by
  simp only [unreference, freeUnreferenced]
  split
  · rfl
  · split
    · rfl
    · split <;> rfl

/-- After its name is removed, no file has it. -/
theorem names_of_remove {files next : EphemeralFiles} {name : String}
    (removed : files.remove name = .ok ((), next)) : next.names[name]? = none := by
  simp only [remove] at removed
  split at removed
  · cases removed
  · cases removed
    simp [names_unreference]

/-- Files in memory have no faults, and are never cut short. -/
instance : ByteFiles EphemeralFiles where
  contents := contentsOf
  Faultless := True
  opened := by
    intro files name
    change (update fun files : EphemeralFiles => files.openNamed name true).Ends files _
    rw [ends_update]
    cases opened : files.openNamed name true with
    | error cause => exact fun _ => no_answer
    | ok pair =>
      intro handle same
      cases same
      simp only [openNamed] at opened
      split at opened
      · exact contentsOf_of_makeHandle opened
      · exact contentsOf_of_makeHandle opened
  created := by
    intro _ files name
    have opens : ∀ {files : EphemeralFiles}, files.names[name]? = none →
        ((openFile name true : Action EphemeralFiles FileError FileHandle).causing
          SwapError.files).Ends files fun result _ => ∃ handle, result = .ok handle := by
      intro files unnamed
      obtain ⟨handle, next, opened⟩ := openNamed_of_unnamed unnamed
      change ((update fun files : EphemeralFiles => files.openNamed name true).causing _).Ends
        files _
      rw [ends_causing, ends_update, opened]
      exact ⟨handle, rfl⟩
    rw [SwapFile.create, ends_bind, ends_attempt]
    change (update fun files : EphemeralFiles => files.remove name).Ends files _
    rw [ends_update]
    cases removed : files.remove name with
    | ok pair =>
      exact opens (names_of_remove removed)
    | error cause =>
      simp only [EphemeralFiles.remove] at removed
      split at removed
      · next unnamed =>
        cases removed
        exact opens unnamed
      · cases removed
  read := by
    intro files file bytes known offset length
    obtain ⟨number, inode, found, rfl⟩ := exists_inodeOf known
    change (inspect fun files : EphemeralFiles => files.read file offset length).Ends files _
    rw [ends_inspect, EphemeralFiles.read, found]
    exact ⟨known, length, Nat.le_refl length, rfl, fun _ => rfl⟩
  written := by
    intro files file bytes known offset data
    obtain ⟨number, inode, found, rfl⟩ := exists_inodeOf known
    obtain ⟨handled, present⟩ := inodeOf_eq_ok_iff.mp found
    change (update fun files : EphemeralFiles => files.write file offset data).Ends files _
    rw [ends_update, EphemeralFiles.write, found]
    simp only
    by_cases full : lengthLimit ≤ offset + data.length
    · rw [if_pos full]
      exact ⟨known, fun _ => full⟩
    · rw [if_neg full]
      refine ⟨Nat.le_refl _, ?_, fun _ => rfl⟩
      have after : EphemeralFiles.inodeOf
          { files with
            inodes := files.inodes.insert number
              { inode with data := inode.data.write offset data } } file =
          .ok (number, { inode with data := inode.data.write offset data }) :=
        inodeOf_eq_ok_iff.mpr ⟨handled, Std.ExtTreeMap.getElem?_insert_self⟩
      rw [contentsOf, after, List.take_length]

instance : OpenFilesOnly EphemeralFiles where
  refused := by
    intro files file unknown offset data
    change (update fun files : EphemeralFiles => files.write file offset data).Ends files _
    rw [ends_update, EphemeralFiles.write]
    cases found : files.inodeOf file with
    | error cause => exact ⟨cause, rfl⟩
    | ok pair =>
      have known : files.contentsOf file = none := unknown
      rw [contentsOf, found] at known
      cases known

end EphemeralFiles

namespace FaultyFiles

variable {φ : Type}

@[simp] theorem base_plan (files : FaultyFiles φ) (call : FileCall) (fault : Fault) :
    (files.plan call fault).base = files.base := by
  cases call <;> rfl

/-- A call passes, or is cut to some length, or does not reach the files. -/
theorem guarded_ends {α : Type} {call : FileCall} {action : Action φ FileError α}
    {shortened : Nat → Action φ FileError α} {files : FaultyFiles φ}
    {post : Except FileError α → φ → Prop} (passed : action.Ends files.base post)
    (cut : ∀ limit, (shortened limit).Ends files.base post)
    (failed : ∀ cause, post (.error cause) files.base) :
    (guarded call action shortened).Ends files fun result next => post result next.base := by
  simp only [guarded, meet, ends_bind, ends_always]
  split
  · simp only [onBase, ends_within, base_plan]
    exact passed
  · next limit _ =>
    simp only [onBase, ends_within, base_plan]
    exact cut limit
  · next cause _ =>
    simp only [ends_throw, base_plan]
    exact failed cause

/-- A read that is not planned to fail or to be cut short passes. -/
theorem ends_readFile_of_pass [FileSystem φ] {files : FaultyFiles φ} {file : FileHandle}
    {offset length : Nat} (passes : files.onRead.schedule files.onRead.calls = none)
    {post : Except FileError Bytes → Prop}
    (passed : (readFile file offset length).Ends files.base fun result _ => post result) :
    (readFile file offset length).Ends files fun result _ => post result := by
  change (guarded .read (readFile file offset length) _).Ends files _
  have planned : (files.fault .read).schedule (files.fault .read).calls = none := passes
  simp only [guarded, meet, ends_bind, ends_always, planned, onBase, ends_within, base_plan]
  exact passed

/-- Whatever the plans are, the files that the plans are for keep their bytes. -/
instance [FileSystem φ] [ByteFiles φ] : ByteFiles (FaultyFiles φ) where
  contents files := ByteFiles.contents files.base
  Faultless := False
  opened := by
    intro files name
    exact guarded_ends (ByteFiles.opened files.base name)
      (fun _ => ByteFiles.opened files.base name) (fun _ _ => no_answer)
  created := False.elim
  read := by
    intro files file bytes known offset length
    have partly : ∀ limit ≤ length, (readFile file offset limit).Ends files.base
        fun result next => ByteFiles.contents next file = some bytes ∧
          match result with
          | .ok data => ∃ asked ≤ length, data = bytes.read offset asked ∧
              (False → asked = length)
          | .error _ => ¬ False := by
      intro limit less
      apply Ends.mono (ByteFiles.read known offset limit)
      intro result next holds
      rcases holds with ⟨same, told⟩
      refine ⟨same, ?_⟩
      cases result with
      | error cause => exact not_false
      | ok data =>
        rcases told with ⟨asked, fewer, answered, _⟩
        exact ⟨asked, Nat.le_trans fewer less, answered, False.elim⟩
    exact guarded_ends (partly length (Nat.le_refl length))
      (fun limit => partly (min limit length) (Nat.min_le_right limit length))
      (fun _ => ⟨known, not_false⟩)
  written := by
    intro files file bytes known offset data
    have partly : ∀ limit, (writeFile file offset (data.take limit)).Ends files.base
        fun result next =>
          match result with
          | .ok count => count ≤ data.length ∧
              ByteFiles.contents next file = some (bytes.write offset (data.take count)) ∧
              (False → count = data.length)
          | .error _ => ByteFiles.contents next file = some bytes ∧
              (False → EphemeralFiles.lengthLimit ≤ offset + data.length) := by
      intro limit
      apply Ends.mono (ByteFiles.written known offset (data.take limit))
      intro result next told
      cases result with
      | error cause => exact ⟨told.1, False.elim⟩
      | ok count =>
        rcases told with ⟨fewer, stored, _⟩
        rw [List.length_take] at fewer
        rw [List.take_take, Nat.min_eq_left (by omega)] at stored
        exact ⟨by omega, stored, False.elim⟩
    have whole := partly data.length
    rw [List.take_length] at whole
    exact guarded_ends whole partly (fun _ => ⟨known, False.elim⟩)

instance [FileSystem φ] [ByteFiles φ] [OpenFilesOnly φ] : OpenFilesOnly (FaultyFiles φ) where
  refused := by
    intro files file unknown offset data
    have closed : ByteFiles.contents files.base file = none := unknown
    have refused : ∀ data, (writeFile file offset data).Ends files.base
        fun result _ => ∃ cause, result = .error cause :=
      OpenFilesOnly.refused closed offset
    exact guarded_ends (refused data) (fun limit => refused (data.take limit))
      (fun cause => ⟨cause, rfl⟩)

end FaultyFiles

end VirtualMemory
