/-
Module: VirtualMemory.Proofs.Storage.Inodes
Purpose: Files in memory neither leak nor dangle: what their inodes say of names and handles
  is so after any calls.
Main exports:
  FileSystem.afterAll; Inode.Needed, EphemeralFiles.NothingLeaks, handlesOf, Tidy, stays_tidy

That nothing dangles follows from the plain files that the files in memory show. Plain files
are never freed, so that nothing leaks is an invariant of its own.
-/
import VirtualMemory.Proofs.Storage.PlainFiles

namespace VirtualMemory

open VirtualMemory.Action FileSystem

namespace FileSystem

variable {φ : Type} [FileSystem φ]

/-- The files after calls, one after another. -/
def afterAll (files : φ) (requests : List FileRequest) : φ :=
  requests.foldl (fun files request => ((serve request).outcome files).2) files

/-- What each call preserves holds after all of them. -/
theorem afterAll_of_preserves {invariant : φ → Prop}
    (preserves : ∀ request, (serve request : Action φ FileError FileReply).Preserves invariant)
    {files : φ} (holds : invariant files) (requests : List FileRequest) :
    invariant (afterAll files requests) := by
  induction requests generalizing files with
  | nil => exact holds
  | cons request requests ih =>
    apply ih
    exact preserves request files holds

end FileSystem

/-! ### Nothing leaks -/

/-- An inode has a name or a handle left. -/
def Inode.Needed (inode : Inode) : Prop :=
  inode.linked = true ∨ 0 < inode.openHandles

namespace EphemeralFiles

variable {files next : EphemeralFiles} {plain : PlainFiles} {name : String}
  {file : FileHandle} {number : Nat}

/-- No inode is kept without need. -/
def NothingLeaks (files : EphemeralFiles) : Prop :=
  ∀ (number : Nat) (inode : Inode), files.inodes[number]? = some inode → inode.Needed

namespace NothingLeaks

theorem empty : EphemeralFiles.empty.NothingLeaks := by
  intro number inode found
  cases Std.ExtTreeMap.getElem?_empty.symm.trans found

/-- A change of one inode leaks nothing if that inode stays needed or goes. -/
theorem change (tight : files.NothingLeaks) {changed : Option Inode}
    (inodes : Tabulates next.inodes
      (Function.update (fun other => files.inodes[other]?) number changed))
    (needed : ∀ inode, changed = some inode → inode.Needed) : next.NothingLeaks := by
  intro other inode found
  rw [inodes, Function.update_apply] at found
  split at found
  · exact needed inode found
  · exact tight other inode found

/-- Whatever is taken away from an inode, it goes when it is not needed any more. -/
theorem unreference (tight : files.NothingLeaks) (number : Nat) (change : Inode → Inode) :
    (files.unreference number change).NothingLeaks := by
  cases found : files.inodes[number]? with
  | none =>
    simp only [EphemeralFiles.unreference, found]
    exact tight
  | some inode =>
    apply tight.change (inodes_unreference change found)
    intro kept same
    split at same
    · cases same
    · rename_i needed
      cases same
      by_cases linked : (change inode).linked
      · exact .inl linked
      · apply Or.inr
        apply Nat.pos_of_ne_zero
        intro unopened
        exact needed (by simp [linked, unopened])

theorem makeFile (tight : files.NothingLeaks) (name : String) :
    (files.makeFile name).2.NothingLeaks :=
  tight.change (inodes_insert files _ _) fun inode same => by
    cases same
    exact .inl rfl

theorem makeHandle (tight : files.NothingLeaks)
    (made : files.makeHandle number = .ok (file, next)) : next.NothingLeaks := by
  simp only [EphemeralFiles.makeHandle] at made
  split at made
  · cases made
  · cases made
    apply tight.change (inodes_insert files _ _)
    intro inode same
    cases same
    exact .inr (Nat.succ_pos _)

theorem openNamed (tight : files.NothingLeaks) {create : Bool}
    (opened : files.openNamed name create = .ok (file, next)) : next.NothingLeaks := by
  simp only [EphemeralFiles.openNamed] at opened
  split at opened
  · exact tight.makeHandle opened
  · split at opened
    · exact (tight.makeFile name).makeHandle opened
    · cases opened

theorem write (tight : files.NothingLeaks) {offset count : Nat} {data : Bytes}
    (wrote : files.write file offset data = .ok (count, next)) : next.NothingLeaks := by
  simp only [EphemeralFiles.write] at wrote
  split at wrote
  · cases wrote
  · rename_i number inode found
    split at wrote
    · cases wrote
    · cases wrote
      apply tight.change (inodes_insert files _ _)
      intro written same
      cases same
      exact tight number inode (inodeOf_eq_ok_iff.mp found).2

/-- Nothing leaks when a handle is closed, for a file goes with its last one. -/
theorem close (tight : files.NothingLeaks) (closed : files.close file = .ok ((), next)) :
    next.NothingLeaks := by
  simp only [EphemeralFiles.close] at closed
  split at closed
  · cases closed
  · rename_i number _
    cases closed
    have forgotten : NothingLeaks { files with handles := files.handles.erase file } := tight
    exact forgotten.unreference number _

/-- Nothing leaks when a file is removed, for one without handles goes at once. -/
theorem remove (tight : files.NothingLeaks) (removed : files.remove name = .ok ((), next)) :
    next.NothingLeaks := by
  simp only [EphemeralFiles.remove] at removed
  split at removed
  · cases removed
  · rename_i number _
    cases removed
    have forgotten : NothingLeaks { files with names := files.names.erase name } := tight
    exact forgotten.unreference number _

/-- No call leaks an inode. -/
theorem serve (request : FileRequest) :
    (FileSystem.serve request : Action EphemeralFiles FileError FileReply).Preserves
      NothingLeaks := by
  cases request with
  | openFile name create =>
    have opens : (openFile name create : Action EphemeralFiles _ _).Preserves NothingLeaks :=
      .update fun _ tight _ _ opened => tight.openNamed opened
    exact opens.bind fun _ => .pure _
  | readInto file offset buffer =>
    have reads : (readFile file offset buffer.length : Action EphemeralFiles _ _).Preserves
        NothingLeaks := .inspect _
    exact (reads.bind fun _ => .pure _).bind fun _ => .pure _
  | writeFile file offset data =>
    have writes : (writeFile file offset data : Action EphemeralFiles _ _).Preserves
        NothingLeaks := .update fun _ tight _ _ wrote => tight.write wrote
    exact writes.bind fun _ => .pure _
  | fileLength file =>
    have measures : (fileLength file : Action EphemeralFiles _ _).Preserves NothingLeaks :=
      .inspect _
    exact measures.bind fun _ => .pure _
  | closeFile file =>
    have closes : (closeFile file : Action EphemeralFiles _ _).Preserves NothingLeaks :=
      .update fun _ tight _ _ closed => tight.close closed
    exact closes.bind fun _ => .pure _
  | removeFile name =>
    have removes : (removeFile name : Action EphemeralFiles _ _).Preserves NothingLeaks :=
      .update fun _ tight _ _ removed => tight.remove removed
    exact removes.bind fun _ => .pure _

end NothingLeaks

/-! ### Nothing dangles -/

/-- The handles that refer to an inode. -/
def handlesOf (files : EphemeralFiles) (number : Nat) : List FileHandle :=
  files.handles.keys.filter fun handle => files.handles[handle]? = some number

@[simp] theorem mem_handlesOf {files : EphemeralFiles} {number : Nat} {handle : FileHandle} :
    handle ∈ files.handlesOf number ↔ files.handles[handle]? = some number := by
  rw [handlesOf, List.mem_filter, Std.ExtTreeMap.mem_keys, decide_eq_true_iff,
    Std.ExtTreeMap.mem_iff_isSome_getElem?]
  constructor
  · exact And.right
  · intro refers
    exact ⟨by rw [refers, Option.isSome_some], refers⟩

theorem nodup_handlesOf (files : EphemeralFiles) (number : Nat) :
    (files.handlesOf number).Nodup :=
  Std.ExtTreeMap.nodup_keys.filter _

/-- Names, handles and inodes fit together. -/
structure Tidy (files : EphemeralFiles) : Prop where
  /-- What a name refers to exists. -/
  named : ∀ (name : String) (number : Nat), files.names[name]? = some number →
    number ∈ files.inodes
  /-- What a handle refers to exists, and counts a handle at least, which closing this one
  takes away. -/
  handled : ∀ (handle : FileHandle) (number : Nat), files.handles[handle]? = some number →
    ∃ inode, files.inodes[number]? = some inode ∧ 0 < inode.openHandles
  /-- An inode counts the handles that refer to it. -/
  counted : ∀ (number : Nat) (inode : Inode), files.inodes[number]? = some inode →
    inode.openHandles = (files.handlesOf number).length
  /-- An inode is linked if exactly one name refers to it, and only then. -/
  linked : ∀ (number : Nat) (inode : Inode), files.inodes[number]? = some inode →
    (inode.linked = true ↔ ∃! name : String, files.names[name]? = some number)
  /-- No two names refer to the same. -/
  distinct : ∀ (first second : String) (number : Nat), files.names[first]? = some number →
    files.names[second]? = some number → first = second
  /-- An inode is there for a name or for handles. -/
  needed : ∀ (number : Nat) (inode : Inode), files.inodes[number]? = some inode → inode.Needed
  /-- There is an inode where a name or a handle refers to it, and only there. -/
  present : ∀ number, number ∈ files.inodes ↔
    (∃ name : String, files.names[name]? = some number) ∨ files.handlesOf number ≠ []
  /-- Inodes are numbered up to the last one made. -/
  numbered : ∀ number, number ∈ files.inodes → number ≤ files.lastInode
  /-- Handles are numbered up to the last one given. -/
  given : ∀ handle, handle ∈ files.handles → handle ≤ files.lastHandle

theorem mem_inodes_iff {files : EphemeralFiles} {number : Nat} :
    number ∈ files.inodes ↔ ∃ inode, files.inodes[number]? = some inode := by
  rw [Std.ExtTreeMap.mem_iff_isSome_getElem?, Option.isSome_iff_exists]

namespace Shows

/-- What an inode counts as open are the handles that refer to it. -/
theorem openHandles_eq (shows : files.Shows plain) {inode : Inode}
    (found : files.inodes[number]? = some inode) :
    inode.openHandles = (files.handlesOf number).length := by
  obtain ⟨holders, holds, count⟩ := (shows.shown number inode found).counted
  have same : holders = (files.handlesOf number).toFinset := by
    ext handle
    rw [holds, List.mem_toFinset, mem_handlesOf, shows.handles handle]
  rw [← count, same, List.toFinset_card_of_nodup (files.nodup_handlesOf number)]

/-- What is shown and does not leak is tidy. -/
theorem tidy (shows : files.Shows plain) (tight : files.NothingLeaks) : files.Tidy := by
  have referred : ∀ number, plain.Refers number → number ∈ files.inodes :=
    fun number refers => mem_inodes_iff.mpr (shows.kept number refers)
  have linked : ∀ (number : Nat) (inode : Inode), files.inodes[number]? = some inode →
      (inode.linked = true ↔ ∃ name : String, files.names[name]? = some number) := by
    intro number inode found
    simp only [shows.names _]
    exact (shows.shown number inode found).linked
  have distinct : ∀ (first second : String) (number : Nat), files.names[first]? = some number →
      files.names[second]? = some number → first = second := by
    intro first second number one two
    rw [shows.names] at one two
    exact shows.distinct first second number one two
  constructor
  case named =>
    intro name number named
    exact referred number (.inl ⟨name, (shows.names name).symm.trans named⟩)
  case handled =>
    intro handle number refers
    have opened := (shows.handles handle).symm.trans refers
    obtain ⟨inode, found⟩ := shows.kept number (.inr ⟨handle, opened⟩)
    refine ⟨inode, found, ?_⟩
    rw [shows.openHandles_eq found]
    exact List.length_pos_of_mem (mem_handlesOf.mpr refers)
  case counted => exact fun number inode found => shows.openHandles_eq found
  case linked =>
    intro number inode found
    rw [linked number inode found]
    constructor
    · rintro ⟨name, named⟩
      exact ⟨name, named, fun other otherNamed => distinct other name number otherNamed named⟩
    · exact ExistsUnique.exists
  case distinct => exact distinct
  case needed => exact tight
  case present =>
    intro number
    constructor
    · intro there
      obtain ⟨inode, found⟩ := mem_inodes_iff.mp there
      cases tight number inode found with
      | inl named => exact .inl ((linked number inode found).mp named)
      | inr opened =>
        rw [shows.openHandles_eq found] at opened
        exact .inr (List.ne_nil_of_length_pos opened)
    · rintro (⟨name, named⟩ | opened)
      · exact referred number (.inl ⟨name, (shows.names name).symm.trans named⟩)
      · obtain ⟨handle, refers⟩ := List.exists_mem_of_ne_nil _ opened
        have held := (shows.handles handle).symm.trans (mem_handlesOf.mp refers)
        exact referred number (.inr ⟨handle, held⟩)
  case numbered =>
    intro number there
    obtain ⟨inode, found⟩ := mem_inodes_iff.mp there
    rw [shows.made]
    exact shows.numbered number inode found
  case given =>
    intro handle there
    rw [Std.ExtTreeMap.mem_iff_isSome_getElem?, Option.isSome_iff_exists] at there
    obtain ⟨number, refers⟩ := there
    rw [shows.given]
    exact shows.handled handle number ((shows.handles handle).symm.trans refers)

end Shows

/-- After any calls, names, handles and inodes of the files in memory fit together. -/
theorem stays_tidy (requests : List FileRequest) :
    (FileSystem.afterAll EphemeralFiles.empty requests).Tidy := by
  have showing : ∀ request, (FileSystem.serve request).Preserves
      fun files : EphemeralFiles => ∃ plain, files.Shows plain := by
    rintro request files ⟨plain, shows⟩
    exact ⟨_, (shows.serve request).2⟩
  obtain ⟨plain, shows⟩ := afterAll_of_preserves showing ⟨_, Shows.empty⟩ requests
  exact shows.tidy (afterAll_of_preserves NothingLeaks.serve NothingLeaks.empty requests)

end EphemeralFiles

end VirtualMemory
