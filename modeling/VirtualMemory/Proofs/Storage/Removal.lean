/-
Module: VirtualMemory.Proofs.Storage.Removal
Purpose: What is left of a swap file that was terminated, once or again, when closing and
  removing it may fail.
Main exports:
  FaultyFiles.refusal; SwapFile.Stage, SwapFile.IsAt, SwapFile.Ended, terminate_ended;
  SwapSession.Used, step_used; SwapLife and its terminate, step and run;
  SwapLife.terminate_eq_ok_iff, SwapLife.terminated_removed_iff

The handle of a swap file is given up before the file is closed and removed. What fails then is
not tried again: every later call finds nothing to do and says so.
-/
import VirtualMemory.Proofs.Storage.RoundTrip

namespace VirtualMemory

open VirtualMemory.Action FileSystem

/-! ### Calls on files in memory -/

namespace EphemeralFiles

variable {files : EphemeralFiles}

theorem handles_unreference (files : EphemeralFiles) (number : Nat) (change : Inode → Inode) :
    (files.unreference number change).handles = files.handles := by
  simp only [unreference, freeUnreferenced]
  split
  · rfl
  · split
    · rfl
    · split <;> rfl

/-- A handle that is open can be closed, and only this handle goes. -/
theorem close_of_open {file : FileHandle} {number : Nat}
    (isOpen : files.handles[file]? = some number) :
    ∃ next, files.close file = .ok ((), next) ∧ next.names = files.names ∧
      next.handles = files.handles.erase file := by
  simp only [close, isOpen]
  exact ⟨_, rfl, names_unreference _ _ _, handles_unreference _ _ _⟩

/-- A file that has a name can be removed, and only its name goes. -/
theorem remove_of_named {name : String} {number : Nat}
    (named : files.names[name]? = some number) :
    ∃ next, files.remove name = .ok ((), next) ∧ next.names = files.names.erase name ∧
      next.handles = files.handles := by
  simp only [remove, named]
  exact ⟨_, rfl, names_unreference _ _ _, handles_unreference _ _ _⟩

/-- A file that was opened by its name has the name, and its handle is open. -/
theorem of_openNamed {next : EphemeralFiles} {name : String} {file : FileHandle}
    (opened : files.openNamed name true = .ok (file, next)) :
    (∃ number, next.names[name]? = some number) ∧ ∃ number, next.handles[file]? = some number := by
  have made : ∀ {before : EphemeralFiles} {number : Nat},
      before.makeHandle number = .ok (file, next) →
      next.names = before.names ∧ next.handles[file]? = some number := by
    intro before number made
    simp only [makeHandle] at made
    split at made
    · cases made
    · cases made
      exact ⟨rfl, Std.ExtTreeMap.getElem?_insert_self⟩
  simp only [openNamed] at opened
  cases named : files.names[name]? with
  | some number =>
    rw [named] at opened
    obtain ⟨sameNames, isOpen⟩ := made opened
    exact ⟨⟨number, sameNames ▸ named⟩, number, isOpen⟩
  | none =>
    rw [named] at opened
    obtain ⟨sameNames, isOpen⟩ := made opened
    refine ⟨⟨files.lastInode + 1, ?_⟩, _, isOpen⟩
    rw [sameNames]
    exact Std.ExtTreeMap.getElem?_insert_self

theorem openFile_ends (files : EphemeralFiles) (name : String) :
    (openFile name true).Ends files fun result next => ∀ file, result = .ok file →
      (∃ number, next.names[name]? = some number) ∧
        ∃ number, next.handles[file]? = some number := by
  change (update fun files => files.openNamed name true).Ends files _
  rw [ends_update]
  cases opened : files.openNamed name true with
  | error cause => exact fun _ => no_answer
  | ok pair =>
    intro file same
    cases same
    exact of_openNamed opened

/-- Reading and writing open and close nothing, and give and take no name. -/
theorem writeFile_keeps (files : EphemeralFiles) (file : FileHandle) (offset : Nat)
    (data : Bytes) :
    (writeFile file offset data).Ends files fun _ next =>
      next.names = files.names ∧ next.handles = files.handles := by
  change (update fun files => files.write file offset data).Ends files _
  rw [ends_update]
  cases wrote : files.write file offset data with
  | error cause => exact ⟨rfl, rfl⟩
  | ok pair =>
    simp only [write] at wrote
    split at wrote
    · cases wrote
    · split at wrote
      · cases wrote
      · cases wrote
        exact ⟨rfl, rfl⟩

end EphemeralFiles

namespace FaultyFiles

variable {φ : Type} [FileSystem φ]

/-- Why the next call of a kind is planned to fail, if it is. A call that is only cut short
passes. -/
def refusal (files : FaultyFiles φ) (call : FileCall) : Option FileError :=
  match (files.fault call).schedule (files.fault call).calls with
  | some (.fail cause) => some cause
  | some (.shorten _) | none => none

/-- The files with one more call of a kind counted. -/
def counted (files : FaultyFiles φ) (call : FileCall) : FaultyFiles φ :=
  files.plan call { files.fault call with calls := (files.fault call).calls + 1 }

omit [FileSystem φ] in
@[simp] theorem base_counted (files : FaultyFiles φ) (call : FileCall) :
    (files.counted call).base = files.base :=
  base_plan _ _ _

omit [FileSystem φ] in
/-- A call counts for its own plan only. -/
theorem refusal_counted (files : FaultyFiles φ) (base : φ) {call other : FileCall}
    (different : call ≠ other) :
    ({ files.counted call with base := base } : FaultyFiles φ).refusal other =
      files.refusal other := by
  cases call <;> cases other <;> first | rfl | exact absurd rfl different

omit [FileSystem φ] in
/-- A call that cannot be cut short meets with what is planned for it, or reaches the files. -/
theorem ends_guarded {α : Type} {call : FileCall} {action : Action φ FileError α}
    {files : FaultyFiles φ} {post : Except FileError α → FaultyFiles φ → Prop} :
    (guarded call action fun _ => action).Ends files post ↔
      match files.refusal call with
      | some cause => post (.error cause) (files.counted call)
      | none => action.Ends files.base fun result base =>
          post result { files.counted call with base := base } := by
  simp only [guarded, meet, refusal, counted, ends_bind, ends_always]
  rcases (files.fault call).schedule (files.fault call).calls with _ | _ | _
  · simp only [onBase, ends_within, base_plan]
  · simp only [ends_throw]
  · simp only [onBase, ends_within, base_plan]

end FaultyFiles

namespace SwapFile

/-! ### The end of a swap file -/

/-- How far the end of a swap file has come. -/
inductive Stage where
  | inUse
  /-- It could not be closed, and still has its name. -/
  | unclosed
  /-- It was closed but could not be removed, and still has its name. -/
  | unremoved
  | removed
deriving DecidableEq

variable {swap after : SwapFile (FaultyFiles EphemeralFiles)} {name : String}
  {handle : FileHandle} {stage : Stage}

/-- What is there of a swap file with a name at a stage of its end, and of the handle that it
was made with. -/
structure IsAt (swap : SwapFile (FaultyFiles EphemeralFiles)) (name : String)
    (handle : FileHandle) (stage : Stage) : Prop where
  name_eq : swap.name = name
  handle_eq : swap.handle = if stage = .inUse then some handle else none
  named_iff : (∃ number, swap.files.base.names[name]? = some number) ↔ stage ≠ .removed
  open_iff : (∃ number, swap.files.base.handles[handle]? = some number) ↔
    stage = .inUse ∨ stage = .unclosed

/-- What a call to end a swap file comes to, from one stage to the next. -/
inductive Ended (files : FaultyFiles EphemeralFiles) :
    Stage → Except SwapError Unit → Stage → Prop where
  | unclosed {cause : FileError} (refused : files.refusal .close = some cause) :
      Ended files .inUse (.error (.files cause)) .unclosed
  | unremoved {cause : FileError} (closed : files.refusal .close = none)
      (refused : files.refusal .remove = some cause) :
      Ended files .inUse (.error (.files cause)) .unremoved
  | removed (closed : files.refusal .close = none) (unnamed : files.refusal .remove = none) :
      Ended files .inUse (.ok ()) .removed
  /-- A file that was given up before is left as it is. -/
  | again {stage : Stage} (ended : stage ≠ .inUse) : Ended files stage (.ok ()) stage

/-- No call to end a swap file leaves it in use. -/
theorem Ended.ne_inUse {files : FaultyFiles EphemeralFiles} {result : Except SwapError Unit}
    {next : Stage} (ended : Ended files stage result next) : next ≠ .inUse := by
  cases ended with
  | again ended => exact ended
  | unclosed | unremoved | removed => decide

theorem terminate_ended (isAt : swap.IsAt name handle stage) :
    (terminate : Action (SwapFile (FaultyFiles EphemeralFiles)) SwapError Unit).Ends swap
      fun result after => ∃ next, Ended swap.files stage result next ∧
        after.IsAt name handle next := by
  obtain ⟨rfl, isHandle, named_iff, open_iff⟩ := isAt
  simp only [terminate, ends_bind, ends_get, isHandle]
  by_cases inUse : stage = .inUse
  case neg =>
    rw [if_neg inUse]
    exact ⟨stage, .again inUse, rfl, isHandle, named_iff, open_iff⟩
  subst inUse
  obtain ⟨inode, named⟩ := named_iff.mpr (by decide)
  obtain ⟨opened, isOpen⟩ := open_iff.mpr (.inl rfl)
  obtain ⟨closed, closes, sameNames, fewerHandles⟩ := EphemeralFiles.close_of_open isOpen
  obtain ⟨removed, removes, fewerNames, sameHandles⟩ :=
    EphemeralFiles.remove_of_named (sameNames ▸ named)
  have shut : removed.handles[handle]? = none := by
    rw [sameHandles, fewerHandles]
    exact Std.ExtTreeMap.getElem?_erase_self
  have unheld : ∀ {found : Option Nat}, found = none → ¬ ∃ number, found = some number := by
    rintro _ rfl ⟨number, held⟩
    cases held
  simp only [if_true, ends_bind, ends_set, ends_onFiles]
  change (FaultyFiles.guarded .close (update fun files => files.close handle)
    fun _ => update fun files => files.close handle).Ends swap.files _
  rw [FaultyFiles.ends_guarded]
  cases refused : swap.files.refusal .close with
  | some cause =>
    refine ⟨.unclosed, .unclosed refused, rfl, rfl, ?_, ?_⟩
    · rw [FaultyFiles.base_counted]
      exact iff_of_true ⟨inode, named⟩ (by decide)
    · rw [FaultyFiles.base_counted]
      exact iff_of_true ⟨opened, isOpen⟩ (.inr rfl)
  | none =>
    simp only [ends_update, closes, mapError_ok]
    change (FaultyFiles.guarded .remove (update fun files => files.remove swap.name)
      fun _ => update fun files => files.remove swap.name).Ends
        { swap.files.counted .close with base := closed } _
    rw [FaultyFiles.ends_guarded,
      FaultyFiles.refusal_counted _ closed (by decide : FileCall.close ≠ .remove)]
    cases refusedToo : swap.files.refusal .remove with
    | some cause =>
      refine ⟨.unremoved, .unremoved refused refusedToo, rfl, rfl, ?_, ?_⟩
      · rw [FaultyFiles.base_counted]
        exact iff_of_true ⟨inode, sameNames ▸ named⟩ (by decide)
      · rw [FaultyFiles.base_counted]
        exact iff_of_false (unheld (sameHandles ▸ shut)) (by decide)
    | none =>
      simp only [ends_update, removes]
      refine ⟨.removed, .removed refused refusedToo, rfl, rfl, ?_, ?_⟩
      · refine iff_of_false (unheld ?_) (by decide)
        rw [fewerNames]
        exact Std.ExtTreeMap.getElem?_erase_self
      · exact iff_of_false (unheld shut) (by decide)

/-! ### Whatever else happens to a swap file -/

/-- What reading and writing leave alone. -/
structure Keeps (swap after : SwapFile (FaultyFiles EphemeralFiles)) : Prop where
  name_eq : after.name = swap.name
  handle_eq : after.handle = swap.handle
  names_eq : after.files.base.names = swap.files.base.names
  handles_eq : after.files.base.handles = swap.files.base.handles

theorem Keeps.isAt (keeps : swap.Keeps after) (isAt : swap.IsAt name handle stage) :
    after.IsAt name handle stage where
  name_eq := keeps.name_eq.trans isAt.name_eq
  handle_eq := keeps.handle_eq.trans isAt.handle_eq
  named_iff := by
    rw [keeps.names_eq]
    exact isAt.named_iff
  open_iff := by
    rw [keeps.handles_eq]
    exact isAt.open_iff

theorem Keeps.refl (swap : SwapFile (FaultyFiles EphemeralFiles)) : swap.Keeps swap :=
  ⟨rfl, rfl, rfl, rfl⟩

theorem Wrote.keeps {page : PageId} {readOnly : Bool} {contents : Page}
    {result : Except SwapError Unit} (wrote : swap.Wrote page readOnly contents result after) :
    swap.Keeps after := by
  have unchanged : ∀ file offset data,
      (writeFile file offset data).Ends swap.files fun _ next =>
        next.base.names = swap.files.base.names ∧
          next.base.handles = swap.files.base.handles := fun file offset data =>
    FaultyFiles.guarded_ends (swap.files.base.writeFile_keeps file offset data)
      (fun _ => swap.files.base.writeFile_keeps file offset _) fun _ => ⟨rfl, rfl⟩
  cases wrote with
  | closed => exact .refl swap
  | failed _ wrote | short _ wrote | whole _ wrote =>
    obtain ⟨sameNames, sameHandles⟩ := (unchanged _ _ _).outcome wrote
    exact ⟨rfl, rfl, sameNames, sameHandles⟩

theorem Loaded.keeps {page : PageId} {result : Except SwapError (Option (Page × Bool))}
    (loaded : swap.Loaded page result after) : swap.Keeps after := by
  have unchanged : ∀ file offset length,
      (readFile file offset length).Ends swap.files fun _ next =>
        next.base.names = swap.files.base.names ∧
          next.base.handles = swap.files.base.handles := by
    intro file offset length
    have noted : ∀ length, (readFile file offset length : Action EphemeralFiles _ _).Ends
        swap.files.base fun _ next => next.names = swap.files.base.names ∧
          next.handles = swap.files.base.handles :=
      fun length => ends_inspect.mpr ⟨rfl, rfl⟩
    exact FaultyFiles.guarded_ends (noted length) (fun limit => noted (min limit length))
      fun _ => ⟨rfl, rfl⟩
  cases loaded with
  | absent | closed => exact .refl swap
  | failed _ _ read | short _ _ read | whole _ _ read =>
    obtain ⟨sameNames, sameHandles⟩ := (unchanged _ _ _).outcome read
    exact ⟨rfl, rfl, sameNames, sameHandles⟩

/-- A swap file that was just made has its name, and its handle is open. -/
theorem isAt_fresh {files made : FaultyFiles EphemeralFiles}
    (created : (create name).outcome files = (.ok handle, made)) :
    (fresh made name handle).IsAt name handle .inUse := by
  obtain ⟨before, opened⟩ := exists_openFile_of_create created
  have there := before.base.openFile_ends name
  have made : (openFile name true : Action _ FileError FileHandle).Ends before
      fun result next => ∀ file, result = .ok file →
        (∃ number, next.base.names[name]? = some number) ∧
          ∃ number, next.base.handles[file]? = some number :=
    FaultyFiles.guarded_ends there (fun _ => there) fun _ _ => no_answer
  obtain ⟨named, isOpen⟩ := made.outcome opened handle rfl
  exact ⟨rfl, rfl, iff_of_true named (by decide), iff_of_true isOpen (.inl rfl)⟩

end SwapFile

namespace SwapSession

/-- What a call can make of the swap file. -/
inductive Used (session : SwapSession) :
    SwapCall → SwapFile (FaultyFiles EphemeralFiles) → Prop where
  | wrote {pid : Pid} {entry : TranslationEntry} {contents : Page}
      {result : Except SwapError Unit} {after : SwapFile (FaultyFiles EphemeralFiles)}
      (how : session.swap.Wrote (entry.page pid) entry.readOnly contents result after)
      (answered : (session.write pid entry).1 = result.mapError .swap) :
      Used session (.writePage pid entry) after
  | loaded {page : PageId} {ppn : Ppn} {result : Except SwapError (Option (Page × Bool))}
      {after : SwapFile (FaultyFiles EphemeralFiles)}
      (how : session.swap.Loaded page result after) :
      Used session (.loadPage page ppn) after
  /-- Nothing is done with it, but other calls may be planned to fail. -/
  | spared {call : SwapCall} {files : FaultyFiles EphemeralFiles}
      (same : files.base = session.swap.files.base) :
      Used session call { session.swap with files := files }

theorem step_used (session : SwapSession) (call : SwapCall) :
    session.Used call (session.step call).swap := by
  cases call with
  | writePage pid entry =>
    have saved := session.write_saved pid entry
    change session.Used _ (session.write pid entry).2.swap
    generalize answer : (session.write pid entry).1 = result at saved
    generalize (session.write pid entry).2 = after at saved ⊢
    cases saved with
    | outside => exact .spared rfl
    | torn how | whole _ how => exact .wrote how answer
  | loadPage page ppn =>
    obtain ⟨_, loaded, how, _⟩ := (session.load_fetched page ppn).exists_loaded
    exact .loaded how
  | overwrite => exact .spared rfl
  | plan call fault => exact .spared (FaultyFiles.base_plan _ _ _)

end SwapSession

/-! ### Whole lives -/

/-- A call of a swap file, which may be the last one. -/
inductive SwapUse where
  | call (call : SwapCall)
  | terminate

/-- A swap file in use, and how the calls to end it have ended, the last one first. -/
structure SwapLife where
  session : SwapSession
  endings : List (Except SwapError Unit) := []

namespace SwapLife

variable {life : SwapLife} {name : String} {handle : FileHandle}

/-- Closes and removes the file. -/
def terminate (life : SwapLife) : Except SwapError Unit × SwapLife :=
  let (result, swap) := SwapFile.terminate.outcome life.session.swap
  (result,
    { session := { life.session with swap := swap }
      endings := result :: life.endings })

/-- The swap file after a call. -/
def step (life : SwapLife) : SwapUse → SwapLife
  | .call call => { life with session := life.session.step call }
  | .terminate => life.terminate.2

/-- The swap file after calls, one after another. -/
def run (life : SwapLife) (uses : List SwapUse) : SwapLife :=
  uses.foldl step life

/-- The endings tell how far the end of the file has come. -/
structure Tells (life : SwapLife) (name : String) (handle : FileHandle)
    (stage : SwapFile.Stage) : Prop where
  isAt : life.session.swap.IsAt name handle stage
  inUse_iff : stage = .inUse ↔ life.endings = []
  left_iff : stage = .unclosed ∨ stage = .unremoved ↔ ∃ cause, .error cause ∈ life.endings

namespace Tells

variable {stage : SwapFile.Stage}

/-- One more call to end the file. -/
theorem terminate (tells : life.Tells name handle stage) :
    ∃ next, SwapFile.Ended life.session.swap.files stage life.terminate.1 next ∧
      life.terminate.2.Tells name handle next := by
  obtain ⟨isAt, inUse_iff, left_iff⟩ := tells
  obtain ⟨next, ended, isAtNext⟩ := SwapFile.terminate_ended isAt
  refine ⟨next, ended, isAtNext, ?_, ?_⟩
  · exact iff_of_false ended.ne_inUse (List.cons_ne_nil _ _)
  · change _ ↔ ∃ cause, _ ∈ life.terminate.1 :: life.endings
    have told : SwapFile.Ended _ stage life.terminate.1 next := ended
    generalize life.terminate.1 = result at told ⊢
    cases told with
    | unclosed => exact iff_of_true (.inl rfl) ⟨_, List.mem_cons_self⟩
    | unremoved => exact iff_of_true (.inr rfl) ⟨_, List.mem_cons_self⟩
    | removed => simp [inUse_iff.mp rfl]
    | again => simp [left_iff]

theorem step (tells : life.Tells name handle stage) (use : SwapUse) :
    ∃ next, (life.step use).Tells name handle next := by
  cases use with
  | terminate =>
    obtain ⟨next, _, tellsNext⟩ := tells.terminate
    exact ⟨next, tellsNext⟩
  | call call =>
    refine ⟨stage, SwapFile.Keeps.isAt ?_ tells.isAt, tells.inUse_iff, tells.left_iff⟩
    change life.session.swap.Keeps (life.session.step call).swap
    have used := life.session.step_used call
    generalize (life.session.step call).swap = after at used ⊢
    cases used with
    | wrote how => exact how.keeps
    | loaded how => exact how.keeps
    | spared same =>
      exact ⟨rfl, rfl, congrArg EphemeralFiles.names same, congrArg EphemeralFiles.handles same⟩

theorem run (tells : life.Tells name handle stage) (uses : List SwapUse) :
    ∃ next, (life.run uses).Tells name handle next := by
  induction uses generalizing life stage with
  | nil => exact ⟨stage, tells⟩
  | cons use rest hypothesis =>
    obtain ⟨next, tellsNext⟩ := tells.step use
    exact hypothesis tellsNext

end Tells

/-- A swap file that was just made is in use, and the endings tell of it after any calls. -/
theorem tells_run {files made : FaultyFiles EphemeralFiles}
    (created : (SwapFile.create name).outcome files = (.ok handle, made))
    (memory : PhysicalMemory) (uses : List SwapUse) :
    ∃ stage, (run { session := { swap := .fresh made name handle, memory := memory } }
      uses).Tells name handle stage :=
  Tells.run ⟨SwapFile.isAt_fresh created, iff_of_true rfl rfl, by simp⟩ uses

/-- The first call to end the file succeeds exactly if neither closing nor removing it is
planned to fail. Every later one does. -/
theorem terminate_eq_ok_iff {files made : FaultyFiles EphemeralFiles}
    (created : (SwapFile.create name).outcome files = (.ok handle, made))
    (memory : PhysicalMemory) (uses : List SwapUse) :
    let life := run { session := { swap := .fresh made name handle, memory := memory } } uses
    life.terminate.1 = .ok () ↔ life.endings ≠ [] ∨
      life.session.swap.files.refusal .close = none ∧
        life.session.swap.files.refusal .remove = none := by
  intro life
  obtain ⟨stage, tells⟩ : ∃ stage, life.Tells name handle stage := tells_run created memory uses
  obtain ⟨next, ended, _⟩ := tells.terminate
  rw [ne_eq, ← tells.inUse_iff]
  generalize life.terminate.1 = result at ended ⊢
  cases ended with
  | unclosed refused => simp [refused]
  | unremoved closed refused => simp [refused]
  | removed closed unnamed => simp [closed, unnamed]
  | again notInUse => simp [notInUse]

/-- From a swap file that was just made, after any calls, with any calls of the file system
failing or cut short, a call to end it succeeds. Then it has no handle any more. Its name is
gone exactly if no earlier call to end it had failed, and then its handle is closed. -/
theorem terminated_removed_iff {files made : FaultyFiles EphemeralFiles}
    (created : (SwapFile.create name).outcome files = (.ok handle, made))
    (memory : PhysicalMemory) (uses : List SwapUse) {after : SwapLife}
    (succeeded : (run { session := { swap := .fresh made name handle, memory := memory } }
      uses).terminate = (.ok (), after)) :
    after.session.swap.handle = none ∧
      (after.session.swap.files.base.names[name]? = none ↔
        ∀ ending ∈ after.endings, ending = .ok ()) ∧
      ((∀ ending ∈ after.endings, ending = .ok ()) →
        after.session.swap.files.base.handles[handle]? = none) := by
  obtain ⟨stage, tells⟩ := tells_run created memory uses
  obtain ⟨next, ended, tellsNext⟩ := tells.terminate
  rw [succeeded] at tellsNext
  have notInUse := ended.ne_inUse
  obtain ⟨isAt, _, left_iff⟩ := tellsNext
  have gone_iff : next = .removed ↔ ∀ ending ∈ after.endings, ending = .ok () := by
    have others : next = .removed ↔ ¬ (next = .unclosed ∨ next = .unremoved) := by
      cases next with
      | inUse => exact absurd rfl notInUse
      | unclosed | unremoved | removed => simp
    rw [others, left_iff]
    constructor
    · intro never ending listed
      cases ending with
      | ok => rfl
      | error cause => exact absurd ⟨cause, listed⟩ never
    · rintro always ⟨cause, listed⟩
      cases always _ listed
  rw [← gone_iff]
  refine ⟨isAt.handle_eq.trans (if_neg notInUse), ?_, fun removed => ?_⟩
  · rw [← not_iff_not]
    exact Option.ne_none_iff_exists'.trans isAt.named_iff
  · refine Option.eq_none_iff_forall_ne_some.mpr fun number isOpen => ?_
    rcases isAt.open_iff.mp ⟨number, isOpen⟩ with rfl | rfl <;> cases removed

/-- The file cannot be closed at first, and nothing is in the way later. -/
def closedLate : List SwapUse :=
  [.call (.plan .close (.after 0 (.fail .noSpace))), .terminate, .call (.plan .close .never)]

/-- The file is closed before its handles cannot be closed any more. -/
theorem terminated_removed_iff_once :
    ∃ (handle : FileHandle) (made : FaultyFiles EphemeralFiles) (life : SwapLife),
      (SwapFile.create "swap").outcome ({ base := .empty } : FaultyFiles EphemeralFiles) =
        (.ok handle, made) ∧
      life = run { session := { swap := .fresh made "swap" handle, memory := .blank 1 } }
        [.call (.plan .close (.after 1 (.fail .noSpace)))] ∧
      life.terminate.1 = .ok () ∧ life.terminate.2.endings = [.ok ()] ∧
      (life.terminate.2.session.swap.files.base.names["swap"]? = none ↔
        ∀ ending ∈ life.terminate.2.endings, ending = .ok ()) := by
  refine ⟨_, _, _, rfl, rfl, ?succeeded, ?succeededOnce, (terminated_removed_iff
    (rfl : (SwapFile.create "swap").outcome
      ({ base := .empty } : FaultyFiles EphemeralFiles) = (.ok _, _)) _ _
    (Prod.ext_iff.mpr ⟨?succeeded, rfl⟩)).2.1⟩
  case succeeded => decide +kernel
  case succeededOnce => decide +kernel

/-- A later call to end the file succeeds, and the file keeps its name. -/
theorem terminate_leaves_file :
    ∃ (handle : FileHandle) (made : FaultyFiles EphemeralFiles) (life : SwapLife),
      (SwapFile.create "swap").outcome ({ base := .empty } : FaultyFiles EphemeralFiles) =
        (.ok handle, made) ∧
      life = run { session := { swap := .fresh made "swap" handle, memory := .blank 1 } }
        closedLate ∧
      life.terminate.1 = .ok () ∧
      life.terminate.2.session.swap.files.base.names["swap"]? ≠ none :=
  ⟨_, _, _, rfl, rfl, by decide +kernel, by decide +kernel⟩

end SwapLife

end VirtualMemory
