/-
Module: VirtualMemory.Proofs.Storage.RoundTrip
Purpose: A page that was written to the swap file comes back as it was, whatever is
  written, torn or refused for other pages in between.
Main exports:
  SwapCall, SwapSession and its write, load, step and run; SwapSession.RoundTrip,
  pages_come_back

The file is one in memory, and its reads and writes may be planned to fail or to be cut
short at any time. The history of a session is what its caller knows: which pages were
written, and with what success.
-/
import VirtualMemory.Proofs.Storage.Slots

namespace VirtualMemory

open VirtualMemory.Action FileSystem

/-- A call of the swap file, or something that happens around it. -/
inductive SwapCall where
  | writePage (pid : Pid) (entry : TranslationEntry)
  | loadPage (page : PageId) (ppn : Ppn)
  /-- A frame gets new contents. -/
  | overwrite (ppn : Ppn) (contents : Page)
  /-- Other calls of a kind are planned to fail or to be cut short. -/
  | plan (call : FileCall) (fault : Fault)

/-- A swap file in use, with the memory that pages come from and go to. -/
structure SwapSession where
  swap : SwapFile (FaultyFiles EphemeralFiles)
  memory : PhysicalMemory
  /-- The pages that were written, the last one first, and what was written if the write
  succeeded. -/
  history : List (PageId × Option PageView) := []

namespace SwapSession

/-- What a write has written if it succeeded. -/
def written (memory : PhysicalMemory) (entry : TranslationEntry) :
    Except PagingError Unit → Option PageView
  | .ok _ =>
      match memory.copyOut entry.ppn with
      | .ok contents => some { contents := contents, readOnly := entry.readOnly }
      | .error _ => none
  | .error _ => none

/-- Writes the frame of an entry out as a page of a process. -/
def write (session : SwapSession) (pid : Pid) (entry : TranslationEntry) :
    Except PagingError Unit × SwapSession :=
  let (result, swap) := (SwapFile.writePage session.memory pid entry).outcome session.swap
  (result,
    { session with
      swap := swap
      history := (entry.page pid, written session.memory entry result) :: session.history })

/-- Reads a page back into a frame. -/
def load (session : SwapSession) (page : PageId) (ppn : Ppn) :
    Except PagingError (Option TranslationEntry) × SwapSession :=
  let (result, swap, memory) :=
    (SwapFile.loadPage page ppn).outcome (session.swap, session.memory)
  (result, { session with swap := swap, memory := memory })

/-- The session after a call. -/
def step (session : SwapSession) : SwapCall → SwapSession
  | .writePage pid entry => (session.write pid entry).2
  | .loadPage page ppn => (session.load page ppn).2
  | .overwrite ppn contents => { session with memory := session.memory.store ppn contents }
  | .plan call fault =>
      { session with
        swap := { session.swap with files := session.swap.files.plan call fault } }

/-- The session after calls, one after another. -/
def run (session : SwapSession) (calls : List SwapCall) : SwapSession :=
  calls.foldl step session

variable {session : SwapSession} {page : PageId} {ppn : Ppn} {view : PageView}

/-- The last write of a page succeeded, and this is what it wrote. -/
def LastWrote (session : SwapSession) (page : PageId) (view : PageView) : Prop :=
  session.history.lookup page = some (some view)

instance : Decidable (session.LastWrote page view) :=
  inferInstanceAs (Decidable (session.history.lookup page = some (some view)))

/-- Some write of a page succeeded. -/
def EverWrote (session : SwapSession) (page : PageId) : Prop :=
  ∃ view, (page, some view) ∈ session.history

/-- The swap file knows what the history says. -/
structure Recorded (session : SwapSession) : Prop where
  laid : session.swap.Laid
  stored : ∀ {page view}, session.LastWrote page view → session.swap.stored page = some view
  slot_iff : ∀ page, (session.swap.slot page).isSome = true ↔ session.EverWrote page

/-! ### What the calls do -/

/-- The ways in which a write can end. -/
inductive Saved (session : SwapSession) (pid : Pid) (entry : TranslationEntry) :
    Except PagingError Unit → SwapSession → Prop where
  | outside {cause reason : PagingError}
      (beyond : session.memory.copyOut entry.ppn = .error cause) :
      Saved session pid entry (.error reason)
        { session with history := (entry.page pid, none) :: session.history }
  | torn {cause : SwapError} {contents : Page} {after : SwapFile (FaultyFiles EphemeralFiles)}
      (wrote : session.swap.Wrote (entry.page pid) entry.readOnly contents (.error cause) after) :
      Saved session pid entry (.error (.swap cause))
        { session with
          swap := after
          history := (entry.page pid, none) :: session.history }
  | whole {contents : Page} {after : SwapFile (FaultyFiles EphemeralFiles)}
      (copied : session.memory.copyOut entry.ppn = .ok contents)
      (wrote : session.swap.Wrote (entry.page pid) entry.readOnly contents (.ok ()) after) :
      Saved session pid entry (.ok ())
        { session with
          swap := after
          history := (entry.page pid, some ⟨contents, entry.readOnly⟩) :: session.history }

/-- A write is recorded as what it saved. -/
theorem write_saved (session : SwapSession) (pid : Pid) (entry : TranslationEntry) :
    Saved session pid entry (session.write pid entry).1 (session.write pid entry).2 := by
  rw [write]
  cases copied : session.memory.copyOut entry.ppn with
  | error cause =>
    have told := @SwapFile.writePage_outside _ _ session.swap session.memory pid entry cause copied
    rw [Ends] at told
    generalize (SwapFile.writePage session.memory pid entry).outcome session.swap = ended at told ⊢
    rcases ended with ⟨result, after⟩
    rcases told with ⟨⟨reason, rfl⟩, rfl⟩
    exact .outside copied
  | ok contents =>
    have told := @SwapFile.writePage_ends _ _ session.swap session.memory pid entry contents copied
    rw [Ends] at told
    generalize (SwapFile.writePage session.memory pid entry).outcome session.swap = ended at told ⊢
    rcases ended with ⟨result, after⟩
    rcases told with ⟨wrote, how, rfl⟩
    cases wrote with
    | error cause => exact .torn how
    | ok =>
      have whole : Saved session pid entry _ _ := .whole copied how
      simpa only [mapError_ok, written, copied] using whole

/-- The ways in which a load can end. Only a whole page reaches a frame. -/
inductive Fetched (session : SwapSession) (page : PageId) (ppn : Ppn) :
    Except PagingError (Option TranslationEntry) → SwapSession → Prop where
  | absent {after : SwapFile (FaultyFiles EphemeralFiles)}
      (loaded : session.swap.Loaded page (.ok none) after) :
      Fetched session page ppn (.ok none) { session with swap := after }
  | failed {cause : SwapError} {after : SwapFile (FaultyFiles EphemeralFiles)}
      (loaded : session.swap.Loaded page (.error cause) after) :
      Fetched session page ppn (.error (.swap cause)) { session with swap := after }
  | outside {cause : PagingError} {found : Page × Bool}
      {after : SwapFile (FaultyFiles EphemeralFiles)}
      (loaded : session.swap.Loaded page (.ok (some found)) after)
      (beyond : session.memory.copyOut ppn = .error cause) :
      Fetched session page ppn (.error cause) { session with swap := after }
  | whole {old contents : Page} {readOnly : Bool}
      {after : SwapFile (FaultyFiles EphemeralFiles)}
      (loaded : session.swap.Loaded page (.ok (some (contents, readOnly))) after)
      (inside : session.memory.copyOut ppn = .ok old) :
      Fetched session page ppn (.ok (some (.fresh page.vpn ppn readOnly)))
        { session with swap := after, memory := session.memory.store ppn contents }

/-- A load answers as is told. -/
theorem load_fetched (session : SwapSession) (page : PageId) (ppn : Ppn) :
    Fetched session page ppn (session.load page ppn).1 (session.load page ppn).2 := by
  obtain ⟨loaded, after, how, told⟩ :=
    @SwapFile.loadPage_tells _ _ session.swap page session.memory ppn
  rw [load]
  generalize (SwapFile.loadPage page ppn).outcome (session.swap, session.memory) = ended at told ⊢
  rcases ended with ⟨result, next⟩
  rcases loaded with cause | (_ | ⟨contents, readOnly⟩)
  · rcases told with ⟨rfl, rfl⟩
    exact .failed how
  · rcases told with ⟨rfl, rfl⟩
    exact .absent how
  · cases copied : session.memory.copyOut ppn with
    | ok old =>
      rw [copied] at told
      rcases told with ⟨rfl, rfl⟩
      exact .whole how copied
    | error cause =>
      rw [copied] at told
      rcases told with ⟨rfl, rfl⟩
      exact .outside how copied

theorem Fetched.exists_loaded {result : Except PagingError (Option TranslationEntry)}
    {after : SwapSession} (fetched : Fetched session page ppn result after) :
    after.history = session.history ∧
      ∃ loaded, session.swap.Loaded page loaded after.swap ∧
        (result = .ok none ↔ loaded = .ok none) := by
  cases fetched with
  | absent loaded => exact ⟨rfl, _, loaded, by simp⟩
  | failed loaded => exact ⟨rfl, _, loaded, by simp⟩
  | outside loaded => exact ⟨rfl, _, loaded, by simp⟩
  | whole loaded => exact ⟨rfl, _, loaded, by simp⟩

/-! ### What is recorded stays recorded -/

theorem lastWrote_cons {other : PageId} {what : Option PageView}
    {swap : SwapFile (FaultyFiles EphemeralFiles)} :
    LastWrote { session with swap := swap, history := (other, what) :: session.history } page view ↔
      if page = other then what = some view else session.LastWrote page view := by
  simp only [LastWrote, List.lookup_cons]
  by_cases same : page = other
  · simp [same]
  · simp [same, beq_false_of_ne same]

theorem everWrote_cons {other : PageId} {what : Option PageView}
    {swap : SwapFile (FaultyFiles EphemeralFiles)} :
    EverWrote { session with swap := swap, history := (other, what) :: session.history } page ↔
      (other = page ∧ what.isSome = true) ∨ session.EverWrote page := by
  simp only [EverWrote, List.mem_cons, Prod.mk.injEq]
  cases what with
  | none => simp
  | some known =>
    constructor
    · rintro ⟨view, ⟨rfl, _⟩ | before⟩
      · exact Or.inl ⟨rfl, rfl⟩
      · exact Or.inr ⟨view, before⟩
    · rintro (⟨rfl, _⟩ | ⟨view, before⟩)
      · exact ⟨known, Or.inl ⟨rfl, rfl⟩⟩
      · exact ⟨view, Or.inr before⟩

namespace Recorded

theorem write (recorded : session.Recorded) (pid : Pid) (entry : TranslationEntry) :
    (session.write pid entry).2.Recorded := by
  have saved := session.write_saved pid entry
  generalize (session.write pid entry).1 = result at saved
  generalize (session.write pid entry).2 = next at saved ⊢
  cases saved with
  | outside =>
    refine ⟨recorded.laid, fun {page view} wrote => ?_, fun page => ?_⟩
    · rw [lastWrote_cons] at wrote
      split at wrote
      · cases wrote
      · exact recorded.stored wrote
    · rw [everWrote_cons, recorded.slot_iff]
      simp
  | torn how =>
    refine ⟨how.laid recorded.laid, fun {page view} wrote => ?_, fun page => ?_⟩
    · rw [lastWrote_cons] at wrote
      split at wrote
      · cases wrote
      · next different =>
        exact (how.stored_other recorded.laid (Ne.symm different)).trans (recorded.stored wrote)
    · rw [everWrote_cons, how.slot_isSome_iff, recorded.slot_iff]
      simp
  | whole copied how =>
    refine ⟨how.laid recorded.laid, fun {page view} wrote => ?_, fun page => ?_⟩
    · rw [lastWrote_cons] at wrote
      split at wrote
      · next same =>
        rw [same, ← wrote]
        exact how.stored_self recorded.laid
      · next different =>
        exact (how.stored_other recorded.laid (Ne.symm different)).trans (recorded.stored wrote)
    · rw [everWrote_cons, how.slot_isSome_iff, recorded.slot_iff]
      simp

theorem load (recorded : session.Recorded) (page : PageId) (ppn : Ppn) :
    (session.load page ppn).2.Recorded := by
  obtain ⟨sameHistory, loaded, how, _⟩ := (session.load_fetched page ppn).exists_loaded
  obtain ⟨laid, stored⟩ := how.kept recorded.laid
  refine ⟨laid, fun {other view} wrote => ?_, fun other => ?_⟩
  · rw [LastWrote, sameHistory] at wrote
    exact (stored other).trans (recorded.stored wrote)
  · rw [EverWrote, sameHistory, SwapFile.slot, how.slots_eq]
    exact recorded.slot_iff other

theorem step (recorded : session.Recorded) (call : SwapCall) :
    (session.step call).Recorded := by
  cases call with
  | writePage pid entry => exact recorded.write pid entry
  | loadPage page ppn => exact recorded.load page ppn
  | overwrite ppn contents => exact ⟨recorded.laid, recorded.stored, recorded.slot_iff⟩
  | plan call fault =>
    obtain ⟨handle, bytes, isOpen, holds, there⟩ := recorded.laid.exists_handle
    have now : ByteFiles.contents (session.swap.files.plan call fault) handle = some bytes := by
      change ByteFiles.contents (session.swap.files.plan call fault).base handle = some bytes
      rw [FaultyFiles.base_plan]
      exact there
    refine ⟨recorded.laid.withFiles isOpen holds now (Nat.le_refl _),
      fun {page view} wrote => ?_, recorded.slot_iff⟩
    exact (SwapFile.stored_withFiles isOpen holds now fun _ _ => rfl).trans
      (recorded.stored wrote)

/-- Through a whole session the record is what was saved. -/
theorem run (recorded : session.Recorded) (calls : List SwapCall) :
    (session.run calls).Recorded := by
  induction calls generalizing session with
  | nil => exact recorded
  | cons call rest hypothesis => exact hypothesis (recorded.step call)

/-- A swap file that was just made knows of no write. -/
theorem created {files made : FaultyFiles EphemeralFiles} {name : String} {handle : FileHandle}
    (created : (SwapFile.create name).outcome files = (.ok handle, made))
    (memory : PhysicalMemory) :
    Recorded { swap := .fresh made name handle, memory := memory } := by
  obtain ⟨bytes, holds⟩ := (SwapDevice.create_ends files name).outcome created
  refine ⟨(SwapFile.sound_fresh name holds).toLaid, fun {page view} wrote => ?_, fun page => ?_⟩
  · simp [LastWrote] at wrote
  · simp [EverWrote, SwapFile.slot, SwapFile.fresh]

end Recorded

/-! ### Round trips -/

/-- What writing and reading back promise, whatever happened before. -/
structure RoundTrip (session : SwapSession) : Prop where
  /-- A page whose last write succeeded comes back as it was written, neither used nor dirty,
  and no other frame changes. -/
  same : ∀ {page ppn entry view}, session.LastWrote page view →
    (session.load page ppn).1 = .ok (some entry) →
    entry =
        { vpn := page.vpn
          ppn := ppn
          flags := { valid := true, readOnly := view.readOnly, used := false, dirty := false } } ∧
      ∀ frame, (session.load page ppn).2.memory.copyOut frame =
        if ppn = frame then .ok view.contents else session.memory.copyOut frame
  /-- It does come back, to a frame that exists, unless the read is planned to fail. -/
  comes : ∀ {page ppn view}, session.LastWrote page view → ppn < session.memory.size →
    session.swap.files.onRead.schedule session.swap.files.onRead.calls = none →
    ∃ entry, (session.load page ppn).1 = .ok (some entry)
  absent_iff : ∀ page ppn, (session.load page ppn).1 = .ok none ↔ ¬ session.EverWrote page
  unloaded : ∀ {page ppn}, (∀ entry, (session.load page ppn).1 ≠ .ok (some entry)) →
    (session.load page ppn).2.memory = session.memory ∧
      (session.load page ppn).2.swap.slots = session.swap.slots
  unwritten : ∀ {pid entry cause}, (session.write pid entry).1 = .error cause →
    (session.write pid entry).2.memory = session.memory ∧
      (session.write pid entry).2.swap.slots = session.swap.slots

/-- Without a fault in the way, a slot can be read in full. -/
theorem not_failed_of_pass {cause : SwapError} {after : SwapFile (FaultyFiles EphemeralFiles)}
    (laid : session.swap.Laid)
    (passes : session.swap.files.onRead.schedule session.swap.files.onRead.calls = none) :
    ¬ session.swap.Loaded page (.error cause) after := by
  obtain ⟨handle, bytes, isOpen, holds, there⟩ := laid.exists_handle
  -- The files in memory have no faults of their own.
  have whole : ∀ slot, session.swap.slot page = some slot →
      (readFile handle slot.offset pageBytes).Ends session.swap.files
        fun result _ => ∃ data, result = .ok data ∧ data.length = pageBytes := by
    intro slot known
    apply FaultyFiles.ends_readFile_of_pass passes
    apply Ends.mono (ByteFiles.read (φ := EphemeralFiles) there slot.offset pageBytes)
    rintro result next ⟨_, told⟩
    cases result with
    | error cause => exact absurd trivial told
    | ok data =>
      obtain ⟨asked, _, rfl, full⟩ := told
      refine ⟨_, rfl, ?_⟩
      rw [full trivial, FileContents.read_pageAt (laid.covered known holds), Page.length_bytes]
  intro loaded
  cases loaded with
  | closed known gone =>
    rw [isOpen] at gone
    cases gone
  | failed known opened read =>
    rw [isOpen] at opened
    cases opened
    obtain ⟨data, impossible, _⟩ := (whole _ known).outcome read
    cases impossible
  | short known opened read part =>
    rw [isOpen] at opened
    cases opened
    obtain ⟨data, same, full⟩ := (whole _ known).outcome read
    cases same
    exact part full

/-- What is recorded makes the round trip. -/
theorem Recorded.roundTrip (recorded : session.Recorded) : session.RoundTrip where
  same := by
    intro page ppn entry view wrote answered
    have fetched := session.load_fetched page ppn
    rw [answered] at fetched
    generalize (session.load page ppn).2 = next at fetched ⊢
    cases fetched with
    | whole loaded inside =>
      have stored := (loaded.stored_eq recorded.laid).symm.trans (recorded.stored wrote)
      cases stored
      refine ⟨rfl, fun frame => ?_⟩
      exact PhysicalMemory.copyOut_store _ (PhysicalMemory.lt_size_of_copyOut inside) _ _
  comes := by
    intro page ppn view wrote inside passes
    have fetched := session.load_fetched page ppn
    obtain ⟨old, there⟩ := Pager.exists_copyOut inside
    generalize (session.load page ppn).1 = result at fetched ⊢
    generalize (session.load page ppn).2 = next at fetched
    cases fetched with
    | absent loaded =>
      have unknown := SwapFile.stored_of_slot_eq_none (loaded.eq_none_iff.mp rfl)
      rw [recorded.stored wrote] at unknown
      cases unknown
    | failed loaded => exact absurd loaded (not_failed_of_pass recorded.laid passes)
    | outside _ beyond =>
      rw [there] at beyond
      cases beyond
    | whole => exact ⟨_, rfl⟩
  absent_iff := by
    intro page ppn
    obtain ⟨_, loaded, how, same⟩ := (session.load_fetched page ppn).exists_loaded
    rw [same, how.eq_none_iff, ← recorded.slot_iff, Bool.not_eq_true, Option.isSome_eq_false_iff,
      Option.isNone_iff_eq_none]
  unloaded := by
    intro page ppn nothing
    have fetched := session.load_fetched page ppn
    generalize (session.load page ppn).1 = result at fetched nothing
    generalize (session.load page ppn).2 = next at fetched ⊢
    cases fetched with
    | absent loaded | failed loaded | outside loaded => exact ⟨rfl, loaded.slots_eq⟩
    | whole => exact absurd rfl (nothing _)
  unwritten := by
    intro pid entry cause refused
    have saved := session.write_saved pid entry
    rw [refused] at saved
    generalize (session.write pid entry).2 = next at saved ⊢
    cases saved with
    | outside => exact ⟨rfl, rfl⟩
    | torn wrote => exact ⟨rfl, wrote.slots_eq⟩

/-- From a swap file that was just made, after any calls, with any reads and writes failing
or cut short: what was written comes back. -/
theorem pages_come_back {files made : FaultyFiles EphemeralFiles} {name : String}
    {handle : FileHandle} (created : (SwapFile.create name).outcome files = (.ok handle, made))
    (memory : PhysicalMemory) (calls : List SwapCall) :
    RoundTrip (run { swap := .fresh made name handle, memory := memory } calls) :=
  ((Recorded.created created memory).run calls).roundTrip

/-- Two pages are written. From then on every write is cut short: the first one of a third
page, and the next one of the second page. -/
def cutShort : List SwapCall :=
  [.writePage 1 (.fresh 4 0 true), .overwrite 0 (.overwrite .zero 0 [8]),
    .writePage 1 (.fresh 5 0 false), .plan .write (.after 0 (.shorten 100)),
    .writePage 2 (.fresh 4 1 false), .writePage 1 (.fresh 5 1 false)]

/-- The first page comes back as it was written, and the third one was never written in
full. -/
theorem pages_come_back_cut_short :
    ∃ (handle : FileHandle) (made : FaultyFiles EphemeralFiles) (session : SwapSession),
      (SwapFile.create "swap").outcome ({ base := .empty } : FaultyFiles EphemeralFiles) =
        (.ok handle, made) ∧
      session = run
        { swap := .fresh made "swap" handle
          memory := (PhysicalMemory.blank 2).store 0 (.overwrite .zero 0 [7]) } cutShort ∧
      session.LastWrote ⟨1, 4⟩ ⟨.overwrite .zero 0 [7], true⟩ ∧
      (session.load ⟨1, 4⟩ 1).1 =
        .ok (some { vpn := 4, ppn := 1, flags := { valid := true, readOnly := true } }) ∧
      (session.load ⟨2, 4⟩ 1).1 = .ok none ∧
      session.RoundTrip :=
  ⟨_, _, _, rfl, rfl, by decide +kernel, by decide +kernel, by decide +kernel,
    pages_come_back
      (rfl : (SwapFile.create "swap").outcome
        ({ base := .empty } : FaultyFiles EphemeralFiles) = (.ok _, _)) _ _⟩

end SwapSession

end VirtualMemory
