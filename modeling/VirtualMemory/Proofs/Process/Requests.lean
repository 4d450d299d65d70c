/-
Module: VirtualMemory.Proofs.Process.Requests
Purpose: What a process can be asked for, and what all of its requests preserve.
Main exports:
  ProcessRequest, ProcessAnswer, UserProcess.serve; UserProcess.FaultedIn,
  faultIn_ends; UserProcess.Backs, Stores; serve_of_exited; UserProcess.Sustains,
  Sustains.serve; UserProcess.Keeps, Keeps.serve

A request is made of a few parts: a page is found or made, its translation cached, an
access recorded, its frame pinned, read or written, and let go. What every part
preserves, every request preserves.
-/
import VirtualMemory.Proofs.Pager.SwapIn
import VirtualMemory.UserProcess

namespace VirtualMemory

/-- What a process can be asked for. -/
inductive ProcessRequest where
  | fault (address : UInt32)
  | loadSection (first : Vpn) (contents : Bytes) (readOnly : Bool)
  | allocateStack
  | read (address : UInt32) (length : Nat)
  | write (address : UInt32) (data : Bytes)
  | saveState
  | restoreState
deriving DecidableEq, Repr

/-- What a process answers. Which frame a page is in is nobody's business. -/
inductive ProcessAnswer where
  | done
  | loaded (pages : Nat)
  | mapped (vpn : Vpn) (flags : PageFlags)
  | bytes (data : Bytes)
  | written (count : Nat)
deriving DecidableEq, Repr

namespace UserProcess

open VirtualMemory.Action Pager

variable {φ : Type} [FileSystem φ]

/-- The operation of a process that a request asks for. -/
def serve (process : UserProcess) : ProcessRequest → ProcessAction φ ProcessAnswer
  | .fault address => do
      process.fault address
      return .done
  | .loadSection first contents readOnly => do
      return .loaded (← process.loadSection first contents readOnly)
  | .allocateStack => do
      let entry ← process.allocateStack
      return .mapped entry.vpn entry.flags
  | .read address length => do
      return .bytes (← process.read address length)
  | .write address data => do
      return .written (← process.write address data)
  | .saveState => do
      modify process.saveState
      return .done
  | .restoreState => do
      modify process.restoreState
      return .done

variable {process : UserProcess} {pager : Pager φ} {vpn : Vpn} {config : Config}
  {held : Finset Ppn}

/-! ### Finding or making a page -/

/-- The ways in which finding or making a page of a process can end. -/
inductive FaultedIn (process : UserProcess) (vpn : Vpn) (pager : Pager φ) :
    Except FaultError TranslationEntry → Pager φ → Prop where
  | found {entry : TranslationEntry} {after : Pager φ}
      (broughtBack : BroughtBack pager (process.page vpn) (.ok (some entry)) after) :
      FaultedIn process vpn pager (.ok entry) after
  | missed {cause : PagingError} {after : Pager φ}
      (broughtBack : BroughtBack pager (process.page vpn) (.error cause) after) :
      FaultedIn process vpn pager (.error (pageInFailure (process.page vpn) cause)) after
  | grown {entry : TranslationEntry} {after : Pager φ}
      (broughtBack : BroughtBack pager (process.page vpn) (.ok none) pager)
      (onStack : process.isStackPage vpn = true)
      (backed : Backed pager (process.page vpn) false (.ok entry) after)
      (asked : (Pager.newPage (process.page vpn) false).outcome pager = (.ok entry, after)) :
      FaultedIn process vpn pager (.ok entry) after
  | ungrown {cause : PagingError} {after : Pager φ}
      (broughtBack : BroughtBack pager (process.page vpn) (.ok none) pager)
      (onStack : process.isStackPage vpn = true)
      (backed : Backed pager (process.page vpn) false (.error cause) after)
      (asked : (Pager.newPage (process.page vpn) false).outcome pager = (.error cause, after)) :
      FaultedIn process vpn pager (.error (.kernel cause)) after
  | segfault (broughtBack : BroughtBack pager (process.page vpn) (.ok none) pager)
      (offStack : process.isStackPage vpn = false) :
      FaultedIn process vpn pager (.error (.segfault (process.page vpn))) pager

/-- However a page is faulted in, it ends in one of the ways that are listed. -/
theorem faultIn_ends (accounts : Accounts config held pager) (process : UserProcess)
    (vpn : Vpn) :
    (process.faultIn vpn).Ends pager (FaultedIn process vpn pager) := by
  simp only [faultIn, ends_bind, ends_causing]
  apply Ends.mono (loadFromSwap_ends accounts (process.page vpn))
  intro result next broughtBack
  match result, broughtBack with
  | .error cause, broughtBack => exact .missed broughtBack
  | .ok (some entry), broughtBack => exact .found broughtBack
  | .ok none, broughtBack =>
    cases broughtBack with
    | neverWritten absent unknown =>
      simp only [mapError_ok]
      split
      · next onStack =>
        rw [ends_causing]
        apply Ends.mono ((newPage_ends accounts (process.page vpn) false).and (ends_self _ pager))
        intro result after made
        obtain ⟨backed, asked⟩ := made
        cases result with
        | ok entry => exact .grown (.neverWritten absent unknown) onStack backed asked
        | error cause => exact .ungrown (.neverWritten absent unknown) onStack backed asked
      · next offStack =>
        exact .segfault (.neverWritten absent unknown) (Bool.not_eq_true _ ▸ offStack)

/-- A page that was found or made is resident. -/
theorem FaultedIn.get_eq {entry : TranslationEntry} {after : Pager φ}
    (faulted : FaultedIn process vpn pager (.ok entry) after) :
    after.tables.get (process.page vpn) = some entry := by
  cases faulted with
  | found broughtBack => exact broughtBack.get_eq
  | grown _ _ backed => exact backed.get_eq

/-! ### What all requests preserve -/

/-- The pages that a request backs with fresh frames, whether they are resident or not. -/
def Backs (process : UserProcess) : ProcessRequest → Vpn → Prop
  | .loadSection first contents _, vpn =>
      ∃ index < (chunks contents).length, sectionPage first index = .ok vpn
  | .allocateStack, vpn => vpn = process.stackTop
  | .fault _, _ | .read _ _, _ | .write _ _, _ | .saveState, _ | .restoreState, _ => False

instance (process : UserProcess) : ∀ request vpn, Decidable (process.Backs request vpn)
  | .loadSection first contents _, vpn =>
      inferInstanceAs
        (Decidable (∃ index < (chunks contents).length, sectionPage first index = .ok vpn))
  | .allocateStack, vpn => inferInstanceAs (Decidable (vpn = process.stackTop))
  | .fault _, _ | .read _ _, _ | .write _ _, _ | .saveState, _ | .restoreState, _ =>
      inferInstanceAs (Decidable False)

/-- The pages that a request stores to. -/
def Stores : ProcessRequest → Vpn → Prop
  | .write address data, vpn => ∃ span ∈ spans address data.length, span.page.toUInt32 = vpn
  | .fault _, _ | .loadSection _ _ _, _ | .allocateStack, _ | .read _ _, _ | .saveState, _
  | .restoreState, _ => False

instance : ∀ request vpn, Decidable (Stores request vpn)
  | .write address data, vpn =>
      inferInstanceAs (Decidable (∃ span ∈ spans address data.length, span.page.toUInt32 = vpn))
  | .fault _, _ | .loadSection _ _ _, _ | .allocateStack, _ | .read _ _, _ | .saveState, _
  | .restoreState, _ => inferInstanceAs (Decidable False)

/-- What a property of the pager, and of the frame that a request has pinned at the
moment, needs for the requests of a process to preserve it, if they back only certain
pages that may be resident, and store only to certain others. -/
structure Sustains (process : UserProcess) (backs stores : Vpn → Prop)
    (invariant : Option Ppn → Pager φ → Prop) : Prop where
  accounts : ∀ {pager}, invariant none pager → ∃ config held, Accounts config held pager
  broughtBack : ∀ {pager vpn result after}, invariant none pager →
    BroughtBack pager (process.page vpn) result after → invariant none after
  grown : ∀ {pager vpn readOnly result after}, invariant none pager →
    pager.tables.get (process.page vpn) = none →
    Backed pager (process.page vpn) readOnly result after → invariant none after
  backed : ∀ {pager vpn readOnly result after}, invariant none pager → backs vpn →
    Backed pager (process.page vpn) readOnly result after → invariant none after
  /-- Only a process that runs caches translations, and only such as the page tables
  hold. -/
  cached : ∀ {pager : Pager φ} {vpn entry}, process.exited = false → invariant none pager →
    pager.tables.get (process.page vpn) = some entry →
    invariant none { pager with tlbs := (pager.tlbs.install process.tlb entry).2 }
  accessed : ∀ {pager : Pager φ} {vpn write}, invariant none pager →
    invariant none
      { pager with tables := (pager.tables.markAccessed (process.page vpn) write).2 }
  marked : ∀ {pager : Pager φ} {vpn write pinned}, invariant pinned pager →
    invariant pinned (process.markCached vpn write pager)
  dropped : ∀ {pager : Pager φ} {vpn}, invariant none pager →
    invariant none (process.changeCache (fun tlb => (tlb.invalidate vpn).2) pager)
  emptied : ∀ {pager : Pager φ}, invariant none pager →
    invariant none (process.changeCache Tlb.invalidateAll pager)
  pinned : ∀ {pager : Pager φ} {ppn}, invariant none pager →
    invariant (some ppn) (pager.pin ppn)
  unpinned : ∀ {pager : Pager φ} {ppn}, invariant (some ppn) pager →
    invariant none (pager.unpin ppn)
  /-- What is written goes to the frame of a page that is backed or stored to. -/
  stored : ∀ {pager : Pager φ} {vpn ppn offset data count memory}, backs vpn ∨ stores vpn →
    invariant (some ppn) pager → pager.tables.frameOf (process.page vpn) = some ppn →
    pager.memory.write ppn offset data = .ok (count, memory) →
    invariant (some ppn) { pager with memory := memory }

/-- What holds once a request asked for a page to be pinned: a page that is pinned is in the
frame that is answered. -/
def PinnedAt (process : UserProcess) (vpn : Vpn) (invariant : Option Ppn → Pager φ → Prop) :
    Except FaultError TranslationEntry → Pager φ → Prop
  | .ok entry, next => invariant (some entry.ppn) next ∧
      next.tables.frameOf (process.page vpn) = some entry.ppn
  | .error _, next => invariant none next

omit [FileSystem φ] in
theorem PinnedAt.holds {invariant : Pager φ → Prop} {result : Except FaultError TranslationEntry}
    (pinned : PinnedAt process vpn (fun _ => invariant) result pager) : invariant pager := by
  cases result with
  | ok entry => exact pinned.1
  | error cause => exact pinned

/-- A page that was resolved is resident. -/
theorem resolve_resident (accounts : Accounts config held pager) (process : UserProcess)
    (vpn : Vpn) :
    (process.resolve vpn).Ends pager fun result next =>
      ∀ entry, result = .ok entry → next.tables.get (process.page vpn) = some entry := by
  rw [UserProcess.resolve, UserProcess.ensureRunning, ends_bind]
  split
  · exact fun _ => no_answer
  · simp only [ends_pure]
    apply (faultIn_ends accounts process vpn).bind
    · intro entry after faulted
      simp only [installCached, onTlbs, ends_bind, ends_within, ends_always, ends_pure]
      rintro _ ⟨⟩
      exact faulted.get_eq
    · exact fun _ _ _ _ => no_answer

omit [FileSystem φ] in
/-- The entry that an access is recorded in is of the same frame. -/
theorem ppn_markAccessed {tables : PageTables} {page : PageId} {entry : TranslationEntry}
    (found : tables.get page = some entry) (write : Bool) :
    ((tables.markAccessed page write).1.getD entry).ppn = entry.ppn := by
  simp only [PageTables.markAccessed, found, Option.getD_some]
  rfl

omit [FileSystem φ] in
/-- A process that has not exited is not refused. -/
theorem ends_ensureRunning {α : Type} {rest : Unit → ProcessAction φ α} {pager : Pager φ}
    {post : Except FaultError α → Pager φ → Prop} (running : process.exited = false) :
    (process.ensureRunning >>= rest).Ends pager post ↔ (rest ()).Ends pager post := by
  have passes : (process.ensureRunning : ProcessAction φ Unit) = pure () := by
    rw [UserProcess.ensureRunning, running, if_neg Bool.false_ne_true]
  rw [passes, ends_bind, ends_pure]

omit [FileSystem φ] in
/-- What recording accesses and emptying the cache preserve, switching a process out preserves. -/
theorem saveState_keeps {invariant : Pager φ → Prop}
    (accessed : ∀ {pager : Pager φ} {vpn write}, invariant pager →
      invariant { pager with tables := (pager.tables.markAccessed (process.page vpn) write).2 })
    (emptied : ∀ {pager : Pager φ}, invariant pager →
      invariant (process.changeCache Tlb.invalidateAll pager))
    (holds : invariant pager) : invariant (process.saveState pager) := by
  have folded : ∀ (slots : List TranslationEntry) (tables : PageTables),
      invariant { pager with tables := tables } →
        invariant { pager with tables := slots.foldl process.foldBack tables } := by
    intro slots
    induction slots with
    | nil => exact fun _ holds => holds
    | cons slot rest hypothesis =>
      intro tables holds
      rw [List.foldl_cons]
      apply hypothesis
      rw [foldBack]
      split
      · exact accessed holds
      · exact holds
  exact emptied (folded (process.cache pager).slots pager.tables holds)

/-- What a process that has exited asks for is refused, and only switching it in or out comes to
anything. -/
theorem serve_of_exited (exited : process.exited = true) (request : ProcessRequest) :
    (process.serve request).Ends pager fun _ after =>
      after = pager ∨ after = process.saveState pager ∨ after = process.restoreState pager := by
  have refused : (process.ensureRunning : ProcessAction φ Unit) = throw (.exited process.pid) := by
    rw [ensureRunning, if_pos exited]
  cases request with
  | fault address =>
    rw [serve, fault, resolve, refused]
    exact .inl rfl
  | loadSection first contents readOnly =>
    rw [serve, loadSection, ends_bind]
    cases chunks contents with
    | nil => exact .inl rfl
    | cons chunk rest =>
      rw [loadChunks, ends_bind, ends_conclude]
      cases sectionPage first 0 with
      | error cause => exact .inl rfl
      | ok vpn =>
        simp only [loadChunk, refused]
        exact .inl rfl
  | allocateStack =>
    rw [serve, allocateStack, refused]
    exact .inl rfl
  | read address length =>
    rw [serve, read, refused]
    exact .inl rfl
  | write address data =>
    rw [serve, write, refused]
    exact .inl rfl
  | saveState => exact .inr (.inl rfl)
  | restoreState => exact .inr (.inr rfl)

namespace Sustains

variable {backs stores : Vpn → Prop} {invariant : Option Ppn → Pager φ → Prop}

omit [FileSystem φ] in
theorem ensureRunning (process : UserProcess) (invariant : Pager φ → Prop) :
    (process.ensureRunning : ProcessAction φ Unit).Preserves invariant := by
  rw [UserProcess.ensureRunning]
  split
  · exact .throw _
  · exact .pure _

theorem newPage (sustains : process.Sustains backs stores invariant) (named : backs vpn)
    (readOnly : Bool) :
    (Pager.newPage (process.page vpn) readOnly).Preserves (invariant none) := by
  intro pager holds
  obtain ⟨config, held, accounts⟩ := sustains.accounts holds
  exact (newPage_ends accounts (process.page vpn) readOnly).mono
    fun _ _ backed => sustains.backed holds named backed

/-- What a process sustains stands when it resolves a page. -/
theorem resolve (sustains : process.Sustains backs stores invariant) (vpn : Vpn) :
    (process.resolve vpn).Preserves (invariant none) := by
  intro pager holds
  rw [UserProcess.resolve, UserProcess.ensureRunning, ends_bind]
  split
  · exact holds
  · next running =>
    obtain ⟨config, held, accounts⟩ := sustains.accounts holds
    simp only [ends_pure]
    refine (faultIn_ends accounts process vpn).bind (fun entry after faulted => ?_)
      fun cause after faulted => ?_
    · have found := faulted.get_eq
      have middle : invariant none after := by
        cases faulted with
        | found broughtBack => exact sustains.broughtBack holds broughtBack
        | grown broughtBack _ backed => exact sustains.grown holds broughtBack.absent backed
      simp only [installCached, onTlbs, ends_bind, ends_within, ends_always, ends_pure]
      exact sustains.cached (Bool.not_eq_true _ ▸ running) middle found
    · cases faulted with
      | missed broughtBack => exact sustains.broughtBack holds broughtBack
      | ungrown broughtBack _ backed => exact sustains.grown holds broughtBack.absent backed
      | segfault => exact holds

theorem resolvePinned (sustains : process.Sustains backs stores invariant) (vpn : Vpn)
    (write : Bool) (holds : invariant none pager) :
    (process.resolvePinned vpn write).Ends pager (PinnedAt process vpn invariant) := by
  obtain ⟨config, held, accounts⟩ := sustains.accounts holds
  have resolved := (sustains.resolve vpn pager holds).and (resolve_resident accounts process vpn)
  rw [UserProcess.resolvePinned]
  refine resolved.bind (fun found next after => ?_) fun _ _ => And.left
  have resident := after.2 found rfl
  simp only [onTables, ends_bind, ends_within, ends_always, ends_modify, ends_pure]
  refine ⟨sustains.pinned (sustains.marked (sustains.accessed after.1)), ?_⟩
  rw [ppn_markAccessed resident]
  exact (PageTables.frameOf_markAccessed write _).trans
    (PageTables.frameOf_eq_some_iff.mpr ⟨found, resident, rfl⟩)

theorem pinPage (sustains : process.Sustains backs stores invariant) (vpn : Vpn) (write : Bool)
    (holds : invariant none pager) :
    (process.pinPage vpn write).Ends pager (PinnedAt process vpn invariant) := by
  simp only [UserProcess.pinPage, ends_bind, ends_get]
  split
  · simp only [ends_bind, ends_causing, getTranslationPinned, ends_get]
    cases resident : pager.tables.get (process.page vpn) with
    | some entry =>
      exact ⟨sustains.marked (sustains.pinned holds),
        PageTables.frameOf_eq_some_iff.mpr ⟨entry, resident, rfl⟩⟩
    | none => exact sustains.resolvePinned vpn write (sustains.dropped holds)
  · exact sustains.resolvePinned vpn write holds

theorem writeFrame (sustains : process.Sustains backs stores invariant) {ppn : Ppn}
    (named : backs vpn ∨ stores vpn) (holds : invariant (some ppn) pager)
    (there : pager.tables.frameOf (process.page vpn) = some ppn) (offset : Nat) (data : Bytes) :
    (writeFrame ppn offset data).Ends pager fun _ next => invariant (some ppn) next := by
  rw [UserProcess.writeFrame, ends_causing]
  simp only [onMemory, ends_within, ends_update]
  cases written : pager.memory.write ppn offset data with
  | error cause => exact holds
  | ok pair => exact sustains.stored named holds there written

/-- What is done with a page between pinning it and letting go of it. -/
theorem letGo {α : Type} (sustains : process.Sustains backs stores invariant)
    {action : ProcessAction φ α} {entry : TranslationEntry}
    (ends : action.Ends pager fun _ next => invariant (some entry.ppn) next) :
    (action.thenAlways (UserProcess.letGo entry)).Ends pager
      fun _ next => invariant none next := by
  rw [ends_thenAlways]
  exact ends.mono fun _ _ => sustains.unpinned

/-- What a process sustains stands when it reads a span. -/
theorem readSpan (sustains : process.Sustains backs stores invariant) (span : Span) :
    (process.readSpan span).Preserves (invariant none) := by
  intro pager holds
  rw [UserProcess.readSpan]
  refine (sustains.pinPage span.page.toUInt32 false holds).bind (fun entry next pinned => ?_)
    fun _ _ => id
  apply sustains.letGo
  exact Preserves.inspect _ next pinned.1

theorem readSpans (sustains : process.Sustains backs stores invariant) (spans : List Span) :
    (process.readSpans spans).Preserves (invariant none) := by
  induction spans with
  | nil => exact .pure _
  | cons span rest hypothesis =>
    refine (sustains.readSpan span).bind fun bytes => ?_
    exact hypothesis.bind fun others => .pure _

/-- What a process sustains stands when it writes a span, if it may store there. -/
theorem writeSpan (sustains : process.Sustains backs stores invariant) {span : Span}
    (named : stores span.page.toUInt32) (data : Bytes) :
    (process.writeSpan span data).Preserves (invariant none) := by
  intro pager holds
  rw [UserProcess.writeSpan]
  refine (sustains.pinPage span.page.toUInt32 true holds).bind (fun entry next pinned => ?_)
    fun _ _ => id
  apply sustains.letGo
  split
  · exact pinned.1
  · rw [map_eq_pure_bind]
    refine (sustains.writeFrame (.inr named) pinned.1 pinned.2 span.offset
      (data.take span.count)).bind (fun _ _ => id) fun _ _ => id

theorem writeSpans (sustains : process.Sustains backs stores invariant) (spans : List Span)
    (named : ∀ span ∈ spans, stores span.page.toUInt32) (written : Nat) (data : Bytes) :
    (process.writeSpans written data spans).Preserves (invariant none) := by
  induction spans generalizing written data with
  | nil => exact .pure _
  | cons span rest hypothesis =>
    obtain ⟨here, later⟩ := List.forall_mem_cons.mp named
    refine (sustains.writeSpan here data).bind fun count => ?_
    cases count with
    | none => exact .pure _
    | some count => exact hypothesis later (written + count) (data.drop span.count)

/-- What a process sustains stands when it loads a chunk, if it may make the page. -/
theorem loadChunk (sustains : process.Sustains backs stores invariant) (named : backs vpn)
    (readOnly : Bool) (chunk : Bytes) :
    (process.loadChunk vpn readOnly chunk).Preserves (invariant none) := by
  rw [UserProcess.loadChunk]
  refine (ensureRunning process (invariant none)).bind fun _ => ?_
  intro pager holds
  obtain ⟨config, held, accounts⟩ := sustains.accounts holds
  simp only [ends_bind, ends_causing, newPagePinned]
  apply Ends.mono ((sustains.newPage named readOnly pager holds).and
    (newPage_ends accounts (process.page vpn) readOnly))
  rintro result next ⟨after, backed⟩
  cases result with
  | error cause => exact after
  | ok entry =>
    have there : next.tables.frameOf (process.page vpn) = some entry.ppn :=
      PageTables.frameOf_eq_some_iff.mpr ⟨entry, backed.get_eq, rfl⟩
    simp only [ends_modify, ends_pure, mapError_ok]
    refine Ends.mono (sustains.letGo (sustains.writeFrame (.inl named) (sustains.pinned after)
      there 0 chunk)) fun result last => ?_
    cases result <;> exact id

/-- What a process sustains stands when it loads chunks, if it may make all the pages. -/
theorem loadChunks (sustains : process.Sustains backs stores invariant) (first : Vpn)
    (readOnly : Bool) (chunks : List Bytes) (index : Nat)
    (named : ∀ offset < chunks.length, ∀ vpn,
      sectionPage first (index + offset) = .ok vpn → backs vpn) :
    (process.loadChunks first readOnly index chunks).Preserves (invariant none) := by
  induction chunks generalizing index with
  | nil => exact .pure _
  | cons chunk rest hypothesis =>
    intro pager holds
    rw [UserProcess.loadChunks, ends_bind, ends_conclude]
    cases there : sectionPage first index with
    | error cause => exact holds
    | ok vpn =>
      have backed := sustains.loadChunk (named 0 (Nat.zero_lt_succ _) vpn there) readOnly chunk
      refine (backed.bind fun _ => hypothesis (index + 1) fun offset inside vpn there => ?_)
        pager holds
      refine named (offset + 1) (Nat.succ_lt_succ inside) vpn ?_
      rwa [← Nat.add_assoc, Nat.add_right_comm]

/-- What a process sustains stands when it saves its state. -/
theorem saveState (sustains : process.Sustains backs stores invariant)
    (holds : invariant none pager) : invariant none (process.saveState pager) :=
  saveState_keeps sustains.accessed sustains.emptied holds

/-- What the parts of a request preserve, the request preserves, and it leaves no pin
behind. -/
theorem serve {request : ProcessRequest}
    (sustains : process.Sustains (process.Backs request) (Stores request) invariant) :
    (process.serve request).Preserves (invariant none) := by
  cases request with
  | fault address =>
    refine Preserves.bind ?_ fun _ => .pure _
    exact (sustains.resolve _).bind fun _ => .pure _
  | loadSection first contents readOnly =>
    refine Preserves.bind ?_ fun _ => .pure _
    refine sustains.loadChunks first readOnly (chunks contents) 0 fun offset inside vpn there => ?_
    exact ⟨offset, inside, Nat.zero_add offset ▸ there⟩
  | allocateStack =>
    refine Preserves.bind ?_ fun _ => .pure _
    refine (ensureRunning process (invariant none)).bind fun _ => ?_
    exact (sustains.newPage rfl false).causing
  | read address length =>
    refine Preserves.bind ?_ fun _ => .pure _
    exact (ensureRunning process (invariant none)).bind fun _ => sustains.readSpans _
  | write address data =>
    refine Preserves.bind ?_ fun _ => .pure _
    refine (ensureRunning process (invariant none)).bind fun _ => ?_
    exact sustains.writeSpans _ (fun span listed => ⟨span, listed, rfl⟩) 0 data
  | saveState => exact Preserves.bind (.modify fun _ => sustains.saveState) fun _ => .pure _
  | restoreState => exact Preserves.bind (.modify fun _ => sustains.emptied) fun _ => .pure _

end Sustains

/-- What a property of the pager needs for every request of a process to preserve it,
whatever pages the request backs and whatever frame it pins. -/
structure Keeps (process : UserProcess) (invariant : Pager φ → Prop) : Prop where
  accounts : ∀ {pager}, invariant pager → ∃ config held, Accounts config held pager
  broughtBack : ∀ {pager vpn result after}, invariant pager →
    BroughtBack pager (process.page vpn) result after → invariant after
  backed : ∀ {pager vpn readOnly result after}, invariant pager →
    Backed pager (process.page vpn) readOnly result after → invariant after
  cached : ∀ {pager : Pager φ} {vpn entry}, process.exited = false → invariant pager →
    pager.tables.get (process.page vpn) = some entry →
    invariant { pager with tlbs := (pager.tlbs.install process.tlb entry).2 }
  accessed : ∀ {pager : Pager φ} {vpn write}, invariant pager →
    invariant { pager with tables := (pager.tables.markAccessed (process.page vpn) write).2 }
  marked : ∀ {pager : Pager φ} {vpn write}, invariant pager →
    invariant (process.markCached vpn write pager)
  dropped : ∀ {pager : Pager φ} {vpn}, invariant pager →
    invariant (process.changeCache (fun tlb => (tlb.invalidate vpn).2) pager)
  emptied : ∀ {pager : Pager φ}, invariant pager →
    invariant (process.changeCache Tlb.invalidateAll pager)
  pinned : ∀ {pager : Pager φ} {ppn}, invariant pager → invariant (pager.pin ppn)
  unpinned : ∀ {pager : Pager φ} {ppn}, invariant pager → invariant (pager.unpin ppn)
  stored : ∀ {pager : Pager φ} {memory : PhysicalMemory}, invariant pager →
    memory.size = pager.memory.size → invariant { pager with memory := memory }

theorem Keeps.sustains {invariant : Pager φ → Prop} (keeps : process.Keeps invariant)
    (backs stores : Vpn → Prop) : process.Sustains backs stores fun _ => invariant where
  accounts := keeps.accounts
  broughtBack := keeps.broughtBack
  grown holds _ := keeps.backed holds
  backed holds _ := keeps.backed holds
  cached := keeps.cached
  accessed := keeps.accessed
  marked := keeps.marked
  dropped := keeps.dropped
  emptied := keeps.emptied
  pinned := keeps.pinned
  unpinned := keeps.unpinned
  stored _ holds _ written := keeps.stored holds (PhysicalMemory.size_of_write written)

/-- What a process keeps one by one it keeps together. -/
theorem Keeps.and {first second : Pager φ → Prop} (one : process.Keeps first)
    (two : process.Keeps second) : process.Keeps fun pager => first pager ∧ second pager where
  accounts both := one.accounts both.1
  broughtBack both how := ⟨one.broughtBack both.1 how, two.broughtBack both.2 how⟩
  backed both how := ⟨one.backed both.1 how, two.backed both.2 how⟩
  cached running both found := ⟨one.cached running both.1 found, two.cached running both.2 found⟩
  accessed both := ⟨one.accessed both.1, two.accessed both.2⟩
  marked both := ⟨one.marked both.1, two.marked both.2⟩
  dropped both := ⟨one.dropped both.1, two.dropped both.2⟩
  emptied both := ⟨one.emptied both.1, two.emptied both.2⟩
  pinned both := ⟨one.pinned both.1, two.pinned both.2⟩
  unpinned both := ⟨one.unpinned both.1, two.unpinned both.2⟩
  stored both same := ⟨one.stored both.1 same, two.stored both.2 same⟩

/-- What the parts of a request preserve, the request preserves. -/
theorem Keeps.serve {invariant : Pager φ → Prop} (keeps : process.Keeps invariant)
    (request : ProcessRequest) : (process.serve request).Preserves invariant :=
  (keeps.sustains (process.Backs request) (Stores request)).serve

end UserProcess

end VirtualMemory
