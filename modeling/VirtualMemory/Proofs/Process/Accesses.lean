/-
Module: VirtualMemory.Proofs.Process.Accesses
Purpose: An access of a process to its memory, taken apart into one step for each page.
Main exports:
  MemoryAccess, PageAccess, MemoryAccess.pages; UserProcess.access, accessAll;
  UserProcess.Resolved, PinnedIn, Accessed, access_accessed; serve_access;
  UserProcess.Passed, accessAll_ends, Keeps.access

A fault is about one page. A read or a write is about all the pages that its bytes are on, one
after another, up to the first that fails or refuses to be stored to. Others may use the pager
between any two of the steps, but not during one of them.
-/
import VirtualMemory.Proofs.Process.Requests

namespace VirtualMemory

open VirtualMemory.Action Pager

/-- What a process asks of its memory. -/
inductive MemoryAccess where
  | fault (address : UInt32)
  | read (address : UInt32) (length : Nat)
  | write (address : UInt32) (data : Bytes)
deriving DecidableEq, Repr

/-- What a process asks of one page. -/
inductive PageAccess where
  | find (vpn : Vpn)
  | load (span : Span)
  /-- The first bytes of `data` are stored. -/
  | store (span : Span) (data : Bytes)
deriving DecidableEq, Repr

namespace PageAccess

/-- The page. -/
def vpn : PageAccess → Vpn
  | find vpn => vpn
  | load span | store span _ => span.page.toUInt32

/-- The stores of bytes to spans, in their order. -/
def stores (data : Bytes) : List Span → List PageAccess
  | [] => []
  | span :: rest => store span data :: stores (data.drop span.count) rest

end PageAccess

namespace MemoryAccess

/-- The access as a request. -/
def request : MemoryAccess → ProcessRequest
  | fault address => .fault address
  | read address length => .read address length
  | write address data => .write address data

/-- What is asked of each page, in order. -/
def pages : MemoryAccess → List PageAccess
  | fault address => [.find (VirtualAddress.mk address).vpn]
  | read address length => (spans address length).map .load
  | write address data => PageAccess.stores data (spans address data.length)

end MemoryAccess

namespace UserProcess

variable {φ : Type} [FileSystem φ] {process : UserProcess} {pager : Pager φ}

/-- Does what is asked of one page. Answers whether the next page comes next: a store that is
refused is the last one. -/
def access (process : UserProcess) : PageAccess → ProcessAction φ Bool
  | .find vpn => do
      let _ ← process.resolve vpn
      return true
  | .load span => do
      let _ ← process.readSpan span
      return true
  | .store span data => do
      return (← process.writeSpan span data).isSome

/-- Does what is asked of one page after another. -/
def accessAll (process : UserProcess) : List PageAccess → ProcessAction φ Unit
  | [] => return
  | page :: rest => do
      if ← process.access page then
        process.accessAll rest

/-! ### What an access to one page can do -/

section Effects

variable {vpn : Vpn} {write : Bool} {config : Config} {held : Finset Ppn}

/-- The ways in which a page is found or made and then cached. -/
inductive Resolved (process : UserProcess) (vpn : Vpn) (pager : Pager φ) :
    Except FaultError TranslationEntry → Pager φ → Prop where
  | exited (exited : process.exited = true) :
      Resolved process vpn pager (.error (.exited process.pid)) pager
  | failed {cause : FaultError} {after : Pager φ} (running : process.exited = false)
      (faulted : FaultedIn process vpn pager (.error cause) after) :
      Resolved process vpn pager (.error cause) after
  | cached {entry : TranslationEntry} {after : Pager φ} (running : process.exited = false)
      (faulted : FaultedIn process vpn pager (.ok entry) after) :
      Resolved process vpn pager (.ok entry)
        { after with tlbs := (after.tlbs.install process.tlb entry).2 }

/-- However an entry is resolved, it ends in one of the ways that are listed. -/
theorem resolve_resolved (accounts : Accounts config held pager) (process : UserProcess)
    (vpn : Vpn) : (process.resolve vpn).Ends pager (Resolved process vpn pager) := by
  rw [resolve]
  cases exited : process.exited with
  | true =>
    rw [ensureRunning, if_pos exited]
    exact .exited exited
  | false =>
    rw [ends_ensureRunning exited]
    refine (faultIn_ends accounts process vpn).bind (fun entry after faulted => ?_)
      fun cause after faulted => .failed exited faulted
    simp only [installCached, onTlbs, ends_bind, ends_within, ends_always, ends_pure]
    exact .cached exited faulted

/-- The pager in which a page is looked for that the cache of its process does not have, or has
though the page is not mapped any more. -/
inductive Misses (process : UserProcess) (vpn : Vpn) (pager : Pager φ) : Pager φ → Prop where
  | uncached (absent : (process.cache pager).lookup vpn = none) :
      Misses process vpn pager pager
  | stale (unmapped : pager.tables.get (process.page vpn) = none) :
      Misses process vpn pager
        (process.changeCache (fun tlb => (tlb.invalidate vpn).2) pager)

/-- The ways in which a page is pinned: it was cached, or it was looked for. In the tables the
access is recorded in the second case only. -/
inductive PinnedIn (process : UserProcess) (vpn : Vpn) (write : Bool) (pager : Pager φ) :
    Except FaultError TranslationEntry → Pager φ → Prop where
  | hit {entry : TranslationEntry} (cached : ((process.cache pager).lookup vpn).isSome = true)
      (found : pager.tables.get (process.page vpn) = some entry) :
      PinnedIn process vpn write pager (.ok entry)
        (process.markCached vpn write (pager.pin entry.ppn))
  | failed {cause : FaultError} {begun after : Pager φ}
      (misses : Misses process vpn pager begun)
      (resolved : Resolved process vpn begun (.error cause) after) :
      PinnedIn process vpn write pager (.error cause) after
  | missed {entry found : TranslationEntry} {begun after : Pager φ}
      (misses : Misses process vpn pager begun)
      (resolved : Resolved process vpn begun (.ok found) after)
      (marked : (after.tables.markAccessed (process.page vpn) write).1 = some entry) :
      PinnedIn process vpn write pager (.ok entry)
        ((process.markCached vpn write
          { after with
            tables := (after.tables.markAccessed (process.page vpn) write).2 }).pin entry.ppn)

/-- A page that was resolved is mapped. -/
theorem Resolved.get_eq {entry : TranslationEntry} {after : Pager φ}
    (resolved : Resolved process vpn pager (.ok entry) after) :
    after.tables.get (process.page vpn) = some entry := by
  cases resolved with
  | cached _ faulted => exact faulted.get_eq

theorem resolvePinned_pinned {begun : Pager φ} (misses : Misses process vpn pager begun)
    (accounts : Accounts config held begun) (write : Bool) :
    (process.resolvePinned vpn write).Ends begun (PinnedIn process vpn write pager) := by
  rw [resolvePinned]
  refine (resolve_resolved accounts process vpn).bind (fun found after resolved => ?_)
    fun cause after resolved => .failed misses resolved
  simp only [onTables, ends_bind, ends_within, ends_always, ends_modify, ends_pure]
  have marked : (after.tables.markAccessed (process.page vpn) write).1 =
      some (found.touch (write && !found.readOnly)) := by
    rw [PageTables.markAccessed, resolved.get_eq]
  rw [marked, Option.getD_some]
  exact .missed misses resolved marked

theorem pinPage_pinned (accounts : Accounts config held pager) (process : UserProcess)
    (vpn : Vpn) (write : Bool) :
    (process.pinPage vpn write).Ends pager (PinnedIn process vpn write pager) := by
  simp only [pinPage, ends_bind, ends_get]
  split
  · next cached =>
    simp only [ends_bind, ends_causing, getTranslationPinned, ends_get]
    cases found : pager.tables.get (process.page vpn) with
    | some entry => exact .hit cached found
    | none =>
      have dropped : Accounts config held
          (process.changeCache (fun tlb => (tlb.invalidate vpn).2) pager) :=
        accounts.withTlbs _
      exact resolvePinned_pinned (.stale found) dropped write
  · next missed =>
    have absent : (process.cache pager).lookup vpn = none := by
      rwa [Option.not_isSome_iff_eq_none] at missed
    exact resolvePinned_pinned (.uncached absent) accounts write

/-- The ways in which an access to one page ends. Only the kernel can be at fault for a page that
was pinned. -/
inductive Accessed (process : UserProcess) (pager : Pager φ) :
    PageAccess → Except FaultError Bool → Pager φ → Prop where
  | found {vpn : Vpn} {entry : TranslationEntry} {after : Pager φ}
      (resolved : Resolved process vpn pager (.ok entry) after) :
      Accessed process pager (.find vpn) (.ok true) after
  | lost {vpn : Vpn} {cause : FaultError} {after : Pager φ}
      (resolved : Resolved process vpn pager (.error cause) after) :
      Accessed process pager (.find vpn) (.error cause) after
  | loaded {span : Span} {entry : TranslationEntry} {after : Pager φ}
      {result : Except FaultError Bool}
      (pinned : PinnedIn process span.page.toUInt32 false pager (.ok entry) after)
      (told : result = .ok true ∨ ∃ cause, result = .error (.kernel cause)) :
      Accessed process pager (.load span) result (letGo entry after)
  | unloaded {span : Span} {cause : FaultError} {after : Pager φ}
      (pinned : PinnedIn process span.page.toUInt32 false pager (.error cause) after) :
      Accessed process pager (.load span) (.error cause) after
  | stored {span : Span} {data : Bytes} {entry : TranslationEntry} {after : Pager φ}
      {memory : PhysicalMemory} {result : Except FaultError Bool}
      (pinned : PinnedIn process span.page.toUInt32 true pager (.ok entry) after)
      (told : result = .ok (!entry.readOnly) ∨ ∃ cause, result = .error (.kernel cause)) :
      Accessed process pager (.store span data) result
        (letGo entry { after with memory := memory })
  | unstored {span : Span} {data : Bytes} {cause : FaultError} {after : Pager φ}
      (pinned : PinnedIn process span.page.toUInt32 true pager (.error cause) after) :
      Accessed process pager (.store span data) (.error cause) after

/-- However a page is accessed, it ends in one of the ways that are listed. -/
theorem access_accessed (accounts : Accounts config held pager) (process : UserProcess)
    (page : PageAccess) :
    (process.access page).Ends pager (Accessed process pager page) := by
  cases page with
  | find vpn =>
    exact (resolve_resolved accounts process vpn).bind (fun _ _ => .found) fun _ _ => .lost
  | load span =>
    simp only [access, readSpan, bind_assoc]
    refine (pinPage_pinned accounts process span.page.toUInt32 false).bind
      (fun entry after pinned => ?_) fun _ _ => .unloaded
    simp only [ends_bind, ends_thenAlways, readFrame, ends_inspect]
    cases after.memory.read entry.ppn span.offset span.count with
    | ok => exact .loaded pinned (.inl rfl)
    | error cause => exact .loaded pinned (.inr ⟨cause, rfl⟩)
  | store span data =>
    simp only [access, writeSpan, bind_assoc]
    refine (pinPage_pinned accounts process span.page.toUInt32 true).bind
      (fun entry after pinned => ?_) fun _ _ => .unstored
    rw [ends_bind, ends_thenAlways]
    split
    · next refuses =>
      have unchanged : Accessed process pager (.store span data) (.ok false)
          (letGo entry { after with memory := after.memory }) :=
        .stored pinned (.inl (by rw [refuses, Bool.not_true]))
      exact unchanged
    · next allows =>
      have writable : entry.readOnly = false := Bool.not_eq_true _ ▸ allows
      simp only [map_eq_pure_bind, writeFrame, ends_bind, ends_causing, onMemory, ends_within,
        ends_update]
      cases after.memory.write entry.ppn span.offset (data.take span.count) with
      | ok => exact .stored pinned (.inl (by rw [writable]; rfl))
      | error cause => exact .stored pinned (.inr ⟨cause, rfl⟩)

end Effects

theorem accessAll_loads (process : UserProcess) (spans : List Span) :
    ((fun _ => ()) <$> process.readSpans spans : ProcessAction φ Unit) =
      process.accessAll (spans.map .load) := by
  induction spans with
  | nil => rfl
  | cons span rest hypothesis =>
    rw [List.map_cons, accessAll, ← hypothesis]
    simp only [readSpans, access, map_eq_pure_bind, bind_assoc, pure_bind, if_true]

theorem accessAll_stores (process : UserProcess) (spans : List Span) (written : Nat)
    (data : Bytes) :
    ((fun _ => ()) <$> process.writeSpans written data spans : ProcessAction φ Unit) =
      process.accessAll (PageAccess.stores data spans) := by
  induction spans generalizing written data with
  | nil => rfl
  | cons span rest hypothesis =>
    simp only [PageAccess.stores, accessAll, access, writeSpans, map_eq_pure_bind, bind_assoc,
      pure_bind]
    refine bind_congr fun count => ?_
    cases count with
    | none => rfl
    | some count => exact hypothesis (written + count) (data.drop span.count)

/-- What a running process asks of its memory, it asks of one page after another. -/
theorem serve_access (running : process.exited = false) (access : MemoryAccess) :
    ((fun _ => ()) <$> process.serve access.request : ProcessAction φ Unit) =
      process.accessAll access.pages := by
  have passes : (process.ensureRunning : ProcessAction φ Unit) = pure () := by
    rw [ensureRunning, running, if_neg Bool.false_ne_true]
  cases access with
  | fault address =>
    simp only [MemoryAccess.request, MemoryAccess.pages, serve, fault, accessAll,
      UserProcess.access, map_eq_pure_bind, bind_assoc, pure_bind, if_true]
  | read address length =>
    simp only [MemoryAccess.request, MemoryAccess.pages, ← accessAll_loads, serve, read, passes,
      map_eq_pure_bind, bind_assoc, pure_bind]
  | write address data =>
    simp only [MemoryAccess.request, MemoryAccess.pages, ← accessAll_stores process _ 0 data,
      serve, write, passes, map_eq_pure_bind, bind_assoc, pure_bind]

/-- A process that has exited is refused. -/
theorem serve_exited (exited : process.exited = true) (access : MemoryAccess) :
    (process.serve access.request : ProcessAction φ ProcessAnswer).outcome pager =
      (.error (.exited process.pid), pager) := by
  have refused : (process.ensureRunning : ProcessAction φ Unit) =
      throw (.exited process.pid) := by
    rw [ensureRunning, if_pos exited]
  cases access with
  | fault address =>
    rw [MemoryAccess.request, serve, fault, resolve, refused]
    rfl
  | read address length =>
    rw [MemoryAccess.request, serve, read, refused]
    rfl
  | write address data =>
    rw [MemoryAccess.request, serve, write, refused]
    rfl

/-- What was asked of some pages was done for all of them, from one pager to the next. -/
inductive Passed (process : UserProcess) : List PageAccess → Pager φ → Pager φ → Prop where
  | nil (pager : Pager φ) : Passed process [] pager pager
  | cons {page : PageAccess} {rest : List PageAccess} {pager middle after : Pager φ}
      (done : (process.access page).outcome pager = (.ok true, middle))
      (later : Passed process rest middle after) : Passed process (page :: rest) pager after

/-- An access that fails does so at one of its pages, once all pages before were done. -/
theorem accessAll_ends (process : UserProcess) (pages : List PageAccess) (pager : Pager φ) :
    (process.accessAll pages).Ends pager fun result after =>
      match result with
      | .ok () => True
      | .error cause => ∃ earlier page later begun, pages = earlier ++ page :: later ∧
          process.Passed earlier pager begun ∧
          (process.access page).outcome begun = (.error cause, after) := by
  induction pages generalizing pager with
  | nil => trivial
  | cons page rest hypothesis =>
    rw [accessAll]
    refine (ends_self (process.access page) pager).bind (fun goesOn middle done => ?_)
      (fun cause after failed => ⟨[], page, rest, pager, rfl, .nil pager, failed⟩)
    cases goesOn with
    | false => trivial
    | true =>
      apply Ends.mono (hypothesis middle)
      intro result after told
      cases result with
      | ok => trivial
      | error cause =>
        obtain ⟨earlier, failing, later, begun, rfl, passed, failed⟩ := told
        exact ⟨page :: earlier, failing, later, begun, rfl, .cons done passed, failed⟩

/-- What the parts of a request preserve, an access to a page preserves. -/
theorem Keeps.access {invariant : Pager φ → Prop} (keeps : process.Keeps invariant)
    (page : PageAccess) : (process.access page).Preserves invariant := by
  have sustains := keeps.sustains (fun _ => True) fun _ => True
  cases page with
  | find vpn => exact (sustains.resolve vpn).bind fun _ => .pure true
  | load span => exact (sustains.readSpan span).bind fun _ => .pure true
  | store span data => exact (sustains.writeSpan trivial data).bind fun _ => .pure _

theorem Passed.kept {invariant : Pager φ → Prop} (keeps : process.Keeps invariant)
    {pages : List PageAccess} {after : Pager φ} (passed : process.Passed pages pager after)
    (holds : invariant pager) : invariant after := by
  induction passed with
  | nil => exact holds
  | @cons page _ pager middle _ done _ hypothesis =>
    exact hypothesis ((keeps.access page pager holds).outcome done)

end UserProcess

end VirtualMemory
