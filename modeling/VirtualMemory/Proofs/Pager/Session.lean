/-
Module: VirtualMemory.Proofs.Pager.Session
Purpose: Whatever the pager is called for, in whatever order and however the calls
  end, no frame is lost, duplicated or shared.
Main exports:
  PagerCall, PagerSession and its step and run; FrameHolder,
  PagerSession.frames_accounted_for

Calls come from the kernel, from processes and from others who keep frames and guards
for as long as they like. The file system may be changed in between, and may fail or
transfer a part of what was asked for at any call.
-/
import VirtualMemory.Proofs.Pager.Bookkeeping
import VirtualMemory.Storage.Ephemeral

namespace VirtualMemory

/-- A call of the pager, or of a process on it. -/
inductive PagerCall (φ : Type) where
  | getFreeFrame
  | returnFrame (ppn : Ppn)
  | newPage (page : PageId) (readOnly : Bool)
  | newPagePinned (page : PageId) (readOnly : Bool)
  | putTranslation (pid : Pid) (entry : TranslationEntry)
  | getTranslation (page : PageId)
  | getTranslationPinned (page : PageId)
  /-- The guard with a number is dropped. -/
  | dropGuard (index : Nat)
  | loadFromSwap (page : PageId)
  | evictPage
  | deallocate (pid : Pid)
  | reclaimOnce
  | initializeSwap
  | terminate
  | start (pid : Pid) (stackTop : Vpn)
  | serve (process : UserProcess) (request : ProcessRequest)
  | exit (process : UserProcess)
  /-- Something happens to the file system from outside. -/
  | disturb (change : φ → φ)

/-- A pager in use, and what its callers keep. -/
structure PagerSession (φ : Type) where
  pager : Pager φ
  /-- The frames that were handed out and neither returned nor mapped since. -/
  held : Finset Ppn := ∅
  /-- The frames of the guards that are kept. Several guards may pin one frame. -/
  guards : List Ppn := []

namespace PagerSession

open VirtualMemory.Action Pager

variable {φ : Type} [FileSystem φ]

/-- The session after an action that may change who holds which frame. -/
def afterAction {ε α : Type} (session : PagerSession φ) (action : Action (Pager φ) ε α)
    (held : Except ε α → Finset Ppn) : PagerSession φ :=
  let (result, pager) := action.outcome session.pager
  { session with pager := pager, held := held result }

/-- The session after an action that may answer a guard. -/
def afterGuarding (session : PagerSession φ)
    (action : PagerAction φ (Option TranslationEntry)) : PagerSession φ :=
  let (result, pager) := action.outcome session.pager
  match result with
  | .ok (some entry) => { session with pager := pager, guards := session.guards ++ [entry.ppn] }
  | .ok none | .error _ => { session with pager := pager }

/-- The session after a call. -/
def step (session : PagerSession φ) : PagerCall φ → PagerSession φ
  | .getFreeFrame => session.afterAction Pager.getFreeFrame (gained session.held)
  | .returnFrame ppn =>
      session.afterAction (Pager.returnFrame ppn) (returned session.held ppn)
  | .newPage page readOnly =>
      session.afterAction (Pager.newPage page readOnly) fun _ => session.held
  | .newPagePinned page readOnly =>
      session.afterGuarding (some <$> Pager.newPagePinned page readOnly)
  | .putTranslation pid entry =>
      session.afterAction (Pager.putTranslation pid entry) (handedOver session.held entry)
  | .getTranslation _ => session
  | .getTranslationPinned page => session.afterGuarding (Pager.getTranslationPinned page)
  | .dropGuard index =>
      match session.guards[index]? with
      | none => session
      | some ppn =>
          { session with
            pager := session.pager.unpin ppn
            guards := session.guards.eraseIdx index }
  | .loadFromSwap page =>
      session.afterAction (Pager.loadFromSwap page) fun _ => session.held
  | .evictPage => session.afterAction Pager.evictPage (gained session.held)
  | .deallocate pid => { session with pager := (session.pager.deallocate pid).2 }
  | .reclaimOnce => session.afterAction Pager.reclaimOnce fun _ => session.held
  | .initializeSwap => session.afterAction Pager.initializeSwap fun _ => session.held
  | .terminate => session.afterAction Pager.terminate fun _ => session.held
  | .start pid stackTop =>
      { session with pager := (UserProcess.start session.pager pid stackTop).2 }
  | .serve process request =>
      session.afterAction (process.serve request) fun _ => session.held
  | .exit process => { session with pager := (process.exit session.pager).2.2 }
  | .disturb change =>
      { session with
        pager :=
          { session.pager with
            device := session.pager.device.withFiles (change session.pager.device.files) } }

/-- The session after calls, one after another. -/
def run (session : PagerSession φ) (calls : List (PagerCall φ)) : PagerSession φ :=
  calls.foldl step session

variable {config : Config} {session : PagerSession φ}

/-- The frames that callers hold are the ones that the pager's books leave to them. -/
def Balanced (config : Config) (session : PagerSession φ) : Prop :=
  Accounts config session.held session.pager

omit [FileSystem φ] in
theorem balanced_afterAction {ε α : Type} {action : Action (Pager φ) ε α}
    {held : Except ε α → Finset Ppn}
    (ends : action.Ends session.pager fun result next => Accounts config (held result) next) :
    (session.afterAction action held).Balanced config := ends

omit [FileSystem φ] in
theorem balanced_afterGuarding {action : PagerAction φ (Option TranslationEntry)}
    (ends : action.Ends session.pager fun _ next => Accounts config session.held next) :
    (session.afterGuarding action).Balanced config := by
  simp only [afterGuarding]
  split <;> exact ends

theorem balanced_step (balanced : session.Balanced config) (call : PagerCall φ) :
    (session.step call).Balanced config := by
  have accounts : Accounts config session.held session.pager := balanced
  cases call with
  | getFreeFrame =>
    apply balanced_afterAction
    exact (getFreeFrame_ends accounts).mono fun _ _ obtained => obtained.accounts accounts
  | returnFrame ppn => exact balanced_afterAction (accounts.returnFrame ppn)
  | newPage page readOnly =>
    apply balanced_afterAction
    exact (newPage_ends accounts page readOnly).mono fun _ _ backed => backed.accounts accounts
  | newPagePinned page readOnly =>
    apply balanced_afterGuarding
    exact Preserves.map (fun _ accounts => accounts.newPagePinned page readOnly) _ accounts
  | putTranslation pid entry => exact balanced_afterAction (accounts.putTranslation pid entry)
  | getTranslation page => exact balanced
  | getTranslationPinned page =>
    exact balanced_afterGuarding (accounts.getTranslationPinned page)
  | dropGuard index =>
    simp only [step]
    split
    · exact balanced
    · exact accounts.unpin _
  | loadFromSwap page =>
    apply balanced_afterAction
    exact (loadFromSwap_ends accounts page).mono
      fun _ _ broughtBack => broughtBack.accounts accounts
  | evictPage =>
    apply balanced_afterAction
    exact (evictPage_ends accounts).mono fun _ _ evicted => evicted.accounts accounts
  | deallocate pid => exact accounts.deallocate pid
  | reclaimOnce => exact balanced_afterAction accounts.reclaimOnce
  | initializeSwap => exact balanced_afterAction accounts.initializeSwap
  | terminate => exact balanced_afterAction accounts.terminate
  | start pid stackTop => exact accounts.start pid stackTop
  | serve process request =>
    apply balanced_afterAction
    exact (Accounts.keeps process config session.held).serve request session.pager accounts
  | exit process => exact accounts.exit process
  | disturb change => exact accounts.of_same rfl rfl rfl accounts.pins rfl

theorem balanced_run (balanced : session.Balanced config) (calls : List (PagerCall φ)) :
    (session.run calls).Balanced config := by
  induction calls generalizing session with
  | nil => exact balanced
  | cons call rest hypothesis => exact hypothesis (balanced_step balanced call)

/-! ### Where the frames are -/

/-- Who can have a frame. -/
inductive FrameHolder where
  | pool
  | page
  | caller
deriving DecidableEq, Repr

/-- Whether a frame is free, or in the core map, or with a caller. -/
def Holds (session : PagerSession φ) (ppn : Ppn) : FrameHolder → Prop
  | .pool => ppn ∈ session.pager.frames.free
  | .page => ∃ owner, session.pager.tables.owner ppn = some owner
  | .caller => ppn ∈ session.held

omit [FileSystem φ] in
theorem Balanced.existsUnique_holder (balanced : session.Balanced config) {ppn : Ppn}
    (inside : ppn < config.frames) : ∃! holder, session.Holds ppn holder := by
  have accounts : Accounts config session.held session.pager := balanced
  cases owned : session.pager.tables.owner ppn with
  | some owner =>
    refine ⟨.page, ⟨owner, owned⟩, fun holder holds => ?_⟩
    cases holder with
    | page => rfl
    | pool =>
      rw [(accounts.mem_free_iff.mp holds).2.1] at owned
      cases owned
    | caller => exact absurd holds (accounts.not_held_of_owner owned)
  | none =>
    by_cases isHeld : ppn ∈ session.held
    · refine ⟨.caller, isHeld, fun holder holds => ?_⟩
      cases holder with
      | caller => rfl
      | pool => exact absurd isHeld (accounts.mem_free_iff.mp holds).2.2
      | page =>
        rcases holds with ⟨owner, found⟩
        rw [owned] at found
        cases found
    · refine ⟨.pool, accounts.mem_free_iff.mpr ⟨inside, owned, isHeld⟩, fun holder holds => ?_⟩
      cases holder with
      | pool => rfl
      | caller => exact absurd holds isHeld
      | page =>
        rcases holds with ⟨owner, found⟩
        rw [owned] at found
        cases found

/-- No frame is lost, duplicated or shared. -/
structure FramesAccountedFor (config : Config) (session : PagerSession φ) : Prop where
  one_holder : ∀ ppn < config.frames, ∃! holder, session.Holds ppn holder
  counts_add_up : session.pager.freeFrameCount + session.pager.residentPageCount +
    session.held.card = config.frames
  consistent : session.pager.checkConsistency = .ok ()

/-- After any calls, however they ended, every frame is in exactly one of three places:
the pool, the core map, or the hands of a caller. -/
theorem frames_accounted_for {files : φ} {policy : Policy} {chance : Chance} {pager : Pager φ}
    (booted : Pager.boot config files policy chance = .ok pager)
    (calls : List (PagerCall φ)) :
    FramesAccountedFor config (run { pager := pager } calls) := by
  have start : Balanced config ({ pager := pager } : PagerSession φ) := Accounts.boot booted
  have balanced := balanced_run start calls
  have accounts : Accounts config _ _ := balanced
  exact
    { one_holder := fun ppn inside => balanced.existsUnique_holder inside
      counts_add_up := accounts.card_eq
      consistent := accounts.checkConsistency }

/-- On a machine of one frame, a page, a caller and another page have the frame in
turn. -/
theorem frames_accounted_for_one_frame :
    ∃ pager : Pager EphemeralFiles,
      Pager.boot .oneFrame .empty (.scripted []) (.seeded 0) = .ok pager ∧
        FramesAccountedFor .oneFrame (run { pager := pager }
          [.newPage ⟨1, 4⟩ false, .evictPage, .putTranslation 2 (.fresh 7 0 true)]) :=
  ⟨_, rfl, frames_accounted_for rfl _⟩

end PagerSession

end VirtualMemory
