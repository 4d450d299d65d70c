/-
Module: VirtualMemory.Proofs.Process.Exit
Purpose: However the exits of processes are interleaved with faults, new pages and
  evictions, a process that has exited has no pages, gets none, and gives each of its
  frames back once.
Main exports:
  PageStep, UserProcess.pageStep, loadChunk_eq; ExitStage, SharedStep, SharedPager and its
  step and run; run_exit, SharedPager.ExitFinal, exit_is_final

Whatever happens under the lock of the page tables is one step. An exit is many: it marks
the process, unmaps its pages under the lock, gives back frame after frame, and forgets the
process's cache, and other steps may come in between.
-/
import VirtualMemory.Proofs.Pager.Session

namespace VirtualMemory

open VirtualMemory.Action Pager

variable {φ : Type} [FileSystem φ]

/-! ### The steps of a process that hold the lock -/

/-- What a process does for a page while it holds the lock of the page tables. -/
inductive PageStep where
  /-- A fault. -/
  | resolve (vpn : Vpn)
  /-- An access to a page that is not cached. -/
  | resolvePinned (vpn : Vpn) (write : Bool)
  | allocateStack
  /-- A page of a section is backed and pinned, and filled afterwards. -/
  | backPage (vpn : Vpn) (readOnly : Bool)
deriving DecidableEq, Repr

namespace UserProcess

variable {process : UserProcess} {pager : Pager φ}

/-- The operation that a page step is. -/
def pageStep (process : UserProcess) : PageStep → ProcessAction φ TranslationEntry
  | .resolve vpn => process.resolve vpn
  | .resolvePinned vpn write => process.resolvePinned vpn write
  | .allocateStack => process.allocateStack
  | .backPage vpn readOnly => do
      process.ensureRunning
      (Pager.newPagePinned (process.page vpn) readOnly).causing FaultError.kernel

/-- A page of a section is backed under the lock, and filled without it. -/
theorem loadChunk_eq (process : UserProcess) (vpn : Vpn) (readOnly : Bool) (chunk : Bytes) :
    (process.loadChunk vpn readOnly chunk : ProcessAction φ Unit) =
      (process.pageStep (.backPage vpn readOnly) >>= fun entry => do
        let _ ← (writeFrame entry.ppn 0 chunk).thenAlways (letGo entry)) := by
  simp only [loadChunk, pageStep, bind_assoc]

/-- Every page step asks first whether the process runs. -/
theorem pageStep_exited (exited : process.exited = true) (step : PageStep) :
    (process.pageStep step).outcome pager = (.error (.exited process.pid), pager) := by
  have refused : (process.ensureRunning : ProcessAction φ Unit) = throw (.exited process.pid) := by
    rw [ensureRunning, if_pos exited]
  cases step <;>
    simp only [pageStep, resolve, resolvePinned, allocateStack, refused] <;> rfl

/-- What the parts of a request preserve, a page step preserves. -/
theorem Keeps.pageStep {invariant : Pager φ → Prop} (keeps : process.Keeps invariant)
    (step : PageStep) : (process.pageStep step).Preserves invariant := by
  have sustains := keeps.sustains (fun _ => True) fun _ => True
  cases step with
  | resolve vpn => exact sustains.resolve vpn
  | resolvePinned vpn write =>
    exact fun pager holds => (sustains.resolvePinned vpn write holds).mono fun _ _ => (·.holds)
  | allocateStack =>
    refine (Sustains.ensureRunning process invariant).bind fun _ => ?_
    exact (sustains.newPage trivial false).causing
  | backPage vpn readOnly =>
    have backed : (Pager.newPage (process.page vpn) readOnly).Preserves invariant :=
      sustains.newPage trivial readOnly
    refine (Sustains.ensureRunning process invariant).bind fun _ => Preserves.causing ?_
    refine backed.bind fun entry => ?_
    exact Preserves.bind (.modify fun _ => keeps.pinned) fun _ => .pure entry

/-- A process maps no page but its own. -/
theorem keeps_absent {config : Config} {held : Finset Ppn} {absent : PageId → Prop}
    (foreign : ∀ vpn, ¬ absent (process.page vpn)) :
    process.Keeps fun pager : Pager φ =>
      Accounts config held pager ∧ ∀ page, absent page → pager.tables.get page = none :=
  have keeps := Accounts.keeps (φ := φ) process config held
  have different : ∀ {vpn page}, absent page → process.page vpn ≠ page :=
    fun isAbsent same => foreign _ (same ▸ isAbsent)
  { accounts := fun holds => ⟨config, held, holds.1⟩
    broughtBack := fun holds how => ⟨keeps.broughtBack holds.1 how, fun page isAbsent =>
      how.absent_other (different isAbsent) (holds.2 page isAbsent)⟩
    backed := fun holds how => ⟨keeps.backed holds.1 how, fun page isAbsent =>
      how.absent (different isAbsent) (holds.2 page isAbsent)⟩
    cached := fun running holds found => ⟨keeps.cached running holds.1 found, holds.2⟩
    accessed := fun holds => ⟨keeps.accessed holds.1, fun page isAbsent => by
      rw [PageTables.get_markAccessed, if_neg (different isAbsent)]
      exact holds.2 page isAbsent⟩
    marked := fun holds => ⟨keeps.marked holds.1, holds.2⟩
    dropped := fun holds => ⟨keeps.dropped holds.1, holds.2⟩
    emptied := fun holds => ⟨keeps.emptied holds.1, holds.2⟩
    pinned := fun holds => ⟨keeps.pinned holds.1, holds.2⟩
    unpinned := fun holds => ⟨keeps.unpinned holds.1, holds.2⟩
    stored := fun holds same => ⟨keeps.stored holds.1 same, holds.2⟩ }

end UserProcess

/-! ### Processes that share a pager -/

/-- How far the exit of a process has come. -/
inductive ExitStage where
  | running
  /-- The process counts as exited, and nothing else is done yet. -/
  | marked
  /-- The pages are unmapped. Of the frames that they were in, some are given back and some
  are left. -/
  | unmapped (given left : List TranslationEntry)
  /-- All frames are given back, and the cache is gone. -/
  | done (given : List TranslationEntry)
deriving DecidableEq, Repr

namespace ExitStage

/-- Whether the process is refused. -/
def isExited : ExitStage → Bool
  | running => false
  | marked | unmapped _ _ | done _ => true

/-- Whether the pages are unmapped. -/
def isGone : ExitStage → Bool
  | running | marked => false
  | unmapped _ _ | done _ => true

theorem isExited_of_isGone {stage : ExitStage} (gone : stage.isGone = true) :
    stage.isExited = true := by
  cases stage with
  | running => cases gone
  | marked | unmapped | done => rfl

/-- What is given back, in the order in which it was. -/
def given : ExitStage → List TranslationEntry
  | running | marked => []
  | unmapped given _ | done given => given

/-- What is not given back yet. -/
def left : ExitStage → List TranslationEntry
  | unmapped _ left => left
  | running | marked | done _ => []

/-- What was mapped when the pages were unmapped. -/
def taken (stage : ExitStage) : List TranslationEntry := stage.given ++ stage.left

/-- A later stage of an exit: a process stays exited, and the frames that are to be given
back stay the same. -/
structure Precedes (earlier later : ExitStage) : Prop where
  exited : earlier.isExited = true → later.isExited = true
  gone : earlier.isGone = true →
    later.isGone = true ∧ later.taken = earlier.taken ∧ earlier.given <+: later.given

theorem Precedes.refl (stage : ExitStage) : stage.Precedes stage :=
  ⟨id, fun gone => ⟨gone, rfl, List.prefix_rfl⟩⟩

theorem Precedes.trans {earlier middle later : ExitStage}
    (first : earlier.Precedes middle) (second : middle.Precedes later) :
    earlier.Precedes later where
  exited exited := second.exited (first.exited exited)
  gone gone := by
    obtain ⟨still, same, more⟩ := first.gone gone
    obtain ⟨last, again, evenMore⟩ := second.gone still
    exact ⟨last, again.trans same, more.trans evenMore⟩

/-- What an exit has given back when it is done is what it had given back before and what
was left then. -/
theorem Precedes.given_of_done {given left returned : List TranslationEntry}
    (precedes : (unmapped given left).Precedes (done returned)) : returned = given ++ left := by
  have same : returned ++ [] = given ++ left := (precedes.gone rfl).2.1
  rwa [List.append_nil] at same

end ExitStage

/-- A step of a process, or of someone else. -/
inductive SharedStep where
  | mark (pid : Pid)
  | unmap (pid : Pid)
  | giveBack (pid : Pid)
  | forgetCache (pid : Pid)
  | page (process : UserProcess) (step : PageStep)
  /-- A frame is put into the pool by eviction. -/
  | evict
  /-- Data is copied to a frame that was pinned under the lock. -/
  | copyIn (ppn : Ppn) (offset : Nat) (data : Bytes)
  | letGo (ppn : Ppn)
deriving DecidableEq, Repr

/-- A pager that processes share. -/
structure SharedPager (φ : Type) where
  pager : Pager φ
  /-- The frames that are neither in the pool nor mapped. They are with callers, or with an
  exit that is under way. -/
  held : Finset Ppn := ∅
  stage : Pid → ExitStage := fun _ => .running

namespace SharedPager

/-- A process as it is now. -/
def current (shared : SharedPager φ) (process : UserProcess) : UserProcess :=
  { process with exited := (shared.stage process.pid).isExited }

/-- Takes a page step of a process. -/
def perform (shared : SharedPager φ) (process : UserProcess) (step : PageStep) :
    Except FaultError TranslationEntry × SharedPager φ :=
  let (result, pager) := ((shared.current process).pageStep step).outcome shared.pager
  (result, { shared with pager := pager })

/-- The pager with the exit of a process at another stage. -/
def advance (shared : SharedPager φ) (pid : Pid) (stage : ExitStage) : SharedPager φ :=
  { shared with stage := Function.update shared.stage pid stage }

/-- An exit marks its process. Any later exit of the process ends here. -/
def markExited (shared : SharedPager φ) (pid : Pid) : SharedPager φ :=
  match shared.stage pid with
  | .running => shared.advance pid .marked
  | _ => shared

/-- An exit unmaps all pages of its process. -/
def unmap (shared : SharedPager φ) (pid : Pid) : SharedPager φ :=
  match shared.stage pid with
  | .marked =>
      let (entries, tables) := shared.pager.tables.removeAll pid
      { shared.advance pid (.unmapped [] entries) with
        pager := { shared.pager with tables := tables }
        held := shared.held ∪ (entries.map TranslationEntry.ppn).toFinset }
  | _ => shared

/-- An exit gives the next frame back to the pool. -/
def giveBack (shared : SharedPager φ) (pid : Pid) : SharedPager φ :=
  match shared.stage pid with
  | .unmapped given (entry :: left) =>
      { shared.advance pid (.unmapped (given ++ [entry]) left) with
        pager := shared.pager.releaseAll [entry]
        held := shared.held.erase entry.ppn }
  | _ => shared

/-- An exit that has given back all frames takes the cache of its process away. -/
def forgetCache (shared : SharedPager φ) (pid : Pid) : SharedPager φ :=
  match shared.stage pid with
  | .unmapped given [] =>
      { shared.advance pid (.done given) with pager := shared.pager.forgetTlb pid }
  | _ => shared

/-- The pager after a step. A step of an exit that has not come there is no step. -/
def step (shared : SharedPager φ) : SharedStep → SharedPager φ
  | .mark pid => shared.markExited pid
  | .unmap pid => shared.unmap pid
  | .giveBack pid => shared.giveBack pid
  | .forgetCache pid => shared.forgetCache pid
  | .page process step => (shared.perform process step).2
  | .evict => { shared with pager := ((evictToPool : PagerAction φ Ppn).outcome shared.pager).2 }
  | .copyIn ppn offset data =>
      match shared.pager.memory.write ppn offset data with
      | .ok (_, memory) => { shared with pager := { shared.pager with memory := memory } }
      | .error _ => shared
  | .letGo ppn => { shared with pager := shared.pager.unpin ppn }

/-- The pager after steps, one after another. -/
def run (shared : SharedPager φ) (steps : List SharedStep) : SharedPager φ :=
  steps.foldl step shared

variable {shared : SharedPager φ} {config : Config} {pid : Pid} {entry : TranslationEntry}

/-! ### An exit that nothing comes in between -/

/-- The steps of an exit that gives back so many frames. -/
def exitSteps (pid : Pid) (frames : Nat) : List SharedStep :=
  .mark pid :: .unmap pid :: (List.replicate frames (.giveBack pid) ++ [.forgetCache pid])

theorem run_append (shared : SharedPager φ) (first second : List SharedStep) :
    shared.run (first ++ second) = (shared.run first).run second :=
  List.foldl_append

/-- All that an exit has left goes back to the pool. -/
theorem run_giveBack (given left : List TranslationEntry)
    (unmapped : shared.stage pid = .unmapped given left) :
    (shared.run (List.replicate left.length (.giveBack pid))).pager =
        shared.pager.releaseAll left ∧
      (shared.run (List.replicate left.length (.giveBack pid))).stage pid =
        .unmapped (given ++ left) [] := by
  induction left generalizing shared given with
  | nil => exact ⟨rfl, by rw [List.append_nil]; exact unmapped⟩
  | cons entry left hypothesis =>
    have next : (shared.step (.giveBack pid)).stage pid = .unmapped (given ++ [entry]) left := by
      simp only [step, giveBack, unmapped, advance, Function.update_self]
    have first : (shared.step (.giveBack pid)).pager = shared.pager.releaseAll [entry] := by
      simp only [step, giveBack, unmapped]
    obtain ⟨released, last⟩ := hypothesis (given ++ [entry]) next
    rw [first] at released
    rw [List.append_assoc] at last
    exact ⟨released, last⟩

/-- The steps of an exit, one after another, are what the process does when it exits. -/
theorem run_exit {process : UserProcess} (runs : process.exited = false)
    (running : shared.stage process.pid = .running) :
    (shared.run (exitSteps process.pid (process.exit shared.pager).1)).pager =
      (process.exit shared.pager).2.2 := by
  have exit : process.exit shared.pager =
      ((shared.pager.deallocate process.pid).1, { process with exited := true },
        (shared.pager.deallocate process.pid).2) := by
    rw [UserProcess.exit, if_neg (by rw [runs]; exact Bool.false_ne_true)]
  let entries := shared.pager.tables.getAll process.pid
  let ready := shared.run [.mark process.pid, .unmap process.pid]
  have unmapped : ready.stage process.pid = .unmapped [] entries := by
    simp only [ready, run, List.foldl_cons, List.foldl_nil, step, markExited, unmap, running,
      advance, Function.update_self]
    rfl
  have cleared : ready.pager =
      { shared.pager with tables := (shared.pager.tables.removeAll process.pid).2 } := by
    simp only [ready, run, List.foldl_cons, List.foldl_nil, step, markExited, unmap, running,
      advance, Function.update_self]
  obtain ⟨released, last⟩ := run_giveBack [] entries unmapped
  have whole : shared.run (exitSteps process.pid entries.length) =
      (ready.run (List.replicate entries.length (.giveBack process.pid))).step
        (.forgetCache process.pid) :=
    run_append ready _ [.forgetCache process.pid]
  rw [exit]
  change (shared.run (exitSteps process.pid entries.length)).pager = _
  rw [whole]
  simp only [step, forgetCache, last]
  rw [released, cleared]
  rfl

/-- A process that was marked is refused. -/
theorem pageStep_current {process : UserProcess}
    (exited : (shared.stage process.pid).isExited = true) (step : PageStep) :
    ((shared.current process).pageStep step).outcome shared.pager =
      (.error (.exited process.pid), shared.pager) :=
  UserProcess.pageStep_exited exited step

/-! ### What every step preserves -/

/-- The books balance with the frames of the exits under way, which are different frames,
and a process whose pages were unmapped has none. -/
structure Orderly (config : Config) (shared : SharedPager φ) : Prop where
  accounts : Accounts config shared.held shared.pager
  gone : ∀ page : PageId, (shared.stage page.pid).isGone = true →
    shared.pager.tables.get page = none
  leftHeld : ∀ {pid entry}, entry ∈ (shared.stage pid).left → entry.ppn ∈ shared.held
  leftOnce : ∀ {pid other entry same}, entry ∈ (shared.stage pid).left →
    same ∈ (shared.stage other).left → entry.ppn = same.ppn → pid = other
  distinct : ∀ pid, ((shared.stage pid).taken.map TranslationEntry.ppn).Nodup

namespace Orderly

omit [FileSystem φ] in
/-- Only the pager has changed, and no process got pages that has exited. -/
theorem of_pager (orderly : shared.Orderly config) {pager : Pager φ}
    (accounts : Accounts config shared.held pager)
    (gone : ∀ page : PageId, (shared.stage page.pid).isGone = true →
      pager.tables.get page = none) :
    Orderly config { shared with pager := pager } :=
  { orderly with accounts := accounts, gone := gone }

/-- A step for a page leaves the shared pager orderly. -/
theorem perform (orderly : shared.Orderly config) (process : UserProcess) (step : PageStep) :
    (shared.perform process step).2.Orderly config := by
  cases stage : (shared.stage process.pid).isExited with
  | true =>
    simp only [SharedPager.perform, pageStep_current stage]
    exact orderly
  | false =>
    have foreign : ∀ vpn, ¬ (shared.stage ((shared.current process).page vpn).pid).isGone := by
      intro vpn gone
      have exited : (shared.stage process.pid).isExited = true :=
        ExitStage.isExited_of_isGone gone
      rw [stage] at exited
      cases exited
    have keeps : (shared.current process).Keeps fun pager : Pager φ =>
        Accounts config shared.held pager ∧
          ∀ page : PageId, (shared.stage page.pid).isGone = true → pager.tables.get page = none :=
      UserProcess.keeps_absent foreign
    have ends := keeps.pageStep step shared.pager ⟨orderly.accounts, orderly.gone⟩
    exact orderly.of_pager ends.1 ends.2

/-- An eviction leaves the shared pager orderly. -/
theorem evict (orderly : shared.Orderly config) : (shared.step .evict).Orderly config := by
  obtain ⟨books, result, after, pool, evicted, left⟩ := orderly.accounts.evictToPool
  refine orderly.of_pager books fun page gone => ?_
  rw [left]
  exact evicted.absent (orderly.gone page gone)

omit [FileSystem φ] in
/-- The exit of one process has come further. -/
theorem advance (orderly : shared.Orderly config) (pid : Pid) (stage : ExitStage)
    {pager : Pager φ} {held : Finset Ppn} (accounts : Accounts config held pager)
    (gone : ∀ page : PageId, page.pid = pid → stage.isGone = true →
      pager.tables.get page = none)
    (others : ∀ page : PageId, page.pid ≠ pid → shared.pager.tables.get page = none →
      pager.tables.get page = none)
    (leftHeld : ∀ entry ∈ stage.left, entry.ppn ∈ held)
    (stillHeld : ∀ {other entry}, other ≠ pid → entry ∈ (shared.stage other).left →
      entry.ppn ∈ held)
    (apart : ∀ {other entry same}, other ≠ pid → entry ∈ stage.left →
      same ∈ (shared.stage other).left → entry.ppn ≠ same.ppn)
    (distinct : (stage.taken.map TranslationEntry.ppn).Nodup) :
    Orderly config { shared.advance pid stage with pager := pager, held := held } where
  accounts := accounts
  gone := by
    intro page isGone
    by_cases same : page.pid = pid
    · simp only [SharedPager.advance, same, Function.update_self] at isGone
      exact gone page same isGone
    · simp only [SharedPager.advance, Function.update_of_ne same] at isGone
      exact others page same (orderly.gone page isGone)
  leftHeld := by
    intro other entry listed
    by_cases same : other = pid
    · subst same
      simp only [SharedPager.advance, Function.update_self] at listed
      exact leftHeld entry listed
    · simp only [SharedPager.advance, Function.update_of_ne same] at listed
      exact stillHeld same listed
  leftOnce := by
    intro first second entry same one two sameFrame
    simp only [SharedPager.advance, Function.update_apply] at one two
    split at one <;> split at two
    · next firstIs secondIs => exact firstIs.trans secondIs.symm
    · next secondIs => exact absurd sameFrame (apart secondIs one two)
    · next firstIs _ => exact absurd sameFrame.symm (apart firstIs two one)
    · exact orderly.leftOnce one two sameFrame
  distinct := by
    intro other
    by_cases same : other = pid
    · subst same
      simpa only [SharedPager.advance, Function.update_self] using distinct
    · simpa only [SharedPager.advance, Function.update_of_ne same] using orderly.distinct other

omit [FileSystem φ] in
/-- The exit of one process has come further and has given back no frame. -/
theorem advance_same (orderly : shared.Orderly config) (pid : Pid) (stage : ExitStage)
    {pager : Pager φ} (accounts : Accounts config shared.held pager)
    (sameTables : pager.tables = shared.pager.tables)
    (gone : ∀ page : PageId, page.pid = pid → stage.isGone = true →
      pager.tables.get page = none)
    (sameGiven : stage.given = (shared.stage pid).given)
    (sameLeft : stage.left = (shared.stage pid).left) :
    Orderly config { shared.advance pid stage with pager := pager } := by
  have sameTaken : stage.taken = (shared.stage pid).taken := by
    rw [ExitStage.taken, ExitStage.taken, sameGiven, sameLeft]
  exact orderly.advance pid stage accounts gone (fun page _ absent => sameTables ▸ absent)
    (fun entry listed => orderly.leftHeld (sameLeft ▸ listed))
    (fun _ listed => orderly.leftHeld listed)
    (fun different one two same => different (orderly.leftOnce (sameLeft ▸ one) two same).symm)
    (sameTaken ▸ orderly.distinct pid)

omit [FileSystem φ] in
/-- To mark a process as exited leaves the shared pager orderly. -/
theorem mark (orderly : shared.Orderly config) (pid : Pid) :
    (shared.markExited pid).Orderly config := by
  rw [markExited]
  split
  · next running =>
    exact orderly.advance_same pid .marked orderly.accounts rfl (fun _ _ gone => by cases gone)
      (by rw [running]; rfl) (by rw [running]; rfl)
  · exact orderly

omit [FileSystem φ] in
/-- The frames that a process leaves are held from then on, until they are given back. -/
theorem unmap (orderly : shared.Orderly config) (pid : Pid) :
    (shared.unmap pid).Orderly config := by
  rw [SharedPager.unmap]
  split
  · have accounts := orderly.accounts
    refine orderly.advance pid (.unmapped [] (shared.pager.tables.getAll pid))
      (accounts.removeAll pid) (fun page ofProcess _ => ?_) (fun page other absent => ?_)
      (fun entry listed => ?_) (fun _ listed => ?_) (fun _ one two same => ?_)
      (accounts.tables.nodup_getAll pid)
    · exact (PageTables.get_removeAll _ pid page).trans (if_pos ofProcess)
    · exact ((PageTables.get_removeAll _ pid page).trans (if_neg other)).trans absent
    · exact Finset.mem_union_right _ (List.mem_toFinset.mpr (List.mem_map_of_mem listed))
    · exact Finset.mem_union_left _ (orderly.leftHeld listed)
    · -- A frame that another exit has left is held, so it holds no page.
      obtain ⟨page, _, found⟩ := PageTables.mem_getAll.mp one
      exact accounts.not_held_of_owner (accounts.tables.owner_of_get found)
        (same ▸ orderly.leftHeld two)
  · exact orderly

omit [FileSystem φ] in
/-- When frames are given back, nobody else has them. -/
theorem giveBack (orderly : shared.Orderly config) (pid : Pid) :
    (shared.giveBack pid).Orderly config := by
  rw [SharedPager.giveBack]
  split
  · next given entry left unmapped =>
    have accounts := orderly.accounts
    have first : entry ∈ (shared.stage pid).left := by
      rw [unmapped]
      exact List.mem_cons_self
    have rest : ∀ other ∈ left, other ∈ (shared.stage pid).left := by
      intro other listed
      rw [unmapped]
      exact List.mem_cons_of_mem entry listed
    have distinct := orderly.distinct pid
    rw [unmapped, ExitStage.taken, List.map_append] at distinct
    have apart := (List.nodup_cons.mp distinct.of_append_right).1
    obtain ⟨pool, released⟩ := exists_releaseAll [entry] shared.pager
    have books := accounts.releaseAll [entry] fun other listed => by
      rw [List.mem_singleton.mp listed]
      exact accounts.owner_of_held _ (orderly.leftHeld first)
    have members : shared.held \ ([entry].map TranslationEntry.ppn).toFinset =
        shared.held.erase entry.ppn := Finset.sdiff_singleton_eq_erase _ _
    rw [members] at books
    refine orderly.advance pid (.unmapped (given ++ [entry]) left) books
      (fun page ofProcess _ => ?_) (fun page _ absent => ?_) (fun other listed => ?_)
      (fun different listed => ?_) (fun different one two same => ?_) ?_
    · rw [released]
      exact orderly.gone page (by rw [ofProcess, unmapped]; rfl)
    · rw [released]
      exact absent
    · refine Finset.mem_erase.mpr ⟨fun same => ?_, orderly.leftHeld (rest other listed)⟩
      exact apart (same ▸ List.mem_map_of_mem listed)
    · refine Finset.mem_erase.mpr ⟨fun same => ?_, orderly.leftHeld listed⟩
      exact different (orderly.leftOnce listed first same)
    · exact different (orderly.leftOnce (rest _ one) two same).symm
    · rw [ExitStage.taken, ExitStage.given, ExitStage.left, List.append_assoc, List.map_append]
      exact distinct
  · exact orderly

omit [FileSystem φ] in
/-- To forget a cache leaves the shared pager orderly. -/
theorem forgetCache (orderly : shared.Orderly config) (pid : Pid) :
    (shared.forgetCache pid).Orderly config := by
  rw [SharedPager.forgetCache]
  split
  · next given unmapped =>
    refine orderly.advance_same pid (.done given) (orderly.accounts.forgetTlb pid)
      (tables_forgetTlb _ pid) (fun page ofProcess _ => ?_) (by rw [unmapped]; rfl)
      (by rw [unmapped]; rfl)
    rw [tables_forgetTlb]
    exact orderly.gone page (by rw [ofProcess, unmapped]; rfl)
  · exact orderly

theorem step (orderly : shared.Orderly config) (step : SharedStep) :
    (shared.step step).Orderly config := by
  cases step with
  | mark pid => exact orderly.mark pid
  | unmap pid => exact orderly.unmap pid
  | giveBack pid => exact orderly.giveBack pid
  | forgetCache pid => exact orderly.forgetCache pid
  | page process step => exact orderly.perform process step
  | evict => exact orderly.evict
  | copyIn ppn offset data =>
    simp only [SharedPager.step]
    cases written : shared.pager.memory.write ppn offset data with
    | error cause => exact orderly
    | ok pair =>
      have accounts := orderly.accounts
      exact orderly.of_pager
        (accounts.of_same rfl rfl rfl accounts.pins (PhysicalMemory.size_of_write written))
        orderly.gone
  | letGo ppn => exact orderly.of_pager (orderly.accounts.unpin ppn) orderly.gone

theorem run (orderly : shared.Orderly config) (steps : List SharedStep) :
    (shared.run steps).Orderly config := by
  induction steps generalizing shared with
  | nil => exact orderly
  | cons step rest hypothesis => exact hypothesis (orderly.step step)

end Orderly

/-! ### Exits are not undone -/

omit [FileSystem φ] in
/-- A stage is only followed by later ones. -/
theorem precedes_advance {stage : ExitStage} (precedes : (shared.stage pid).Precedes stage)
    (other : Pid) : (shared.stage other).Precedes ((shared.advance pid stage).stage other) := by
  simp only [advance, Function.update_apply]
  split
  · next same => exact same ▸ precedes
  · exact .refl _

theorem precedes_step (shared : SharedPager φ) (step : SharedStep) (pid : Pid) :
    (shared.stage pid).Precedes ((shared.step step).stage pid) := by
  cases step with
  | mark mine =>
    simp only [SharedPager.step, markExited]
    split
    · next running =>
      refine precedes_advance ?_ pid
      rw [running]
      exact ⟨fun _ => rfl, fun gone => by cases gone⟩
    · exact .refl _
  | unmap mine =>
    simp only [SharedPager.step, unmap]
    split
    · next marked =>
      refine precedes_advance ?_ pid
      rw [marked]
      exact ⟨fun _ => rfl, fun gone => by cases gone⟩
    · exact .refl _
  | giveBack mine =>
    simp only [SharedPager.step, giveBack]
    split
    · next given entry left unmapped =>
      refine precedes_advance ?_ pid
      rw [unmapped]
      exact ⟨fun _ => rfl, fun _ => ⟨rfl, List.append_assoc given [entry] left,
        List.prefix_append given [entry]⟩⟩
    · exact .refl _
  | forgetCache mine =>
    simp only [SharedPager.step, forgetCache]
    split
    · next given unmapped =>
      refine precedes_advance ?_ pid
      rw [unmapped]
      exact ⟨fun _ => rfl, fun _ => ⟨rfl, rfl, List.prefix_rfl⟩⟩
    · exact .refl _
  | page | evict | letGo => exact .refl _
  | copyIn ppn offset data =>
    simp only [SharedPager.step]
    split <;> exact .refl _

/-- No run takes a process back to an earlier stage. -/
theorem precedes_run (shared : SharedPager φ) (steps : List SharedStep) (pid : Pid) :
    (shared.stage pid).Precedes ((shared.run steps).stage pid) := by
  induction steps generalizing shared with
  | nil => exact .refl _
  | cons step rest hypothesis => exact (precedes_step shared step pid).trans (hypothesis _)

/-! ### Exit is final -/

/-- What holds of exits at any time. -/
structure ExitFinal (shared : SharedPager φ) : Prop where
  /-- A process whose pages were unmapped has no page. -/
  no_pages : ∀ page : PageId, (shared.stage page.pid).isGone = true →
    shared.pager.tables.get page = none
  /-- A process that has exited is refused, and nothing changes. -/
  refused : ∀ process step, (shared.stage process.pid).isExited = true →
    shared.perform process step = (.error (.exited process.pid), shared)
  /-- The frames that are to be given back are the ones that the process has when its pages
  are unmapped. -/
  takes_all : ∀ {pid}, shared.stage pid = .marked →
    ∃ taken, (shared.step (.unmap pid)).stage pid = .unmapped [] taken ∧
      ∀ ppn, ppn ∈ taken.map TranslationEntry.ppn ↔
        ∃ vpn, shared.pager.tables.owner ppn = some ⟨pid, vpn⟩
  /-- None of them comes twice. -/
  once : ∀ pid, ((shared.stage pid).taken.map TranslationEntry.ppn).Nodup
  /-- As long as a frame is left, it is in nobody else's hands. -/
  waits : ∀ {pid entry}, entry ∈ (shared.stage pid).left →
    shared.pager.frames.isFree entry.ppn = false ∧
      shared.pager.tables.owner entry.ppn = none ∧
      ∀ {other same}, same ∈ (shared.stage other).left → same.ppn = entry.ppn → other = pid
  /-- Giving it back puts it into the pool, and no other frame. -/
  gives_back : ∀ {pid given entry left}, shared.stage pid = .unmapped given (entry :: left) →
    (shared.step (.giveBack pid)).stage pid = .unmapped (given ++ [entry]) left ∧
      ∀ ppn, (shared.step (.giveBack pid)).pager.frames.isFree ppn =
        (shared.pager.frames.isFree ppn || entry.ppn == ppn)

/-- What is orderly says that an exit is final. -/
theorem Orderly.exitFinal (orderly : shared.Orderly config) : shared.ExitFinal where
  no_pages := orderly.gone
  refused process step exited := by
    simp only [SharedPager.perform, pageStep_current exited]
  takes_all := by
    intro pid marked
    refine ⟨shared.pager.tables.getAll pid, ?_, fun ppn => ?_⟩
    · simp only [SharedPager.step, SharedPager.unmap, marked, SharedPager.advance,
        Function.update_self]
      rfl
    · rw [List.mem_map]
      constructor
      · rintro ⟨entry, listed, rfl⟩
        obtain ⟨⟨_, vpn⟩, rfl, found⟩ := PageTables.mem_getAll.mp listed
        exact ⟨vpn, orderly.accounts.tables.owner_of_get found⟩
      · rintro ⟨vpn, owned⟩
        obtain ⟨entry, found, atPpn⟩ := orderly.accounts.tables.get_of_owner owned
        exact ⟨entry, PageTables.mem_getAll.mpr ⟨⟨pid, vpn⟩, rfl, found⟩, atPpn⟩
  once := orderly.distinct
  waits := by
    intro pid entry listed
    have isHeld := orderly.leftHeld listed
    refine ⟨?_, orderly.accounts.owner_of_held _ isHeld, fun another same =>
      orderly.leftOnce another listed same⟩
    rw [← Bool.not_eq_true]
    exact fun free => orderly.accounts.not_held_of_isFree free isHeld
  gives_back := by
    intro pid given entry left unmapped
    have first : entry ∈ (shared.stage pid).left := by
      rw [unmapped]
      exact List.mem_cons_self
    have inside : entry.ppn < shared.pager.frames.size :=
      orderly.accounts.size_pool.symm ▸ orderly.accounts.held_lt _ (orderly.leftHeld first)
    obtain ⟨pool, released⟩ := FramePool.exists_release inside
    simp only [SharedPager.step, SharedPager.giveBack, unmapped, SharedPager.advance,
      Function.update_self, releaseAll, List.foldl_cons, List.foldl_nil, released, true_and]
    exact FramePool.isFree_of_release released

/-- From any pager in use, with no exit under way, and after any steps: exits are final, and
they stay so through any steps that follow. An exit that is done has given back what it had
unmapped. -/
theorem exit_is_final {files : φ} {policy : Policy} {chance : Chance} {pager : Pager φ}
    (booted : Pager.boot config files policy chance = .ok pager)
    (calls : List (PagerCall φ)) (steps later : List SharedStep) :
    let used := PagerSession.run { pager := pager } calls
    let now := run { pager := used.pager, held := used.held } steps
    now.ExitFinal ∧ (now.run later).ExitFinal ∧
      (∀ pid, (now.stage pid).Precedes ((now.run later).stage pid)) ∧
      ∀ {pid given left returned}, now.stage pid = .unmapped given left →
        (now.run later).stage pid = .done returned → returned = given ++ left := by
  intro used now
  have fresh : PagerSession.Balanced config ({ pager := pager } : PagerSession φ) :=
    Accounts.boot booted
  have start : Orderly config { pager := used.pager, held := used.held } :=
    { accounts := PagerSession.balanced_run fresh calls
      gone := by simp [ExitStage.isGone]
      leftHeld := by simp [ExitStage.left]
      leftOnce := by simp [ExitStage.left]
      distinct := by simp [ExitStage.taken, ExitStage.given, ExitStage.left] }
  have orderly := start.run steps
  refine ⟨orderly.exitFinal, (orderly.run later).exitFinal, precedes_run now later, ?_⟩
  intro pid given left returned before after
  have precedes := precedes_run now later pid
  rw [before, after] at precedes
  exact precedes.given_of_done

/-- A process of which little more than the number matters. -/
def processNumbered (pid : Pid) : UserProcess :=
  { pid := pid, stackTop := 9, stackPages := 1, tlb := 0 }

/-- On a machine of one frame, another process gets no frame while the frame is unmapped and
not given back, and gets it afterwards. -/
theorem exit_is_final_one_frame :
    ∃ (pager : Pager EphemeralFiles) (used : PagerSession EphemeralFiles)
      (now after : SharedPager EphemeralFiles),
      Pager.boot .oneFrame .empty (.scripted []) (.seeded 0) = .ok pager ∧
      used = PagerSession.run { pager := pager } [.newPage ⟨1, 4⟩ false] ∧
      now = run { pager := used.pager, held := used.held }
        [.mark 1, .page (processNumbered 1) (.resolve 4), .unmap 1,
          .page (processNumbered 2) .allocateStack, .mark 1] ∧
      after = now.run
        [.giveBack 1, .page (processNumbered 2) .allocateStack, .forgetCache 1] ∧
      now.stage 1 = .unmapped [] [.fresh 4 0 false] ∧
      now.pager.tables.frameOf ⟨2, 9⟩ = none ∧
      after.stage 1 = .done [.fresh 4 0 false] ∧
      after.pager.tables.frameOf ⟨2, 9⟩ = some 0 ∧
      now.ExitFinal ∧ after.ExitFinal ∧
      (∀ pid, (now.stage pid).Precedes (after.stage pid)) ∧
      ∀ {pid given left returned}, now.stage pid = .unmapped given left →
        after.stage pid = .done returned → returned = given ++ left :=
  ⟨_, _, _, _, rfl, rfl, rfl, rfl, by decide +kernel, by decide +kernel, by decide +kernel,
    by decide +kernel,
    exit_is_final
      (rfl : Pager.boot .oneFrame EphemeralFiles.empty (.scripted []) (.seeded 0) = .ok _) _ _ _⟩

end SharedPager

end VirtualMemory
