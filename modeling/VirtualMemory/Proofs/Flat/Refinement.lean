/-
Module: VirtualMemory.Proofs.Flat.Refinement
Purpose: Whatever the kernel answers, the machine with flat memories answers too.
Main exports:
  FlatMachine.CanGo, Kernel.Mirrors, Mirrors.call, Mirrors.converse; Kernel.Faithful,
  Kernel.paging_is_transparent, Kernel.faults_never_corrupt
-/
import VirtualMemory.Proofs.Flat.Machine
import VirtualMemory.Proofs.Flat.Simulation
import VirtualMemory.Proofs.Kernel.Effects

namespace VirtualMemory

open VirtualMemory.Action Pager

namespace FlatMachine

/-- The machine with other mishaps to come. -/
def expecting (machine : FlatMachine) (coming : Mishaps) : FlatMachine :=
  { machine with coming := coming }

/-- A call is answered in a given way and leaves a given machine, if the right mishaps
come. -/
def CanGo (faultless : Prop) (machine : FlatMachine) (call : SystemCall) (answer : SystemAnswer)
    (next : FlatMachine) : Prop :=
  Mishaps.Allow faultless fun coming rest =>
    (machine.expecting coming).call call = (answer, next.expecting rest)

variable {machine : FlatMachine} {stackTop : Vpn} {rest : Mishaps}

theorem spawn_of_left (left : machine.nextPid.toNat + 1 < UInt16.size) :
    (machine.expecting (Stream'.cons none rest)).spawn stackTop =
      (.ok machine.nextPid,
        ({ machine with nextPid := machine.nextPid + 1 }.setImage machine.nextPid
          { stackTop := stackTop, pages := fun _ => none }).expecting rest) :=
  if_pos left

theorem spawn_of_exhausted (exhausted : ¬ machine.nextPid.toNat + 1 < UInt16.size) :
    (machine.expecting (Stream'.cons none rest)).spawn stackTop =
      (.error .pidsExhausted, machine.expecting rest) :=
  if_neg exhausted

/-- It does not matter what a process did last before it ended. -/
theorem finish_setImage (machine : FlatMachine) (pid : Pid) (image : FlatImage)
    (status : Int32) :
    (machine.setImage pid image).finish pid status = machine.finish pid status := by
  simp only [finish, setImage, Function.update_idem]

/-- A live process is served as its flat memory ends, and goes on or is finished. -/
theorem serve_goes {faultless : Prop} {pid : Pid} {request : ProcessRequest}
    {image : FlatImage} {pages : PageViews}
    {result : Except FaultError ProcessAnswer} (isLive : machine.live pid = some image)
    (ends : FlatMemory.CanEnd faultless
      (FlatProcess.serve ⟨pid, image.stackTop, machine.stackPages⟩ request) image.pages result
      pages) :
    machine.CanGo faultless (.serve pid request) (.served result)
      (if survives result then machine.setImage pid { image with pages := pages }
        else machine.finish pid (-1)) := by
  apply Mishaps.Allow.mono ends
  intro coming rest ended
  have live : (machine.expecting coming).live pid = some image := isLive
  simp only [call, live, serve]
  have outcome : (FlatProcess.serve ⟨pid, image.stackTop, (machine.expecting coming).stackPages⟩
      request).outcome ⟨image.pages, (machine.expecting coming).coming⟩ =
        (result, ⟨pages, rest⟩) := ended
  rw [outcome]
  cases survives result <;> rfl

/-- Bytes that are answered are those of the live process. -/
theorem read_answers {pid : Pid} {address : UInt32} {length : Nat} {data : Bytes}
    (answered : (machine.call (.serve pid (.read address length))).1 =
      .served (.ok (.bytes data))) :
    ∃ image, machine.live pid = some image ∧
      data = image.pages.bytesFrom address.toNat (min length (UInt32.size - address.toNat)) := by
  cases live : machine.live pid with
  | none =>
    simp only [call, live] at answered
    cases answered
  | some image =>
    have reads : (FlatProcess.serve ⟨pid, image.stackTop, machine.stackPages⟩
        (.read address length)).Ends ⟨image.pages, machine.coming⟩ fun result _ =>
          result = .ok (.bytes data) → data = image.pages.bytesFrom address.toNat
            (min length (UInt32.size - address.toNat)) := by
      rw [FlatProcess.serve, ends_bind]
      apply Ends.mono (FlatProcess.read_ends address length)
      rintro (cause | bytes) next ⟨_, told⟩
      · exact no_answer
      · intro same
        rw [← ProcessAnswer.bytes.inj (Except.ok.inj same)]
        exact told bytes rfl
    simp only [call, live, serve, SystemAnswer.served.injEq] at answered
    exact ⟨image, rfl, reads answered⟩

/-- A process that has just started has no pages. -/
theorem live_of_spawned {pid : Pid}
    (answered : (machine.call (.spawn stackTop)).1 = .spawned (.ok pid)) :
    (machine.call (.spawn stackTop)).2.live pid = some ⟨stackTop, fun _ => none⟩ := by
  simp only [call, spawn, SystemAnswer.spawned.injEq] at answered ⊢
  split at answered
  · cases answered
  all_goals
    split at answered
    · next left =>
      cases answered
      rw [if_pos left]
      exact Function.update_self _ _ _
    · cases answered

section Stores

variable {pid : Pid} {before after : FlatImage} (isLive : machine.live pid = some before)

include isLive

/-- A request leaves in the pages of its process what it stores there. -/
theorem call_leaves {request : ProcessRequest} {result : Except FaultError ProcessAnswer}
    (answered : (machine.call (.serve pid request)).1 = .served result)
    (goesOn : (machine.call (.serve pid request)).2.live pid = some after) :
    FlatProcess.Leaves ⟨pid, before.stackTop, machine.stackPages⟩ request result before.pages
      after.pages := by
  have leaves := FlatProcess.serve_leaves ⟨pid, before.stackTop, machine.stackPages⟩
    ⟨before.pages, machine.coming⟩ request
  simp only [call, isLive, serve, SystemAnswer.served.injEq] at answered goesOn
  rw [Ends, answered] at leaves
  rw [answered] at goesOn
  split at goesOn
  · simp only [setImage, Function.update_self, Option.some.injEq] at goesOn
    rw [← goesOn]
    exact leaves
  · simp only [finish, Function.update_self] at goesOn
    cases goesOn

/-- Whatever else happens leaves the pages of a process alone, while it is live. -/
theorem call_spares {call : SystemCall} (other : ∀ request, call ≠ .serve pid request)
    (fresh : machine.live machine.nextPid = none)
    (goesOn : (machine.call call).2.live pid = some after) : after.pages = before.pages := by
  have kept : (machine.call call).2.live pid = machine.live pid ∨
      (machine.call call).2.live pid = none := by
    cases call with
    | spawn stackTop =>
      have different : pid ≠ machine.nextPid := by
        rintro rfl
        cases isLive.symm.trans fresh
      simp only [FlatMachine.call, spawn]
      split
      · exact Or.inl rfl
      · split
        · exact Or.inl (Function.update_of_ne different _ _)
        · exact Or.inl rfl
      · split
        · exact Or.inl (Function.update_of_ne different _ _)
        · exact Or.inl rfl
    | serve neighbour request =>
      have different : pid ≠ neighbour := by
        rintro rfl
        exact other request rfl
      simp only [FlatMachine.call]
      split
      · exact Or.inl rfl
      · simp only [serve]
        split
        · exact Or.inl (Function.update_of_ne different _ _)
        · exact Or.inl (Function.update_of_ne different _ _)
    | exit ended status =>
      simp only [FlatMachine.call]
      split
      · exact Or.inl rfl
      · by_cases same : pid = ended
        · rw [same]
          exact Or.inr (Function.update_self _ _ _)
        · exact Or.inl (Function.update_of_ne same _ _)
    | exitStatus _ => exact Or.inl rfl
    | reclaimOnce =>
      simp only [FlatMachine.call]
      split <;> exact Or.inl rfl
    | idle => exact Or.inl rfl
  rcases kept with same | gone
  · rw [Option.some.inj (goesOn.symm.trans (same.trans isLive))]
  · cases goesOn.symm.trans gone

end Stores

end FlatMachine

namespace Kernel

variable {φ : Type} [FileSystem φ] [ByteFiles φ] {kernel : Kernel φ} {machine : FlatMachine}
  {config : Config}

/-- The machine has the processes of the kernel with the pages that they see. Numbers that
were not given out yet have no pages. -/
structure Mirrors (config : Config) (kernel : Kernel φ) (machine : FlatMachine) : Prop where
  intact : Intact config ∅ kernel.pager
  stackPages : machine.stackPages = config.stackPages
  nextPid : machine.nextPid = kernel.nextPid
  statuses : ∀ pid, machine.statuses pid = kernel.exitStatus pid
  live : ∀ pid, machine.live pid = (kernel.running pid).map fun process =>
    { stackTop := process.stackTop, pages := process.seen kernel.pager }
  own : ∀ {pid process}, kernel.running pid = some process →
    process.pid = pid ∧ process.exited = false ∧ process.stackPages = config.stackPages
  given : ∀ {pid process}, kernel.running pid = some process →
    pid.toNat < kernel.nextPid.toNat
  unborn : ∀ page : PageId, kernel.nextPid.toNat ≤ page.pid.toNat →
    kernel.pager.viewOf page = none

namespace Mirrors

/-- A live process is live in both, with the pages that it sees. -/
theorem live_of_running (mirrors : Mirrors config kernel machine) {pid : Pid}
    {process : UserProcess} (isLive : kernel.running pid = some process) :
    machine.live pid =
      some { stackTop := process.stackTop, pages := process.seen kernel.pager } := by
  rw [mirrors.live, isLive, Option.map_some]

/-- A process that is gone from the kernel is gone from the machine. -/
theorem not_live (mirrors : Mirrors config kernel machine) {pid : Pid}
    (gone : kernel.running pid = none) : machine.live pid = none := by
  rw [mirrors.live, gone, Option.map_none]

/-- The next number is no process's. -/
theorem not_running_nextPid (mirrors : Mirrors config kernel machine) :
    kernel.running kernel.nextPid = none := by
  cases present : kernel.running kernel.nextPid with
  | none => rfl
  | some process => exact absurd (mirrors.given present) (Nat.lt_irrefl _)

/-- What no page shows, the machine does not show either. -/
theorem withPager (mirrors : Mirrors config kernel machine) {pager : Pager φ}
    (intact : Intact config ∅ pager)
    (same : ∀ page, pager.viewOf page = kernel.pager.viewOf page) :
    Mirrors config { kernel with pager := pager } machine where
  intact := intact
  stackPages := mirrors.stackPages
  nextPid := mirrors.nextPid
  statuses := mirrors.statuses
  live := by
    intro pid
    have seen : ∀ process : UserProcess, process.seen pager = process.seen kernel.pager :=
      fun process => UserProcess.seen_eq same
    simp only [seen]
    exact mirrors.live pid
  own := mirrors.own
  given := mirrors.given
  unborn page beyond := (same page).trans (mirrors.unborn page beyond)

/-- A process changes its own pages. -/
theorem setImage (mirrors : Mirrors config kernel machine) {pid : Pid} {process : UserProcess}
    (isLive : kernel.running pid = some process) {pager : Pager φ}
    (intact : Intact config ∅ pager)
    (others : ∀ page : PageId, page.pid ≠ pid → pager.viewOf page = kernel.pager.viewOf page) :
    Mirrors config { kernel with pager := pager }
      (machine.setImage pid
        { stackTop := process.stackTop, pages := process.seen pager }) where
  intact := intact
  stackPages := mirrors.stackPages
  nextPid := mirrors.nextPid
  statuses := mirrors.statuses
  live := by
    intro other
    change Function.update machine.live pid _ other = (kernel.running other).map _
    rw [Function.update_apply]
    split
    · next same => rw [same, isLive, Option.map_some]
    · next different =>
      rw [mirrors.live]
      cases present : kernel.running other with
      | none => rfl
      | some neighbour =>
        have elsewhere : neighbour.pid ≠ pid := by
          rw [(mirrors.own present).1]
          exact different
        rw [Option.map_some, Option.map_some, UserProcess.seen_of_others others elsewhere]
  own := mirrors.own
  given := mirrors.given
  unborn := by
    intro page beyond
    have before := mirrors.given isLive
    rw [others page, mirrors.unborn page beyond]
    intro same
    rw [same] at beyond
    exact absurd before (Nat.not_lt.mpr beyond)

/-- A process that ends is gone from both. -/
theorem finish (mirrors : Mirrors config kernel machine) {pid : Pid} {process : UserProcess}
    (isLive : kernel.running pid = some process) (status : Int32) :
    (kernel.exit pid status).1 = true ∧
      Mirrors config (kernel.exit pid status).2 (machine.finish pid status) := by
  have found : kernel.processes.get pid = some process := isLive
  obtain ⟨samePid, running, _⟩ := mirrors.own isLive
  have before := mirrors.given isLive
  cases removed : kernel.processes.remove pid status with
  | none =>
    simp only [ProcessTable.remove, found] at removed
    cases removed
  | some pair =>
    rcases pair with ⟨ended, processes⟩
    have same : ended = process := by
      simp only [ProcessTable.remove, found] at removed
      cases removed
      rfl
    subst same
    have live := ProcessTable.get_of_remove removed
    have statuses := ProcessTable.exitStatus_of_remove removed
    obtain ⟨intact, others⟩ := mirrors.intact.deallocate pid
    simp only [Kernel.exit, removed, UserProcess.exit, running, Bool.false_eq_true, if_false,
      samePid]
    refine ⟨trivial, ⟨intact, mirrors.stackPages, mirrors.nextPid, ?_, ?_, ?_, ?_, ?_⟩⟩
    · intro other
      change Function.update machine.statuses pid (some status) other =
        processes.exitStatus other
      by_cases same : pid = other
      · rw [statuses, if_pos same, same, Function.update_self]
      · rw [statuses, if_neg same, Function.update_of_ne (Ne.symm same), mirrors.statuses]
        rfl
    · intro other
      change Function.update machine.live pid none other = (processes.get other).map _
      by_cases same : pid = other
      · rw [live, if_pos same, same, Function.update_self, Option.map_none]
      · rw [live, if_neg same, Function.update_of_ne (Ne.symm same), mirrors.live]
        change _ = (kernel.running other).map _
        cases present : kernel.running other with
        | none => rfl
        | some neighbour =>
          have elsewhere : neighbour.pid ≠ pid := by
            rw [(mirrors.own present).1]
            exact Ne.symm same
          rw [Option.map_some, Option.map_some, UserProcess.seen_of_others others elsewhere]
    · intro other present isPresent
      have listed : processes.get other = some present := isPresent
      rw [live] at listed
      split at listed
      · cases listed
      · exact mirrors.own listed
    · intro other present isPresent
      have listed : processes.get other = some present := isPresent
      rw [live] at listed
      split at listed
      · cases listed
      · exact mirrors.given listed
    · intro page beyond
      change (kernel.pager.deallocate pid).2.viewOf page = none
      rw [others page, mirrors.unborn page beyond]
      intro same
      rw [same] at beyond
      exact absurd before (Nat.not_lt.mpr beyond)

/-- A process that has just started has no pages. -/
theorem start (mirrors : Mirrors config kernel machine) (stackTop : Vpn)
    (left : kernel.nextPid.toNat + 1 < UInt16.size) :
    Mirrors config
      ((startProcess kernel.nextPid stackTop).outcome
        { kernel with nextPid := kernel.nextPid + 1 }).2
      ({ machine with nextPid := machine.nextPid + 1 }.setImage machine.nextPid
        { stackTop := stackTop, pages := fun _ => none }) := by
  have later : (kernel.nextPid + 1).toNat = kernel.nextPid.toNat + 1 := by
    rw [UInt16.toNat_add]
    exact Nat.mod_eq_of_lt left
  have live : ∀ other, ((startProcess kernel.nextPid stackTop).outcome
      { kernel with nextPid := kernel.nextPid + 1 }).2.running other =
        if kernel.nextPid = other then
          some (UserProcess.start kernel.pager kernel.nextPid stackTop).1
        else kernel.running other := by
    intro other
    have started := running_startProcess { kernel with nextPid := kernel.nextPid + 1 }
      kernel.nextPid stackTop other
    have absent : ({ kernel with nextPid := kernel.nextPid + 1 } : Kernel φ).running
        kernel.nextPid = none := mirrors.not_running_nextPid
    rw [started, absent, Option.getD_none]
    rfl
  have unborn : (UserProcess.start kernel.pager kernel.nextPid stackTop).1.seen kernel.pager =
      fun _ => none :=
    funext fun vpn => mirrors.unborn _ (Nat.le_refl _)
  refine ⟨?_, mirrors.stackPages, ?_, ?_, ?_, ?_, ?_, ?_⟩
  · exact mirrors.intact.of_same (mirrors.intact.accounts.start kernel.nextPid stackTop) rfl rfl
  · exact congrArg (· + 1) mirrors.nextPid
  · intro pid
    rw [exitStatus_startProcess]
    exact mirrors.statuses pid
  · intro pid
    rw [live, ← mirrors.nextPid]
    change Function.update machine.live machine.nextPid _ pid = _
    by_cases same : machine.nextPid = pid
    · rw [if_pos same, same, Function.update_self, Option.map_some, ← same, mirrors.nextPid]
      exact congrArg (fun pages => some (FlatImage.mk stackTop pages)) unborn.symm
    · rw [if_neg same, Function.update_of_ne (Ne.symm same), mirrors.live]
      rfl
  · intro pid process isLive
    rw [live] at isLive
    split at isLive
    · next same =>
      cases isLive
      refine ⟨same, rfl, ?_⟩
      exact congrArg Config.stackPages mirrors.intact.accounts.config_eq
    · exact mirrors.own isLive
  · intro pid process isLive
    rw [live] at isLive
    change pid.toNat < (kernel.nextPid + 1).toNat
    rw [later]
    split at isLive
    · next same =>
      rw [← same]
      exact Nat.lt_succ_self _
    · exact Nat.lt_succ_of_lt (mirrors.given isLive)
  · intro page beyond
    change (kernel.nextPid + 1).toNat ≤ page.pid.toNat at beyond
    rw [later] at beyond
    exact mirrors.unborn page (Nat.le_of_succ_le beyond)

/-! ### Calls -/

/-- A start is one of the flat machine. -/
theorem spawn_ends (mirrors : Mirrors config kernel machine) (stackTop : Vpn) :
    (Kernel.spawn stackTop).Ends kernel fun result after =>
      ∃ next, machine.CanGo (ByteFiles.Faultless φ) (.spawn stackTop)
        (.spawned (result.map UserProcess.pid)) next ∧ Mirrors config after next := by
  rw [Kernel.spawn, ends_bind, ends_get]
  simp only
  rw [if_pos mirrors.intact.usesSwap, ends_bind, ends_onPager]
  apply Ends.mono mirrors.intact.initializeSwap
  intro result pager unseen
  have prepared := mirrors.withPager unseen.intact unseen.same
  cases result with
  | error cause =>
    obtain ⟨faulty, reason, rfl⟩ := unseen.faulty cause rfl
    exact ⟨machine, .of_mishap faulty (.noRoom reason) fun _ => rfl, prepared⟩
  | ok =>
    simp only [ends_bind, ends_takePid]
    by_cases left : kernel.nextPid.toNat + 1 < UInt16.size
    · rw [if_pos left]
      refine ⟨_, .of_none fun rest => ?_, prepared.start stackTop left⟩
      rw [← mirrors.nextPid] at left
      rw [FlatMachine.call, FlatMachine.spawn_of_left left, mirrors.nextPid]
      rfl
    · rw [if_neg left]
      refine ⟨machine, .of_none fun rest => ?_, prepared⟩
      rw [← mirrors.nextPid] at left
      rw [FlatMachine.call, FlatMachine.spawn_of_exhausted left]
      rfl

/-- A round of reclamation is not seen by the flat machine. -/
theorem reclaimOnce_ends (mirrors : Mirrors config kernel machine) :
    (onPager Pager.reclaimOnce : KernelAction φ PagingError Nat).Ends kernel
      fun result after =>
        machine.CanGo (ByteFiles.Faultless φ) .reclaimOnce
          (.reclaimed (result.map fun _ => ())) machine ∧ Mirrors config after machine := by
  rw [ends_onPager]
  apply Ends.mono mirrors.intact.reclaimOnce
  intro result pager unseen
  refine ⟨?_, mirrors.withPager unseen.intact unseen.same⟩
  cases result with
  | error cause =>
    obtain ⟨faulty, reason, rfl⟩ := unseen.faulty cause rfl
    exact .of_mishap faulty (.noRoom reason) fun _ => rfl
  | ok count => exact .of_none fun _ => rfl

/-- Frames that are reclaimed in the background are not missed. -/
theorem reclaimInBackground (mirrors : Mirrors config kernel machine) :
    Mirrors config kernel.reclaimInBackground machine := by
  have noted : Intact config ∅ { kernel.pager with reclaimRequested := false } :=
    mirrors.intact.of_same
      (mirrors.intact.accounts.of_same rfl rfl rfl mirrors.intact.accounts.pins rfl) rfl rfl
  refine reclaimInBackground_ends mirrors (noted.reclaimOnce.mono fun _ _ unseen => ?_)
  exact mirrors.withPager unseen.intact unseen.same

/-- A request is one of the flat machine. -/
theorem serve_ends (mirrors : Mirrors config kernel machine) {pid : Pid}
    {process : UserProcess} (isLive : kernel.running pid = some process)
    (request : ProcessRequest) :
    (perform process (·.serve request)).Ends kernel fun result after =>
      ∃ next, machine.CanGo (ByteFiles.Faultless φ) (.serve pid request) (.served result) next ∧
        Mirrors config after next := by
  obtain ⟨samePid, running, samePages⟩ := mirrors.own isLive
  have current : kernel.current process = process := by
    simp only [Kernel.current, samePid, isLive]
  have flat : process.flat = ⟨pid, process.stackTop, machine.stackPages⟩ := by
    rw [UserProcess.flat, samePid, samePages, mirrors.stackPages]
  have image := mirrors.live_of_running isLive
  rw [ends_perform, current]
  apply Ends.mono (UserProcess.serve_ends mirrors.intact running request)
  intro result pager tracks
  have changed := mirrors.setImage isLive tracks.intact fun page other =>
    tracks.others page (samePid ▸ other)
  have ends := tracks.canEnd
  rw [flat] at ends
  have goes := FlatMachine.serve_goes image ends
  cases result with
  | ok answer => exact ⟨_, goes, changed⟩
  | error cause =>
    simp only [TerminationHook.afterFault, Kernel.exitHook, samePid]
    have finished := (changed.finish isLive (-1)).2
    rw [FlatMachine.finish_setImage] at finished
    cases cause with
    | segfault page => exact ⟨_, goes, finished⟩
    | pageIn page reason => exact ⟨_, goes, finished⟩
    | kernel reason => exact ⟨_, goes, changed⟩
    | exited other => exact ⟨_, goes, changed⟩

/-- Whatever the kernel is asked for, the machine answers the same, if the right mishaps
come. -/
theorem call (mirrors : Mirrors config kernel machine) (call : SystemCall) :
    ∃ next, machine.CanGo (ByteFiles.Faultless φ) call (kernel.call call).1 next ∧
      Mirrors config (kernel.call call).2 next := by
  cases call with
  | spawn stackTop => exact mirrors.spawn_ends stackTop
  | serve pid request =>
    simp only [Kernel.call]
    cases present : kernel.running pid with
    | some process => exact mirrors.serve_ends present request
    | none =>
      refine ⟨machine, .of_nothing fun rest => ?_, mirrors⟩
      have gone : (machine.expecting rest).live pid = none := mirrors.not_live present
      simp only [FlatMachine.call, gone]
  | exit pid status =>
    cases present : kernel.running pid with
    | some process =>
      have image := mirrors.live_of_running present
      obtain ⟨wasLive, finished⟩ := mirrors.finish present status
      refine ⟨machine.finish pid status, .of_nothing fun rest => ?_, finished⟩
      have live : (machine.expecting rest).live pid = some _ := image
      simp only [FlatMachine.call, live, Kernel.call, wasLive]
      rfl
    | none =>
      have unknown : kernel.processes.get pid = none := present
      have refused : kernel.exit pid status = (false, kernel) := by
        simp only [Kernel.exit, ProcessTable.remove, unknown]
      simp only [Kernel.call, refused]
      refine ⟨machine, .of_nothing fun rest => ?_, mirrors⟩
      have gone : (machine.expecting rest).live pid = none := mirrors.not_live present
      simp only [FlatMachine.call, gone]
  | exitStatus pid =>
    refine ⟨machine, .of_nothing fun rest => ?_, mirrors⟩
    exact congrArg (fun found => (SystemAnswer.status found, machine.expecting rest))
      (mirrors.statuses pid)
  | reclaimOnce => exact ⟨machine, mirrors.reclaimOnce_ends⟩
  | idle => exact ⟨machine, .of_nothing fun _ => rfl, mirrors.reclaimInBackground⟩

/-- A booted kernel mirrors a flat machine without processes. -/
theorem boot {files : φ} {policy : Policy} {chance : Chance}
    (booted : Kernel.boot config files policy chance = .ok kernel)
    (demand : config.paging = .demand) (coming : Mishaps) :
    Mirrors config kernel (.boot config.stackPages coming) := by
  obtain ⟨pager, set, rfl⟩ := exists_boot booted
  obtain ⟨intact, empty⟩ := Intact.boot set demand
  have nobody : ∀ pid, (around pager).running pid = none := by
    intro pid
    exact Std.ExtTreeMap.getElem?_empty
  refine ⟨intact, rfl, rfl, fun pid => Std.ExtTreeMap.getElem?_empty.symm, ?_, ?_, ?_, ?_⟩
  · intro pid
    rw [nobody, Option.map_none]
    rfl
  · intro pid process isLive
    rw [nobody] at isLive
    cases isLive
  · intro pid process isLive
    rw [nobody] at isLive
    cases isLive
  · exact fun page _ => empty page

/-- Which mishaps are to come is not to be seen. -/
theorem expecting (mirrors : Mirrors config kernel machine) (coming : Mishaps) :
    Mirrors config kernel (machine.expecting coming) :=
  { mirrors with }

end Mirrors

/-! ### Whole runs -/

/-- The answers were the same, and the processes see the same. -/
def Agree (config : Config) (paged : List SystemAnswer × Kernel φ)
    (flat : List SystemAnswer × FlatMachine) : Prop :=
  paged.1 = flat.1 ∧ Mirrors config paged.2 flat.2

/-- The same mishaps explain a whole run and everything that it begins with. -/
theorem Mirrors.converse (mirrors : Mirrors config kernel machine) (calls : List SystemCall) :
    Mishaps.Allow (ByteFiles.Faultless φ) fun coming _ =>
      ∀ count, Agree config (VirtualMemory.converse Kernel.call kernel (calls.take count))
        (VirtualMemory.converse FlatMachine.call (machine.expecting coming)
          (calls.take count)) := by
  induction calls generalizing kernel machine with
  | nil =>
    apply Mishaps.Allow.of_nothing
    intro coming count
    rw [List.take_nil]
    exact ⟨rfl, mirrors.expecting coming⟩
  | cons call others hypothesis =>
    obtain ⟨next, goes, after⟩ := mirrors.call call
    apply Mishaps.Allow.andThen goes (hypothesis after)
    intro coming middle rest went explained count
    cases count with
    | zero => exact ⟨rfl, mirrors.expecting coming⟩
    | succ count =>
      obtain ⟨sameAnswers, mirrorsLast⟩ := explained count
      rw [List.take_succ_cons, VirtualMemory.converse, VirtualMemory.converse, went]
      exact ⟨congrArg ((kernel.call call).1 :: ·) sameAnswers, mirrorsLast⟩

/-- Two processes write to their stacks and read them, one after the other. The first one
has loaded two pages as well that refuse stores. -/
def takingTurns : List SystemCall :=
  [.spawn 4, .spawn 4, .serve 1 (.loadSection 8 (List.replicate 1024 5 ++ [6]) true),
    .serve 1 (.write 4096 [7]), .serve 2 (.write 4096 [9]), .serve 1 (.write 4096 [8]),
    .serve 2 (.read 4096 1), .serve 1 (.read 4096 1), .serve 1 (.write 9216 [7]),
    .serve 1 (.read 9215 3)]

/-- Files in memory have no faults, and on them paging is not to be noticed: the kernel
answers every run of calls as the machine does on which nothing ever goes wrong, whatever
the policy, the slots that caches give up, and the number of frames. -/
theorem paging_is_transparent {config : Config} {files : EphemeralFiles} {policy : Policy}
    {chance : Chance} {kernel : Kernel EphemeralFiles}
    (booted : Kernel.boot config files policy chance = .ok kernel)
    (demand : config.paging = .demand) (calls : List SystemCall) :
    (converse Kernel.call kernel calls).1 =
      (converse FlatMachine.call (.undisturbed config.stackPages) calls).1 := by
  obtain ⟨plan, quiet, explained⟩ := (Mirrors.boot booted demand .never).converse calls
  have whole := explained Mishaps.never calls.length
  rw [Mishaps.append_never plan (quiet trivial), List.take_length] at whole
  exact whole.1

/-- Two processes take turns in one frame, and each finds what it wrote, or what was loaded
where it may not write. -/
theorem paging_is_transparent_one_frame :
    ∃ kernel : Kernel EphemeralFiles,
      Kernel.boot .oneFrame .empty (.scripted []) (.seeded 0) = .ok kernel ∧
      (converse Kernel.call kernel takingTurns).2.pager.evictions = 9 ∧
      (converse Kernel.call kernel takingTurns).1.drop 6 =
        [.served (.ok (.bytes [9])), .served (.ok (.bytes [8])), .served (.ok (.written 0)),
          .served (.ok (.bytes [5, 6, 0]))] ∧
      (converse Kernel.call kernel takingTurns).1 =
        (converse FlatMachine.call (.undisturbed 8) takingTurns).1 :=
  ⟨_, rfl, by decide +kernel, by decide +kernel, paging_is_transparent
    (rfl : Kernel.boot .oneFrame EphemeralFiles.empty (.scripted []) (.seeded 0) = .ok _)
    rfl takingTurns⟩

/-- The pages of a process, wherever the pager has them. -/
def pagesOf {φ : Type} [FileSystem φ] [ByteFiles φ] (kernel : Kernel φ) (pid : Pid) :
    PageViews :=
  fun vpn => kernel.pager.viewOf { pid := pid, vpn := vpn }

/-- What a process reads is what its flat memory has, and so is every page, wherever it
is. The pages have what requests store in them, and nothing else changes them: a process
begins without any. -/
structure Faithful {φ : Type} [FileSystem φ] [ByteFiles φ] (kernel : Kernel φ)
    (machine : FlatMachine) : Prop where
  pages : ∀ pid process, kernel.running pid = some process →
    ∃ image, machine.live pid = some image ∧
      ∀ vpn, kernel.pager.viewOf { pid := pid, vpn := vpn } = image.pages vpn
  reads : ∀ pid address length data,
    (kernel.call (.serve pid (.read address length))).1 = .served (.ok (.bytes data)) →
    ∃ image, machine.live pid = some image ∧
      data.length = min length (UInt32.size - address.toNat) ∧
      ∀ index < data.length,
        data[index]? = some (image.pages.byteAt (address.toNat + index))
  leaves : ∀ pid process request result, kernel.running pid = some process →
    (kernel.call (.serve pid request)).1 = .served result →
    (kernel.call (.serve pid request)).2.running pid ≠ none →
    FlatProcess.Leaves ⟨pid, process.stackTop, process.stackPages⟩ request result
      (kernel.pagesOf pid) ((kernel.call (.serve pid request)).2.pagesOf pid)
  spares : ∀ pid call, kernel.running pid ≠ none → (∀ request, call ≠ .serve pid request) →
    (kernel.call call).2.running pid ≠ none →
    (kernel.call call).2.pagesOf pid = kernel.pagesOf pid
  begins : ∀ pid stackTop, (kernel.call (.spawn stackTop)).1 = .spawned (.ok pid) →
    (kernel.call (.spawn stackTop)).2.pagesOf pid = fun _ => none

namespace Mirrors

variable {φ : Type} [FileSystem φ] [ByteFiles φ] {config : Config} {kernel : Kernel φ}
  {machine : FlatMachine}

/-- A process that is live has in both the same pages. -/
theorem exists_image (mirrors : Mirrors config kernel machine) {pid : Pid}
    (isLive : kernel.running pid ≠ none) :
    ∃ process, kernel.running pid = some process ∧
      machine.live pid = some ⟨process.stackTop, kernel.pagesOf pid⟩ := by
  obtain ⟨process, present⟩ := Option.ne_none_iff_exists'.mp isLive
  refine ⟨process, present, (mirrors.live_of_running present).trans ?_⟩
  have same : process.seen kernel.pager = kernel.pagesOf pid := by
    funext vpn
    rw [UserProcess.seen, UserProcess.page, (mirrors.own present).1, pagesOf]
  rw [same]

/-- A call of the kernel is a call of the machine, if the right mishaps are to come. -/
theorem exists_call (mirrors : Mirrors config kernel machine) (call : SystemCall) :
    ∃ coming, ((machine.expecting coming).call call).1 = (kernel.call call).1 ∧
      Mirrors config (kernel.call call).2 ((machine.expecting coming).call call).2 := by
  obtain ⟨next, ⟨plan, _, goes⟩, after⟩ := mirrors.call call
  refine ⟨plan ++ₛ Mishaps.never, ?_⟩
  rw [goes]
  exact ⟨rfl, after.expecting _⟩

/-- What mirrors the machine is faithful to it. -/
theorem faithful (mirrors : Mirrors config kernel machine) : kernel.Faithful machine where
  pages := by
    intro pid process isLive
    obtain ⟨_, _, image⟩ := mirrors.exists_image (isLive ▸ Option.some_ne_none process)
    exact ⟨_, image, fun vpn => rfl⟩
  reads := by
    intro pid address length data answered
    obtain ⟨coming, answers, _⟩ := mirrors.exists_call (.serve pid (.read address length))
    obtain ⟨image, isLive, rfl⟩ := FlatMachine.read_answers (answers.trans answered)
    refine ⟨image, isLive, PageViews.length_bytesFrom _ _ _, fun index inside => ?_⟩
    rw [PageViews.length_bytesFrom] at inside
    exact PageViews.getElem?_bytesFrom inside
  leaves := by
    intro pid process request result isLive answered goesOn
    obtain ⟨coming, answers, after⟩ := mirrors.exists_call (.serve pid request)
    obtain ⟨_, present, image⟩ := mirrors.exists_image (isLive ▸ Option.some_ne_none process)
    obtain ⟨_, _, imageAfter⟩ := after.exists_image goesOn
    cases present.symm.trans isLive
    have isLiveThere : (machine.expecting coming).live pid = some _ := image
    have leaves := FlatMachine.call_leaves isLiveThere (answers.trans answered) imageAfter
    rw [(mirrors.own isLive).2.2, ← mirrors.stackPages]
    exact leaves
  spares := by
    intro pid call isLive other goesOn
    obtain ⟨coming, _, after⟩ := mirrors.exists_call call
    obtain ⟨_, _, image⟩ := mirrors.exists_image isLive
    obtain ⟨_, _, imageAfter⟩ := after.exists_image goesOn
    have isLiveThere : (machine.expecting coming).live pid = some _ := image
    exact FlatMachine.call_spares isLiveThere other
      (mirrors.nextPid ▸ mirrors.not_live mirrors.not_running_nextPid) imageAfter
  begins := by
    intro pid stackTop answered
    obtain ⟨coming, answers, after⟩ := mirrors.exists_call (.spawn stackTop)
    have started := FlatMachine.live_of_spawned (answers.trans answered)
    obtain ⟨_, _, image⟩ := after.exists_image fun gone => by
      cases started.symm.trans (after.not_live gone)
    exact congrArg FlatImage.pages (Option.some.inj (image.symm.trans started))

end Mirrors

/-- Whatever calls of the swap file's file system fail or are cut short, and whenever they
are, an operation at worst fails: some mishaps explain all answers, and after every call
the processes still have what they last put into their memory. -/
theorem faults_never_corrupt {config : Config} {files : FaultyFiles EphemeralFiles}
    {policy : Policy} {chance : Chance} {kernel : Kernel (FaultyFiles EphemeralFiles)}
    (booted : Kernel.boot config files policy chance = .ok kernel)
    (demand : config.paging = .demand) (calls : List SystemCall) :
    ∃ mishaps : Mishaps, ∀ count,
      (converse Kernel.call kernel (calls.take count)).1 =
          (converse FlatMachine.call (.boot config.stackPages mishaps) (calls.take count)).1 ∧
        (converse Kernel.call kernel (calls.take count)).2.Faithful
          (converse FlatMachine.call (.boot config.stackPages mishaps) (calls.take count)).2 := by
  obtain ⟨plan, _, explained⟩ := (Mirrors.boot booted demand .never).converse calls
  refine ⟨plan ++ₛ Mishaps.never, fun count => ?_⟩
  obtain ⟨sameAnswers, mirrors⟩ := explained Mishaps.never count
  exact ⟨sameAnswers, mirrors.faithful⟩

/-- Files of which the fifth write is cut short. -/
def tornFiles : FaultyFiles EphemeralFiles :=
  { base := .empty
    onWrite := { schedule := fun call => if call = 4 then some (.shorten 100) else none } }

/-- A page is written out a second time, and the slot is torn. It stays in memory, and the
process goes on to read its newest byte, while the other process is refused. What was loaded
is as it was. -/
theorem faults_never_corrupt_torn_slot :
    ∃ kernel : Kernel (FaultyFiles EphemeralFiles),
      Kernel.boot .oneFrame tornFiles (.scripted []) (.seeded 0) = .ok kernel ∧
      (converse Kernel.call kernel takingTurns).1.drop 6 =
        [.served (.error (.kernel (.swap (.shortWrite 2048 100)))),
          .served (.ok (.bytes [8])), .served (.ok (.written 0)),
          .served (.ok (.bytes [5, 6, 0]))] ∧
      ∃ mishaps : Mishaps, ∀ count,
        (converse Kernel.call kernel (takingTurns.take count)).1 =
            (converse FlatMachine.call (.boot 8 mishaps) (takingTurns.take count)).1 ∧
          (converse Kernel.call kernel (takingTurns.take count)).2.Faithful
            (converse FlatMachine.call (.boot 8 mishaps) (takingTurns.take count)).2 :=
  ⟨_, rfl, by decide +kernel, faults_never_corrupt
    (rfl : Kernel.boot .oneFrame tornFiles (.scripted []) (.seeded 0) = .ok _)
    rfl takingTurns⟩

end Kernel

end VirtualMemory
