/-
Module: VirtualMemory.Proofs.Kernel.DirtyBits
Purpose: Which stores to a page are known of once its process was switched out.
Main exports:
  Activity, Kernel.afterActivities, Kernel.Throughout; Kernel.serve_activities,
  Hosts.afterActivity, Hosts.afterActivities, Kernel.dirty_saved_iff

A process accesses pages, and the kernel is called for others in between. A store is forgotten if
only the cache knows of it and its slot is lost, or filled again at a fault, before the process is
switched out.
-/
import VirtualMemory.Proofs.Kernel.Bystanders
import VirtualMemory.Proofs.Process.Usage

namespace VirtualMemory

open VirtualMemory.Action Pager

variable {φ : Type}

/-- What happens while a process is live: it accesses a page, or the kernel is called for
others. -/
inductive Activity (φ : Type) where
  | access (page : PageAccess)
  | call (call : KernelCall φ)

/-- Nothing is stored to a page of the process, and calls are for others. -/
def Activity.Spares (process : UserProcess) (vpn : Vpn) : Activity φ → Prop
  | .access page => ¬ page.StoresTo vpn
  | .call asked => asked.ForOthers process

namespace Kernel

variable [FileSystem φ] {kernel next : Kernel φ} {process : UserProcess} {config : Config}
  {held : Finset Ppn} {vpn : Vpn} {property : Kernel φ → Prop}

/-- A page of a process is in a frame. -/
def InFrame (process : UserProcess) (vpn : Vpn) (ppn : Ppn) (kernel : Kernel φ) : Prop :=
  kernel.pager.tables.frameOf (process.page vpn) = some ppn

instance (process : UserProcess) (vpn : Vpn) (ppn : Ppn) (kernel : Kernel φ) :
    Decidable (InFrame process vpn ppn kernel) :=
  inferInstanceAs (Decidable (_ = _))

/-- A process has a page in its cache. -/
def Caches (process : UserProcess) (vpn : Vpn) (kernel : Kernel φ) : Prop :=
  ((process.cache kernel.pager).lookup vpn).isSome = true

/-- The page tables know of a store to a page. -/
def Dirty (process : UserProcess) (vpn : Vpn) (kernel : Kernel φ) : Prop :=
  ∃ entry, kernel.pager.tables.get (process.page vpn) = some entry ∧ entry.dirty = true

instance (process : UserProcess) (vpn : Vpn) (kernel : Kernel φ) :
    Decidable (Dirty process vpn kernel) :=
  decidable_of_iff (((kernel.pager.tables.get (process.page vpn)).any (·.dirty)) = true)
    (Option.any_eq_true _ _)

/-- The kernel after an activity, however it ends. -/
def afterActivity (kernel : Kernel φ) (process : UserProcess) : Activity φ → Kernel φ
  | .access page => ((perform process (·.access page)).outcome kernel).2
  | .call call => kernel.step call

/-- The kernel after activities, one after another. -/
def afterActivities (kernel : Kernel φ) (process : UserProcess) (activities : List (Activity φ)) :
    Kernel φ :=
  activities.foldl (·.afterActivity process ·) kernel

/-- A property holds at first and after each activity. -/
def Throughout (property : Kernel φ → Prop) (process : UserProcess) :
    Kernel φ → List (Activity φ) → Prop
  | kernel, [] => property kernel
  | kernel, activity :: rest =>
      property kernel ∧ Throughout property process (kernel.afterActivity process activity) rest

instance decidableThroughout [DecidablePred property] (process : UserProcess) :
    (kernel : Kernel φ) → (activities : List (Activity φ)) →
    Decidable (Throughout property process kernel activities)
  | kernel, [] => inferInstanceAs (Decidable (property kernel))
  | kernel, activity :: rest =>
      have : Decidable (Throughout property process (kernel.afterActivity process activity) rest) :=
        decidableThroughout process _ rest
      inferInstanceAs (Decidable (property kernel ∧ _))

theorem Throughout.first {activities : List (Activity φ)}
    (holds : Throughout property process kernel activities) : property kernel := by
  cases activities with
  | nil => exact holds
  | cons => exact holds.1

/-! ### Requests -/

/-- Accesses to pages one after another, up to the first that fails or is refused. -/
theorem perform_accessAll (process : UserProcess) (pages : List PageAccess) (kernel : Kernel φ) :
    ∃ parts, parts <+: pages ∧ ((perform process (·.accessAll pages)).outcome kernel).2 =
      kernel.afterActivities process (parts.map .access) := by
  induction pages generalizing kernel with
  | nil => exact ⟨[], List.prefix_refl _, rfl⟩
  | cons page rest hypothesis =>
    have first := snd_outcome_perform process (·.access page) kernel
    rw [snd_outcome_perform]
    simp only [UserProcess.accessAll, outcome_bind]
    generalize accessed : ((kernel.current process).access page).outcome kernel.pager = done
      at first ⊢
    have alone : [page] <+: page :: rest := List.cons_prefix_cons.mpr ⟨rfl, List.nil_prefix⟩
    obtain ⟨result, pager⟩ := done
    cases result with
    | error cause => exact ⟨[page], alone, first.symm⟩
    | ok goesOn =>
      cases goesOn with
      | false => exact ⟨[page], alone, first.symm⟩
      | true =>
        obtain ⟨parts, isPrefix, later⟩ := hypothesis { kernel with pager := pager }
        refine ⟨page :: parts, List.cons_prefix_cons.mpr ⟨rfl, isPrefix⟩, ?_⟩
        rw [snd_outcome_perform] at later
        have moved : kernel.afterActivity process (.access page) = { kernel with pager := pager } :=
          first
        refine Eq.trans later ?_
        rw [List.map_cons, afterActivities, afterActivities, List.foldl_cons, moved]

/-- A request for memory is a row of accesses to pages. -/
theorem serve_activities (kernel : Kernel φ) (process : UserProcess) (access : MemoryAccess) :
    ∃ parts, parts <+: access.pages ∧ kernel.step (.serve process access.request) =
      kernel.afterActivities process (parts.map .access) := by
  cases exited : (kernel.current process).exited with
  | true =>
    refine ⟨[], List.nil_prefix, ?_⟩
    have refused := snd_outcome_perform process (·.serve access.request) kernel
    rw [UserProcess.serve_exited exited] at refused
    exact refused
  | false =>
    obtain ⟨parts, isPrefix, done⟩ := perform_accessAll process access.pages kernel
    refine ⟨parts, isPrefix, Eq.trans ?_ done⟩
    have served := snd_outcome_perform process (·.serve access.request) kernel
    refine served.trans ?_
    rw [snd_outcome_perform, ← UserProcess.serve_access exited, outcome_map]
    obtain ⟨_ | _, pager⟩ :=
      ((kernel.current process).serve access.request).outcome kernel.pager <;> rfl

/-! ### One activity after another -/

/-- What the tables and the cache know of a page after an activity in which nothing is stored
to it. -/
theorem Hosts.afterActivity (hosts : kernel.Hosts config process) {activity : Activity φ}
    (spares : activity.Spares process vpn) {entry after : TranslationEntry}
    (found : kernel.pager.tables.get (process.page vpn) = some entry)
    (stays : (kernel.afterActivity process activity).pager.tables.get (process.page vpn) =
      some after) :
    (kernel.afterActivity process activity).Hosts config process ∧ entry.Persists after ∧
      ∀ told, entry.dirty = false → process.Knows vpn told kernel.pager →
        process.Knows vpn
          (told ∧ activity ≠ .access (.find vpn) ∧
            process.slotsOf vpn (kernel.afterActivity process activity).pager ≠ [])
          (kernel.afterActivity process activity).pager := by
  cases activity with
  | access page =>
    obtain ⟨held, accounts⟩ := hosts.accounts
    obtain ⟨survived, accessed⟩ := hosts.access page stays
    have persists := accessed.persists accounts hosts.running found spares stays
    refine ⟨survived, persists, fun told clean knows => ?_⟩
    have known := accessed.knows accounts hosts.running found clean spares knows
    have same : page ≠ .find vpn ↔ (Activity.access page : Activity φ) ≠ .access (.find vpn) := by
      rw [Ne, Ne, Activity.access.injEq]
    exact known.congr (and_congr_right' (and_congr_left' same))
  | call call =>
    obtain ⟨survived, spared⟩ := hosts.call spares
    have same := ((spared.pages vpn).entry stays).symm.trans found
    refine ⟨survived, Option.some.inj same ▸ .refl after, fun told _ knows => ?_⟩
    exact knows.of_sublist nofun (spared.pages vpn).slots

omit [FileSystem φ] in
/-- A page is cached where it has a slot. -/
theorem caches_iff : Caches process vpn kernel ↔ process.slotsOf vpn kernel.pager ≠ [] := by
  rw [Caches, Option.isSome_iff_ne_none, UserProcess.slotsOf, Ne, Ne, Tlb.slotsOf_eq_nil_iff]

/-- The page is in its frame throughout. -/
theorem Hosts.afterActivities (hosts : kernel.Hosts config process)
    {activities : List (Activity φ)}
    (spares : ∀ activity ∈ activities, activity.Spares process vpn) {ppn : Ppn}
    (stays : Throughout (InFrame process vpn ppn) process kernel activities)
    {entry : TranslationEntry} (found : kernel.pager.tables.get (process.page vpn) = some entry) :
    (kernel.afterActivities process activities).Hosts config process ∧
      ∃ last, (kernel.afterActivities process activities).pager.tables.get (process.page vpn) =
          some last ∧ entry.Persists last ∧
        ∀ told, entry.dirty = false → process.Knows vpn told kernel.pager →
          process.Knows vpn
            (told ∧ Throughout (Caches process vpn) process kernel activities ∧
              .access (.find vpn) ∉ activities)
            (kernel.afterActivities process activities).pager := by
  induction activities generalizing kernel entry with
  | nil =>
    refine ⟨hosts, entry, found, .refl entry, fun told _ knows => knows.congr ?_⟩
    have cached := knows.cached
    rw [← caches_iff] at cached
    exact ⟨fun remembered => ⟨remembered, cached remembered, List.not_mem_nil⟩, And.left⟩
  | cons activity rest hypothesis =>
    obtain ⟨next, mapped, _⟩ := Option.map_eq_some_iff.mp stays.2.first
    have step := hosts.afterActivity (spares activity List.mem_cons_self) found mapped
    obtain ⟨survived, persists, learns⟩ := step
    obtain ⟨after, last, stillMapped, persistsOn, learnsOn⟩ := hypothesis survived
      (fun other listed => spares other (List.mem_cons_of_mem activity listed)) stays.2 mapped
    refine ⟨after, last, stillMapped, persists.trans persistsOn, fun told clean knows => ?_⟩
    have known := learnsOn _ (persists.dirty.trans clean) (learns told clean knows)
    refine known.congr ?_
    have cached := knows.cached
    rw [← caches_iff] at cached ⊢
    constructor
    · rintro ⟨⟨remembered, other, _⟩, throughout, never⟩
      exact ⟨remembered, ⟨cached remembered, throughout⟩,
        List.not_mem_cons_of_ne_of_not_mem (Ne.symm other) never⟩
    · rintro ⟨remembered, ⟨_, throughout⟩, never⟩
      obtain ⟨other, never⟩ := List.ne_and_not_mem_of_not_mem_cons never
      exact ⟨⟨remembered, Ne.symm other, throughout.first⟩, throughout, never⟩

/-! ### From a store to the end of the run -/

/-- A process is live, its memory was not freed, and its own cache is attached to it. -/
structure Runs (process : UserProcess) (kernel : Kernel φ) : Prop where
  live : kernel.running process.pid = some process
  running : process.exited = false
  attached : kernel.pager.tlbs.attachedTo process.pid = some process.tlb

/-- A process that runs after some calls is hosted then. -/
theorem hosts_run {files : φ} {policy : Policy} {chance : Chance}
    (booted : Kernel.boot config files policy chance = .ok kernel) (calls : List (KernelCall φ))
    (runs : (kernel.run calls).Runs process) : (kernel.run calls).Hosts config process := by
  obtain ⟨pager, set, around⟩ := exists_boot booted
  have balanced : ∃ held, Accounts config held kernel.pager := ⟨∅, around ▸ .boot set⟩
  obtain ⟨apart, accounts⟩ := CachesApart.run (.boot booted) balanced calls
  exact ⟨apart, accounts, runs.live, runs.running⟩

omit [FileSystem φ] in
/-- The cache of a process that runs agrees with the page tables. -/
theorem Runs.agrees (runs : kernel.Runs process) (right : CachesRight config kernel) :
    (process.cache kernel.pager).Agrees kernel.pager.tables process.pid := by
  obtain ⟨tlb, present, agrees⟩ := right.current process.pid process.tlb runs.attached
  rw [UserProcess.cache, present]
  exact agrees

/-- A saved state changes the pager only. -/
theorem Hosts.saveState (hosts : kernel.Hosts config process) :
    kernel.step (.serve process .saveState) =
      { kernel with pager := process.saveState kernel.pager } := by
  have saved := snd_outcome_perform process (·.serve .saveState) kernel
  rw [hosts.current_eq] at saved
  exact saved

omit [FileSystem φ] in
theorem dirty_iff_of_get {entry : TranslationEntry}
    (found : kernel.pager.tables.get (process.page vpn) = some entry) :
    Dirty process vpn kernel ↔ entry.dirty = true := by
  simp only [Dirty, found, Option.some.injEq, exists_eq_left']

/-- When a process is switched out, the tables come to know what its cache knows of a page to
which stores are allowed. -/
theorem Hosts.dirty_saved (hosts : kernel.Hosts config process) {entry : TranslationEntry}
    (told : Prop) (found : kernel.pager.tables.get (process.page vpn) = some entry)
    (writable : entry.readOnly = false)
    (knows : entry.dirty = false → process.Knows vpn told kernel.pager) :
    InFrame process vpn entry.ppn (kernel.step (.serve process .saveState)) ∧
      (Dirty process vpn (kernel.step (.serve process .saveState)) ↔
        entry.dirty = true ∨ told) := by
  obtain ⟨saved, here, samePpn, dirty⟩ := UserProcess.get_saveState found
  rw [hosts.saveState]
  have inFrame : InFrame process vpn entry.ppn
      { kernel with pager := process.saveState kernel.pager } :=
    (congrArg (Option.map TranslationEntry.ppn) here).trans (congrArg some samePpn)
  refine ⟨inFrame, (dirty_iff_of_get here).trans (dirty.trans ?_)⟩
  cases known : entry.dirty with
  | true => simp only [true_or]
  | false => rw [and_iff_right writable, (knows known).exists_iff]

/-- A store that is accepted is known of once the process was switched out if and only if the
tables knew of one before, the page was not in the cache of the process, or its slot was never
lost, to another page or to an eviction, nor filled again at a fault. The page is in its frame
from the store on, and nothing else is stored to it. Requests of the process are accesses to
pages, and others may act between them. -/
theorem dirty_saved_iff {files : φ} {policy : Policy} {chance : Chance}
    {initial begun : Kernel φ} (booted : Kernel.boot config files policy chance = .ok initial)
    {calls : List (KernelCall φ)} (runs : (initial.run calls).Runs process)
    {store : PageAccess} (stores : store.StoresTo vpn)
    (accepted : (perform process (·.access store)).outcome (initial.run calls) =
      (.ok true, begun))
    {activities : List (Activity φ)}
    (spares : ∀ activity ∈ activities, activity.Spares process vpn) {ppn : Ppn}
    (stays : Throughout (InFrame process vpn ppn) process begun activities) :
    (∀ (kernel : Kernel φ) (access : MemoryAccess), ∃ parts, parts <+: access.pages ∧
      kernel.step (.serve process access.request) =
        kernel.afterActivities process (parts.map .access)) ∧
    let saved := (begun.afterActivities process activities).step (.serve process .saveState)
    InFrame process vpn ppn saved ∧
      (Dirty process vpn saved ↔
        Dirty process vpn (initial.run calls) ∨ ¬ Caches process vpn (initial.run calls) ∨
          Throughout (Caches process vpn) process begun activities ∧
            .access (.find vpn) ∉ activities) := by
  refine ⟨fun kernel access => kernel.serve_activities process access, ?_⟩
  have hosts := hosts_run booted calls runs
  have agrees := runs.agrees ((CachesRight.boot booted).run calls)
  obtain ⟨next, mapped, atPpn⟩ := Option.map_eq_some_iff.mp stays.first
  have access := hosts.access store (by rw [accepted]; exact mapped)
  rw [accepted] at access
  obtain ⟨survived, accessed⟩ : begun.Hosts config process ∧
    process.Accessed (initial.run calls).pager store (.ok true) begun.pager := access
  cases store with
  | find | load => exact stores.elim
  | store span data =>
    subst stores
    obtain ⟨entry, found, writable, known⟩ := accessed.stored_cases agrees
    cases found.symm.trans mapped
    obtain ⟨after, last, stillMapped, persists, learns⟩ :=
      survived.afterActivities spares stays mapped
    have allowed := persists.readOnly.trans writable
    rw [← atPpn, ← persists.ppn]
    rcases known with ⟨nowhere, dirty⟩ | ⟨cached, before, knows⟩
    · -- The page was looked for, and the store was recorded in the tables.
      have recorded : last.dirty = true := persists.dirty.trans dirty
      have missed : ¬ Caches process span.page.toUInt32 (initial.run calls) :=
        fun caches => caches_iff.mp caches nowhere
      obtain ⟨inFrame, saved⟩ := after.dirty_saved True stillMapped allowed
        fun clean => absurd (recorded.symm.trans clean) nofun
      exact ⟨inFrame, iff_of_true (saved.mpr (.inl recorded)) (.inr (.inl missed))⟩
    · -- The tables are as they were before, and the cache alone was told.
      obtain ⟨inFrame, saved⟩ := after.dirty_saved _ stillMapped allowed
        fun clean => learns True (persists.dirty.symm.trans clean) knows
      refine ⟨inFrame, saved.trans ?_⟩
      rw [persists.dirty, ← dirty_iff_of_get before, true_and,
        or_iff_right (not_not.mpr (caches_iff.mpr cached))]

/-- A process stores to a page that it has cached, then another process stores to a page, and then
the first process reads another page. Its cache has slots for both of its pages. -/
theorem dirty_saved_iff_two_slots :
    ∃ initial : Kernel EphemeralFiles,
      Kernel.boot { Config.oneFrame with frames := 3, tlbEntries := 2 } .empty (.scripted [])
          (.seeded 0) = .ok initial ∧
        let process : UserProcess := ⟨1, 4, 8, 0, false⟩
        let before := initial.run [.spawn 4, .spawn 4, .serve process (.read 4096 1)]
        let store : PageAccess := .store ⟨4, 0, 1⟩ [7]
        let stored := (perform process (·.access store)).outcome before
        let activities : List (Activity EphemeralFiles) :=
          [.call (.serve ⟨2, 4, 8, 1, false⟩ (.write 4096 [9])), .access (.load ⟨3, 0, 1⟩)]
        before.Runs process ∧ store.StoresTo 4 ∧ stored.1 = .ok true ∧
          (∀ activity ∈ activities, activity.Spares process 4) ∧
          Throughout (InFrame process 4 0) process stored.2 activities ∧
          let saved := (stored.2.afterActivities process activities).step
            (.serve process .saveState)
          InFrame process 4 0 saved ∧
            (Dirty process 4 saved ↔
              Dirty process 4 before ∨ ¬ Caches process 4 before ∨
                Throughout (Caches process 4) process stored.2 activities ∧
                  .access (.find 4) ∉ activities) := by
  refine ⟨_, rfl, ⟨?live, rfl, ?attached⟩, ?stores, ?accepted, ?spares, ?stays,
    (dirty_saved_iff (rfl : Kernel.boot { Config.oneFrame with frames := 3, tlbEntries := 2 }
      (.empty : EphemeralFiles) (.scripted []) (.seeded 0) = .ok _) ⟨?live, rfl, ?attached⟩
      ?stores (Prod.ext_iff.mpr ⟨?accepted, rfl⟩) ?spares ?stays).2⟩
  case live => decide +kernel
  case attached => decide +kernel
  case stores => rfl
  case accepted => decide +kernel
  case spares =>
    exact List.forall_mem_cons.mpr ⟨⟨by decide, by decide⟩, List.forall_mem_singleton.mpr nofun⟩
  case stays => decide +kernel

/-- A process stores a byte to a page that it has cached. The page stays in its frame, but the
process reads another page, which takes the only slot. The tables never know of the store. -/
theorem store_forgotten :
    ∃ initial : Kernel EphemeralFiles,
      Kernel.boot { Config.oneFrame with frames := 3 } .empty (.scripted []) (.seeded 0) =
          .ok initial ∧
        let process : UserProcess := ⟨1, 4, 8, 0, false⟩
        let before := initial.run [.spawn 4, .serve process (.read 4096 1)]
        let written := (perform process (·.serve (.write 4096 [7]))).outcome before
        let later := written.2.step (.serve process (.read 3072 1))
        let saved := later.step (.serve process .saveState)
        written.1 = .ok (.written 1) ∧ InFrame process 4 0 written.2 ∧
          InFrame process 4 0 later ∧ InFrame process 4 0 saved ∧ ¬ Dirty process 4 saved :=
  ⟨_, rfl, by decide +kernel⟩

end Kernel

end VirtualMemory
