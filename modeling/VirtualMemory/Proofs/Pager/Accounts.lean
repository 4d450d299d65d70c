/-
Module: VirtualMemory.Proofs.Pager.Accounts
Purpose: Every frame is free, or holds a page, or was handed out, and never two of
  these.
Main exports:
  Pager.Accounts, Accounts.boot, Accounts.checkConsistency,
  Accounts.card_eq, and one lemma for each way in which a frame changes hands
-/
import Mathlib.Data.Finset.Card
import Mathlib.Data.Finset.Option
import Mathlib.Tactic.Tauto
import VirtualMemory.Pager.Upkeep
import VirtualMemory.Proofs.Frame.Pins
import VirtualMemory.Proofs.Frame.Pool
import VirtualMemory.Proofs.Frame.Tables

namespace VirtualMemory

/-- The smallest machine that pages. -/
def Config.oneFrame : Config :=
  { frames := 1, tlbEntries := 1, lowWaterMark := 0, evictionRounds := 1 }

/-- A machine without defect has frames, and its caches slots, and it searches for
victims at all. -/
theorem Config.sizes_ne_zero {config : Config} (valid : config.defect = none) :
    config.frames ≠ 0 ∧ config.tlbEntries ≠ 0 ∧ config.evictionRounds ≠ 0 := by
  simp only [Config.defect] at valid
  split at valid
  · cases valid
  · next frames =>
    split at valid
    · cases valid
    · next entries =>
      split at valid
      · cases valid
      · next rounds => exact ⟨frames, entries, rounds⟩

namespace Pager

variable {φ : Type}

/-- The books of a pager balance: the page tables, the pool and the frames `held` by
callers share out the frames of the machine between them. -/
structure Accounts (config : Config) (held : Finset Ppn) (pager : Pager φ) : Prop where
  config_eq : pager.config = config
  valid : config.defect = none
  tables : pager.tables.Consistent
  pool : pager.frames.Sound
  pins : pager.pins.Sound
  size_memory : pager.memory.size = config.frames
  size_tables : pager.tables.frameCount = config.frames
  size_pool : pager.frames.size = config.frames
  held_lt : ∀ ppn ∈ held, ppn < config.frames
  owner_of_held : ∀ ppn ∈ held, pager.tables.owner ppn = none
  isFree_iff : ∀ ppn, ppn < config.frames →
    (pager.frames.isFree ppn = true ↔ pager.tables.owner ppn = none ∧ ppn ∉ held)

/-- A pager boots if its configuration has no defect, and all of its parts are new. -/
theorem eq_of_boot {config : Config} {files : φ} {policy : Policy} {chance : Chance}
    {pager : Pager φ} (booted : Pager.boot config files policy chance = .ok pager) :
    config.defect = none ∧ pager =
      { config := config
        memory := .blank config.frames
        frames := .full config.frames
        tables := .empty config.frames
        pins := .empty
        device := .unused files
        policy := policy
        tlbs := { chance := chance } } := by
  rw [Pager.boot, Config.validate] at booted
  cases sound : config.defect with
  | some reason =>
    rw [sound] at booted
    cases booted
  | none =>
    rw [sound] at booted
    exact ⟨rfl, (Except.ok.inj booted).symm⟩

namespace Accounts

variable {config : Config} {held : Finset Ppn} {pager : Pager φ} {ppn : Ppn} {page : PageId}
  {entry : TranslationEntry}

theorem frames_pos (accounts : Accounts config held pager) : 0 < config.frames :=
  Nat.pos_of_ne_zero (Config.sizes_ne_zero accounts.valid).1

theorem frameCount_pos (accounts : Accounts config held pager) :
    0 < pager.tables.frameCount :=
  accounts.size_tables ▸ accounts.frames_pos

theorem rounds_ne_zero (accounts : Accounts config held pager) :
    pager.config.evictionRounds ≠ 0 :=
  accounts.config_eq ▸ (Config.sizes_ne_zero accounts.valid).2.2

theorem owner_lt (accounts : Accounts config held pager)
    (owned : pager.tables.owner ppn = some page) : ppn < config.frames :=
  accounts.size_tables ▸ PageTables.owner_lt owned

theorem isFree_lt (accounts : Accounts config held pager)
    (free : pager.frames.isFree ppn = true) : ppn < config.frames :=
  accounts.size_pool ▸ FramePool.lt_size_of_isFree free

/-- A free frame belongs to no page. -/
theorem owner_of_isFree (accounts : Accounts config held pager)
    (free : pager.frames.isFree ppn = true) : pager.tables.owner ppn = none :=
  ((accounts.isFree_iff ppn (accounts.isFree_lt free)).mp free).1

/-- The frame of a page is not free. -/
theorem isFree_of_owner (accounts : Accounts config held pager)
    (owned : pager.tables.owner ppn = some page) : pager.frames.isFree ppn = false := by
  rw [← Bool.not_eq_true]
  intro free
  rw [accounts.owner_of_isFree free] at owned
  cases owned

/-- A free frame is in nobody's hand. -/
theorem not_held_of_isFree (accounts : Accounts config held pager)
    (free : pager.frames.isFree ppn = true) : ppn ∉ held :=
  ((accounts.isFree_iff ppn (accounts.isFree_lt free)).mp free).2

/-- The frame of a page is in nobody's hand. -/
theorem not_held_of_owner (accounts : Accounts config held pager)
    (owned : pager.tables.owner ppn = some page) : ppn ∉ held := by
  intro isHeld
  rw [accounts.owner_of_held ppn isHeld] at owned
  cases owned

/-- A resident page is in a frame that memory has. -/
theorem lt_size_of_get (accounts : Accounts config held pager) {entry : TranslationEntry}
    (resident : pager.tables.get page = some entry) : entry.ppn < pager.memory.size := by
  rw [accounts.size_memory]
  exact accounts.owner_lt (accounts.tables.owner_of_get resident)

/-- A machine that has just been booted has all its frames free. -/
theorem boot {files : φ} {policy : Policy} {chance : Chance}
    (booted : Pager.boot config files policy chance = .ok pager) :
    Accounts config ∅ pager := by
  obtain ⟨sound, rfl⟩ := eq_of_boot booted
  exact
    { config_eq := rfl
      valid := sound
      tables := PageTables.consistent_empty _
      pool := FramePool.sound_full _
      pins := PinSet.sound_empty
      size_memory := by simp [PhysicalMemory.size, PhysicalMemory.blank]
      size_tables := PageTables.frameCount_empty _
      size_pool := FramePool.size_full _
      held_lt := by simp
      owner_of_held := by simp
      isFree_iff := by
        intro ppn inside
        simp [FramePool.isFree_full, inside] }

/-- Only tables, pool and pins keep accounts, and memory by its size. -/
theorem of_same (accounts : Accounts config held pager) {next : Pager φ}
    (sameConfig : next.config = pager.config) (sameTables : next.tables = pager.tables)
    (samePool : next.frames = pager.frames) (pins : next.pins.Sound)
    (sameSize : next.memory.size = pager.memory.size) : Accounts config held next where
  config_eq := sameConfig.trans accounts.config_eq
  valid := accounts.valid
  tables := sameTables ▸ accounts.tables
  pool := samePool ▸ accounts.pool
  pins := pins
  size_memory := sameSize.trans accounts.size_memory
  size_tables := sameTables ▸ accounts.size_tables
  size_pool := samePool ▸ accounts.size_pool
  held_lt := accounts.held_lt
  owner_of_held := sameTables ▸ accounts.owner_of_held
  isFree_iff := sameTables ▸ samePool ▸ accounts.isFree_iff

/-- The caches are not part of the books. -/
theorem withTlbs (accounts : Accounts config held pager) (tlbs : TlbBank) :
    Accounts config held { pager with tlbs := tlbs } :=
  accounts.of_same rfl rfl rfl accounts.pins rfl

/-! ### Frames that change hands -/

/-- A frame leaves the pool for its new holder. -/
theorem allocate (accounts : Accounts config held pager) {pool : FramePool}
    (taken : pager.frames.allocate = some (ppn, pool)) :
    Accounts config (insert ppn held) { pager with frames := pool } := by
  have wasFree := FramePool.isFree_of_allocate_self accounts.pool taken
  have inside := accounts.isFree_lt wasFree
  exact
    { accounts with
      pool := accounts.pool.allocate taken
      size_pool := (FramePool.size_of_allocate taken).trans accounts.size_pool
      held_lt := by
        intro other isHeld
        rcases Finset.mem_insert.mp isHeld with rfl | before
        · exact inside
        · exact accounts.held_lt other before
      owner_of_held := by
        intro other isHeld
        rcases Finset.mem_insert.mp isHeld with rfl | before
        · exact accounts.owner_of_isFree wasFree
        · exact accounts.owner_of_held other before
      isFree_iff := by
        intro other otherInside
        rw [FramePool.isFree_of_allocate taken, Bool.and_eq_true, bne_iff_ne,
          accounts.isFree_iff other otherInside, Finset.mem_insert, not_or]
        constructor
        · rintro ⟨⟨unowned, notHeld⟩, different⟩
          exact ⟨unowned, fun same => different same.symm, notHeld⟩
        · rintro ⟨unowned, different, notHeld⟩
          exact ⟨⟨unowned, notHeld⟩, fun same => different same.symm⟩ }

/-- A frame that holds no page goes back to the pool, whoever held it. -/
theorem release (accounts : Accounts config held pager) {pool : FramePool}
    (unowned : pager.tables.owner ppn = none)
    (released : pager.frames.release ppn = .ok pool) :
    Accounts config (held.erase ppn) { pager with frames := pool } where
  config_eq := accounts.config_eq
  valid := accounts.valid
  tables := accounts.tables
  pool := accounts.pool.release released
  pins := accounts.pins
  size_memory := accounts.size_memory
  size_tables := accounts.size_tables
  size_pool := (FramePool.size_of_release released).trans accounts.size_pool
  held_lt other isHeld := accounts.held_lt other (Finset.mem_of_mem_erase isHeld)
  owner_of_held other isHeld := accounts.owner_of_held other (Finset.mem_of_mem_erase isHeld)
  isFree_iff := by
    intro other inside
    rw [FramePool.isFree_of_release released, Bool.or_eq_true, beq_iff_eq,
      accounts.isFree_iff other inside, Finset.mem_erase, not_and_or, not_not]
    constructor
    · rintro (⟨free, notHeld⟩ | rfl)
      · exact ⟨free, Or.inr notHeld⟩
      · exact ⟨unowned, Or.inl rfl⟩
    · rintro ⟨free, same | notHeld⟩
      · exact Or.inr same.symm
      · exact Or.inl ⟨free, notHeld⟩

/-- A page leaves its frame to the one who had it unmapped. -/
theorem remove (accounts : Accounts config held pager)
    (found : pager.tables.get page = some entry) :
    Accounts config (insert entry.ppn held)
      { pager with tables := (pager.tables.remove page).2 } := by
  have owned := accounts.tables.owner_of_get found
  have view := PageTables.owner_remove accounts.tables page
  have alone : ∀ ppn, pager.tables.owner ppn = some page ↔ entry.ppn = ppn := by
    intro ppn
    rw [accounts.tables.owner_eq_some_iff, found]
    simp
  exact
    { accounts with
      tables := accounts.tables.remove page
      size_tables := PageTables.frameCount_remove.trans accounts.size_tables
      held_lt := by
        intro other isHeld
        rcases Finset.mem_insert.mp isHeld with rfl | before
        · exact accounts.owner_lt owned
        · exact accounts.held_lt other before
      owner_of_held := by
        intro other isHeld
        rw [view]
        split
        · rfl
        · next notPage =>
          rcases Finset.mem_insert.mp isHeld with rfl | before
          · exact absurd owned notPage
          · exact accounts.owner_of_held other before
      isFree_iff := by
        intro other inside
        rw [view, accounts.isFree_iff other inside, Finset.mem_insert, not_or]
        split
        · next ofPage =>
          have same := (alone other).mp ofPage
          simp [ofPage, same]
        · next notPage =>
          have different : other ≠ entry.ppn := fun same => notPage ((alone other).mpr same.symm)
          simp [different] }

/-- A page takes a held frame, and leaves the one it had to the caller. -/
theorem replace (accounts : Accounts config held pager) {pid : Pid} (valid : entry.valid = true)
    (accepted : pager.tables.refusal pid entry = none)
    (notFree : pager.frames.isFree entry.ppn = false) :
    Accounts config
      ((held ∪ ((pager.tables.get (entry.page pid)).map TranslationEntry.ppn).toFinset).erase
        entry.ppn)
      { pager with tables := (pager.tables.replace pid entry).2 } := by
  obtain ⟨_, inside, holder⟩ := PageTables.of_refusal_eq_none accepted
  have view := PageTables.owner_replace accounts.tables inside pid
  have left : ∀ ppn, ppn ∈ ((pager.tables.get (entry.page pid)).map
      TranslationEntry.ppn).toFinset ↔ pager.tables.owner ppn = some (entry.page pid) := by
    intro ppn
    rw [Option.mem_toFinset, Option.mem_def, Option.map_eq_some_iff,
      accounts.tables.owner_eq_some_iff]
  exact
    { accounts with
      tables := accounts.tables.replace valid accepted
      size_tables := PageTables.frameCount_replace.trans accounts.size_tables
      held_lt := by
        intro other isHeld
        rcases Finset.mem_union.mp (Finset.mem_of_mem_erase isHeld) with before | leftBehind
        · exact accounts.held_lt other before
        · exact accounts.owner_lt ((left other).mp leftBehind)
      owner_of_held := by
        intro other isHeld
        obtain ⟨different, member⟩ := Finset.mem_erase.mp isHeld
        rw [view, if_neg (fun same => different same.symm)]
        split
        · rfl
        · next notPage =>
          rcases Finset.mem_union.mp member with before | leftBehind
          · exact accounts.owner_of_held other before
          · exact absurd ((left other).mp leftBehind) notPage
      isFree_iff := by
        intro other otherInside
        rw [view, Finset.mem_erase, Finset.mem_union, left]
        split
        · next here =>
          subst here
          simp [notFree]
        · next elsewhere =>
          have different : other ≠ entry.ppn := fun same => elsewhere same.symm
          rw [accounts.isFree_iff other otherInside]
          split
          · next ofPage => simp [ofPage, different]
          · next notPage => simp [notPage, different] }

/-- A process leaves all its frames to the one who had it unmapped. -/
theorem removeAll (accounts : Accounts config held pager) (pid : Pid) :
    Accounts config
      (held ∪ ((pager.tables.getAll pid).map TranslationEntry.ppn).toFinset)
      { pager with tables := (pager.tables.removeAll pid).2 } := by
  have view := PageTables.owner_removeAll accounts.tables pid
  have left : ∀ ppn, ppn ∈ ((pager.tables.getAll pid).map TranslationEntry.ppn).toFinset ↔
      ∃ page, pager.tables.owner ppn = some page ∧ page.pid = pid := by
    intro ppn
    rw [List.mem_toFinset, List.mem_map]
    constructor
    · rintro ⟨entry, listed, rfl⟩
      obtain ⟨page, ofProcess, found⟩ := PageTables.mem_getAll.mp listed
      exact ⟨page, accounts.tables.owner_of_get found, ofProcess⟩
    · rintro ⟨page, owned, ofProcess⟩
      obtain ⟨entry, found, atPpn⟩ := accounts.tables.get_of_owner owned
      exact ⟨entry, PageTables.mem_getAll.mpr ⟨page, ofProcess, found⟩, atPpn⟩
  exact
    { accounts with
      tables := accounts.tables.removeAll pid
      size_tables := PageTables.frameCount_removeAll.trans accounts.size_tables
      held_lt := by
        intro other isHeld
        rcases Finset.mem_union.mp isHeld with before | leftBehind
        · exact accounts.held_lt other before
        · obtain ⟨page, owned, _⟩ := (left other).mp leftBehind
          exact accounts.owner_lt owned
      owner_of_held := by
        intro other isHeld
        rw [view]
        split
        · rfl
        · next notProcess =>
          rcases Finset.mem_union.mp isHeld with before | leftBehind
          · exact accounts.owner_of_held other before
          · exact absurd ((left other).mp leftBehind) notProcess
      isFree_iff := by
        intro other inside
        rw [view, Finset.mem_union, left, accounts.isFree_iff other inside]
        split
        · next ofProcess =>
          rcases ofProcess with ⟨page, owned, same⟩
          simp [owned, same]
        · next notProcess => simp [notProcess] }

/-- Frames that were held go back to the pool one after another. -/
theorem releaseAll (entries : List TranslationEntry) :
    ∀ {held : Finset Ppn} {pager : Pager φ}, Accounts config held pager →
      (∀ entry ∈ entries, pager.tables.owner entry.ppn = none) →
      Accounts config (held \ (entries.map TranslationEntry.ppn).toFinset)
        (pager.releaseAll entries) := by
  induction entries with
  | nil =>
    intro held pager accounts _
    simpa [Pager.releaseAll] using accounts
  | cons entry rest hypothesis =>
    intro held pager accounts unowned
    have first := unowned entry List.mem_cons_self
    have others := fun other listed => unowned other (List.mem_cons_of_mem entry listed)
    have members : held \ ((entry :: rest).map TranslationEntry.ppn).toFinset =
        held.erase entry.ppn \ (rest.map TranslationEntry.ppn).toFinset := by
      ext other
      simp only [List.map_cons, List.toFinset_cons, Finset.mem_sdiff, Finset.mem_insert,
        Finset.mem_erase]
      tauto
    rw [members]
    simp only [Pager.releaseAll, List.foldl_cons]
    cases released : pager.frames.release entry.ppn with
    | ok pool => exact hypothesis (accounts.release first released) others
    | error cause =>
      have beyond := (FramePool.release_eq_error_iff.mp released).1
      have notHeld : entry.ppn ∉ held := fun isHeld =>
        absurd (accounts.held_lt _ isHeld) (Nat.not_lt.mpr (accounts.size_pool ▸ beyond))
      rw [Finset.erase_eq_of_notMem notHeld]
      exact hypothesis accounts others

/-! ### What balanced books say -/

theorem mem_free_iff (accounts : Accounts config held pager) :
    ppn ∈ pager.frames.free ↔
      ppn < config.frames ∧ pager.tables.owner ppn = none ∧ ppn ∉ held := by
  rw [accounts.pool.mem_free_iff]
  constructor
  · intro free
    have inside := accounts.isFree_lt free
    exact ⟨inside, (accounts.isFree_iff ppn inside).mp free⟩
  · rintro ⟨inside, rest⟩
    exact (accounts.isFree_iff ppn inside).mpr rest

/-- Free frames, resident pages and held frames are as many as there are frames. -/
theorem card_eq (accounts : Accounts config held pager) :
    pager.freeFrameCount + pager.residentPageCount + held.card = config.frames := by
  have free : pager.freeFrameCount = pager.frames.free.toFinset.card :=
    (List.toFinset_card_of_nodup accounts.pool.nodup).symm
  have resident : pager.residentPageCount = pager.tables.mappedFrames.toFinset.card := by
    rw [List.toFinset_card_of_nodup PageTables.nodup_mappedFrames,
      PageTables.length_mappedFrames]
    rfl
  have apart : Disjoint pager.frames.free.toFinset pager.tables.mappedFrames.toFinset := by
    rw [Finset.disjoint_left]
    intro ppn isFree isMapped
    obtain ⟨page, owned⟩ := PageTables.mem_mappedFrames.mp (List.mem_toFinset.mp isMapped)
    rw [(accounts.mem_free_iff.mp (List.mem_toFinset.mp isFree)).2.1] at owned
    cases owned
  have heldApart :
      Disjoint (pager.frames.free.toFinset ∪ pager.tables.mappedFrames.toFinset) held := by
    rw [Finset.disjoint_left]
    intro ppn other isHeld
    rcases Finset.mem_union.mp other with isFree | isMapped
    · exact (accounts.mem_free_iff.mp (List.mem_toFinset.mp isFree)).2.2 isHeld
    · obtain ⟨page, owned⟩ := PageTables.mem_mappedFrames.mp (List.mem_toFinset.mp isMapped)
      exact accounts.not_held_of_owner owned isHeld
  have all : pager.frames.free.toFinset ∪ pager.tables.mappedFrames.toFinset ∪ held =
      Finset.range config.frames := by
    ext ppn
    rw [Finset.mem_union, Finset.mem_union, List.mem_toFinset, List.mem_toFinset,
      accounts.mem_free_iff, PageTables.mem_mappedFrames, Finset.mem_range]
    constructor
    · rintro ((⟨inside, _⟩ | ⟨page, owned⟩) | isHeld)
      · exact inside
      · exact accounts.owner_lt owned
      · exact accounts.held_lt ppn isHeld
    · intro inside
      cases owned : pager.tables.owner ppn with
      | some page => exact Or.inl (Or.inr ⟨page, rfl⟩)
      | none =>
        by_cases isHeld : ppn ∈ held
        · exact Or.inr isHeld
        · exact Or.inl (Or.inl ⟨inside, rfl, isHeld⟩)
  rw [free, resident, ← Finset.card_union_of_disjoint apart,
    ← Finset.card_union_of_disjoint heldApart, all, Finset.card_range]

/-- Balanced books pass the pager's own check. -/
theorem checkConsistency (accounts : Accounts config held pager) :
    pager.checkConsistency = .ok () := by
  have apart : pager.tables.mappedFrames.find? pager.frames.isFree = none := by
    rw [List.find?_eq_none]
    intro ppn isMapped free
    obtain ⟨page, owned⟩ := PageTables.mem_mappedFrames.mp isMapped
    rw [accounts.owner_of_isFree free] at owned
    cases owned
  simp only [Pager.checkConsistency, accounts.tables.checkConsistency, apart]

end Accounts

end Pager

end VirtualMemory
