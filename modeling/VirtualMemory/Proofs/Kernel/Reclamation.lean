/-
Module: VirtualMemory.Proofs.Kernel.Reclamation
Purpose: Reclamation ends, and frees as many frames as it has to.
Main exports:
  Pager.Reclaims, Pager.shortage, reclaimOnce_reclaims, Reclaims.departed;
  Pager.EvictsTo, Pager.SwapKeepsWorking, Reclaims.ok_of_works; Pager.Reclaimed,
  Machine.reclaim_reaches_mark

The loop is told without a bound on its turns, as one that goes on until enough frames are free,
nothing is resident, or an eviction fails. Each turn takes a page out of memory, which is why so
many turns as there are resident pages are always enough.
-/
import VirtualMemory.Proofs.Kernel.Departures
import VirtualMemory.Proofs.Pager.Devices

namespace VirtualMemory

open VirtualMemory.Action Eviction

namespace Pager

variable {φ : Type} [FileSystem φ] {pager next after : Pager φ} {config : Config}
  {held : Finset Ppn} {count : Nat} {ppn : Ppn} {cause : PagingError}
  {result : Except PagingError Nat}

/-! ### The loop -/

/-- How evicting pages can end that goes on for as long as it has to, with `count` pages evicted
so far. -/
inductive Reclaims : Nat → Pager φ → Except PagingError Nat → Pager φ → Prop where
  | enough {count : Nat} {pager : Pager φ} (done : pager.reclaimed = true) :
      Reclaims count pager (.ok count) pager
  | failed {count : Nat} {pager after : Pager φ} {cause : PagingError}
      (wanting : pager.reclaimed = false)
      (evicts : evictToPool.outcome pager = (.error cause, after)) :
      Reclaims count pager (.error cause) after
  | turn {count : Nat} {pager next after : Pager φ} {ppn : Ppn}
      {result : Except PagingError Nat} (wanting : pager.reclaimed = false)
      (evicts : evictToPool.outcome pager = (.ok ppn, next))
      (rest : Reclaims (count + 1) next result after) : Reclaims count pager result after

omit [FileSystem φ] in
theorem reclaimed_eq_false_iff : pager.reclaimed = false ↔
    pager.freeFrameCount < pager.config.lowWaterMark ∧ pager.residentPageCount ≠ 0 := by
  simp only [reclaimed, Bool.or_eq_false_iff, decide_eq_false_iff_not, Nat.not_le,
    beq_eq_false_iff_ne]

/-- How many pages have to leave: as many as frames are wanting, but no more than there are. -/
def shortage (pager : Pager φ) : Nat :=
  min (pager.config.lowWaterMark - pager.freeFrameCount) pager.residentPageCount

omit [FileSystem φ] in
theorem reclaimed_eq_false_iff_shortage : pager.reclaimed = false ↔ 0 < pager.shortage := by
  rw [reclaimed_eq_false_iff, shortage]
  omega

/-- Each page that leaves while frames are wanting makes the shortage smaller by one. -/
theorem Departed.shortage_eq {page : PageId} (departed : pager.Departed [page] none next)
    (wanting : pager.reclaimed = false) : pager.shortage = next.shortage + 1 := by
  have freed := departed.free_eq
  have left := departed.resident_eq
  rw [reclaimed_eq_false_iff] at wanting
  rw [List.length_singleton] at freed left
  rw [shortage, shortage, departed.config_eq]
  omega

/-- A turn makes one page leave for the pool. -/
theorem departed_of_turn (standing : Standing config (Fitted config 0) pager)
    (evicts : evictToPool.outcome pager = (.ok ppn, next)) :
    ∃ page, pager.Departed [page] none next := by
  obtain ⟨⟨held, accounts⟩, fitted⟩ := standing
  obtain ⟨page, _, _, departed⟩ := (evictToPool_departed accounts fitted).outcome evicts
  exact ⟨page, departed⟩

theorem standing_of_turn (standing : Standing config (Fitted config 0) pager)
    (evicts : evictToPool.outcome pager = (.ok ppn, next)) :
    Standing config (Fitted config 0) next :=
  ((fitted_upheld config 0).evictToPool pager standing).outcome evicts

/-- There is nothing left to evict before the turns run out. -/
theorem reclaimUpTo_reclaims (limit : Nat) (standing : Standing config (Fitted config 0) pager)
    (enough : pager.residentPageCount ≤ limit) (count : Nat) :
    (reclaimUpTo count limit : PagerAction φ Nat).Ends pager (Reclaims count pager) := by
  induction limit generalizing count pager with
  | zero =>
    refine .enough ?_
    rw [← Bool.not_eq_false, reclaimed_eq_false_iff]
    exact fun wanting => wanting.2 (Nat.le_zero.mp enough)
  | succ limit hypothesis =>
    simp only [reclaimUpTo, ends_bind, ends_get]
    split
    · next done => exact .enough done
    · next wanted =>
      have wanting := Bool.not_eq_true _ ▸ wanted
      rw [ends_bind]
      cases evicts : (evictToPool : PagerAction φ Ppn).outcome pager with
      | mk result next =>
        rw [Ends, evicts]
        cases result with
        | error cause => exact .failed wanting evicts
        | ok ppn =>
          obtain ⟨page, departed⟩ := departed_of_turn standing evicts
          have fewer : next.residentPageCount ≤ limit := by
            have left := departed.resident_eq
            rw [List.length_singleton] at left
            omega
          apply Ends.mono (hypothesis (standing_of_turn standing evicts) fewer (count + 1))
          exact fun _ _ rest => .turn wanting evicts rest

/-- A round of reclamation takes one turn after another, until the mark is reached or one fails. -/
theorem reclaimOnce_reclaims (standing : Standing config (Fitted config 0) pager) :
    (reclaimOnce : PagerAction φ Nat).Ends pager (Reclaims 0 pager) := by
  simp only [reclaimOnce, ends_bind, ends_get]
  exact reclaimUpTo_reclaims _ standing (Nat.le_refl _) 0

namespace Reclaims

/-- Every page that was evicted has departed. They are as many as have to leave, or fewer and a
page may be torn at the failure. -/
theorem departed (reclaims : Reclaims count pager result after)
    (standing : Standing config (Fitted config 0) pager) :
    ∃ left torn, pager.Departed left torn after ∧
      match result with
      | .ok total => torn = none ∧ left.length = pager.shortage ∧ total = count + left.length
      | .error _ => left.length < pager.shortage := by
  induction reclaims with
  | enough done =>
    have sated : ¬ 0 < shortage _ := fun wanting =>
      Bool.false_ne_true ((reclaimed_eq_false_iff_shortage.mpr wanting).symm.trans done)
    exact ⟨[], none, .refl _, rfl, (Nat.eq_zero_of_not_pos sated).symm, rfl⟩
  | failed wanting evicts =>
    obtain ⟨⟨held, accounts⟩, fitted⟩ := standing
    obtain ⟨torn, departed⟩ := (evictToPool_departed accounts fitted).outcome evicts
    exact ⟨[], torn, departed, reclaimed_eq_false_iff_shortage.mp wanting⟩
  | @turn count _ _ _ _ result wanting evicts rest hypothesis =>
    obtain ⟨page, first⟩ := departed_of_turn standing evicts
    obtain ⟨left, torn, later, counted⟩ := hypothesis (standing_of_turn standing evicts)
    refine ⟨[page] ++ left, torn, first.trans later, ?_⟩
    have one : ([page] ++ left).length = left.length + 1 := rfl
    rw [one, first.shortage_eq wanting]
    cases result with
    | ok total => exact ⟨counted.1, by omega, by omega⟩
    | error cause => exact Nat.succ_lt_succ counted

end Reclaims

/-! ### What may stop it -/

/-- The pagers that evictions lead to, one after another. -/
inductive EvictsTo : Pager φ → Pager φ → Prop where
  | refl {pager : Pager φ} : EvictsTo pager pager
  | next {pager next after : Pager φ} {ppn : Ppn}
      (evicts : evictToPool.outcome pager = (.ok ppn, next)) (rest : EvictsTo next after) :
      EvictsTo pager after

/-- The swap file is there or can be made, and takes any page in full, and it stays so however
many pages are evicted. -/
def SwapKeepsWorking (pager : Pager φ) : Prop :=
  ∀ after, EvictsTo pager after → after.SwapWorks

theorem SwapKeepsWorking.of_turn (works : pager.SwapKeepsWorking)
    (evicts : evictToPool.outcome pager = (.ok ppn, next)) : next.SwapKeepsWorking :=
  fun after rest => works after (.next evicts rest)

theorem sound_lasting [ByteFiles φ] (name : String) :
    SwapDevice.Lasting name (SwapDevice.Sound (φ := φ)) where
  opened sound opened := (SwapDevice.opened_kept opened sound).1
  wrote sound inside wrote := SwapFile.Wrote.sound wrote sound inside
  loaded sound loaded := SwapFile.Loaded.sound loaded sound

/-- Without faults, swap keeps working as long as the swap file is as the pager left it. -/
theorem swapKeepsWorking_of_faultless [ByteFiles φ] (accounts : Accounts config held pager)
    (sound : pager.device.Sound) (faultless : ByteFiles.Faultless φ) :
    pager.SwapKeepsWorking := by
  intro after evictsTo
  suffices stays : after.device.Sound from swapWorks_of_faultless stays faultless
  induction evictsTo with
  | refl => exact sound
  | next evicts rest hypothesis =>
    obtain ⟨books, _, middle, pool, evicted, rfl⟩ := accounts.evictToPool.outcome evicts
    have still : middle.device.Sound := evicted.lasting (sound_lasting _) accounts sound
    exact hypothesis books still

omit [FileSystem φ] in
/-- Where pages are resident and no frame is pinned, there is a page to evict. -/
theorem exists_eligible (resident : pager.residentPageCount ≠ 0)
    (unpinned : ∀ ppn, pager.pins.isPinned ppn = false) :
    ∃ victim : Victim, victim.Eligible pager.tables pager.pins := by
  obtain ⟨ppn, page, owned⟩ := PageTables.exists_owner_of_residentCount resident
  exact ⟨⟨ppn, page⟩, owned, unpinned ppn⟩

namespace Reclaims

/-- Without pins nothing but swap can stop an eviction. -/
theorem swap_of_failed (reclaims : Reclaims count pager result after)
    (standing : Standing config (Fitted config 0) pager) (demand : pager.usesSwap = true)
    (unpinned : ∀ ppn, pager.pins.isPinned ppn = false) :
    ∀ cause, result = .error cause → ∃ reason, cause = .swap reason := by
  induction reclaims with
  | enough => exact nofun
  | failed wanting evicts =>
    rintro cause ⟨⟩
    obtain ⟨held, accounts⟩ := standing.accounts
    have evicted : Evicted _ (.error _) _ := (evictToPool_ends accounts).outcome evicts
    cases evicted with
    | refused resident =>
      rw [demand] at resident
      cases resident
    | withoutFile | unwritten => exact ⟨_, rfl⟩
    | withoutVictim _ _ noVictim =>
      obtain ⟨victim, eligible⟩ :=
        exists_eligible (reclaimed_eq_false_iff.mp wanting).2 unpinned
      exact absurd eligible (noVictim victim)
  | turn wanting evicts rest hypothesis =>
    obtain ⟨page, first⟩ := departed_of_turn standing evicts
    refine hypothesis (standing_of_turn standing evicts) ?_ (first.pins_eq.symm ▸ unpinned)
    rw [usesSwap, first.config_eq]
    exact demand

/-- Without pins, and with swap that works, nothing stops it. -/
theorem ok_of_works (reclaims : Reclaims count pager result after)
    (standing : Standing config (Fitted config 0) pager) (demand : pager.usesSwap = true)
    (unpinned : ∀ ppn, pager.pins.isPinned ppn = false) (works : pager.SwapKeepsWorking) :
    ∃ total, result = .ok total := by
  induction reclaims with
  | enough => exact ⟨_, rfl⟩
  | failed wanting evicts =>
    obtain ⟨⟨held, accounts⟩, fitted⟩ := standing
    have evicted : Evicted _ (.error _) _ := (evictToPool_ends accounts).outcome evicts
    rcases evicted.vacated accounts fitted demand (works _ .refl) with
      ⟨_, _, impossible, _⟩ | ⟨pinned, _⟩
    · cases impossible
    · obtain ⟨victim, eligible⟩ :=
        exists_eligible (reclaimed_eq_false_iff.mp wanting).2 unpinned
      have chosen := evictable_of_eligible eligible
      rw [pinned] at chosen
      cases chosen
  | turn wanting evicts rest hypothesis =>
    obtain ⟨page, first⟩ := departed_of_turn standing evicts
    refine hypothesis (standing_of_turn standing evicts) ?_ (first.pins_eq.symm ▸ unpinned)
      (works.of_turn evicts)
    rw [usesSwap, first.config_eq]
    exact demand

end Reclaims

/-! ### How reclamation ends -/

/-- How reclamation ends and what it leaves behind. -/
structure Reclaimed (pager : Pager φ) (result : Except PagingError Nat) (after : Pager φ) :
    Prop where
  /-- It ends, and not because some number of turns were taken. -/
  loop : Reclaims 0 pager result after
  /-- Every page that was evicted is in its slot, its frame is in the pool, and no other page or
  frame has changed. -/
  departed : ∃ left torn, pager.Departed left torn after ∧
    match result with
    | .ok count => torn = none ∧ left.length = pager.shortage ∧ count = pager.shortage
    | .error _ => left.length < pager.shortage
  counts : ∀ count, result = .ok count →
    after.freeFrameCount = pager.freeFrameCount + count ∧
      after.residentPageCount + count = pager.residentPageCount ∧
      after.evictions = pager.evictions + count
  /-- Where no frame is pinned and swap works, it reaches the mark or evicts everything. -/
  reaches : pager.config.paging = .demand → (∀ ppn, pager.pins.isPinned ppn = false) →
    pager.SwapKeepsWorking →
    result = .ok
      (min (pager.config.lowWaterMark - pager.freeFrameCount) pager.residentPageCount)
  /-- Where no frame is pinned, only swap can keep it from that. -/
  blames : pager.config.paging = .demand → (∀ ppn, pager.pins.isPinned ppn = false) →
    ∀ cause, result = .error cause → ∃ reason, cause = .swap reason

/-- A round that reclaims reaches the mark, or ends with the failure of the last turn. -/
theorem Reclaims.reclaimed (reclaims : Reclaims 0 pager result after)
    (standing : Standing config (Fitted config 0) pager) : pager.Reclaimed result after := by
  have swaps : pager.config.paging = .demand → pager.usesSwap = true := by
    intro demand
    rw [usesSwap, demand]
    rfl
  obtain ⟨left, torn, departed, counted⟩ := reclaims.departed standing
  constructor
  case loop => exact reclaims
  case departed =>
    refine ⟨left, torn, departed, ?_⟩
    cases result with
    | error cause => exact counted
    | ok total => exact ⟨counted.1, counted.2.1, by omega⟩
  case counts =>
    rintro total rfl
    obtain ⟨_, _, rfl⟩ := counted
    rw [Nat.zero_add]
    exact ⟨departed.free_eq, departed.resident_eq, departed.evictions_eq⟩
  case reaches =>
    intro demand unpinned works
    obtain ⟨total, rfl⟩ := reclaims.ok_of_works standing (swaps demand) unpinned works
    obtain ⟨_, all, rfl⟩ := counted
    rw [Nat.zero_add, all, shortage]
  case blames =>
    exact fun demand unpinned => reclaims.swap_of_failed standing (swaps demand) unpinned

end Pager

namespace Machine

open Pager

variable {φ : Type} [FileSystem φ] {machine : Machine φ} {config : Config}

/-- Whatever happened before, whichever frames are pinned, whatever the policy proposes and
however the file system fails: reclamation ends, and every page that it evicted is in swap and its
frame in the pool. Without pins and with swap that works it frees as many frames as are wanting,
or all that hold pages. -/
theorem reclaim_reaches_mark (reachable : machine.Reachable config) :
    reclaimOnce.Ends machine.kernel.pager machine.kernel.pager.Reclaimed :=
  (reclaimOnce_reclaims reachable.fitted).mono fun _ _ reclaims =>
    reclaims.reclaimed reachable.fitted

/-- Two of three pages leave, so that two frames are free. -/
theorem reclaim_reaches_mark_three_frames :
    ∃ kernel : Kernel EphemeralFiles,
      Kernel.boot { Config.oneFrame with frames := 3, lowWaterMark := 2, evictionRounds := 9 }
          .empty (.scripted [2, 1]) (.seeded 0) = .ok kernel ∧
        let calls : List (MachineCall EphemeralFiles) :=
          [.pager (.newPage ⟨1, 4⟩ true), .pager (.newPage ⟨1, 3⟩ false),
            .pager (.newPage ⟨2, 4⟩ false)]
        let before := (run { kernel := kernel } calls).kernel.pager
        let reclaimed := reclaimOnce.outcome before
        before.Reclaimed reclaimed.1 reclaimed.2 ∧
          before.config.paging = .demand ∧ before.SwapKeepsWorking ∧
          (∀ ppn, before.pins.isPinned ppn = false) ∧
          before.freeFrameCount = 0 ∧ before.residentPageCount = 3 ∧
          reclaimed.1 = .ok 2 := by
  have reached : ∀ calls, Reachable _ (run _ calls) :=
    Reachable.run (.boot (rfl : Kernel.boot
      { Config.oneFrame with frames := 3, lowWaterMark := 2, evictionRounds := 9 }
      EphemeralFiles.empty (.scripted [2, 1]) (.seeded 0) = .ok _))
  obtain ⟨held, accounts⟩ := (reached [.pager (.newPage ⟨1, 4⟩ true),
    .pager (.newPage ⟨1, 3⟩ false), .pager (.newPage ⟨2, 4⟩ false)]).fitted.accounts
  exact ⟨_, rfl, reclaim_reaches_mark (reached _), rfl,
    swapKeepsWorking_of_faultless accounts trivial trivial, fun _ => rfl, by decide +kernel,
    by decide +kernel, by decide +kernel⟩

end Machine

end VirtualMemory
