/-
Module: VirtualMemory.Proofs.VictimSearch
Purpose: A search for a victim is sound and complete, one search at a time and many
  in a row.
Main exports:
  Eviction.Searched, Eviction.selectEach, Eviction.Kept, selectVictim_exact

The proposals of a policy decide which victim is found and how soon, never whether
one is found.
-/
import Mathlib.Data.List.Nodup
import VirtualMemory.Proofs.Eviction
import VirtualMemory.Proofs.Frame.Pins

namespace VirtualMemory

open Eviction

variable {tables : PageTables} {pins : PinSet} {policy : Policy} {victim : Victim}

namespace Eviction

/-! ### One search -/

/-- What a search for a victim does with the given rounds, and with what it found and
what it left alone. -/
structure Searched (tables : PageTables) (pins : PinSet) (policy : Policy) (rounds : Nat)
    (result : Except PagingError Victim) (held : PinSet) (rest : Policy) : Prop where
  /-- It finds a victim exactly if there is one to find. -/
  found_iff : (∃ victim, result = .ok victim) ↔ ∃ ppn, evictable tables pins ppn = true
  /-- The victim is what a single round finds, and is pinned once, as nothing else is. -/
  found : ∀ victim, result = .ok victim →
    tables.owner victim.frame = some victim.owner ∧
    held.counts[victim.frame]? = some 1 ∧
    (∀ other, other ≠ victim.frame → held.counts[other]? = pins.counts[other]?) ∧
    ∃ draws, Found tables pins policy victim.frame draws ∧ rest = policy.after draws
  /-- Where nothing is resident, one round is enough to know. -/
  empty : (∀ ppn, tables.owner ppn = none) →
    result = .error .outOfMemory ∧ held = pins ∧ rest = policy.after tables.frameCount
  /-- Where all that is resident is pinned, every round is tried. -/
  stalled : (∃ ppn page, tables.owner ppn = some page) →
    (∀ ppn, evictable tables pins ppn = false) →
    result = .error (.evictionStalled rounds) ∧ held = pins ∧
      rest = policy.after (rounds * tables.frameCount)

/-- A search finds the first eligible victim, or ends with the error that is told. -/
theorem searched (frames : 0 < tables.frameCount) (pins : PinSet) (policy : Policy)
    {rounds : Nat} (positive : rounds ≠ 0) :
    Searched tables pins policy rounds (selectVictim tables pins policy rounds).1
      (selectVictim tables pins policy rounds).2.1
      (selectVictim tables pins policy rounds).2.2 := by
  cases selectVictim_spec pins policy frames positive with
  | inl hit =>
    obtain ⟨victim, draws, found, eligible, how⟩ := hit
    have chosen := evictable_of_eligible eligible
    rw [found]
    constructor
    case found_iff => exact ⟨fun _ => ⟨victim.frame, chosen⟩, fun _ => ⟨victim, rfl⟩⟩
    case found =>
      intro same answer
      cases answer
      refine ⟨eligible.owner_eq, ?_, ?_, draws, how, rfl⟩
      · exact PinSet.counts_hold_of_unpinned eligible.unpinned
      · intro other different
        exact PinSet.counts_hold_of_ne different.symm
    case empty =>
      intro empty
      have owned := eligible.owner_eq
      rw [empty] at owned
      cases owned
    case stalled =>
      intro _ pinned
      rw [pinned] at chosen
      cases chosen
  | inr miss =>
    obtain ⟨pinned, failed⟩ := miss
    by_cases empty : tables.residentCount = 0
    · have unowned := PageTables.residentCount_eq_zero_iff.mp empty
      rw [failed, if_pos empty]
      constructor
      case found_iff => simp [pinned]
      case found => simp
      case empty => exact fun _ => ⟨rfl, rfl, rfl⟩
      case stalled => simp [unowned]
    · rw [failed, if_neg empty]
      constructor
      case found_iff => simp [pinned]
      case found => simp
      case empty =>
        intro unowned
        exact absurd (PageTables.residentCount_eq_zero_iff.mpr unowned) empty
      case stalled => exact fun _ _ => ⟨rfl, rfl, rfl⟩

/-! ### Searches that keep their victims -/

/-- Searches again and again, with the rounds given for each search, and lets go of no
victim in between. -/
def selectEach (tables : PageTables) :
    (rounds : List Nat) → PinSet → Policy → List (Except PagingError Victim) × PinSet
  | [], pins, _ => ([], pins)
  | rounds :: others, pins, policy =>
      let (result, held, rest) := selectVictim tables pins policy rounds
      let (results, last) := selectEach tables others held rest
      (result :: results, last)

/-- What searches find that keep their victims: distinct frames that could be evicted
to begin with, until there are none left. -/
structure Kept (tables : PageTables) (pins : PinSet) (victims : List Victim)
    (failures : List PagingError) (last : PinSet) : Prop where
  eligible : ∀ victim ∈ victims, victim.Eligible tables pins
  distinct : (victims.map Victim.frame).Nodup
  pinned_iff : ∀ ppn, last.isPinned ppn = true ↔
    pins.isPinned ppn = true ∨ ppn ∈ victims.map Victim.frame
  exhausted : failures ≠ [] → ∀ ppn page, tables.owner ppn = some page →
    last.isPinned ppn = true

theorem Kept.none (tables : PageTables) (pins : PinSet) : Kept tables pins [] [] pins where
  eligible _ listed := absurd listed List.not_mem_nil
  distinct := List.nodup_nil
  pinned_iff ppn := by simp
  exhausted failed := absurd rfl failed

/-- A victim that was kept before is not among those found later. -/
theorem Kept.found {victims : List Victim} {failures : List PagingError} {last : PinSet}
    (kept : Kept tables (pins.hold victim.frame) victims failures last)
    (eligible : victim.Eligible tables pins) :
    Kept tables pins (victim :: victims) failures last := by
  have later : ∀ another ∈ victims, another.frame ≠ victim.frame ∧
      another.Eligible tables pins := by
    intro another listed
    obtain ⟨owned, unpinned⟩ := kept.eligible another listed
    simp only [PinSet.isPinned_hold, Bool.or_eq_false_iff, beq_eq_false_iff_ne] at unpinned
    exact ⟨unpinned.1.symm, owned, unpinned.2⟩
  constructor
  case eligible =>
    intro another listed
    cases List.mem_cons.mp listed with
    | inl same => exact same ▸ eligible
    | inr tail => exact (later another tail).2
  case distinct =>
    rw [List.map_cons, List.nodup_cons]
    refine ⟨?_, kept.distinct⟩
    intro again
    obtain ⟨another, listed, same⟩ := List.mem_map.mp again
    exact (later another listed).1 same
  case pinned_iff =>
    intro ppn
    rw [kept.pinned_iff, PinSet.isPinned_hold, List.map_cons, List.mem_cons, Bool.or_eq_true,
      beq_iff_eq, eq_comm, or_assoc, or_left_comm]
  case exhausted => exact kept.exhausted

/-- A search that fails found no frame to evict, so the ones after it fail as well. -/
theorem Kept.failed {victims : List Victim} {failures : List PagingError} {last : PinSet}
    (kept : Kept tables pins victims failures last) (cause : PagingError)
    (none : ∀ victim : Victim, ¬ victim.Eligible tables pins) :
    victims = [] ∧ Kept tables pins [] (cause :: failures) last := by
  have without : victims = [] := by
    apply List.eq_nil_iff_forall_not_mem.mpr
    intro victim listed
    exact none victim (kept.eligible victim listed)
  subst without
  refine ⟨rfl, kept.eligible, kept.distinct, kept.pinned_iff, ?_⟩
  intro _ ppn page owned
  apply (kept.pinned_iff ppn).mpr
  cases pinned : pins.isPinned ppn with
  | true => exact Or.inl rfl
  | false => exact absurd ⟨owned, pinned⟩ (none ⟨ppn, page⟩)

/-- Repeated searches find one frame after another, until none is left. -/
theorem selectEach_spec (frames : 0 < tables.frameCount) (pins : PinSet) (policy : Policy)
    {rounds : List Nat} (positive : ∀ each ∈ rounds, each ≠ 0) :
    ∃ victims failures,
      (selectEach tables rounds pins policy).1 =
        victims.map Except.ok ++ failures.map Except.error ∧
      Kept tables pins victims failures (selectEach tables rounds pins policy).2 := by
  induction rounds generalizing pins policy with
  | nil => exact ⟨[], [], rfl, Kept.none tables pins⟩
  | cons first others hypothesis =>
    replace hypothesis := fun pins policy =>
      hypothesis pins policy fun each listed => positive each (List.mem_cons_of_mem first listed)
    cases selectVictim_cases pins policy frames (positive first List.mem_cons_self) with
    | inl hit =>
      obtain ⟨victim, draws, found, eligible⟩ := hit
      obtain ⟨victims, failures, results, kept⟩ :=
        hypothesis (pins.hold victim.frame) (policy.after draws)
      simp only [selectEach, found]
      refine ⟨victim :: victims, failures, ?_, kept.found eligible⟩
      simp only [results, List.map_cons, List.cons_append]
    | inr miss =>
      obtain ⟨cause, draws, failed, none⟩ := miss
      obtain ⟨victims, failures, results, kept⟩ := hypothesis pins (policy.after draws)
      obtain ⟨without, kept⟩ := kept.failed cause none
      simp only [selectEach, failed]
      refine ⟨[], cause :: failures, ?_, kept⟩
      simp only [results, without, List.map_nil, List.nil_append, List.map_cons]

end Eviction

/-- A search for a victim is sound and complete, draws no more proposals than it needs,
and leaves the pins of all frames but the victim's alone. Searches that keep their
victims find another frame each time, until all that is resident is pinned. -/
theorem selectVictim_exact (tables : PageTables) (frames : 0 < tables.frameCount)
    (pins : PinSet) (policy : Policy) :
    (∀ rounds, rounds ≠ 0 →
      Searched tables pins policy rounds (selectVictim tables pins policy rounds).1
        (selectVictim tables pins policy rounds).2.1
        (selectVictim tables pins policy rounds).2.2) ∧
    ∀ rounds : List Nat, (∀ each ∈ rounds, each ≠ 0) → ∃ victims failures,
      (selectEach tables rounds pins policy).1 =
        victims.map Except.ok ++ failures.map Except.error ∧
      Kept tables pins victims failures (selectEach tables rounds pins policy).2 := by
  constructor
  · intro rounds positive
    exact searched frames pins policy positive
  · intro rounds positive
    exact selectEach_spec frames pins policy positive

/-- Two of three frames hold a page. The policy proposes the free one and, by a number
out of range, the pinned one, so the sweep finds the other; the next search stalls. -/
theorem selectVictim_exact_three_frames :
    let tables := (((PageTables.empty 3).replace 1 (.fresh 4 1 false)).2.replace 1
      (.fresh 9 2 true)).2
    let pins := PinSet.empty.hold 1
    let policy := Policy.scripted [0, 7]
    0 < tables.frameCount ∧ (5 : Nat) ≠ 0 ∧
    selectEach tables [5, 5] pins policy =
      ([.ok ⟨2, ⟨1, 9⟩⟩, .error (.evictionStalled 5)], pins.hold 2) ∧
    Searched tables pins policy 5 (selectVictim tables pins policy 5).1
      (selectVictim tables pins policy 5).2.1 (selectVictim tables pins policy 5).2.2 ∧
    ∃ victims failures, (selectEach tables [5, 5] pins policy).1 =
        victims.map Except.ok ++ failures.map Except.error ∧
      Kept tables pins victims failures (selectEach tables [5, 5] pins policy).2 := by
  intro tables pins policy
  have frames : 0 < tables.frameCount := by decide +kernel
  have exact := selectVictim_exact tables frames pins policy
  exact ⟨frames, by decide, by decide +kernel, exact.1 5 (by decide), exact.2 [5, 5] (by decide)⟩

end VirtualMemory
