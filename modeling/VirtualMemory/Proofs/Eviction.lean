/-
Module: VirtualMemory.Proofs.Eviction
Purpose: Which frame a search for a victim finds, how many proposals it draws, and
  what it says when it finds none.
Main exports:
  Victim.Eligible, Eviction.evictable, Eviction.Found, selectVictim_spec,
  cause_of_selectVictim

A round looks at the frames that the policy proposes and then at every frame in
order. So it finds the first of the proposals that can be evicted, or else the
lowest frame that can, and it misses only if there is none. Nothing changes between
the rounds of a search, so a search that misses once misses in every round.
-/
import VirtualMemory.Eviction
import VirtualMemory.Proofs.Frame.Tables

namespace VirtualMemory

variable {tables : PageTables} {pins : PinSet} {policy : Policy} {victim : Victim}
  {ppn : Ppn}

namespace Policy

/-- A policy after some more draws. -/
def after (policy : Policy) (draws : Nat) : Policy :=
  { policy with drawn := policy.drawn + draws }

@[simp] theorem after_zero : policy.after 0 = policy := rfl

theorem after_after (first second : Nat) :
    (policy.after first).after second = policy.after (first + second) := by
  simp only [after, Nat.add_assoc]

theorem proposals_succ (policy : Policy) (frames count : Nat) :
    policy.proposals frames (count + 1) =
      (policy.next frames).1 :: (policy.after 1).proposals frames count := by
  simp only [proposals, next, after, List.range_succ_eq_map, List.map_cons, List.map_map,
    Nat.add_zero, List.cons.injEq, true_and]
  apply List.map_congr_left
  intro index _
  simp only [Function.comp_apply, Nat.succ_eq_add_one, Nat.add_assoc, Nat.add_comm 1 index]

end Policy

/-- A victim is a frame that holds its owner and that nobody pins. -/
structure Victim.Eligible (victim : Victim) (tables : PageTables) (pins : PinSet) : Prop where
  owner_eq : tables.owner victim.frame = some victim.owner
  unpinned : pins.isPinned victim.frame = false

namespace Eviction

/-- The victim at a frame is an eligible one that has it. -/
theorem victimAt_eq_some_iff :
    victimAt tables pins ppn = some victim ↔
      victim.frame = ppn ∧ victim.Eligible tables pins := by
  simp only [victimAt]
  cases owned : tables.owner ppn with
  | none =>
    simp only [reduceCtorEq, false_iff, not_and]
    rintro rfl eligible
    rw [eligible.owner_eq] at owned
    cases owned
  | some owner =>
    by_cases pinned : pins.isPinned ppn = true
    · simp only [pinned, if_true, reduceCtorEq, false_iff, not_and]
      rintro rfl eligible
      rw [eligible.unpinned] at pinned
      cases pinned
    · simp only [pinned, if_false, Option.some.injEq, Bool.false_eq_true]
      constructor
      · rintro rfl
        exact ⟨rfl, owned, by simpa using pinned⟩
      · rintro ⟨rfl, eligible⟩
        rw [eligible.owner_eq] at owned
        cases owned
        rfl

/-- Whether a frame can be evicted: it holds a page, and nobody pins it. -/
def evictable (tables : PageTables) (pins : PinSet) (ppn : Ppn) : Bool :=
  (tables.owner ppn).isSome && !pins.isPinned ppn

/-- The frames that the next draws of a policy stand for. -/
def drawnFrames (tables : PageTables) (policy : Policy) (draws : Nat) : List Ppn :=
  (policy.proposals tables.frameCount draws).map (· % tables.frameCount)

theorem drawnFrames_succ (tables : PageTables) (policy : Policy) (draws : Nat) :
    drawnFrames tables policy (draws + 1) =
      (policy.next tables.frameCount).1 % tables.frameCount ::
        drawnFrames tables (policy.after 1) draws := by
  simp only [drawnFrames, Policy.proposals_succ, List.map_cons]

theorem evictable_of_eligible (eligible : victim.Eligible tables pins) :
    evictable tables pins victim.frame = true := by
  simp [evictable, eligible.owner_eq, eligible.unpinned]

theorem lt_of_evictable (chosen : evictable tables pins ppn = true) :
    ppn < tables.frameCount := by
  cases owned : tables.owner ppn with
  | none => simp [evictable, owned] at chosen
  | some page => exact PageTables.owner_lt owned

theorem victimAt_eq_none_iff :
    victimAt tables pins ppn = none ↔ evictable tables pins ppn = false := by
  cases owned : tables.owner ppn with
  | none => simp [victimAt, evictable, owned]
  | some page => cases pinned : pins.isPinned ppn <;> simp [victimAt, evictable, owned, pinned]

/-! ### One round -/

/-- How one round finds a frame: it is the first evictable one among the frames that
the policy proposes, or, if none of these is, the lowest evictable frame there is.
The number is how many proposals the round draws. -/
inductive Found (tables : PageTables) (pins : PinSet) (policy : Policy) :
    Ppn → (draws : Nat) → Prop
  | proposed {ppn : Ppn} {passed coming : List Ppn}
      (drawn : drawnFrames tables policy tables.frameCount = passed ++ ppn :: coming)
      (chosen : evictable tables pins ppn = true)
      (others : ∀ earlier ∈ passed, evictable tables pins earlier = false) :
      Found tables pins policy ppn (passed.length + 1)
  | swept {ppn : Ppn}
      (missed : ∀ drawn ∈ drawnFrames tables policy tables.frameCount,
        evictable tables pins drawn = false)
      (chosen : evictable tables pins ppn = true)
      (lowest : ∀ lower, lower < ppn → evictable tables pins lower = false) :
      Found tables pins policy ppn tables.frameCount

/-- The draws stop at the first frame that can be evicted. -/
theorem drawVictim_spec (tables : PageTables) (pins : PinSet) (policy : Policy) (draws : Nat) :
    (∃ victim passed coming,
      drawVictim tables pins policy draws = (some victim, policy.after (passed.length + 1)) ∧
        victim.Eligible tables pins ∧
        drawnFrames tables policy draws = passed ++ victim.frame :: coming ∧
        ∀ earlier ∈ passed, evictable tables pins earlier = false) ∨
    (drawVictim tables pins policy draws = (none, policy.after draws) ∧
      ∀ drawn ∈ drawnFrames tables policy draws, evictable tables pins drawn = false) := by
  induction draws generalizing policy with
  | zero => exact Or.inr ⟨rfl, by simp [drawnFrames, Policy.proposals]⟩
  | succ draws hypothesis =>
    have advanced : (policy.next tables.frameCount).2 = policy.after 1 := rfl
    simp only [drawVictim, advanced, drawnFrames_succ]
    generalize (policy.next tables.frameCount).1 % tables.frameCount = first
    cases looked : victimAt tables pins first with
    | some victim =>
      obtain ⟨here, eligible⟩ := victimAt_eq_some_iff.mp looked
      exact Or.inl ⟨victim, [], drawnFrames tables (policy.after 1) draws, rfl, eligible,
        by rw [here, List.nil_append], by simp⟩
    | none =>
      have unfit := victimAt_eq_none_iff.mp looked
      cases hypothesis (policy.after 1) with
      | inl hit =>
        obtain ⟨victim, passed, coming, found, eligible, split, others⟩ := hit
        refine Or.inl ⟨victim, first :: passed, coming, ?_, eligible, ?_, ?_⟩
        · simp only [found, Policy.after_after, List.length_cons, Nat.add_comm 1]
        · rw [split, List.cons_append]
        · simpa [unfit] using others
      | inr miss =>
        obtain ⟨missed, others⟩ := miss
        refine Or.inr ⟨?_, by simpa [unfit] using others⟩
        simp only [missed, Policy.after_after, Nat.add_comm 1]

/-- A sweep over the lowest frames finds the lowest that can be evicted. -/
theorem sweep_spec (tables : PageTables) (pins : PinSet) (count : Nat) :
    (∃ victim, (List.range count).findSome? (victimAt tables pins) = some victim ∧
      victim.Eligible tables pins ∧
      ∀ lower, lower < victim.frame → evictable tables pins lower = false) ∨
    ((List.range count).findSome? (victimAt tables pins) = none ∧
      ∀ lower, lower < count → evictable tables pins lower = false) := by
  induction count with
  | zero => exact Or.inr ⟨rfl, by simp⟩
  | succ count hypothesis =>
    simp only [List.range_succ, List.findSome?_append, List.findSome?_singleton]
    cases hypothesis with
    | inl hit =>
      obtain ⟨victim, found, eligible, lowest⟩ := hit
      exact Or.inl ⟨victim, by rw [found]; rfl, eligible, lowest⟩
    | inr miss =>
      obtain ⟨missed, others⟩ := miss
      simp only [missed, Option.none_or]
      cases looked : victimAt tables pins count with
      | some victim =>
        obtain ⟨here, eligible⟩ := victimAt_eq_some_iff.mp looked
        exact Or.inl ⟨victim, rfl, eligible, here ▸ others⟩
      | none =>
        refine Or.inr ⟨rfl, ?_⟩
        intro lower below
        cases Nat.lt_succ_iff_lt_or_eq.mp below with
        | inl less => exact others lower less
        | inr same => exact same ▸ victimAt_eq_none_iff.mp looked

/-- A round finds an eligible victim by its draws, or there is none. -/
theorem round_spec (tables : PageTables) (pins : PinSet) (policy : Policy) :
    (∃ victim draws, round tables pins policy = (some victim, policy.after draws) ∧
      victim.Eligible tables pins ∧ Found tables pins policy victim.frame draws) ∨
    (round tables pins policy = (none, policy.after tables.frameCount) ∧
      ∀ ppn, evictable tables pins ppn = false) := by
  simp only [round]
  cases drawVictim_spec tables pins policy tables.frameCount with
  | inl hit =>
    obtain ⟨victim, passed, coming, found, eligible, split, others⟩ := hit
    rw [found]
    exact Or.inl ⟨victim, passed.length + 1, rfl, eligible,
      Found.proposed split (evictable_of_eligible eligible) others⟩
  | inr miss =>
    obtain ⟨missed, others⟩ := miss
    rw [missed]
    simp only [sweepVictim]
    cases sweep_spec tables pins tables.frameCount with
    | inl hit =>
      obtain ⟨victim, found, eligible, lowest⟩ := hit
      exact Or.inl ⟨victim, tables.frameCount, by rw [found], eligible,
        Found.swept others (evictable_of_eligible eligible) lowest⟩
    | inr none =>
      refine Or.inr ⟨by rw [none.1], ?_⟩
      intro ppn
      by_contra chosen
      have inside := lt_of_evictable (by simpa using chosen)
      exact chosen (none.2 ppn inside)

/-! ### All rounds -/

/-- Rounds that miss all look at the same frames, so the search fails after as many
draws as there are frames in each round. -/
theorem search_of_none (pinned : ∀ ppn, evictable tables pins ppn = false)
    (resident : tables.residentCount ≠ 0) (policy : Policy) (rounds left : Nat) :
    search tables pins rounds policy left =
      (.error (.evictionStalled rounds), policy.after (left * tables.frameCount)) := by
  induction left generalizing policy with
  | zero => simp only [search, Nat.zero_mul, Policy.after_zero]
  | succ left hypothesis =>
    cases round_spec tables pins policy with
    | inl hit =>
      obtain ⟨victim, _, _, eligible, _⟩ := hit
      have chosen := evictable_of_eligible eligible
      rw [pinned victim.frame] at chosen
      cases chosen
    | inr miss =>
      simp only [search, miss.1, resident, if_false, hypothesis, Policy.after_after]
      rw [Nat.succ_mul, Nat.add_comm]

/-- A search finds an eligible victim by its draws or ends with the error as told. -/
theorem search_spec (tables : PageTables) (pins : PinSet) (policy : Policy) (rounds : Nat)
    {left : Nat} (positive : left ≠ 0) :
    (∃ victim draws, search tables pins rounds policy left = (.ok victim, policy.after draws) ∧
      victim.Eligible tables pins ∧ Found tables pins policy victim.frame draws) ∨
    ((∀ ppn, evictable tables pins ppn = false) ∧
      search tables pins rounds policy left =
        if tables.residentCount = 0 then (.error .outOfMemory, policy.after tables.frameCount)
        else (.error (.evictionStalled rounds), policy.after (left * tables.frameCount))) := by
  cases left with
  | zero => exact absurd rfl positive
  | succ left =>
    cases round_spec tables pins policy with
    | inl hit =>
      obtain ⟨victim, draws, found, eligible, how⟩ := hit
      exact Or.inl ⟨victim, draws, by simp only [search, found], eligible, how⟩
    | inr miss =>
      obtain ⟨missed, pinned⟩ := miss
      refine Or.inr ⟨pinned, ?_⟩
      split
      · next empty => simp only [search, missed, empty, if_true]
      · next resident => exact search_of_none pinned resident policy rounds (left + 1)

end Eviction

open Eviction

/-! ### The search as a whole -/

/-- Either a search finds a frame as a round does and pins it, or no frame can be
evicted, and the search says whether that is for want of pages or because of pins. -/
theorem selectVictim_spec (pins : PinSet) (policy : Policy) {rounds : Nat}
    (frames : 0 < tables.frameCount) (positive : rounds ≠ 0) :
    (∃ victim draws, selectVictim tables pins policy rounds =
        (.ok victim, pins.hold victim.frame, policy.after draws) ∧
      victim.Eligible tables pins ∧ Found tables pins policy victim.frame draws) ∨
    ((∀ ppn, evictable tables pins ppn = false) ∧
      selectVictim tables pins policy rounds =
        if tables.residentCount = 0 then
          (.error .outOfMemory, pins, policy.after tables.frameCount)
        else
          (.error (.evictionStalled rounds), pins, policy.after (rounds * tables.frameCount))) := by
  simp only [selectVictim, Nat.ne_of_gt frames, if_false]
  cases search_spec tables pins policy rounds positive with
  | inl hit =>
    obtain ⟨victim, draws, found, eligible, how⟩ := hit
    exact Or.inl ⟨victim, draws, by rw [found], eligible, how⟩
  | inr miss =>
    obtain ⟨pinned, failed⟩ := miss
    refine Or.inr ⟨pinned, ?_⟩
    rw [failed]
    by_cases empty : tables.residentCount = 0
    · simp only [empty, if_true]
    · simp only [empty, if_false]

/-- A search either pins a victim and nothing else, or leaves the pins alone because no
frame can be evicted. -/
theorem selectVictim_cases (pins : PinSet) (policy : Policy) {rounds : Nat}
    (frames : 0 < tables.frameCount) (positive : rounds ≠ 0) :
    (∃ victim draws, selectVictim tables pins policy rounds =
        (.ok victim, pins.hold victim.frame, policy.after draws) ∧
      victim.Eligible tables pins) ∨
    (∃ cause draws, selectVictim tables pins policy rounds =
        (.error cause, pins, policy.after draws) ∧
      ∀ victim : Victim, ¬ victim.Eligible tables pins) := by
  cases selectVictim_spec pins policy frames positive with
  | inl hit =>
    obtain ⟨victim, draws, found, eligible, _⟩ := hit
    exact Or.inl ⟨victim, draws, found, eligible⟩
  | inr miss =>
    obtain ⟨pinned, failed⟩ := miss
    have none : ∀ victim : Victim, ¬ victim.Eligible tables pins := by
      intro victim eligible
      have chosen := evictable_of_eligible eligible
      rw [pinned] at chosen
      cases chosen
    refine Or.inr ?_
    split at failed
    · exact ⟨_, _, failed, none⟩
    · exact ⟨_, _, failed, none⟩

/-- A search that fails tells why no frame can be evicted. -/
theorem cause_of_selectVictim {pins held : PinSet} {policy rest : Policy} {rounds : Nat}
    {cause : PagingError} (frames : 0 < tables.frameCount) (positive : rounds ≠ 0)
    (failed : selectVictim tables pins policy rounds = (.error cause, held, rest)) :
    (∀ ppn, evictable tables pins ppn = false) ∧
      cause = if tables.residentCount = 0 then .outOfMemory else .evictionStalled rounds := by
  cases selectVictim_spec pins policy frames positive with
  | inl hit =>
    obtain ⟨victim, _, found, _⟩ := hit
    rw [found] at failed
    cases (Prod.mk.inj failed).1
  | inr miss =>
    obtain ⟨pinned, told⟩ := miss
    refine ⟨pinned, ?_⟩
    rw [failed] at told
    split at told
    · next empty => rw [Except.error.inj (Prod.mk.inj told).1, if_pos empty]
    · next resident => rw [Except.error.inj (Prod.mk.inj told).1, if_neg resident]

end VirtualMemory
