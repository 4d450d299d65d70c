/-
Module: VirtualMemory.Proofs.Workload.Waiting
Purpose: No wake-up is lost: all threads that wait for the switch come back after it is set.
Main exports:
  Waiting.Moved, moved; Unset, Told, Orderly, Orderly.step, Orderly.setter; burden,
  Scene.Ready, Scene.remaining, Orderly.sweep_fewer; returned_eq

A waiter is entered among the sleepers before it gives up the lock, and the switch is only set
under the lock. So a waiter that goes to sleep has been entered when the notice is given.
-/
import Mathlib.Logic.Basic
import VirtualMemory.Proofs.Workload.Sleeping
import VirtualMemory.Workload.Waiting

namespace VirtualMemory.Waiting

open Counting

variable {scene next : Scene} {index threads : Nat} {notice : Notice}

/-! ### What a step can do -/

/-- The waiter of a number. -/
def Scene.waiter (scene : Scene) (index : Nat) : Option Waiter :=
  scene.waiters[index]?

/-- All that may become of a scene when a waiter takes a step. -/
inductive Moved (scene : Scene) (index : Nat) : Scene → Prop where
  /-- It comes nearer to the lock. -/
  | nears {lock : SleepLock} :
      scene.waiter index = some .looking →
      approachSleepLock scene.lock (index + 1) = .underway lock →
      Moved scene index { scene with lock := lock }
  /-- It sees the switch set, and comes back. -/
  | returns :
      scene.waiter index = some .looking →
      approachSleepLock scene.lock (index + 1) = .inside → scene.switch = true →
      Moved scene index
        { scene with
          lock := scene.lock.unlock (index + 1)
          waiters := scene.waiters.setIfInBounds index .back }
  /-- It sees that the switch is not set, and goes to sleep. -/
  | sleeps :
      scene.waiter index = some .looking →
      approachSleepLock scene.lock (index + 1) = .inside → scene.switch = false →
      Moved scene index
        { scene with
          condition := scene.condition.sleep (index + 1)
          lock := scene.lock.unlock (index + 1)
          waiters := scene.waiters.setIfInBounds index .asleep }
  /-- It was notified, and wakes up. -/
  | wakes :
      scene.waiter index = some .asleep → scene.condition.isNotified (index + 1) = true →
      Moved scene index
        { scene with
          condition := scene.condition.wake (index + 1)
          waiters := scene.waiters.setIfInBounds index .looking }
  /-- It sleeps on, or has nothing to do any more. -/
  | rests :
      scene.waiter index ≠ some .looking →
      (scene.waiter index = some .asleep → scene.condition.isNotified (index + 1) = false) →
      Moved scene index scene

/-- A waiter does one of the things that are listed. -/
theorem moved (scene : Scene) (index : Nat) :
    Moved scene index (scene.advanceWaiter index) := by
  rw [Scene.advanceWaiter]
  split
  · next looking =>
    split
    · next approached => exact .nears looking approached
    · next inside =>
      split
      · next isSet => exact .returns looking inside isSet
      · next unset => exact .sleeps looking inside ((Bool.not_eq_true _).mp unset)
  · next asleep =>
    split
    · next notified => exact .wakes asleep notified
    · next unnotified =>
      refine .rests ?_ fun _ => (Bool.not_eq_true _).mp unnotified
      rw [Scene.waiter, asleep]
      exact fun same => by cases same
  · next notLooking notAsleep =>
    exact .rests notLooking fun asleep => absurd asleep notAsleep

/-- A waiter that is elsewhere afterwards, among the others. -/
theorem waiter_set {waiter found : Waiter} (there : scene.waiter index = some found)
    (other : Nat) :
    (scene.waiters.setIfInBounds index waiter)[other]? =
      if index = other then some waiter else scene.waiter other := by
  obtain ⟨inside, _⟩ := Array.getElem?_eq_some_iff.mp there
  rw [Array.getElem?_setIfInBounds, if_pos inside]
  rfl

/-! ### No wake-up is lost -/

/-- While the switch is not set, whoever sleeps is entered among the sleepers, once, and nobody
else is. -/
structure Unset (notice : Notice) (scene : Scene) : Prop where
  pending : scene.pending = some notice
  off : scene.switch = false
  quiet : scene.condition.notified = []
  entered : ∀ index, scene.waiter index = some .asleep → index + 1 ∈ scene.condition.sleepers
  asleep : ∀ thread ∈ scene.condition.sleepers,
    ∃ index, thread = index + 1 ∧ scene.waiter index = some .asleep
  once : scene.condition.sleepers.Nodup

/-- Once the switch is set, whoever sleeps was notified. -/
structure Told (scene : Scene) : Prop where
  pending : scene.pending = none
  on : scene.switch = true
  notified : ∀ index, scene.waiter index = some .asleep →
    index + 1 ∈ scene.condition.notified

/-- Only waiters that look, and the setter until it is done, are at the lock, and no wake-up was
lost so far. -/
structure Orderly (threads : Nat) (notice : Notice) (scene : Scene) : Prop where
  size : scene.waiters.size = threads
  calm : Calm scene.lock
  busy : ∀ thread, sleeping.busy scene.lock thread →
    (∃ index, thread = index + 1 ∧ scene.waiter index = some .looking) ∨
      thread = threads + 1 ∧ scene.pending ≠ none
  stage : Unset notice scene ∨ Told scene

namespace Orderly

/-- A waiter comes nearer to the lock. -/
theorem nears (orderly : Orderly threads notice scene) {lock : SleepLock}
    (looking : scene.waiter index = some .looking)
    (underway : approachSleepLock scene.lock (index + 1) = .underway lock) :
    Orderly threads notice { scene with lock := lock } where
  size := orderly.size
  calm := sleeping.good_underway orderly.calm (Nat.succ_ne_zero index) underway
  busy thread isBusy := by
    rcases sleeping.busy_underway orderly.calm (Nat.succ_ne_zero index) underway isBusy with
      rfl | before
    · exact .inl ⟨index, rfl, looking⟩
    · exact orderly.busy thread before
  stage := orderly.stage.imp (fun unset => { unset with }) fun told => { told with }

/-- A waiter that has the lock gives it up and looks no more. -/
theorem busy_unlock (orderly : Orderly threads notice scene) {waiter : Waiter}
    (looking : scene.waiter index = some .looking)
    (inside : approachSleepLock scene.lock (index + 1) = .inside) {thread : ThreadId}
    (isBusy : sleeping.busy (scene.lock.unlock (index + 1)) thread) :
    (∃ other, thread = other + 1 ∧
      (scene.waiters.setIfInBounds index waiter)[other]? = some .looking) ∨
      thread = threads + 1 ∧ scene.pending ≠ none := by
  obtain ⟨different, before⟩ :=
    sleeping.busy_unlock orderly.calm (Nat.succ_ne_zero index) inside isBusy
  refine (orderly.busy thread before).imp_left ?_
  rintro ⟨other, rfl, there⟩
  refine ⟨other, rfl, ?_⟩
  rw [waiter_set looking, if_neg (fun same => different (congrArg (· + 1) same.symm)), there]

/-- A waiter that sees the switch set comes back. -/
theorem returns (orderly : Orderly threads notice scene)
    (looking : scene.waiter index = some .looking)
    (inside : approachSleepLock scene.lock (index + 1) = .inside)
    (isSet : scene.switch = true) :
    Orderly threads notice
      { scene with
        lock := scene.lock.unlock (index + 1)
        waiters := scene.waiters.setIfInBounds index .back } where
  size := Array.size_setIfInBounds.trans orderly.size
  calm := sleeping.good_unlock orderly.calm (Nat.succ_ne_zero index) inside
  busy _ := orderly.busy_unlock looking inside
  stage := by
    rcases orderly.stage with unset | told
    · cases isSet.symm.trans unset.off
    · refine .inr { told with notified := fun other asleep => ?_ }
      rw [Scene.waiter, waiter_set looking] at asleep
      split at asleep
      · cases asleep
      · exact told.notified other asleep

/-- A waiter that does not see the switch set is entered among the sleepers. -/
theorem sleeps (orderly : Orderly threads notice scene)
    (looking : scene.waiter index = some .looking)
    (inside : approachSleepLock scene.lock (index + 1) = .inside)
    (off : scene.switch = false) :
    Orderly threads notice
      { scene with
        condition := scene.condition.sleep (index + 1)
        lock := scene.lock.unlock (index + 1)
        waiters := scene.waiters.setIfInBounds index .asleep } where
  size := Array.size_setIfInBounds.trans orderly.size
  calm := sleeping.good_unlock orderly.calm (Nat.succ_ne_zero index) inside
  busy _ := orderly.busy_unlock looking inside
  stage := by
    rcases orderly.stage with unset | told
    · have absent : index + 1 ∉ scene.condition.sleepers := fun entered => by
        obtain ⟨other, same, asleep⟩ := unset.asleep _ entered
        cases same
        cases looking.symm.trans asleep
      refine .inl { unset with entered := ?_, asleep := ?_, once := ?_ }
      · intro other asleep
        rw [Scene.waiter, waiter_set looking] at asleep
        split at asleep
        · next same => exact List.mem_append_right _ (same ▸ List.mem_singleton_self _)
        · exact List.mem_append_left _ (unset.entered other asleep)
      · intro thread entered
        rcases List.mem_append.mp entered with before | new
        · obtain ⟨other, rfl, asleep⟩ := unset.asleep thread before
          refine ⟨other, rfl, ?_⟩
          rw [Scene.waiter, waiter_set looking, if_neg, asleep]
          rintro rfl
          exact absent before
        · refine ⟨index, List.mem_singleton.mp new, ?_⟩
          rw [Scene.waiter, waiter_set looking, if_pos rfl]
      · exact List.nodup_append.mpr ⟨unset.once, List.pairwise_singleton _ _, fun one before two new =>
          (List.mem_singleton.mp new) ▸ fun same => absent (same ▸ before)⟩
    · cases off.symm.trans told.on

/-- A waiter that was notified wakes up. -/
theorem wakes (orderly : Orderly threads notice scene)
    (asleep : scene.waiter index = some .asleep)
    (isNotified : scene.condition.isNotified (index + 1) = true) :
    Orderly threads notice
      { scene with
        condition := scene.condition.wake (index + 1)
        waiters := scene.waiters.setIfInBounds index .looking } where
  size := Array.size_setIfInBounds.trans orderly.size
  calm := orderly.calm
  busy thread isBusy := by
    refine (orderly.busy thread isBusy).imp_left ?_
    rintro ⟨other, rfl, looking⟩
    refine ⟨other, rfl, ?_⟩
    rw [Scene.waiter, waiter_set asleep]
    split
    · rfl
    · exact looking
  stage := by
    rcases orderly.stage with unset | told
    · rw [Condition.isNotified, unset.quiet] at isNotified
      cases isNotified
    · refine .inr { told with notified := fun other sleeps => ?_ }
      rw [Scene.waiter, waiter_set asleep] at sleeps
      split at sleeps
      · cases sleeps
      · next different =>
        refine List.mem_filter.mpr ⟨told.notified other sleeps, ?_⟩
        exact bne_iff_ne.mpr fun same => different (Nat.succ.inj same).symm

/-- Whatever a waiter does, no wake-up is lost. -/
theorem step (orderly : Orderly threads notice scene) (index : Nat) :
    Orderly threads notice (scene.advanceWaiter index) := by
  have moves := moved scene index
  generalize scene.advanceWaiter index = next at moves
  cases moves with
  | nears looking underway => exact orderly.nears looking underway
  | returns looking inside isSet => exact orderly.returns looking inside isSet
  | sleeps looking inside off => exact orderly.sleeps looking inside off
  | wakes asleep isNotified => exact orderly.wakes asleep isNotified
  | rests => exact orderly

end Orderly

/-! ### The setter -/

/-- The notice is given to at least that many sleepers. -/
def Notice.Reaches (notice : Notice) (threads : Nat) : Prop :=
  match notice with
  | .everyone => True
  | .oneByOne count => threads ≤ count

/-- To notify one after another is to notify as many as were counted. -/
theorem notifyOne_each (condition : Condition) (count : Nat) :
    (List.range count).foldl (fun state _ => state.notifyOne) condition =
      { sleepers := condition.sleepers.drop count
        notified := condition.notified ++ condition.sleepers.take count } := by
  induction count with
  | zero => simp
  | succ count hypothesis =>
    rw [List.range_succ, List.foldl_append, hypothesis, List.foldl_cons, List.foldl_nil,
      Condition.notifyOne]
    cases remaining : condition.sleepers.drop count with
    | nil =>
      have all : condition.sleepers.length ≤ count := List.drop_eq_nil_iff.mp remaining
      simp [List.drop_eq_nil_of_le (Nat.le_succ_of_le all), List.take_of_length_le all,
        List.take_of_length_le (Nat.le_succ_of_le all)]
    | cons first rest =>
      have next : condition.sleepers[count]? = some first := by
        rw [← List.head?_drop, remaining, List.head?_cons]
      simp [List.take_add_one, next, ← List.tail_drop, remaining]

/-- A notice that reaches all sleepers leaves none out. -/
theorem mem_notified {condition : Condition} {thread : ThreadId}
    (reaches : notice.Reaches condition.sleepers.length)
    (sleeps : thread ∈ condition.sleepers) : thread ∈ (notify condition notice).notified := by
  cases notice with
  | everyone => exact List.mem_append_right _ sleeps
  | oneByOne count =>
    rw [notify, notifyOne_each, List.take_of_length_le reaches]
    exact List.mem_append_right _ sleeps

namespace Orderly

/-- There are no more sleepers than waiters. -/
theorem length_sleepers_le (orderly : Orderly threads notice scene)
    (unset : Unset notice scene) : scene.condition.sleepers.length ≤ threads := by
  have among : scene.condition.sleepers ⊆ (List.range threads).map (· + 1) := by
    intro thread entered
    obtain ⟨index, rfl, asleep⟩ := unset.asleep thread entered
    obtain ⟨inside, _⟩ := Array.getElem?_eq_some_iff.mp asleep
    exact List.mem_map.mpr ⟨index, List.mem_range.mpr (orderly.size ▸ inside), rfl⟩
  have few := unset.once.length_le_of_subset among
  rwa [List.length_map, List.length_range] at few

/-- The setter comes nearer to the lock. -/
theorem setter_nears (orderly : Orderly threads notice scene) {lock : SleepLock}
    (wants : scene.pending ≠ none)
    (underway : approachSleepLock scene.lock (threads + 1) = .underway lock) :
    Orderly threads notice { scene with lock := lock } where
  size := orderly.size
  calm := sleeping.good_underway orderly.calm (Nat.succ_ne_zero threads) underway
  busy thread isBusy := by
    rcases sleeping.busy_underway orderly.calm (Nat.succ_ne_zero threads) underway isBusy with
      rfl | before
    · exact .inr ⟨rfl, wants⟩
    · exact orderly.busy thread before
  stage := orderly.stage.imp (fun unset => { unset with }) fun told => { told with }

/-- The setter sets the switch and notifies all that sleep. -/
theorem sets (orderly : Orderly threads notice scene) (reaches : notice.Reaches threads)
    (pending : scene.pending = some notice)
    (inside : approachSleepLock scene.lock (threads + 1) = .inside) :
    Orderly threads notice
      { scene with
        switch := true
        lock := scene.lock.unlock (threads + 1)
        condition := notify scene.condition notice
        pending := none } where
  size := orderly.size
  calm := sleeping.good_unlock orderly.calm (Nat.succ_ne_zero threads) inside
  busy thread isBusy := by
    obtain ⟨different, before⟩ :=
      sleeping.busy_unlock orderly.calm (Nat.succ_ne_zero threads) inside isBusy
    exact .inl ((orderly.busy thread before).resolve_right fun setter => different setter.1)
  stage := by
    rcases orderly.stage with unset | told
    · have reached : notice.Reaches scene.condition.sleepers.length := by
        cases notice with
        | everyone => trivial
        | oneByOne count => exact Nat.le_trans (orderly.length_sleepers_le unset) reaches
      exact .inr ⟨rfl, rfl, fun index asleep => mem_notified reached (unset.entered index asleep)⟩
    · cases pending.symm.trans told.pending

/-- Whatever the setter does, no wake-up is lost. -/
theorem setter (orderly : Orderly threads notice scene) (reaches : notice.Reaches threads) :
    Orderly threads notice scene.advanceSetter := by
  rw [Scene.advanceSetter, orderly.size]
  split
  · exact orderly
  · next given pending =>
    split
    · next underway =>
      exact orderly.setter_nears (pending ▸ Option.some_ne_none given) underway
    · next inside =>
      have same : given = notice := by
        rcases orderly.stage with unset | told
        · exact Option.some.inj (pending.symm.trans unset.pending)
        · cases pending.symm.trans told.pending
      exact same ▸ orderly.sets reaches (same ▸ pending) inside

end Orderly

/-! ### What is left to do -/

/-- What a waiter has left to do: to look, if the switch is not set yet; to wake up and to look,
if it is. -/
def weight (isSet : Bool) : Waiter → Nat
  | .looking => 1
  | .asleep => if isSet then 2 else 0
  | .back => 0

/-- What all waiters have left to do. -/
def burden (isSet : Bool) : List Waiter → Nat
  | [] => 0
  | waiter :: waiters => weight isSet waiter + burden isSet waiters

theorem weight_le (isSet : Bool) (waiter : Waiter) : weight isSet waiter ≤ 2 := by
  cases isSet <;> cases waiter <;> decide

theorem burden_le (isSet : Bool) (waiters : List Waiter) :
    burden isSet waiters ≤ 2 * waiters.length := by
  induction waiters with
  | nil => exact Nat.le_refl 0
  | cons waiter waiters hypothesis =>
    have one := weight_le isSet waiter
    rw [burden, List.length_cons]
    omega

/-- A waiter that is elsewhere has something else to do, and the others what they had. -/
theorem burden_set (isSet : Bool) {waiters : List Waiter} {found : Waiter}
    (there : waiters[index]? = some found) (waiter : Waiter) :
    burden isSet (waiters.set index waiter) + weight isSet found =
      burden isSet waiters + weight isSet waiter := by
  induction waiters generalizing index with
  | nil => cases there
  | cons first waiters hypothesis =>
    cases index with
    | zero =>
      cases there
      simp only [List.set_cons_zero, burden]
      omega
    | succ index =>
      have rest := hypothesis there
      simp only [List.set_cons_succ, burden]
      omega

/-- What is left to do for the waiters of a scene. -/
def Scene.load (scene : Scene) : Nat := burden scene.switch scene.waiters.toList

/-- A waiter that is elsewhere has less to do. -/
theorem load_set (isSet : Bool) {waiter found : Waiter}
    (there : scene.waiter index = some found)
    (less : weight isSet waiter < weight isSet found) :
    burden isSet (scene.waiters.setIfInBounds index waiter).toList <
      burden isSet scene.waiters.toList := by
  have listed : scene.waiters.toList[index]? = some found :=
    Array.getElem?_toList.trans there
  have moved := burden_set isSet listed waiter
  rw [Array.toList_setIfInBounds]
  omega

/-- Who falls asleep before the switch is set has nothing to do until then. -/
theorem weight_of_off (off : scene.switch = false) :
    weight scene.switch .asleep < weight scene.switch .looking := by
  rw [off]
  exact Nat.zero_lt_one

/-- A waiter that has something to do and can do it: it looks and nobody is before it at the lock,
or it was notified. -/
def Scene.Ready (scene : Scene) (index : Nat) : Prop :=
  scene.waiter index = some .looking ∧ sleeping.Clear scene.lock (index + 1) ∨
    scene.waiter index = some .asleep ∧ scene.condition.isNotified (index + 1) = true

/-- Who is ready is one of the waiters. -/
theorem Scene.Ready.inside (ready : scene.Ready index) : index < scene.waiters.size := by
  rcases ready with ⟨there, _⟩ | ⟨there, _⟩
  · exact (Array.getElem?_eq_some_iff.mp there).choose
  · exact (Array.getElem?_eq_some_iff.mp there).choose

namespace Orderly

/-- Who was notified has done something when it wakes up. -/
theorem weight_of_notified (orderly : Orderly threads notice scene)
    (isNotified : scene.condition.isNotified (index + 1) = true) :
    weight scene.switch .looking < weight scene.switch .asleep := by
  rcases orderly.stage with unset | told
  · rw [Condition.isNotified, unset.quiet] at isNotified
    cases isNotified
  · rw [told.on]
    exact Nat.one_lt_two

/-- Nobody gets more to do, and the switch and the setter stay what they are. -/
theorem load_step (orderly : Orderly threads notice scene) (index : Nat) :
    (scene.advanceWaiter index).load ≤ scene.load ∧
      (scene.advanceWaiter index).pending = scene.pending := by
  have moves := moved scene index
  generalize scene.advanceWaiter index = next at moves
  cases moves with
  | nears | rests => exact ⟨Nat.le_refl _, rfl⟩
  | returns looking =>
    exact ⟨Nat.le_of_lt (load_set scene.switch looking Nat.zero_lt_one), rfl⟩
  | sleeps looking _ off =>
    exact ⟨Nat.le_of_lt (load_set scene.switch looking (weight_of_off off)), rfl⟩
  | wakes asleep isNotified =>
    exact ⟨Nat.le_of_lt (load_set scene.switch asleep (orderly.weight_of_notified isNotified)), rfl⟩

/-- A waiter that is ready has less to do, or stays ready and comes nearer to the lock. -/
theorem ready_step (orderly : Orderly threads notice scene) (ready : scene.Ready index) :
    (scene.advanceWaiter index).load < scene.load ∨
      (scene.advanceWaiter index).Ready index ∧
        stepsLeft (scene.advanceWaiter index).lock (index + 1) <
          stepsLeft scene.lock (index + 1) := by
  have moves := moved scene index
  generalize scene.advanceWaiter index = next at moves
  cases moves with
  | nears looking underway =>
    rcases ready with ⟨_, clear⟩ | ⟨asleep, _⟩
    · rcases sleeping.comes orderly.calm (Nat.succ_ne_zero index) clear with
        inside | ⟨after, approached, stays, nearer⟩
      · cases underway.symm.trans inside
      · cases underway.symm.trans approached
        exact .inr ⟨.inl ⟨looking, stays⟩, nearer⟩
    · cases looking.symm.trans asleep
  | returns looking => exact .inl (load_set scene.switch looking Nat.zero_lt_one)
  | sleeps looking _ off => exact .inl (load_set scene.switch looking (weight_of_off off))
  | wakes asleep isNotified =>
    exact .inl (load_set scene.switch asleep (orderly.weight_of_notified isNotified))
  | rests idle unnotified =>
    rcases ready with ⟨looking, _⟩ | ⟨asleep, isNotified⟩
    · exact absurd looking idle
    · cases (unnotified asleep).symm.trans isNotified

/-- A turn of a waiter loses no wake-up and gives nobody more to do. -/
theorem turn (orderly : Orderly threads notice scene) (index steps : Nat) :
    Orderly threads notice (scene.advanceWaiterBy index steps) ∧
      (scene.advanceWaiterBy index steps).load ≤ scene.load ∧
      (scene.advanceWaiterBy index steps).pending = scene.pending := by
  induction steps generalizing scene with
  | zero => exact ⟨orderly, Nat.le_refl _, rfl⟩
  | succ steps hypothesis =>
    obtain ⟨less, same⟩ := orderly.load_step index
    obtain ⟨later, lessLater, sameLater⟩ := hypothesis (orderly.step index)
    exact ⟨later, Nat.le_trans lessLater less, sameLater.trans same⟩

/-- In enough steps a waiter that is ready gets something done. -/
theorem turn_fewer (orderly : Orderly threads notice scene) (ready : scene.Ready index)
    {steps : Nat} (enough : stepsLeft scene.lock (index + 1) < steps) :
    (scene.advanceWaiterBy index steps).load < scene.load := by
  induction steps generalizing scene with
  | zero => exact absurd enough (Nat.not_lt_zero _)
  | succ steps hypothesis =>
    have later := orderly.step index
    have noMore := (later.turn index steps).2.1
    rcases orderly.ready_step ready with less | ⟨stays, nearer⟩
    · exact Nat.lt_of_le_of_lt noMore less
    · exact Nat.lt_of_lt_of_le (hypothesis later stays (by omega)) (orderly.load_step index).1

end Orderly

/-! ### Turns of others -/

/-- A waiter is where it was after the steps of others, and whether it was notified. -/
theorem waiter_step (scene : Scene) {other : Nat} (different : other ≠ index) :
    (scene.advanceWaiter index).waiter other = scene.waiter other ∧
      (scene.advanceWaiter index).condition.isNotified (other + 1) =
        scene.condition.isNotified (other + 1) := by
  have moves := moved scene index
  generalize scene.advanceWaiter index = next at moves
  cases moves with
  | nears | rests => exact ⟨rfl, rfl⟩
  | returns found | sleeps found =>
    exact ⟨(waiter_set found other).trans (if_neg different.symm), rfl⟩
  | wakes found =>
    refine ⟨(waiter_set found other).trans (if_neg different.symm), ?_⟩
    have kept : (other + 1 != index + 1) = true :=
      bne_iff_ne.mpr fun same => different (Nat.succ.inj same)
    simp only [Condition.isNotified, Condition.wake, List.contains_eq_mem, List.mem_filter, kept,
      and_true]

/-- A waiter is where it was after the turns of others, and whether it was notified. -/
theorem waiter_turn (scene : Scene) {other : Nat} (different : other ≠ index) (steps : Nat) :
    (scene.advanceWaiterBy index steps).waiter other = scene.waiter other ∧
      (scene.advanceWaiterBy index steps).condition.isNotified (other + 1) =
        scene.condition.isNotified (other + 1) := by
  induction steps generalizing scene with
  | zero => exact ⟨rfl, rfl⟩
  | succ steps hypothesis =>
    obtain ⟨stays, told⟩ := waiter_step scene different
    obtain ⟨staysLater, toldLater⟩ := hypothesis (scene.advanceWaiter index)
    exact ⟨staysLater.trans stays, toldLater.trans told⟩

/-- A waiter that neither looks nor was notified does nothing in its turn. -/
theorem turn_rests (idle : scene.waiter index ≠ some .looking) (early : ¬ scene.Ready index)
    (steps : Nat) : scene.advanceWaiterBy index steps = scene := by
  have rests : scene.advanceWaiter index = scene := by
    have moves := moved scene index
    generalize scene.advanceWaiter index = next at moves
    cases moves with
    | nears looking | returns looking | sleeps looking => exact absurd looking idle
    | wakes asleep isNotified => exact absurd (.inr ⟨asleep, isNotified⟩) early
    | rests => rfl
  induction steps with
  | zero => rfl
  | succ steps hypothesis => rw [Scene.advanceWaiterBy, rests, hypothesis]

namespace Orderly

/-- In the steps of others the first one stays the first, and a thread stays as far from the lock
as it is. -/
theorem lock_step (orderly : Orderly threads notice scene) {thread : ThreadId}
    (different : thread ≠ index + 1) :
    (sleeping.first scene.lock thread → sleeping.first (scene.advanceWaiter index).lock thread) ∧
      stepsLeft (scene.advanceWaiter index).lock thread = stepsLeft scene.lock thread := by
  have moves := moved scene index
  generalize scene.advanceWaiter index = next at moves
  cases moves with
  | nears _ underway =>
    refine ⟨fun isFirst => ?_, stepsLeft_underway underway different⟩
    exact sleeping.first_underway orderly.calm (Nat.succ_ne_zero index) isFirst underway
  | returns _ inside | sleeps _ inside =>
    refine ⟨fun isFirst => ?_, orderly.calm.stepsLeft_unlock inside different⟩
    have own := sleeping.first_inside orderly.calm (Nat.succ_ne_zero index) inside
    exact absurd (sleeping.first_unique orderly.calm isFirst own) different
  | wakes | rests => exact ⟨id, rfl⟩

/-- In the turns of others the first one stays the first, and a thread stays as far from the lock
as it is. -/
theorem lock_turn (orderly : Orderly threads notice scene) {thread : ThreadId}
    (different : thread ≠ index + 1) (steps : Nat) :
    (sleeping.first scene.lock thread →
        sleeping.first (scene.advanceWaiterBy index steps).lock thread) ∧
      stepsLeft (scene.advanceWaiterBy index steps).lock thread =
        stepsLeft scene.lock thread := by
  induction steps generalizing scene with
  | zero => exact ⟨id, rfl⟩
  | succ steps hypothesis =>
    obtain ⟨stays, same⟩ := orderly.lock_step different
    obtain ⟨staysLater, sameLater⟩ := hypothesis (orderly.step index)
    exact ⟨staysLater ∘ stays, sameLater.trans same⟩

/-- Whoever is ready stays ready in the turn of another that is not. -/
theorem still_ready (orderly : Orderly threads notice scene) {other : Nat}
    (ready : scene.Ready other) (different : other ≠ index) (early : ¬ scene.Ready index)
    (steps : Nat) : (scene.advanceWaiterBy index steps).Ready other := by
  obtain ⟨stays, told⟩ := waiter_turn scene different steps
  refine ready.imp (fun ⟨looking, clear⟩ => ⟨stays.trans looking, ?_⟩)
    fun ⟨asleep, isNotified⟩ => ⟨stays.trans asleep, told.trans isNotified⟩
  by_cases isFirst : sleeping.first scene.lock (other + 1)
  · have later := (orderly.turn index steps).1.calm
    have apart : other + 1 ≠ index + 1 := fun same => different (Nat.succ.inj same)
    have stillFirst := (orderly.lock_turn apart steps).1 isFirst
    exact fun thread firstToo => sleeping.first_unique later firstToo stillFirst
  · -- Nobody is at the lock, so the other one is not on its way to it either.
    have nobody : ∀ thread, ¬ sleeping.first scene.lock thread := fun thread firstToo =>
      isFirst (clear thread firstToo ▸ firstToo)
    have idle : scene.waiter index ≠ some .looking := fun looksToo =>
      early (.inl ⟨looksToo, fun thread firstToo => absurd firstToo (nobody thread)⟩)
    rw [turn_rests idle early]
    exact clear

end Orderly

/-! ### Sweeps -/

/-- The turns of several waiters, of as many steps as told. -/
def pass (scene : Scene) (steps : Nat) : List Nat → Scene
  | [] => scene
  | index :: indices => pass (scene.advanceWaiterBy index steps) steps indices

/-- Turns one after another are a pass. -/
theorem pass_eq (scene : Scene) (steps : Nat) (indices : List Nat) :
    indices.foldl (fun state index => state.advanceWaiterBy index steps) scene =
      pass scene steps indices := by
  induction indices generalizing scene with
  | nil => rfl
  | cons index indices hypothesis => rw [List.foldl_cons, hypothesis, pass]

/-- A sweep is a turn of every waiter and a step of the setter. -/
theorem sweep_eq (scene : Scene) :
    scene.sweep = (pass scene turnLength (List.range scene.waiters.size)).advanceSetter := by
  rw [Scene.sweep, pass_eq]

/-- A setter that is done does nothing. -/
theorem Scene.advanceSetter_of_none (done : scene.pending = none) :
    scene.advanceSetter = scene := by
  simp only [Scene.advanceSetter, done]

/-- If no waiter looks and none is ready, nothing happens in their turns. -/
theorem pass_rests (idle : ∀ index, scene.waiter index ≠ some .looking)
    (early : ∀ index, ¬ scene.Ready index) (steps : Nat) (indices : List Nat) :
    pass scene steps indices = scene := by
  induction indices with
  | nil => rfl
  | cons index indices hypothesis =>
    rw [pass, turn_rests (idle index) (early index), hypothesis]

namespace Orderly

/-- The turns of several waiters lose no wake-up and give nobody more to do. -/
theorem passed (orderly : Orderly threads notice scene) (steps : Nat) (indices : List Nat) :
    Orderly threads notice (pass scene steps indices) ∧
      (pass scene steps indices).load ≤ scene.load ∧
      (pass scene steps indices).pending = scene.pending := by
  induction indices generalizing scene with
  | nil => exact ⟨orderly, Nat.le_refl _, rfl⟩
  | cons index indices hypothesis =>
    rw [pass]
    obtain ⟨after, less, same⟩ := orderly.turn index steps
    obtain ⟨later, lessLater, sameLater⟩ := hypothesis after
    exact ⟨later, Nat.le_trans lessLater less, sameLater.trans same⟩

/-- If a waiter is ready and the turns are long enough, something gets done. -/
theorem pass_fewer (orderly : Orderly threads notice scene) {steps : Nat} (enough : 3 < steps)
    {indices : List Nat} {ready : Nat} (listed : ready ∈ indices) (isReady : scene.Ready ready) :
    (pass scene steps indices).load < scene.load := by
  induction indices generalizing scene with
  | nil => cases listed
  | cons index indices hypothesis =>
    rw [pass]
    obtain ⟨after, less, _⟩ := orderly.turn index steps
    by_cases early : scene.Ready index
    · have near := Nat.lt_of_le_of_lt (stepsLeft_le scene.lock (index + 1)) enough
      exact Nat.lt_of_le_of_lt (after.passed steps indices).2.1 (orderly.turn_fewer early near)
    · have different : ready ≠ index := fun same => early (same ▸ isReady)
      have later := (List.mem_cons.mp listed).resolve_left different
      have stillReady := orderly.still_ready isReady different early steps
      exact Nat.lt_of_lt_of_le (hypothesis after later stillReady) less

/-- While a waiter looks, a waiter is ready or the setter is the next to have the lock. -/
theorem ready_of_looking (orderly : Orderly threads notice scene)
    (looking : scene.waiter index = some .looking) :
    (∃ ready, scene.Ready ready) ∨
      scene.pending ≠ none ∧ sleeping.first scene.lock (threads + 1) := by
  by_cases nobody : ∀ thread, ¬ sleeping.first scene.lock thread
  · exact .inl ⟨index, .inl ⟨looking, fun thread isFirst => absurd isFirst (nobody thread)⟩⟩
  · obtain ⟨thread, isFirst⟩ := not_forall_not.mp nobody
    rcases orderly.busy thread (sleeping.busy_first orderly.calm isFirst) with
      ⟨first, rfl, looksToo⟩ | ⟨rfl, wants⟩
    · exact .inl ⟨first, .inl ⟨looksToo, fun other firstToo =>
        sleeping.first_unique orderly.calm firstToo isFirst⟩⟩
    · exact .inr ⟨wants, isFirst⟩

/-- In the turns of all waiters the setter stays the first one, and as far from the lock as it
is. -/
theorem setter_passed (orderly : Orderly threads notice scene) (steps : Nat) {indices : List Nat}
    (among : ∀ index ∈ indices, index < threads) :
    (sleeping.first scene.lock (threads + 1) →
        sleeping.first (pass scene steps indices).lock (threads + 1)) ∧
      stepsLeft (pass scene steps indices).lock (threads + 1) =
        stepsLeft scene.lock (threads + 1) := by
  induction indices generalizing scene with
  | nil => exact ⟨id, rfl⟩
  | cons index indices hypothesis =>
    rw [pass]
    obtain ⟨inside, others⟩ := List.forall_mem_cons.mp among
    have different : threads + 1 ≠ index + 1 := by omega
    obtain ⟨stays, same⟩ := orderly.lock_turn different steps
    obtain ⟨staysLater, sameLater⟩ := hypothesis (orderly.turn index steps).1 others
    exact ⟨staysLater ∘ stays, sameLater.trans same⟩

/-- While no waiter is ready, nobody is before the setter. -/
theorem setter_clear (orderly : Orderly threads notice scene)
    (early : ∀ index, ¬ scene.Ready index) (steps : Nat) (indices : List Nat)
    (among : ∀ index ∈ indices, index < threads) :
    sleeping.Clear (pass scene steps indices).lock (threads + 1) := by
  by_cases idle : ∀ index, scene.waiter index ≠ some .looking
  · rw [pass_rests idle early]
    intro thread isFirst
    rcases orderly.busy thread (sleeping.busy_first orderly.calm isFirst) with
      ⟨index, _, looking⟩ | ⟨setter, _⟩
    · exact absurd looking (idle index)
    · exact setter
  · obtain ⟨index, looking⟩ := not_forall_not.mp idle
    rcases orderly.ready_of_looking looking with ⟨ready, isReady⟩ | ⟨_, isFirst⟩
    · exact absurd isReady (early ready)
    · have stays := (orderly.setter_passed steps among).1 isFirst
      have calm := (orderly.passed steps indices).1.calm
      exact fun thread firstToo => sleeping.first_unique calm firstToo stays

end Orderly

/-- What is left to do until all waiters are back. Before the switch is set, every waiter may
have to wake up and to look again afterwards; and whoever does something may leave the setter
at the beginning of its way to the lock. -/
def Scene.remaining (scene : Scene) : Nat :=
  if scene.pending = none then scene.load
  else
    2 * scene.waiters.size + 4 * scene.load + stepsLeft scene.lock (scene.waiters.size + 1) + 1

namespace Orderly

theorem remaining_of_some (orderly : Orderly threads notice scene)
    (pending : scene.pending = some notice) :
    scene.remaining =
      2 * threads + 4 * scene.load + stepsLeft scene.lock (threads + 1) + 1 := by
  have wants : scene.pending ≠ none := pending ▸ Option.some_ne_none notice
  rw [Scene.remaining, if_neg wants, orderly.size]

theorem burden_le (orderly : Orderly threads notice scene) (isSet : Bool) :
    burden isSet scene.waiters.toList ≤ 2 * threads := by
  have most := Waiting.burden_le isSet scene.waiters.toList
  rwa [Array.length_toList, orderly.size] at most

/-- There is no more to do than a few steps for every waiter. -/
theorem remaining_le (orderly : Orderly threads notice scene)
    (pending : scene.pending = some notice) : scene.remaining ≤ 10 * threads + 4 := by
  have most : scene.load ≤ 2 * threads := orderly.burden_le scene.switch
  have near := stepsLeft_le scene.lock (threads + 1)
  rw [orderly.remaining_of_some pending]
  omega

/-- Once the switch is set, a waiter is ready until all are back. -/
theorem ready_of_more (orderly : Orderly threads notice scene) (told : Told scene)
    (more : scene.backCount ≠ scene.waiters.size) : ∃ index, scene.Ready index := by
  rw [Scene.backCount, ne_eq, Array.countP_eq_size, not_forall] at more
  obtain ⟨waiter, elsewhere⟩ := more
  obtain ⟨listed, elsewhere⟩ := Classical.not_imp.mp elsewhere
  obtain ⟨index, there⟩ := Array.mem_iff_getElem?.mp listed
  cases waiter with
  | looking =>
    exact (orderly.ready_of_looking there).resolve_right fun setter => setter.1 told.pending
  | asleep =>
    have notified := told.notified index there
    exact ⟨index, .inr ⟨there, List.contains_iff_mem.mpr notified⟩⟩
  | back => exact absurd rfl elsewhere

/-- The setter comes nearer to the lock if nobody is before it, or sets the switch. -/
theorem setter_nearer (orderly : Orderly threads notice scene)
    (pending : scene.pending = some notice) :
    scene.advanceSetter.pending = none ∧ scene.advanceSetter.load ≤ 2 * threads ∨
      scene.advanceSetter.pending = some notice ∧ scene.advanceSetter.load = scene.load ∧
        (sleeping.Clear scene.lock (threads + 1) →
          stepsLeft scene.advanceSetter.lock (threads + 1) <
            stepsLeft scene.lock (threads + 1)) := by
  simp only [Scene.advanceSetter, orderly.size, pending]
  split
  · next lock underway =>
    refine .inr ⟨rfl, rfl, fun clear => ?_⟩
    rcases sleeping.comes orderly.calm (Nat.succ_ne_zero threads) clear with
      inside | ⟨after, approached, _, nearer⟩
    · cases underway.symm.trans inside
    · cases underway.symm.trans approached
      exact nearer
  · exact .inl ⟨rfl, orderly.burden_le true⟩

/-- A sweep loses no wake-up. -/
theorem sweep (orderly : Orderly threads notice scene) (reaches : notice.Reaches threads) :
    Orderly threads notice scene.sweep := by
  rw [sweep_eq]
  exact (orderly.passed _ _).1.setter reaches

/-- Until the switch is set, a waiter does something in every sweep, or the setter comes on. -/
theorem sweep_fewer_unset (orderly : Orderly threads notice scene)
    (reaches : notice.Reaches threads) (unset : Unset notice scene) :
    scene.sweep.remaining < scene.remaining := by
  have among : ∀ index ∈ List.range threads, index < threads := fun _ => List.mem_range.mp
  obtain ⟨after, noMore, same⟩ := orderly.passed turnLength (List.range threads)
  have away := (orderly.setter_passed turnLength among).2
  have works : (∀ index, ¬ scene.Ready index) ∨
      (pass scene turnLength (List.range threads)).load < scene.load := by
    rw [or_iff_not_imp_left, not_forall_not]
    rintro ⟨ready, isReady⟩
    have inside := orderly.size ▸ isReady.inside
    exact orderly.pass_fewer (by decide) (List.mem_range.mpr inside) isReady
  have clear := fun early => orderly.setter_clear early turnLength _ among
  rw [sweep_eq, orderly.size, orderly.remaining_of_some unset.pending]
  generalize pass scene turnLength (List.range threads) = waited at *
  have pending := same.trans unset.pending
  have near := stepsLeft_le waited.advanceSetter.lock (threads + 1)
  rcases after.setter_nearer pending with ⟨off, few⟩ | ⟨on, load, nearer⟩
  · rw [Scene.remaining, if_pos off]
    omega
  · rw [(after.setter reaches).remaining_of_some on, load]
    rcases works with early | fewer
    · have closer := nearer (clear early)
      omega
    · omega

/-- Once the switch is set, a waiter does something in every sweep, until all are back. -/
theorem sweep_fewer_told (orderly : Orderly threads notice scene) (told : Told scene)
    (more : scene.backCount ≠ scene.waiters.size) : scene.sweep.remaining < scene.remaining := by
  obtain ⟨ready, isReady⟩ := orderly.ready_of_more told more
  have same := (orderly.passed turnLength (List.range scene.waiters.size)).2.2
  have off := same.trans told.pending
  have fewer := orderly.pass_fewer (by decide : 3 < turnLength)
    (List.mem_range.mpr isReady.inside) isReady
  have rests := Scene.advanceSetter_of_none off
  rwa [sweep_eq, rests, Scene.remaining, if_pos off, Scene.remaining, if_pos told.pending]

/-- With every sweep less is left to do, until all waiters are back. -/
theorem sweep_fewer (orderly : Orderly threads notice scene) (reaches : notice.Reaches threads)
    (more : scene.backCount ≠ scene.waiters.size) :
    scene.sweep.remaining < scene.remaining :=
  orderly.stage.elim (orderly.sweep_fewer_unset reaches) fun told =>
    orderly.sweep_fewer_told told more

/-- When enough sweeps are made, all waiters come back. -/
theorem sweeps_eq (orderly : Orderly threads notice scene) (reaches : notice.Reaches threads)
    {limit : Nat} (enough : scene.remaining ≤ limit) : sweeps limit scene = threads := by
  induction limit generalizing scene with
  | zero =>
    rw [sweeps]
    by_cases all : scene.backCount = scene.waiters.size
    · exact all.trans orderly.size
    · have some := orderly.sweep_fewer reaches all
      omega
  | succ limit hypothesis =>
    rw [sweeps]
    split
    · next all => exact all.trans orderly.size
    · next more =>
      have fewer := orderly.sweep_fewer reaches more
      exact hypothesis (orderly.sweep reaches) (by omega)

end Orderly

/-- Before anyone moves, no wake-up was lost. -/
theorem Orderly.start (threads : Nat) (notice : Notice) :
    Orderly threads notice
      { waiters := Array.replicate threads .looking, pending := some notice } where
  size := Array.size_replicate
  calm := Calm.free
  busy thread isBusy := by
    rcases isBusy with ⟨nonzero, calls | held⟩
    · exact absurd rfl calls
    · exact absurd held.symm nonzero
  stage := by
    refine .inl ⟨rfl, rfl, rfl, fun index asleep => ?_, fun thread entered => ?_, List.nodup_nil⟩
    · rw [Scene.waiter, Array.getElem?_replicate] at asleep
      split at asleep <;> cases asleep
    · cases entered

/-- All threads that wait for the switch come back after it is set, if enough are notified. -/
theorem returned_eq (threads : Nat) (notice : Notice) (reaches : notice.Reaches threads) :
    returned threads notice = threads := by
  have orderly := Orderly.start threads notice
  have most := orderly.remaining_le rfl
  exact orderly.sweeps_eq reaches (by omega)

end VirtualMemory.Waiting
