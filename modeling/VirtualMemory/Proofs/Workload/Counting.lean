/-
Module: VirtualMemory.Proofs.Workload.Counting
Purpose: Threads that count together under a lock lose no addition and make them all.
Main exports:
  Counting.Discipline, leftOver; Sound, Sound.step, Sound.swept_fewer, Sound.sweeps_eq;
  Discipline.total_eq

What is proved of the counting needs little of the lock: that a thread which has the lock, or
is the next one to have it, stays so whatever others do, and gets it after a few steps of its
own. A sweep then makes at least one addition, since the counter that is next in turn, or any
other if nobody is, has enough steps for one.
-/
import Mathlib.Logic.Basic
import VirtualMemory.Workload.Counting

namespace VirtualMemory.Counting

/-! ### Locks that can be counted under -/

/-- A lock, and what counting relies on. -/
structure Discipline (κ : Type) where
  approach : κ → ThreadId → Turn κ
  unlock : κ → ThreadId → κ
  /-- The threads that may use the lock. -/
  member : ThreadId → Prop
  /-- What is true of the lock whenever a thread has its turn. -/
  good : κ → Prop
  /-- A thread has the lock, or nobody can have it before that thread. -/
  first : κ → ThreadId → Prop
  /-- A thread has the lock or is on its way to it. -/
  busy : κ → ThreadId → Prop
  /-- How many steps of its own a thread is away from the lock, if nobody is before it. -/
  steps : κ → ThreadId → Nat
  steps_le : ∀ lock thread, steps lock thread ≤ 3
  good_underway : ∀ {lock next thread}, good lock → member thread →
    approach lock thread = .underway next → good next
  good_unlock : ∀ {lock thread}, good lock → member thread →
    approach lock thread = .inside → good (unlock lock thread)
  first_unique : ∀ {lock thread other}, good lock → first lock thread → first lock other →
    thread = other
  first_inside : ∀ {lock thread}, good lock → member thread →
    approach lock thread = .inside → first lock thread
  /-- Whoever moves, the first one stays the first. -/
  first_underway : ∀ {lock next thread other}, good lock → member other → first lock thread →
    approach lock other = .underway next → first next thread
  /-- A thread that nobody is before has the lock or comes nearer to it. -/
  comes : ∀ {lock thread}, good lock → member thread → (∀ other, first lock other → other = thread) →
    approach lock thread = .inside ∨ ∃ next, approach lock thread = .underway next ∧
      (∀ other, first next other → other = thread) ∧ steps next thread < steps lock thread
  busy_first : ∀ {lock thread}, good lock → first lock thread → busy lock thread
  busy_underway : ∀ {lock next thread other}, good lock → member thread →
    approach lock thread = .underway next → busy next other → other = thread ∨ busy lock other
  busy_unlock : ∀ {lock thread other}, good lock → member thread →
    approach lock thread = .inside → busy (unlock lock thread) other →
    other ≠ thread ∧ busy lock other

/-- How many additions are left. -/
def leftOver : List Counter → Nat
  | [] => 0
  | counter :: counters => counter.left + leftOver counters

theorem leftOver_eq_zero {counters : List Counter} :
    leftOver counters = 0 ↔ ∀ counter ∈ counters, counter.left = 0 := by
  induction counters with
  | nil => exact iff_of_true rfl fun counter listed => absurd listed List.not_mem_nil
  | cons counter counters hypothesis =>
    rw [leftOver, Nat.add_eq_zero_iff, hypothesis, List.forall_mem_cons]

/-- In which order the counters are listed does not matter. -/
theorem leftOver_of_perm {counters others : List Counter} (same : counters.Perm others) :
    leftOver counters = leftOver others := by
  induction same with
  | nil => rfl
  | cons counter same hypothesis => rw [leftOver, leftOver, hypothesis]
  | swap one two counters =>
    simp only [leftOver]
    omega
  | trans _ _ first second => exact first.trans second

variable {κ : Type} {lock : Discipline κ} {whole : Nat} {scene : Scene κ} {counter : Counter}
  {counters others rest : List Counter} {next : Scene κ} {moved : Counter}
  {movedAll : List Counter}

/-- Nothing was lost so far, `whole` being the number of all additions: who has read the number
will write before anyone else does, and only those who have something left to add are in the
way of others. -/
structure Sound (lock : Discipline κ) (whole : Nat) (scene : Scene κ)
    (counters : List Counter) : Prop where
  good : lock.good scene.lock
  members : ∀ counter ∈ counters, lock.member counter.thread
  distinct : (counters.map Counter.thread).Nodup
  busy : ∀ thread, lock.busy scene.lock thread →
    ∃ counter ∈ counters, counter.thread = thread ∧ counter.left ≠ 0
  seen : ∀ counter ∈ counters, ∀ number, counter.seen = some number →
    lock.first scene.lock counter.thread ∧ number = scene.total
  total : scene.total + leftOver counters = whole

namespace Sound

/-- In which order the counters are listed does not matter. -/
theorem perm (sound : Sound lock whole scene counters) (same : counters.Perm others) :
    Sound lock whole scene others where
  good := sound.good
  members counter listed := sound.members counter (same.mem_iff.mpr listed)
  distinct := (same.map Counter.thread).nodup_iff.mp sound.distinct
  busy thread isBusy := by
    obtain ⟨counter, listed, what⟩ := sound.busy thread isBusy
    exact ⟨counter, same.mem_iff.mp listed, what⟩
  seen counter listed := sound.seen counter (same.mem_iff.mpr listed)
  total := leftOver_of_perm same ▸ sound.total

/-- A counter comes nearer to the lock. -/
theorem underway (sound : Sound lock whole scene (counter :: rest)) (left : counter.left ≠ 0)
    {next : κ} (moved : lock.approach scene.lock counter.thread = .underway next) :
    Sound lock whole { scene with lock := next } (counter :: rest) where
  good := lock.good_underway sound.good (sound.members _ List.mem_cons_self) moved
  members := sound.members
  distinct := sound.distinct
  busy thread isBusy := by
    rcases lock.busy_underway sound.good (sound.members _ List.mem_cons_self) moved isBusy with
      rfl | before
    · exact ⟨counter, List.mem_cons_self, rfl, left⟩
    · exact sound.busy thread before
  seen other listed number read := by
    obtain ⟨first, same⟩ := sound.seen other listed number read
    exact ⟨lock.first_underway sound.good (sound.members _ List.mem_cons_self) first moved, same⟩
  total := sound.total

/-- A counter reads the number. -/
theorem reads (sound : Sound lock whole scene (counter :: rest)) 
    (inside : lock.approach scene.lock counter.thread = .inside) :
    Sound lock whole scene ({ counter with seen := some scene.total } :: rest) where
  good := sound.good
  members := List.forall_mem_cons.mpr (List.forall_mem_cons.mp sound.members)
  distinct := sound.distinct
  busy thread isBusy := by
    obtain ⟨other, listed, what⟩ := sound.busy thread isBusy
    rcases List.mem_cons.mp listed with rfl | elsewhere
    · exact ⟨_, List.mem_cons_self, what⟩
    · exact ⟨other, List.mem_cons_of_mem _ elsewhere, what⟩
  seen := by
    refine List.forall_mem_cons.mpr ⟨fun number read => ?_, (List.forall_mem_cons.mp sound.seen).2⟩
    cases read
    exact ⟨lock.first_inside sound.good (sound.members counter List.mem_cons_self) inside, rfl⟩
  total := sound.total

/-- A counter writes the number, and nobody else had read it. -/
theorem writes (sound : Sound lock whole scene (counter :: rest)) (left : counter.left ≠ 0)
    (inside : lock.approach scene.lock counter.thread = .inside) {number : Nat}
    (read : counter.seen = some number) :
    Sound lock whole
      { lock := lock.unlock scene.lock counter.thread, total := number + 1 }
      ({ counter with left := counter.left - 1, seen := none } :: rest) := by
  have isMember := sound.members _ List.mem_cons_self
  have fresh := (List.nodup_cons.mp sound.distinct).1
  obtain ⟨first, same⟩ := sound.seen counter List.mem_cons_self number read
  refine ⟨lock.good_unlock sound.good isMember inside,
    List.forall_mem_cons.mpr (List.forall_mem_cons.mp sound.members), sound.distinct,
    fun thread isBusy => ?_,
    List.forall_mem_cons.mpr ⟨fun _ unread => (by cases unread), fun other listed => ?_⟩, ?_⟩
  · obtain ⟨different, before⟩ := lock.busy_unlock sound.good isMember inside isBusy
    obtain ⟨other, listed, own, what⟩ := sound.busy thread before
    rcases List.mem_cons.mp listed with rfl | elsewhere
    · exact absurd own.symm different
    · exact ⟨other, List.mem_cons_of_mem _ elsewhere, own, what⟩
  · intro others readToo
    obtain ⟨firstToo, _⟩ := sound.seen other (List.mem_cons_of_mem _ listed) others readToo
    have own := lock.first_unique sound.good first firstToo
    exact absurd (List.mem_map.mpr ⟨other, listed, own.symm⟩) fresh
  · have total := sound.total
    simp only [leftOver] at total ⊢
    omega

/-- A step of a counter. -/
theorem step (sound : Sound lock whole scene (counter :: rest))
    (stepped : advance lock.approach lock.unlock scene counter = (next, moved)) :
    Sound lock whole next (moved :: rest) := by
  rw [advance] at stepped
  split at stepped
  · cases stepped
    exact sound
  · next left =>
    split at stepped
    · next approached =>
      cases stepped
      exact sound.underway left approached
    · next inside =>
      split at stepped
      · cases stepped
        exact sound.reads inside
      · next read =>
        cases stepped
        exact sound.writes left inside read

end Sound

/-- A step keeps the thread, and no step puts additions back. -/
theorem advance_keeps (stepped : advance lock.approach lock.unlock scene counter = (next, moved)) :
    moved.thread = counter.thread ∧ moved.left ≤ counter.left := by
  rw [advance] at stepped
  split at stepped
  · cases stepped
    exact ⟨rfl, Nat.le_refl _⟩
  · split at stepped
    · cases stepped
      exact ⟨rfl, Nat.le_refl _⟩
    · split at stepped
      · cases stepped
        exact ⟨rfl, Nat.le_refl _⟩
      · cases stepped
        exact ⟨rfl, Nat.sub_le _ _⟩

/-- How many steps a counter needs for its addition, if nobody is before it. -/
def distance (lock : Discipline κ) (scene : Scene κ) (counter : Counter) : Nat :=
  lock.steps scene.lock counter.thread + if counter.seen = none then 2 else 1

/-- Nobody is before a thread. -/
def Discipline.Clear (lock : Discipline κ) (state : κ) (thread : ThreadId) : Prop :=
  ∀ other, lock.first state other → other = thread

/-- A counter that nobody is before makes its addition or comes nearer to it. -/
theorem Sound.step_nearer (sound : Sound lock whole scene (counter :: rest))
    (left : counter.left ≠ 0) (clear : lock.Clear scene.lock counter.thread)
    (stepped : advance lock.approach lock.unlock scene counter = (next, moved)) :
    moved.left < counter.left ∨ moved.left = counter.left ∧ lock.Clear next.lock moved.thread ∧
      distance lock next moved < distance lock scene counter := by
  rw [advance, if_neg left] at stepped
  rcases lock.comes sound.good (sound.members _ List.mem_cons_self) clear with
    inside | ⟨after, approached, stays, nearer⟩
  · rw [inside] at stepped
    cases read : counter.seen with
    | none =>
      simp only [read, Prod.mk.injEq] at stepped
      obtain ⟨rfl, rfl⟩ := stepped
      refine Or.inr ⟨rfl, clear, ?_⟩
      simp only [distance, read, if_true, reduceCtorEq, if_false]
      omega
    | some number =>
      simp only [read, Prod.mk.injEq] at stepped
      obtain ⟨rfl, rfl⟩ := stepped
      exact Or.inl (Nat.sub_one_lt left)
  · rw [approached] at stepped
    cases stepped
    refine Or.inr ⟨rfl, stays, ?_⟩
    simp only [distance]
    omega

/-! ### Turns and sweeps -/

/-- A turn of a counter. -/
theorem Sound.turn {steps : Nat} (sound : Sound lock whole scene (counter :: rest))
    (turned : advanceBy lock.approach lock.unlock steps scene counter = (next, moved)) :
    Sound lock whole next (moved :: rest) ∧ moved.thread = counter.thread ∧
      moved.left ≤ counter.left := by
  induction steps generalizing scene counter with
  | zero =>
    cases turned
    exact ⟨sound, rfl, Nat.le_refl _⟩
  | succ steps hypothesis =>
    cases stepped : advance lock.approach lock.unlock scene counter with
    | mk after reached =>
      rw [advanceBy, stepped] at turned
      obtain ⟨same, fewer⟩ := advance_keeps stepped
      obtain ⟨soundLater, sameLater, fewerLater⟩ := hypothesis (sound.step stepped) turned
      exact ⟨soundLater, sameLater.trans same, Nat.le_trans fewerLater fewer⟩

/-- In enough steps a counter that nobody is before makes its addition. -/
theorem Sound.turn_fewer {steps : Nat} (sound : Sound lock whole scene (counter :: rest))
    (left : counter.left ≠ 0) (clear : lock.Clear scene.lock counter.thread)
    (enough : distance lock scene counter ≤ steps)
    (turned : advanceBy lock.approach lock.unlock steps scene counter = (next, moved)) :
    moved.left < counter.left := by
  induction steps generalizing scene counter with
  | zero =>
    simp only [distance] at enough
    split at enough <;> omega
  | succ steps hypothesis =>
    cases stepped : advance lock.approach lock.unlock scene counter with
    | mk after reached =>
      rw [advanceBy, stepped] at turned
      have soundLater := sound.step stepped
      have fewerLater := (soundLater.turn turned).2.2
      rcases sound.step_nearer left clear stepped with fewer | ⟨same, stays, nearer⟩
      · omega
      · rw [← same] at left ⊢
        exact hypothesis soundLater left stays (by omega) turned

/-- After a sweep nothing was lost, and nothing was put back. -/
theorem Sound.swept (sound : Sound lock whole scene (counters ++ others))
    (swept : sweep lock.approach lock.unlock scene counters = (next, movedAll)) :
    Sound lock whole next (movedAll ++ others) ∧ leftOver movedAll ≤ leftOver counters := by
  induction counters generalizing scene others movedAll with
  | nil =>
    cases swept
    exact ⟨sound, Nat.le_refl _⟩
  | cons counter rest hypothesis =>
    cases turned : advanceBy lock.approach lock.unlock turnLength scene counter with
    | mk after reached =>
      cases later : sweep lock.approach lock.unlock after rest with
      | mk final movedLater =>
        simp only [sweep, turned, later, Prod.mk.injEq] at swept
        obtain ⟨rfl, rfl⟩ := swept
        obtain ⟨soundAfter, _, fewer⟩ := Sound.turn sound turned
        obtain ⟨soundLater, fewerLater⟩ :=
          hypothesis (soundAfter.perm List.perm_middle.symm) later
        refine ⟨soundLater.perm List.perm_middle, ?_⟩
        simp only [leftOver]
        omega

/-- The lock is a counter's or nobody's, and the sweep comes to a counter that can make its
addition. -/
def Due (lock : Discipline κ) (scene : Scene κ) (counters : List Counter) : Prop :=
  ∃ counter ∈ counters, counter.left ≠ 0 ∧
    (lock.first scene.lock counter.thread ∨ ∀ other, ¬ lock.first scene.lock other)

/-- While there is something left, an addition is due. -/
theorem Sound.due (sound : Sound lock whole scene counters) (left : leftOver counters ≠ 0) :
    Due lock scene counters := by
  by_cases nobody : ∀ other, ¬ lock.first scene.lock other
  · rw [ne_eq, leftOver_eq_zero, not_forall] at left
    obtain ⟨counter, some⟩ := left
    obtain ⟨listed, some⟩ := Classical.not_imp.mp some
    exact ⟨counter, listed, some, .inr nobody⟩
  · obtain ⟨other, isFirst⟩ := not_forall_not.mp nobody
    obtain ⟨counter, listed, rfl, some⟩ := sound.busy other (lock.busy_first sound.good isFirst)
    exact ⟨counter, listed, some, .inl isFirst⟩

/-- A counter with nothing left does nothing in its turn. -/
theorem advanceBy_done (done : counter.left = 0) (steps : Nat) :
    advanceBy lock.approach lock.unlock steps scene counter = (scene, counter) := by
  induction steps with
  | zero => rfl
  | succ steps hypothesis => simp only [advanceBy, advance, if_pos done, hypothesis]

/-- The first one stays the first in the turns of others. -/
theorem Sound.first_stays {steps : Nat} {first : ThreadId}
    (sound : Sound lock whole scene (counter :: rest)) (isFirst : lock.first scene.lock first)
    (different : first ≠ counter.thread)
    (turned : advanceBy lock.approach lock.unlock steps scene counter = (next, moved)) :
    lock.first next.lock first := by
  induction steps generalizing scene counter with
  | zero =>
    cases turned
    exact isFirst
  | succ steps hypothesis =>
    cases stepped : advance lock.approach lock.unlock scene counter with
    | mk after reached =>
      rw [advanceBy, stepped] at turned
      have isMember := sound.members counter List.mem_cons_self
      refine hypothesis (sound.step stepped) ?_ ((advance_keeps stepped).1 ▸ different) turned
      rw [advance] at stepped
      split at stepped
      · cases stepped
        exact isFirst
      · split at stepped
        · next approached =>
          cases stepped
          exact lock.first_underway sound.good isMember isFirst approached
        · next inside =>
          have own := lock.first_inside sound.good isMember inside
          exact absurd (lock.first_unique sound.good isFirst own) different

/-- A counter that has its turn too early leaves the addition due that was due. -/
theorem Sound.still_due (sound : Sound lock whole scene (counter :: others))
    (due : Due lock scene (counter :: rest))
    (early : counter.left = 0 ∨ ¬ lock.Clear scene.lock counter.thread)
    (turned : advanceBy lock.approach lock.unlock turnLength scene counter = (next, moved)) :
    Due lock next rest := by
  obtain ⟨ready, listed, left, turn⟩ := due
  rcases early with done | blocked
  · rw [advanceBy_done done] at turned
    cases turned
    refine ⟨ready, (List.mem_cons.mp listed).resolve_left ?_, left, turn⟩
    rintro rfl
    exact left done
  · obtain ⟨other, blocking⟩ := not_forall.mp blocked
    obtain ⟨isFirst, different⟩ := Classical.not_imp.mp blocking
    have isReady := turn.resolve_right fun nobody => nobody other isFirst
    rw [lock.first_unique sound.good isFirst isReady] at different
    refine ⟨ready, (List.mem_cons.mp listed).resolve_left ?_, left,
      .inl (sound.first_stays isReady different turned)⟩
    rintro rfl
    exact different rfl

/-- A sweep makes at least one addition, if one is due. -/
theorem Sound.swept_fewer (sound : Sound lock whole scene (counters ++ others))
    (due : Due lock scene counters)
    (swept : sweep lock.approach lock.unlock scene counters = (next, movedAll)) :
    leftOver movedAll < leftOver counters := by
  induction counters generalizing scene others movedAll with
  | nil =>
    obtain ⟨_, impossible, _⟩ := due
    cases impossible
  | cons counter rest hypothesis =>
    cases turned : advanceBy lock.approach lock.unlock turnLength scene counter with
    | mk after reached =>
      cases later : sweep lock.approach lock.unlock after rest with
      | mk final movedLater =>
        simp only [sweep, turned, later, Prod.mk.injEq] at swept
        obtain ⟨rfl, rfl⟩ := swept
        obtain ⟨soundAfter, _, fewer⟩ := Sound.turn sound turned
        have soundRest := soundAfter.perm List.perm_middle.symm
        have fewerLater := (soundRest.swept later).2
        simp only [leftOver]
        by_cases early : counter.left = 0 ∨ ¬ lock.Clear scene.lock counter.thread
        · have made := hypothesis soundRest (sound.still_due due early turned) later
          omega
        · rw [not_or, not_not] at early
          have soon : distance lock scene counter ≤ turnLength := by
            have near := lock.steps_le scene.lock counter.thread
            simp only [distance, turnLength]
            split <;> omega
          have made := Sound.turn_fewer sound early.1 early.2 soon turned
          omega

/-- When as many sweeps are made as there are additions, all are made. -/
theorem Sound.sweeps_eq (sound : Sound lock whole scene counters) {limit : Nat}
    (enough : leftOver counters ≤ limit) :
    sweeps lock.approach lock.unlock limit scene counters = whole := by
  induction limit generalizing scene counters with
  | zero =>
    have total := sound.total
    rw [sweeps]
    omega
  | succ limit hypothesis =>
    have total := sound.total
    rw [sweeps]
    split
    · next done =>
      have none : leftOver counters = 0 := by
        simpa [leftOver_eq_zero] using done
      omega
    · next more =>
      have left : leftOver counters ≠ 0 := by
        simpa [leftOver_eq_zero] using more
      cases swept : sweep lock.approach lock.unlock scene counters with
      | mk after moved =>
        rw [← List.append_nil counters] at sound
        have soundAfter := (sound.swept swept).1
        have fewer := sound.swept_fewer ((List.append_nil counters ▸ sound).due left) swept
        rw [List.append_nil] at soundAfter
        exact hypothesis soundAfter (by omega)

/-! ### What is counted -/

theorem leftOver_counters (threads rounds : Nat) :
    leftOver (Counting.counters threads rounds) = threads * rounds := by
  have each : ∀ indices : List Nat,
      leftOver (indices.map fun index => { thread := index + 1, left := rounds }) =
        indices.length * rounds := by
    intro indices
    induction indices with
    | nil => rw [List.map_nil, leftOver, List.length_nil, Nat.zero_mul]
    | cons index indices hypothesis =>
      rw [List.map_cons, leftOver, hypothesis, List.length_cons, Nat.succ_mul, Nat.add_comm]
  rw [Counting.counters, each, List.length_range]

/-- Before anyone counts, nothing was lost. -/
theorem Sound.start {start : κ} {threads : Nat} (rounds : Nat) (good : lock.good start)
    (members : ∀ index < threads, lock.member (index + 1))
    (unused : ∀ thread, ¬ lock.busy start thread) :
    Sound lock (threads * rounds) { lock := start } (Counting.counters threads rounds) where
  good := good
  members := by
    intro counter listed
    obtain ⟨index, among, rfl⟩ := List.mem_map.mp listed
    exact members index (List.mem_range.mp among)
  distinct := by
    rw [Counting.counters, List.map_map]
    exact List.Pairwise.map _ (fun one two different same => different (Nat.succ.inj same))
      List.nodup_range
  busy thread isBusy := absurd isBusy (unused thread)
  seen := by
    intro counter listed number read
    obtain ⟨index, _, rfl⟩ := List.mem_map.mp listed
    cases read
  total := by rw [leftOver_counters, Nat.zero_add]

/-- However many threads count under a lock, and however often, they make all their additions
and lose none. -/
theorem Discipline.total_eq (lock : Discipline κ) {start : κ} {threads : Nat} (rounds : Nat)
    (good : lock.good start) (members : ∀ index < threads, lock.member (index + 1))
    (unused : ∀ thread, ¬ lock.busy start thread) :
    sweeps lock.approach lock.unlock (sweepLimit threads rounds) { lock := start }
      (Counting.counters threads rounds) = threads * rounds := by
  refine (Sound.start rounds good members unused).sweeps_eq ?_
  rw [leftOver_counters, sweepLimit]
  omega

end VirtualMemory.Counting
