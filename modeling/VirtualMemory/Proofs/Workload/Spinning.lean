/-
Module: VirtualMemory.Proofs.Workload.Spinning
Purpose: Threads that count together under a ticket lock make all their additions and lose none,
  also when its counters start over.
Main exports:
  Counting.Numbered, Spin, Numbered.spin; Foremost, spinning, underTicketLock_eq

The counters of the lock have 64 bits. A ticket that is out is told from the others by them as
long as there are no more threads than numbers, however many tickets were issued before.
-/
import Mathlib.Data.Finset.Card
import Mathlib.Order.Interval.Finset.Nat
import VirtualMemory.Proofs.Lock.Tickets
import VirtualMemory.Proofs.Workload.Counting

namespace VirtualMemory.Counting

open TicketLock

variable {lock next : TicketLock} {thread other : ThreadId} {crowd : Finset ThreadId}
  {served issued number : Nat} {numberOf : ThreadId → Option Nat}

/-- The tickets of a crowd that only waits and holds, with the numbers they would have if the
counters went on for ever. -/
structure Numbered (crowd : Finset ThreadId) (served issued : Nat)
    (numberOf : ThreadId → Option Nat) (lock : TicketLock) : Prop where
  line : TicketLine served issued numberOf
  serving : lock.nextServing = UInt64.ofNat served
  issuing : lock.nextTicket = UInt64.ofNat issued
  among : ∀ thread number, numberOf thread = some number → thread ∈ crowd
  outside : ∀ thread, numberOf thread = none → lock.phase thread = .outside
  inside : ∀ thread number, numberOf thread = some number →
    lock.phase thread = .waiting (UInt64.ofNat number) ∨
      number = served ∧ lock.phase thread = .holding lock.nextServing

/-- What a counter may do about a ticket lock. -/
inductive Spin (lock : TicketLock) (thread : ThreadId) : Turn TicketLock → Prop where
  /-- It has a guard. -/
  | inside {ticket : UInt64} : lock.phase thread = .holding ticket → Spin lock thread .inside
  /-- It takes a ticket. -/
  | queues :
      lock.phase thread = .outside →
      Spin lock thread (.underway ({ lock with nextTicket := lock.nextTicket + 1 }.enter thread
        (.waiting lock.nextTicket)))
  /-- Its ticket is served. -/
  | served :
      lock.phase thread = .waiting lock.nextServing →
      Spin lock thread (.underway (lock.enter thread (.holding lock.nextServing)))
  /-- Its ticket is not served yet. -/
  | spins {ticket : UInt64} :
      lock.phase thread = .waiting ticket → lock.nextServing ≠ ticket →
      Spin lock thread (.underway lock)

/-- A thread on its way to the lock leaves the others where they are. -/
theorem Spin.phase_eq (spin : Spin lock thread (.underway next)) (different : other ≠ thread) :
    next.phase other = lock.phase other := by
  cases spin with
  | queues | served => rw [phase_enter, if_neg different, phase_mk]
  | spins => rfl

theorem Spin.serving_eq (spin : Spin lock thread (.underway next)) :
    next.nextServing = lock.nextServing := by
  cases spin <;> rfl

/-- A thread has the lock, or its ticket is served. -/
def Foremost (lock : TicketLock) (thread : ThreadId) : Prop :=
  lock.phase thread = .waiting lock.nextServing ∨ ∃ ticket, lock.phase thread = .holding ticket

/-- To be foremost is nothing that another thread on its way changes. -/
theorem Spin.foremost_iff (spin : Spin lock thread (.underway next)) (different : other ≠ thread) :
    Foremost next other ↔ Foremost lock other := by
  rw [Foremost, Foremost, spin.phase_eq different, spin.serving_eq]

namespace Numbered

theorem free (crowd : Finset ThreadId) :
    Numbered crowd 0 0 (fun _ => none) TicketLock.free where
  line := .empty
  serving := rfl
  issuing := rfl
  among thread number found := by cases found
  outside thread _ := rfl
  inside thread number found := by cases found

/-- No more tickets are out than there are threads. -/
theorem out_le_card (numbered : Numbered crowd served issued numberOf lock) :
    issued - served ≤ crowd.card := by
  have onto : Set.SurjOn (fun thread => (numberOf thread).getD 0) crowd
      (Finset.Ico served issued) := by
    intro number out
    obtain ⟨above, below⟩ := Finset.mem_Ico.mp (Finset.mem_coe.mp out)
    obtain ⟨thread, found⟩ := numbered.line.taken number above below
    exact ⟨thread, numbered.among thread number found, by simp only [found, Option.getD_some]⟩
  have few := Finset.card_le_card_of_surjOn _ onto
  rwa [Nat.card_Ico] at few

/-- In a crowd that is not too large only the ticket that is served looks like it. -/
theorem number_eq (numbered : Numbered crowd served issued numberOf lock)
    (few : crowd.card ≤ UInt64.size) (found : numberOf thread = some number)
    (same : UInt64.ofNat number = UInt64.ofNat served) : number = served := by
  obtain ⟨above, below⟩ := numbered.line.within thread number found
  have out := numbered.out_le_card
  have wrapped := congrArg UInt64.toNat same
  simp only [UInt64.toNat_ofNat'] at wrapped
  simp only [UInt64.size] at few
  omega

/-- Where a thread is tells its ticket. -/
theorem ticket_of_waiting (numbered : Numbered crowd served issued numberOf lock)
    {ticket : UInt64} (waits : lock.phase thread = .waiting ticket) :
    ∃ number, numberOf thread = some number ∧ ticket = UInt64.ofNat number := by
  cases found : numberOf thread with
  | none => cases waits.symm.trans (numbered.outside thread found)
  | some number =>
    refine ⟨number, rfl, ?_⟩
    rcases numbered.inside thread number found with waiting | ⟨_, holding⟩
    · cases waits.symm.trans waiting
      rfl
    · cases waits.symm.trans holding

/-- Whoever has a guard has the ticket that is served. -/
theorem ticket_of_holding (numbered : Numbered crowd served issued numberOf lock)
    {ticket : UInt64} (holds : lock.phase thread = .holding ticket) :
    numberOf thread = some served ∧ ticket = lock.nextServing := by
  cases found : numberOf thread with
  | none => cases holds.symm.trans (numbered.outside thread found)
  | some number =>
    rcases numbered.inside thread number found with waiting | ⟨rfl, holding⟩
    · cases holds.symm.trans waiting
    · cases holds.symm.trans holding
      exact ⟨rfl, rfl⟩

theorem without (numbered : Numbered crowd served issued numberOf lock)
    (outside : lock.phase thread = .outside) : numberOf thread = none := by
  cases found : numberOf thread with
  | none => rfl
  | some number =>
    rcases numbered.inside thread number found with waiting | ⟨_, holding⟩
    · cases outside.symm.trans waiting
    · cases outside.symm.trans holding

/-- A thread takes the next ticket and waits. -/
theorem queues (numbered : Numbered crowd served issued numberOf lock) (isMember : thread ∈ crowd)
    (outside : lock.phase thread = .outside) :
    Numbered crowd served (issued + 1) (Function.update numberOf thread (some issued))
      ({ lock with nextTicket := lock.nextTicket + 1 }.enter thread
        (.waiting lock.nextTicket)) where
  line := numbered.line.joins (numbered.without outside)
  serving := numbered.serving
  issuing := by rw [nextTicket_enter, numbered.issuing, UInt64.ofNat_add]; rfl
  among other number found := by
    rw [Function.update_apply] at found
    split at found
    · next same => exact same ▸ isMember
    · exact numbered.among other number found
  outside other without := by
    rw [Function.update_apply] at without
    rw [phase_enter, phase_mk]
    split at without
    · cases without
    · next different =>
      rw [if_neg different]
      exact numbered.outside other without
  inside other number found := by
    rw [Function.update_apply] at found
    rw [phase_enter, phase_mk]
    split at found
    · next same =>
      cases found
      exact .inl (by rw [if_pos same, numbered.issuing])
    · next different =>
      rw [if_neg different]
      exact numbered.inside other number found

/-- A thread whose ticket is served has a guard. -/
theorem serves (numbered : Numbered crowd served issued numberOf lock)
    (isNext : numberOf thread = some served) :
    Numbered crowd served issued numberOf (lock.enter thread (.holding lock.nextServing)) where
  line := numbered.line
  serving := numbered.serving
  issuing := numbered.issuing
  among := numbered.among
  outside other without := by
    rw [phase_enter, if_neg]
    · exact numbered.outside other without
    · rintro rfl
      cases without.symm.trans isNext
  inside other number found := by
    rw [phase_enter]
    split
    · next same =>
      subst same
      cases found.symm.trans isNext
      exact .inr ⟨rfl, rfl⟩
    · exact numbered.inside other number found

/-- A thread drops its guard. -/
theorem releases (numbered : Numbered crowd served issued numberOf lock) {ticket : UInt64}
    (held : lock.phase thread = .holding ticket) :
    Numbered crowd (served + 1) issued (Function.update numberOf thread none)
      ({ lock with nextServing := ticket + 1 }.enter thread .outside) := by
  obtain ⟨isNext, rfl⟩ := numbered.ticket_of_holding held
  have others : ∀ other number, Function.update numberOf thread none other = some number →
      other ≠ thread ∧ numberOf other = some number := by
    intro other number found
    rw [Function.update_apply] at found
    split at found
    · cases found
    · next different => exact ⟨different, found⟩
  refine ⟨numbered.line.leaves isNext, ?_, numbered.issuing, fun other number found => ?_,
    fun other without => ?_, fun other number found => ?_⟩
  · rw [UInt64.ofNat_add, ← numbered.serving]
    rfl
  · exact numbered.among other number (others other number found).2
  · rw [Function.update_apply] at without
    rw [phase_enter, phase_mk]
    split at without
    · next same => rw [if_pos same]
    · next different =>
      rw [if_neg different]
      exact numbered.outside other without
  · obtain ⟨different, before⟩ := others other number found
    rw [phase_enter, phase_mk, if_neg different]
    refine (numbered.inside other number before).imp_right fun ⟨same, _⟩ => ?_
    exact absurd (numbered.line.own other thread served (same ▸ before) isNext) different

/-- What a thread of the crowd does about the lock. -/
theorem spin (numbered : Numbered crowd served issued numberOf lock) (thread : ThreadId) :
    Spin lock thread (approachTicketLock lock thread) := by
  rw [approachTicketLock]
  split
  · next holding => exact .inside holding
  · next ticket waiting =>
    by_cases isServed : lock.nextServing = ticket
    · subst isServed
      rw [run_cons ((step_look waiting).trans (if_pos rfl)), run_nil]
      exact .served waiting
    · rw [run_cons ((step_look waiting).trans (if_neg isServed)), run_nil]
      exact .spins waiting isServed
  · next notHolding notWaiting =>
    have outside : lock.phase thread = .outside := by
      cases found : numberOf thread with
      | none => exact numbered.outside thread found
      | some number =>
        rcases numbered.inside thread number found with waiting | ⟨_, holding⟩
        · exact absurd waiting (notWaiting _)
        · exact absurd holding (notHolding _)
    rw [run_cons (step_takeTicket outside), run_nil]
    exact .queues outside

theorem spin_underway (numbered : Numbered crowd served issued numberOf lock)
    (underway : approachTicketLock lock thread = .underway next) :
    Spin lock thread (.underway next) :=
  underway ▸ numbered.spin thread

theorem holds_of_inside (numbered : Numbered crowd served issued numberOf lock)
    (inside : approachTicketLock lock thread = .inside) :
    ∃ ticket, lock.phase thread = .holding ticket := by
  cases (inside ▸ numbered.spin thread : Spin lock thread .inside) with
  | inside holds => exact ⟨_, holds⟩

theorem unlock_eq {ticket : UInt64} (held : lock.phase thread = .holding ticket) :
    lock.unlock thread = { lock with nextServing := ticket + 1 }.enter thread .outside := by
  rw [unlock, run_cons (step_release held), run_nil]

end Numbered

/-- The thread that is next is the one with the ticket that is served. -/
theorem Numbered.foremost_iff (numbered : Numbered crowd served issued numberOf lock)
    (few : crowd.card ≤ UInt64.size) : Foremost lock thread ↔ numberOf thread = some served := by
  constructor
  · rintro (waits | ⟨ticket, holds⟩)
    · obtain ⟨number, found, same⟩ := numbered.ticket_of_waiting waits
      rw [← numbered.number_eq few found (same.symm.trans numbered.serving)]
      exact found
    · exact (numbered.ticket_of_holding holds).1
  · intro found
    refine (numbered.inside thread served found).imp (fun waits => ?_) fun holds => ⟨_, holds.2⟩
    rw [numbered.serving]
    exact waits

/-- How many steps a thread is from having a guard. -/
def looksLeft (lock : TicketLock) (thread : ThreadId) : Nat :=
  match lock.phase thread with
  | .outside => 2
  | .waiting _ => 1
  | .holding _ | .seen _ | .promised _ => 0

/-- The ticket lock, used by a crowd that its counters can number. -/
def spinning (crowd : Finset ThreadId) (few : crowd.card ≤ UInt64.size) :
    Discipline TicketLock where
  approach := approachTicketLock
  unlock := TicketLock.unlock
  member thread := thread ∈ crowd
  good lock := ∃ served issued numberOf, Numbered crowd served issued numberOf lock
  first := Foremost
  busy lock thread := lock.phase thread ≠ .outside
  steps := looksLeft
  steps_le lock thread := by
    unfold looksLeft
    split <;> omega
  good_underway := by
    rintro lock next thread ⟨served, issued, numberOf, numbered⟩ isMember underway
    cases numbered.spin_underway underway with
    | queues outside => exact ⟨_, _, _, numbered.queues isMember outside⟩
    | served waits =>
      exact ⟨_, _, _, numbered.serves ((numbered.foremost_iff few).mp (.inl waits))⟩
    | spins => exact ⟨_, _, _, numbered⟩
  good_unlock := by
    rintro lock thread ⟨served, issued, numberOf, numbered⟩ isMember inside
    obtain ⟨ticket, holds⟩ := numbered.holds_of_inside inside
    exact ⟨_, _, _, Numbered.unlock_eq holds ▸ numbered.releases holds⟩
  first_unique := by
    rintro lock thread other ⟨served, issued, numberOf, numbered⟩ one two
    exact numbered.line.own thread other served ((numbered.foremost_iff few).mp one)
      ((numbered.foremost_iff few).mp two)
  first_inside := by
    rintro lock thread ⟨served, issued, numberOf, numbered⟩ isMember inside
    exact .inr (numbered.holds_of_inside inside)
  first_underway := by
    rintro lock next thread other ⟨served, issued, numberOf, numbered⟩ isMember isFirst underway
    have spin := numbered.spin_underway underway
    by_cases same : thread = other
    · subst same
      cases spin with
      | queues outside =>
        rcases isFirst with waits | ⟨ticket, holds⟩
        · cases waits.symm.trans outside
        · cases holds.symm.trans outside
      | served => exact .inr ⟨_, phase_enter_self _ _ _⟩
      | spins => exact isFirst
    · exact (spin.foremost_iff same).mpr isFirst
  comes := by
    rintro lock thread ⟨served, issued, numberOf, numbered⟩ isMember clear
    cases turn : approachTicketLock lock thread with
    | inside => exact .inl rfl
    | underway next =>
      have spin := numbered.spin_underway turn
      refine .inr ⟨next, rfl, fun other isFirst => ?_, ?_⟩
      · by_contra different
        exact different (clear other ((spin.foremost_iff different).mp isFirst))
      · cases spin with
        | queues outside =>
          simp only [looksLeft, phase_enter_self, outside]
          decide
        | served waits =>
          simp only [looksLeft, phase_enter_self, waits]
          decide
        | spins waits notYet =>
          -- Some thread has the ticket that is served, and nobody is before this one.
          obtain ⟨number, found, rfl⟩ := numbered.ticket_of_waiting waits
          obtain ⟨above, below⟩ := numbered.line.within thread number found
          obtain ⟨other, ready⟩ := numbered.line.taken served (Nat.le_refl _) (by omega)
          have own := clear other ((numbered.foremost_iff few).mpr ready)
          subst own
          cases found.symm.trans ready
          exact absurd numbered.serving notYet
  busy_first := by
    rintro lock thread - (waits | ⟨ticket, holds⟩) outside
    · cases waits.symm.trans outside
    · cases holds.symm.trans outside
  busy_underway := by
    rintro lock next thread other ⟨served, issued, numberOf, numbered⟩ isMember underway isBusy
    by_cases same : other = thread
    · exact .inl same
    · exact .inr ((numbered.spin_underway underway).phase_eq same ▸ isBusy)
  busy_unlock := by
    rintro lock thread other ⟨served, issued, numberOf, numbered⟩ isMember inside isBusy
    obtain ⟨ticket, holds⟩ := numbered.holds_of_inside inside
    rw [Numbered.unlock_eq holds, phase_enter, phase_mk] at isBusy
    split at isBusy
    · exact absurd rfl isBusy
    · next different => exact ⟨different, isBusy⟩

/-- Threads that count under a ticket lock make all their additions, and none is lost, if the
lock's counters can tell the threads apart. -/
theorem underTicketLock_eq (threads rounds : Nat) (few : threads ≤ UInt64.size) :
    underTicketLock threads rounds = threads * rounds := by
  have crowded : (Finset.Icc 1 threads).card ≤ UInt64.size := by
    rw [Nat.card_Icc]
    omega
  refine (spinning (Finset.Icc 1 threads) crowded).total_eq rounds
    ⟨0, 0, fun _ => none, .free _⟩ (fun index among => ?_) fun thread isBusy => isBusy rfl
  exact Finset.mem_Icc.mpr ⟨Nat.succ_pos index, among⟩

end VirtualMemory.Counting
