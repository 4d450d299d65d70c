/-
Module: VirtualMemory.Proofs.Lock.Tickets
Purpose: However the steps of threads are interleaved, a ticket lock gives out one guard at a
  time, in the order of the tickets.
Main exports:
  TicketLock.Phase.ticket?, ticketOf; Turn, Ledger and its take and play; Effect,
  effect_of_step; TicketLine, Ledger.Fair, Ledger.InOrder, serves_in_order

The lock does not ask who calls it. A thread that calls again while it has a guard, or that
gives its guard away, takes part as two threads.
-/
import Mathlib.Logic.Function.Basic
import VirtualMemory.Lock.Ticket

namespace VirtualMemory

namespace TicketLock

/-! ### Tickets and turns -/

/-- The ticket that a thread waits with or has a guard for. -/
def Phase.ticket? : Phase → Option Nat
  | .waiting ticket | .holding ticket => some ticket.toNat
  | _ => none

/-- The ticket for which a thread has a guard. -/
def Phase.guard? : Phase → Option UInt64
  | .holding ticket => some ticket
  | _ => none

/-- Whether a step is one of a thread that tries to get the lock. -/
def Move.tries : Move → Bool
  | .readTicket | .readServing | .swap | .swapSpuriously => true
  | .takeTicket | .look | .release => false

/-- A thread and the step that it takes. -/
structure Turn where
  thread : ThreadId
  move : Move
deriving DecidableEq, Repr

variable {lock next : TicketLock} {thread other : ThreadId} {move : Move}

/-- The ticket of a thread, if it has a guard or waits for one. -/
def ticketOf (lock : TicketLock) (thread : ThreadId) : Option Nat :=
  (lock.phase thread).ticket?

@[simp] theorem phase_enter (phase : Phase) :
    (lock.enter thread phase).phase other =
      if other = thread then phase else lock.phase other := by
  simp only [TicketLock.phase, enter, Std.ExtTreeMap.getElem?_insert,
    Std.LawfulEqCmp.compare_eq_iff_eq, eq_comm (a := thread)]
  split <;> rfl

@[simp] theorem phase_mk (lock : TicketLock) (ticket serving : UInt64) :
    TicketLock.phase ⟨ticket, serving, lock.phases⟩ thread = lock.phase thread := rfl

@[simp] theorem nextTicket_enter (phase : Phase) :
    (lock.enter thread phase).nextTicket = lock.nextTicket := rfl

/-- Another thread is where it was. -/
theorem phase_enter_cases {entered found : Phase}
    (after : (lock.enter thread entered).phase other = found) :
    (other = thread ∧ entered = found) ∨ (other ≠ thread ∧ lock.phase other = found) := by
  rw [phase_enter] at after
  split at after
  · exact .inl ⟨‹_›, after⟩
  · exact .inr ⟨‹_›, after⟩

/-- To enter a phase gives a thread the ticket of that phase. -/
theorem ticketOf_enter (lock : TicketLock) (thread : ThreadId) (phase : Phase) :
    (lock.enter thread phase).ticketOf = Function.update lock.ticketOf thread phase.ticket? := by
  funext other
  rw [ticketOf, phase_enter, Function.update_apply]
  split <;> rfl

/-- A thread holds the lock if it has a guard for some ticket. -/
theorem holds_iff : lock.holds thread = true ↔ ∃ ticket, lock.phase thread = .holding ticket := by
  rw [holds]
  split
  · rename_i ticket held
    exact ⟨fun _ => ⟨ticket, held⟩, fun _ => rfl⟩
  · rename_i others
    constructor
    · intro impossible
      cases impossible
    · rintro ⟨ticket, held⟩
      exact absurd held (others ticket)

/-! ### What a step can do -/

/-- How a thread that tries to get the lock comes on, without touching the lock. -/
inductive Attempt (lock : TicketLock) : Move → Phase → Phase → Prop where
  | started : Attempt lock .readTicket .outside (.seen lock.nextTicket)
  | promised : Attempt lock .readServing (.seen lock.nextServing) (.promised lock.nextServing)
  | refused {ticket : UInt64} :
      lock.nextServing ≠ ticket → Attempt lock .readServing (.seen ticket) .outside
  | overtaken {ticket : UInt64} :
      lock.nextTicket ≠ ticket → Attempt lock .swap (.promised ticket) (.seen lock.nextTicket)
  | spurious {ticket : UInt64} :
      Attempt lock .swapSpuriously (.promised ticket) (.seen lock.nextTicket)

/-- All that may become of a lock when a thread takes a step. -/
inductive Effect (lock : TicketLock) (thread : ThreadId) : Move → TicketLock → Prop where
  /-- It takes the next ticket and waits. -/
  | queues :
      lock.phase thread = .outside →
      Effect lock thread .takeTicket
        ({ lock with nextTicket := lock.nextTicket + 1 }.enter thread (.waiting lock.nextTicket))
  /-- Its ticket is served. -/
  | served :
      lock.phase thread = .waiting lock.nextServing →
      Effect lock thread .look (lock.enter thread (.holding lock.nextServing))
  /-- Its ticket is not served yet. -/
  | spins {ticket : UInt64} :
      lock.phase thread = .waiting ticket → lock.nextServing ≠ ticket →
      Effect lock thread .look lock
  /-- It comes on, or goes back, in its attempt. -/
  | attempts {move : Move} {old new : Phase} :
      lock.phase thread = old → Attempt lock move old new →
      Effect lock thread move (lock.enter thread new)
  /-- It takes the next ticket and has the lock. -/
  | swaps :
      lock.phase thread = .promised lock.nextTicket →
      Effect lock thread .swap
        ({ lock with nextTicket := lock.nextTicket + 1 }.enter thread (.holding lock.nextTicket))
  /-- It has the next ticket served. -/
  | releases {ticket : UInt64} :
      lock.phase thread = .holding ticket →
      Effect lock thread .release ({ lock with nextServing := ticket + 1 }.enter thread .outside)

/-- All that a step can do is listed. -/
theorem effect_of_step (stepped : lock.step thread move = some next) :
    Effect lock thread move next := by
  unfold step at stepped
  cases move <;> cases at_phase : lock.phase thread <;>
    simp only [at_phase, reduceCtorEq, Option.some.injEq] at stepped
  case takeTicket.outside => exact stepped ▸ .queues at_phase
  case look.waiting ticket =>
    split at stepped
    · rename_i same
      cases stepped
      subst same
      exact .served at_phase
    · rename_i different
      cases stepped
      exact .spins at_phase different
  case readTicket.outside => exact stepped ▸ .attempts at_phase .started
  case readServing.seen ticket =>
    split at stepped
    · rename_i same
      cases stepped
      subst same
      exact .attempts at_phase .promised
    · rename_i different
      cases stepped
      exact .attempts at_phase (.refused different)
  case swap.promised ticket =>
    split at stepped
    · rename_i same
      cases stepped
      subst same
      exact .swaps at_phase
    · rename_i different
      cases stepped
      exact .attempts at_phase (.overtaken different)
  case swapSpuriously.promised => exact stepped ▸ .attempts at_phase .spurious
  case release.holding => exact stepped ▸ .releases at_phase

/-- A step of an attempt that does not get a guard leaves the counters and the other threads
alone. -/
theorem step_harmless (tries : move.tries = true) (stepped : lock.step thread move = some next)
    (failed : next.holds thread = false) :
    next.nextTicket = lock.nextTicket ∧ next.nextServing = lock.nextServing ∧
      ∀ other, other ≠ thread → next.phase other = lock.phase other := by
  cases effect_of_step stepped with
  | queues | served | spins | releases => cases tries
  | attempts =>
    refine ⟨rfl, rfl, fun other different => ?_⟩
    rw [phase_enter, if_neg different]
  | swaps =>
    rw [holds, phase_enter, if_pos rfl] at failed
    cases failed

theorem step_takeTicket (outside : lock.phase thread = .outside) :
    lock.step thread .takeTicket =
      some ({ lock with nextTicket := lock.nextTicket + 1 }.enter thread
        (.waiting lock.nextTicket)) := by
  unfold step
  rw [outside]

theorem step_look {ticket : UInt64} (waits : lock.phase thread = .waiting ticket) :
    lock.step thread .look =
      if lock.nextServing = ticket then some (lock.enter thread (.holding ticket))
      else some lock := by
  unfold step
  rw [waits]

theorem step_release {ticket : UInt64} (held : lock.phase thread = .holding ticket) :
    lock.step thread .release =
      some ({ lock with nextServing := ticket + 1 }.enter thread .outside) := by
  unfold step
  rw [held]

theorem step_readTicket (outside : lock.phase thread = .outside) :
    lock.step thread .readTicket = some (lock.enter thread (.seen lock.nextTicket)) := by
  unfold step
  rw [outside]

theorem step_readServing {ticket : UInt64} (seen : lock.phase thread = .seen ticket) :
    lock.step thread .readServing =
      if lock.nextServing = ticket then some (lock.enter thread (.promised ticket))
      else some (lock.enter thread .outside) := by
  unfold step
  rw [seen]

theorem step_swap {ticket : UInt64} (promised : lock.phase thread = .promised ticket) :
    lock.step thread .swap =
      if lock.nextTicket = ticket then
        some ({ lock with nextTicket := ticket + 1 }.enter thread (.holding ticket))
      else some (lock.enter thread (.seen lock.nextTicket)) := by
  unfold step
  rw [promised]

theorem step_swap_outside (outside : lock.phase thread = .outside) :
    lock.step thread .swap = none := by
  unfold step
  rw [outside]

theorem run_nil (lock : TicketLock) (thread : ThreadId) : lock.run thread [] = lock := rfl

/-- A step that is possible is taken. -/
theorem run_cons {moves : List Move} (stepped : lock.step thread move = some next) :
    lock.run thread (move :: moves) = next.run thread moves := by
  rw [run, List.foldl_cons, stepped]
  rfl

/-- A step that is not possible is left out. -/
theorem run_skip {moves : List Move} (impossible : lock.step thread move = none) :
    lock.run thread (move :: moves) = lock.run thread moves := by
  rw [run, List.foldl_cons, impossible]
  rfl

theorem phase_enter_self (lock : TicketLock) (thread : ThreadId) (phase : Phase) :
    (lock.enter thread phase).phase thread = phase := by
  rw [phase_enter, if_pos rfl]

/-- An attempt without others in between gets a lock that is free. -/
theorem tryLock_of_free (outside : lock.phase thread = .outside)
    (free : lock.nextServing = lock.nextTicket) : (lock.tryLock thread).1 = true := by
  have seen := phase_enter_self lock thread (.seen lock.nextTicket)
  have promised := phase_enter_self (lock.enter thread (.seen lock.nextTicket)) thread
    (.promised lock.nextTicket)
  have first := step_readTicket outside
  have second := (step_readServing seen).trans (if_pos free)
  have third := (step_swap promised).trans (if_pos rfl)
  simp only [tryLock, run_cons first, run_cons second, run_cons third, run_nil, holds,
    phase_enter_self, outside, Bool.not_false, Bool.and_true]

/-- An attempt without others in between gives up where the lock is not free. -/
theorem tryLock_of_locked (outside : lock.phase thread = .outside)
    (locked : lock.nextServing ≠ lock.nextTicket) :
    lock.tryLock thread =
      (false, (lock.enter thread (.seen lock.nextTicket)).enter thread .outside) := by
  have seen := phase_enter_self lock thread (.seen lock.nextTicket)
  have back := phase_enter_self (lock.enter thread (.seen lock.nextTicket)) thread .outside
  have first := step_readTicket outside
  have second := (step_readServing seen).trans (if_neg locked)
  have third := step_swap_outside back
  simp only [tryLock, run_cons first, run_cons second, run_skip third, run_nil, holds, back,
    Bool.false_and]

/-! ### Tickets that are out -/

/-- The tickets from the one that is served to the next one are out, each with one thread. -/
structure TicketLine (serving next : Nat) (ticketOf : ThreadId → Option Nat) : Prop where
  behind : serving ≤ next
  within : ∀ thread ticket, ticketOf thread = some ticket → serving ≤ ticket ∧ ticket < next
  taken : ∀ ticket, serving ≤ ticket → ticket < next → ∃ thread, ticketOf thread = some ticket
  own : ∀ first second ticket, ticketOf first = some ticket → ticketOf second = some ticket →
    first = second

namespace TicketLine

variable {serving next : Nat} {ticketOf : ThreadId → Option Nat}

/-- Before anyone came, no ticket is out. -/
theorem empty : TicketLine 0 0 fun _ => none where
  behind := Nat.le_refl 0
  within thread ticket found := by cases found
  taken ticket _ below := absurd below (Nat.not_lt_zero ticket)
  own first second ticket found := by cases found

/-- A thread without a ticket takes the next one. -/
theorem joins (line : TicketLine serving next ticketOf) (without : ticketOf thread = none) :
    TicketLine serving (next + 1) (Function.update ticketOf thread (some next)) := by
  have cases_of : ∀ other ticket, Function.update ticketOf thread (some next) other = some ticket →
      (other = thread ∧ ticket = next) ∨ (other ≠ thread ∧ ticketOf other = some ticket) := by
    intro other ticket found
    rw [Function.update_apply] at found
    split at found
    · rename_i same
      exact .inl ⟨same, (Option.some.inj found).symm⟩
    · rename_i different
      exact .inr ⟨different, found⟩
  constructor
  case behind => exact Nat.le_succ_of_le line.behind
  case within =>
    intro other ticket found
    cases cases_of other ticket found with
    | inl new =>
      rw [new.2]
      exact ⟨line.behind, Nat.lt_succ_self next⟩
    | inr old =>
      obtain ⟨above, below⟩ := line.within other ticket old.2
      exact ⟨above, Nat.lt_succ_of_lt below⟩
  case taken =>
    intro ticket above below
    by_cases last : ticket = next
    · subst last
      exact ⟨thread, Function.update_self thread _ ticketOf⟩
    · obtain ⟨other, found⟩ := line.taken ticket above (by omega)
      refine ⟨other, ?_⟩
      rw [Function.update_of_ne, found]
      rintro rfl
      rw [without] at found
      cases found
  case own =>
    intro first second ticket one two
    cases cases_of first ticket one with
    | inl newOne =>
      cases cases_of second ticket two with
      | inl newTwo => rw [newOne.1, newTwo.1]
      | inr oldTwo =>
        have below := (line.within second ticket oldTwo.2).2
        omega
    | inr oldOne =>
      cases cases_of second ticket two with
      | inl newTwo =>
        have below := (line.within first ticket oldOne.2).2
        omega
      | inr oldTwo => exact line.own first second ticket oldOne.2 oldTwo.2

/-- The thread whose ticket is served gives it back. -/
theorem leaves (line : TicketLine serving next ticketOf) (first : ticketOf thread = some serving) :
    TicketLine (serving + 1) next (Function.update ticketOf thread none) := by
  have others : ∀ other ticket, Function.update ticketOf thread none other = some ticket →
      other ≠ thread ∧ ticketOf other = some ticket := by
    intro other ticket found
    rw [Function.update_apply] at found
    split at found
    · cases found
    · exact ⟨‹_›, found⟩
  constructor
  case behind => exact (line.within thread serving first).2
  case within =>
    intro other ticket found
    obtain ⟨different, old⟩ := others other ticket found
    obtain ⟨above, below⟩ := line.within other ticket old
    have later : ticket ≠ serving := by
      rintro rfl
      exact different (line.own other thread ticket old first)
    omega
  case taken =>
    intro ticket above below
    obtain ⟨other, found⟩ := line.taken ticket (Nat.le_of_succ_le above) below
    refine ⟨other, ?_⟩
    rw [Function.update_of_ne, found]
    rintro rfl
    have same : serving = ticket := Option.some.inj (first.symm.trans found)
    exact Nat.not_succ_le_self ticket (same ▸ above)
  case own =>
    intro one two ticket foundOne foundTwo
    exact line.own one two ticket (others one ticket foundOne).2 (others two ticket foundTwo).2

end TicketLine

/-! ### Runs -/

/-- A lock, with what has been given out so far. -/
structure Ledger where
  lock : TicketLock := free
  /-- How many tickets were issued. -/
  issued : Nat := 0
  /-- The tickets that guards were given for, in the order in which they were given. -/
  granted : List UInt64 := []

namespace Ledger

variable {ledger : Ledger} {turn : Turn}

/-- A turn, which is none if its step is not possible. A ticket is issued when the next one
becomes another. A step that ends with a guard has just got it, for all that a thread can do
with a guard is to drop it. -/
def take (ledger : Ledger) (turn : Turn) : Ledger :=
  match ledger.lock.step turn.thread turn.move with
  | none => ledger
  | some next =>
      { lock := next
        issued :=
          if next.nextTicket = ledger.lock.nextTicket then ledger.issued else ledger.issued + 1
        granted := ledger.granted ++ (next.phase turn.thread).guard?.toList }

/-- Turns, one after another. -/
def play (ledger : Ledger) (turns : List Turn) : Ledger :=
  turns.foldl take ledger

/-- A turn takes no ticket back. -/
theorem issued_le_take (ledger : Ledger) (turn : Turn) :
    ledger.issued ≤ (ledger.take turn).issued := by
  rw [take]
  split
  · exact Nat.le_refl _
  · dsimp only
    split
    · exact Nat.le_refl _
    · exact Nat.le_succ _

/-- No run takes a ticket back. -/
theorem issued_le_play (ledger : Ledger) (turns : List Turn) :
    ledger.issued ≤ (ledger.play turns).issued := by
  induction turns generalizing ledger with
  | nil => exact Nat.le_refl _
  | cons turn turns ih => exact Nat.le_trans (ledger.issued_le_take turn) (ih (ledger.take turn))

/-- How many tickets a counter of 64 bits can number, so that the one after the last still has
a number. -/
def ticketLimit : Nat := UInt64.size - 1

theorem succ_ne_self (ticket : UInt64) : ¬ ticket + 1 = ticket := by simp

/-- While there are numbers left, the next ticket has the next number. -/
theorem toNat_succ {ticket : UInt64} (below : ticket.toNat < ticketLimit) :
    (ticket + 1).toNat = ticket.toNat + 1 := by
  rw [UInt64.toNat_add]
  exact Nat.mod_eq_of_lt (Nat.succ_lt_succ below)

/-- What the counters, the phases of the threads and what was given out have to do with each
other as long as the counters do not overflow. -/
structure Fair (ledger : Ledger) : Prop where
  counted : ledger.lock.nextTicket.toNat = ledger.issued
  line : TicketLine ledger.lock.nextServing.toNat ledger.lock.nextTicket.toNat
    ledger.lock.ticketOf
  /-- A guard is for the ticket that is served, and was the last to be given. -/
  guarded : ∀ thread ticket, ledger.lock.phase thread = .holding ticket →
    ticket = ledger.lock.nextServing ∧
      ledger.granted.length = ledger.lock.nextServing.toNat + 1
  /-- While there is no guard, all that were given have been dropped. -/
  unguarded : (∀ thread ticket, ledger.lock.phase thread ≠ .holding ticket) →
    ledger.granted.length = ledger.lock.nextServing.toNat
  /-- A thread that found its ticket served did so when no later one was. -/
  promised : ∀ thread ticket, ledger.lock.phase thread = .promised ticket →
    ticket.toNat ≤ ledger.lock.nextServing.toNat
  inTurn : ledger.granted.map UInt64.toNat = List.range ledger.granted.length

namespace Fair

/-- A lock that nobody has used is fair. -/
theorem start : Fair {} where
  counted := rfl
  line := TicketLine.empty
  guarded thread ticket held := by cases held
  unguarded _ := rfl
  promised thread ticket promised := by cases promised
  inTurn := rfl

/-- Whoever has a guard has a ticket. -/
theorem ticketOf_of_holding {lock : TicketLock} {thread : ThreadId} {ticket : UInt64}
    (held : lock.phase thread = .holding ticket) :
    lock.ticketOf thread = some ticket.toNat := by
  rw [ticketOf, held]
  rfl

/-- Nobody else has a guard when the ticket of a thread is served. -/
theorem holder_is (fair : ledger.Fair) {thread other : ThreadId} {ticket : UInt64}
    (served : ledger.lock.ticketOf thread = some ledger.lock.nextServing.toNat)
    (held : ledger.lock.phase other = .holding ticket) : other = thread := by
  have same := (fair.guarded other ticket held).1
  have ticketOf := ticketOf_of_holding held
  rw [same] at ticketOf
  exact fair.line.own other thread _ ticketOf served

/-- A guard for the next ticket keeps the guards in the order of the tickets. -/
theorem inTurn_append (fair : ledger.Fair) {ticket : UInt64}
    (length : ledger.granted.length = ticket.toNat) :
    (ledger.granted ++ [ticket]).map UInt64.toNat =
      List.range (ledger.granted ++ [ticket]).length := by
  rw [List.map_append, fair.inTurn, List.length_append, List.length_singleton, List.range_succ,
    length]
  rfl

/-- An attempt changes nothing as long as it does not succeed. -/
theorem attempts (fair : ledger.Fair) {thread : ThreadId} {move : Move} {old new : Phase}
    (at_phase : ledger.lock.phase thread = old) (attempt : Attempt ledger.lock move old new) :
    Fair { ledger with lock := ledger.lock.enter thread new } := by
  have without : old.ticket? = none ∧ new.ticket? = none := by cases attempt <;> exact ⟨rfl, rfl⟩
  have unguarded : ∀ ticket, new ≠ .holding ticket := by
    rintro ticket rfl
    cases without.2
  have same : (ledger.lock.enter thread new).ticketOf = ledger.lock.ticketOf := by
    rw [ticketOf_enter, without.2, ← without.1, ← at_phase]
    exact Function.update_eq_self thread ledger.lock.ticketOf
  constructor
  case counted => exact fair.counted
  case line => exact same ▸ fair.line
  case guarded =>
    intro other ticket held
    cases phase_enter_cases held with
    | inl here => exact absurd here.2 (unguarded ticket)
    | inr there => exact fair.guarded other ticket there.2
  case unguarded =>
    intro unheld
    apply fair.unguarded
    intro other ticket held
    apply unheld other ticket
    rw [phase_enter, if_neg, held]
    rintro rfl
    rw [← at_phase, held] at without
    cases without.1
  case promised =>
    intro other ticket found
    cases phase_enter_cases found with
    | inl here =>
      obtain ⟨-, rfl⟩ := here
      cases attempt
      exact Nat.le_refl _
    | inr there => exact fair.promised other ticket there.2
  case inTurn => exact fair.inTurn

/-- A thread takes the next ticket and waits. -/
theorem queues (fair : ledger.Fair) {thread : ThreadId}
    (outside : ledger.lock.phase thread = .outside) (fewer : ledger.issued + 1 < ticketLimit) :
    Fair { ledger with
      lock := { ledger.lock with nextTicket := ledger.lock.nextTicket + 1 }.enter thread
        (.waiting ledger.lock.nextTicket)
      issued := ledger.issued + 1 } := by
  have next : (ledger.lock.nextTicket + 1).toNat = ledger.lock.nextTicket.toNat + 1 :=
    toNat_succ (fair.counted ▸ Nat.lt_of_succ_lt fewer)
  have without : ledger.lock.ticketOf thread = none := by
    rw [ticketOf, outside]
    rfl
  constructor
  case counted => exact next.trans (congrArg (· + 1) fair.counted)
  case line =>
    rw [ticketOf_enter]
    exact next ▸ fair.line.joins without
  case guarded =>
    intro other ticket held
    cases phase_enter_cases held with
    | inl here => cases here.2
    | inr there => exact fair.guarded other ticket there.2
  case unguarded =>
    intro unheld
    apply fair.unguarded
    intro other ticket held
    apply unheld other ticket
    rw [phase_enter, if_neg, phase_mk, held]
    rintro rfl
    rw [outside] at held
    cases held
  case promised =>
    intro other ticket found
    cases phase_enter_cases found with
    | inl here => cases here.2
    | inr there => exact fair.promised other ticket there.2
  case inTurn => exact fair.inTurn

/-- A thread gets a guard for the ticket that is served. -/
theorem grants (fair : ledger.Fair) {thread : ThreadId} {next : UInt64}
    {issued : Nat} (counted : next.toNat = issued)
    (line : TicketLine ledger.lock.nextServing.toNat next.toNat
      (Function.update ledger.lock.ticketOf thread (some ledger.lock.nextServing.toNat)))
    (alone : ∀ other ticket, ledger.lock.phase other ≠ .holding ticket) :
    Fair {
      lock := { ledger.lock with nextTicket := next }.enter thread
        (.holding ledger.lock.nextServing)
      issued := issued
      granted := ledger.granted ++ [ledger.lock.nextServing] } := by
  have length := fair.unguarded alone
  constructor
  case counted => exact counted
  case line =>
    rw [ticketOf_enter]
    exact line
  case guarded =>
    intro other ticket held
    cases phase_enter_cases held with
    | inl here =>
      cases here.2
      exact ⟨rfl, by rw [List.length_append, length]; rfl⟩
    | inr there => exact absurd there.2 (alone other ticket)
  case unguarded =>
    intro unheld
    exact absurd (phase_enter_self _ _ _) (unheld thread ledger.lock.nextServing)
  case promised =>
    intro other ticket found
    cases phase_enter_cases found with
    | inl here => cases here.2
    | inr there => exact fair.promised other ticket there.2
  case inTurn => exact fair.inTurn_append length

/-- A waiter whose ticket is served gets a guard. -/
theorem served (fair : ledger.Fair) {thread : ThreadId}
    (waits : ledger.lock.phase thread = .waiting ledger.lock.nextServing) :
    Fair { ledger with
      lock := ledger.lock.enter thread (.holding ledger.lock.nextServing)
      granted := ledger.granted ++ [ledger.lock.nextServing] } := by
  have ticket : ledger.lock.ticketOf thread = some ledger.lock.nextServing.toNat := by
    rw [ticketOf, waits]
    rfl
  apply fair.grants fair.counted
  · rw [← ticket, Function.update_eq_self]
    exact fair.line
  · intro other held holding
    have same := fair.holder_is ticket holding
    rw [same, waits] at holding
    cases holding

/-- Where a thread swaps the next ticket in, no ticket is out. -/
theorem none_out (fair : ledger.Fair) {thread : ThreadId}
    (promised : ledger.lock.phase thread = .promised ledger.lock.nextTicket) :
    ledger.lock.nextServing = ledger.lock.nextTicket ∧
      ∀ other, ledger.lock.ticketOf other = none := by
  have reached := fair.promised thread _ promised
  constructor
  · exact UInt64.toNat_inj.mp (Nat.le_antisymm fair.line.behind reached)
  · intro other
    by_contra out
    obtain ⟨ticket, found⟩ := Option.ne_none_iff_exists'.mp out
    obtain ⟨above, below⟩ := fair.line.within other ticket found
    omega

/-- A thread takes the next ticket and has a guard at once. -/
theorem swaps (fair : ledger.Fair) {thread : ThreadId}
    (promised : ledger.lock.phase thread = .promised ledger.lock.nextTicket)
    (fewer : ledger.issued + 1 < ticketLimit) :
    Fair {
      lock := { ledger.lock with nextTicket := ledger.lock.nextTicket + 1 }.enter thread
        (.holding ledger.lock.nextTicket)
      issued := ledger.issued + 1
      granted := ledger.granted ++ [ledger.lock.nextTicket] } := by
  have next : (ledger.lock.nextTicket + 1).toNat = ledger.lock.nextTicket.toNat + 1 :=
    toNat_succ (fair.counted ▸ Nat.lt_of_succ_lt fewer)
  obtain ⟨served, free⟩ := fair.none_out promised
  rw [← served]
  apply fair.grants
  · rw [served, next, fair.counted]
  · rw [served, next]
    exact served ▸ fair.line.joins (free thread)
  · intro other ticket held
    cases (ticketOf_of_holding held).symm.trans (free other)

/-- A guard is dropped, and the next ticket is served. -/
theorem releases (fair : ledger.Fair) {thread : ThreadId} {ticket : UInt64}
    (held : ledger.lock.phase thread = .holding ticket) (fewer : ledger.issued < ticketLimit) :
    Fair { ledger with
      lock := { ledger.lock with nextServing := ticket + 1 }.enter thread .outside } := by
  obtain ⟨rfl, length⟩ := fair.guarded thread ticket held
  have ticket := ticketOf_of_holding held
  have below := (fair.line.within thread _ ticket).2
  have next : (ledger.lock.nextServing + 1).toNat = ledger.lock.nextServing.toNat + 1 :=
    toNat_succ (Nat.lt_trans below (fair.counted ▸ fewer))
  have alone : ∀ other ticket, other ≠ thread → ledger.lock.phase other ≠ .holding ticket :=
    fun other _ different holding => different (fair.holder_is ticket holding)
  constructor
  case counted => exact fair.counted
  case line =>
    rw [ticketOf_enter]
    exact next ▸ fair.line.leaves ticket
  case guarded =>
    intro other ticket holding
    cases phase_enter_cases holding with
    | inl here => cases here.2
    | inr there => exact absurd there.2 (alone other ticket there.1)
  case unguarded => exact fun _ => length.trans next.symm
  case promised =>
    intro other ticket found
    cases phase_enter_cases found with
    | inl here => cases here.2
    | inr there =>
      have reached := fair.promised other ticket there.2
      exact Nat.le_trans reached (next ▸ Nat.le_succ _)
  case inTurn => exact fair.inTurn

/-- No turn makes the lock unfair. -/
theorem take (fair : ledger.Fair) (turn : Turn)
    (fewer : (ledger.take turn).issued < ticketLimit) : (ledger.take turn).Fair := by
  obtain ⟨thread, move⟩ := turn
  cases stepped : ledger.lock.step thread move with
  | none =>
    simp only [Ledger.take, stepped]
    exact fair
  | some next =>
    simp only [Ledger.take, stepped] at fewer ⊢
    cases effect_of_step stepped with
    | queues outside =>
      simp only [nextTicket_enter, succ_ne_self, if_false, phase_enter, if_true, Phase.guard?,
        Option.toList_none, List.append_nil] at fewer ⊢
      exact fair.queues outside fewer
    | served waits =>
      simp only [nextTicket_enter, phase_enter, if_true, Phase.guard?, Option.toList_some]
      exact fair.served waits
    | spins waits later =>
      simp only [waits, if_true, Phase.guard?, Option.toList_none, List.append_nil]
      exact fair
    | @attempts _ old new at_phase attempt =>
      have unguarded : new.guard? = none := by cases attempt <;> rfl
      simp only [nextTicket_enter, phase_enter, if_true, unguarded, Option.toList_none,
        List.append_nil]
      exact fair.attempts at_phase attempt
    | swaps promised =>
      simp only [nextTicket_enter, succ_ne_self, if_false, phase_enter, if_true, Phase.guard?,
        Option.toList_some] at fewer ⊢
      exact fair.swaps promised fewer
    | releases held =>
      simp only [nextTicket_enter, phase_enter, if_true, Phase.guard?, Option.toList_none,
        List.append_nil] at fewer ⊢
      exact fair.releases held fewer

/-- A lock stays fair through a whole run. -/
theorem play (fair : ledger.Fair) (turns : List Turn)
    (fewer : (ledger.play turns).issued < ticketLimit) : (ledger.play turns).Fair := by
  induction turns generalizing ledger with
  | nil => exact fair
  | cons turn turns ih =>
    have sofar : (ledger.take turn).issued < ticketLimit :=
      Nat.lt_of_le_of_lt ((ledger.take turn).issued_le_play turns) fewer
    exact ih (fair.take turn sofar) fewer

end Fair

/-- What the users of a lock may rely on. -/
structure InOrder (ledger : Ledger) : Prop where
  /-- There is one guard at most. -/
  exclusive : ∀ first second, ledger.lock.holds first = true → ledger.lock.holds second = true →
    first = second
  /-- The tickets of guards and waiters are those from the one that is served up to the next. -/
  tickets : ∀ ticket, (∃ thread, ledger.lock.ticketOf thread = some ticket) ↔
    ledger.lock.nextServing.toNat ≤ ticket ∧ ticket < ledger.lock.nextTicket.toNat
  /-- Each of them is with one thread. -/
  own : ∀ first second ticket, ledger.lock.ticketOf first = some ticket →
    ledger.lock.ticketOf second = some ticket → first = second
  /-- Guards were given for all tickets from the first on, one after another. -/
  inTurn : ledger.granted.map UInt64.toNat = List.range ledger.granted.length
  /-- Whoever gets a guard by a swap does so while there is neither a guard nor a waiter. -/
  unrivalled : ∀ thread next, ledger.lock.step thread .swap = some next →
    next.holds thread = true → ∀ other, ledger.lock.ticketOf other = none
  /-- A step of an attempt that does not get a guard changes nothing but how far the attempt
  has come. -/
  harmless : ∀ thread (move : Move) next, move.tries = true →
    ledger.lock.step thread move = some next → next.holds thread = false →
    next.nextTicket = ledger.lock.nextTicket ∧ next.nextServing = ledger.lock.nextServing ∧
      ∀ other, other ≠ thread → next.phase other = ledger.lock.phase other
  /-- An attempt without others in between succeeds if the lock is free, and else changes
  nothing. -/
  attempted : ∀ thread, ledger.lock.phase thread = .outside →
    ((ledger.lock.tryLock thread).1 = true ↔ ledger.lock.isLocked = false) ∧
      ((ledger.lock.tryLock thread).1 = false →
        (ledger.lock.tryLock thread).2.nextTicket = ledger.lock.nextTicket ∧
        (ledger.lock.tryLock thread).2.nextServing = ledger.lock.nextServing ∧
        ∀ other, (ledger.lock.tryLock thread).2.phase other = ledger.lock.phase other)
  /-- The lock counts as free if there is neither a guard nor a waiter, and only then. -/
  free_iff : ledger.lock.isLocked = false ↔ ∀ thread, ledger.lock.ticketOf thread = none

/-- What keeps a lock fair says all that its users may rely on. -/
theorem Fair.inOrder (fair : ledger.Fair) : ledger.InOrder := by
  have free_iff : ledger.lock.isLocked = false ↔
      ledger.lock.nextServing = ledger.lock.nextTicket := by
    rw [isLocked, bne_eq_false_iff_eq]
  constructor
  case exclusive =>
    intro first second one two
    obtain ⟨ticket, held⟩ := holds_iff.mp one
    obtain ⟨other, heldToo⟩ := holds_iff.mp two
    have same := (fair.guarded second other heldToo).1
    exact fair.holder_is (same ▸ Fair.ticketOf_of_holding heldToo) held
  case tickets =>
    intro ticket
    constructor
    · rintro ⟨thread, found⟩
      exact fair.line.within thread ticket found
    · rintro ⟨above, below⟩
      exact fair.line.taken ticket above below
  case own => exact fair.line.own
  case inTurn => exact fair.inTurn
  case unrivalled =>
    intro thread next stepped got
    cases effect_of_step stepped with
    | attempts at_phase attempt =>
      cases attempt
      rw [holds, phase_enter, if_pos rfl] at got
      cases got
    | swaps promised => exact (fair.none_out promised).2
  case harmless =>
    intro thread move next tries stepped failed
    exact step_harmless tries stepped failed
  case attempted =>
    intro thread outside
    by_cases free : ledger.lock.nextServing = ledger.lock.nextTicket
    · have succeeds := tryLock_of_free outside free
      exact ⟨iff_of_true succeeds (free_iff.mpr free),
        fun fails => absurd succeeds (Bool.eq_false_iff.mp fails)⟩
    · rw [tryLock_of_locked outside free]
      refine ⟨iff_of_false Bool.false_ne_true fun counts => free (free_iff.mp counts),
        fun _ => ⟨rfl, rfl, fun other => ?_⟩⟩
      rw [phase_enter, phase_enter]
      split
      · rename_i same
        rw [same, outside]
      · rfl
  case free_iff =>
    rw [free_iff]
    constructor
    · intro same thread
      by_contra out
      obtain ⟨ticket, found⟩ := Option.ne_none_iff_exists'.mp out
      obtain ⟨above, below⟩ := fair.line.within thread ticket found
      rw [same] at above
      exact Nat.not_lt.mpr above below
    · intro without
      by_contra different
      have below : ledger.lock.nextServing.toNat < ledger.lock.nextTicket.toNat :=
        Nat.lt_of_le_of_ne fair.line.behind fun same => different (UInt64.toNat_inj.mp same)
      obtain ⟨thread, found⟩ := fair.line.taken _ (Nat.le_refl _) below
      cases (without thread).symm.trans found

/-- However the steps of any number of threads are interleaved, a ticket lock serves them in
order, as long as it has not issued as many tickets as its counters can number. -/
theorem serves_in_order (turns : List Turn)
    (fewer : (play {} turns).issued < UInt64.size - 1) : (play {} turns).InOrder := by
  apply Fair.inOrder
  exact Fair.start.play turns fewer

/-- Thread 1 finds the lock free and is overtaken by thread 2, which also drops its guard, before
it swaps. Then it tries again, and gets the lock while thread 3 comes too late. -/
def overtakenOnce : List Turn :=
  [⟨1, .readTicket⟩, ⟨1, .readServing⟩, ⟨2, .takeTicket⟩, ⟨2, .look⟩, ⟨2, .release⟩,
    ⟨1, .swap⟩, ⟨1, .readServing⟩, ⟨1, .swap⟩, ⟨3, .takeTicket⟩, ⟨3, .look⟩]

/-- The overtaken thread gets the lock in the end, and the late one waits. -/
theorem serves_in_order_overtaken :
    (play {} overtakenOnce).issued = 3 ∧ (play {} overtakenOnce).granted = [0, 1] ∧
      (play {} overtakenOnce).lock.phase 1 = .holding 1 ∧
      (play {} overtakenOnce).lock.phase 3 = .waiting 2 ∧ (play {} overtakenOnce).InOrder :=
  ⟨by decide +kernel, by decide +kernel, by decide +kernel, by decide +kernel,
    serves_in_order overtakenOnce (by decide +kernel)⟩

end Ledger

end TicketLock

end VirtualMemory
