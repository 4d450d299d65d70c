/-
Module: VirtualMemory.Proofs.Pager.Guards
Purpose: A page whose frame a guard pins keeps the frame, whatever is called for, as long
  as no call takes the frame from that very page.
Main exports:
  PagerCall.Takes, Guard, GuardedCall, GuardedSession and its step and run;
  GuardedSession.GuardsHold, guards_hold, guard_outlives_mapping

Pins stand against eviction. They do not stand against a call that maps the pinned page
anew or unmaps it, nor against the end of its process. Such a call gives the frame back
while the guard is still there, and the calls after it may give the frame to anyone.
-/
import VirtualMemory.Proofs.Pager.Session
import VirtualMemory.Proofs.Pager.Steady

namespace VirtualMemory

open VirtualMemory.Action Pager

variable {φ : Type}

/-- The calls that take a page: they are asked to map it anew or to unmap it. -/
def PagerCall.Takes : PagerCall φ → PageId → Prop
  | .newPage other _, page | .newPagePinned other _, page => page = other
  | .putTranslation pid entry, page => page = entry.page pid
  | .deallocate pid, page => page.pid = pid
  | .exit process, page => page.pid = process.pid
  | .serve process request, page => page.pid = process.pid ∧ process.Backs request page.vpn
  | _, _ => False

instance : ∀ (call : PagerCall φ) (page : PageId), Decidable (call.Takes page)
  | .newPage other _, page | .newPagePinned other _, page =>
      inferInstanceAs (Decidable (page = other))
  | .putTranslation pid entry, page => inferInstanceAs (Decidable (page = entry.page pid))
  | .deallocate pid, page => inferInstanceAs (Decidable (page.pid = pid))
  | .exit process, page => inferInstanceAs (Decidable (page.pid = process.pid))
  | .serve process request, page =>
      inferInstanceAs (Decidable (page.pid = process.pid ∧ process.Backs request page.vpn))
  | .getFreeFrame, _ | .returnFrame _, _ | .getTranslation _, _ | .getTranslationPinned _, _
  | .dropGuard _, _ | .loadFromSwap _, _ | .evictPage, _ | .reclaimOnce, _
  | .initializeSwap, _ | .terminate, _ | .start _ _, _ | .disturb _, _ =>
      inferInstanceAs (Decidable False)

/-- A guard that someone keeps. -/
structure Guard where
  page : PageId
  ppn : Ppn
  /-- Whether a call that takes the page has left it without the frame. -/
  surrendered : Bool := false
deriving DecidableEq, Repr

/-- A guard once a call has left the pager as it is now. -/
def Guard.after (guard : Guard) (call : PagerCall φ) (pager : Pager φ) : Guard :=
  if call.Takes guard.page ∧ pager.tables.frameOf guard.page ≠ some guard.ppn then
    { guard with surrendered := true }
  else guard

/-- A call of the pager, or a copy that is made while a guard is kept. -/
inductive GuardedCall (φ : Type) where
  | call (call : PagerCall φ)
  /-- Data is copied to the frame of the guard with a number. -/
  | copyIn (index : Nat) (offset : Nat) (data : Bytes)

/-- A pager in use, and the pages that the guards were asked for. -/
structure GuardedSession (φ : Type) extends PagerSession φ where
  /-- The guards that are kept, in the order of `guards`. -/
  ledger : List Guard := []

namespace GuardedSession

variable [FileSystem φ]

/-- The guards after a call that has left the session as it is now. -/
def ledgerAfter (session : GuardedSession φ) (call : PagerCall φ) (next : PagerSession φ) :
    List Guard :=
  match call with
  | .dropGuard index => session.ledger.eraseIdx index
  | .newPagePinned page _ | .getTranslationPinned page =>
      session.ledger.map (·.after call next.pager) ++
        (next.guards.drop session.guards.length).map fun ppn => { page := page, ppn := ppn }
  | _ => session.ledger.map (·.after call next.pager)

/-- The session after a call. -/
def step (session : GuardedSession φ) : GuardedCall φ → GuardedSession φ
  | .call call =>
      let next := session.toPagerSession.step call
      { next with ledger := session.ledgerAfter call next }
  | .copyIn index offset data =>
      match session.ledger[index]? with
      | none => session
      | some guard =>
          match session.pager.memory.write guard.ppn offset data with
          | .error _ => session
          | .ok (_, memory) => { session with pager := { session.pager with memory := memory } }

/-- The session after calls, one after another. -/
def run (session : GuardedSession φ) (calls : List (GuardedCall φ)) : GuardedSession φ :=
  calls.foldl step session

variable {session : GuardedSession φ} {config : Config} {guard : Guard} {page : PageId}
  {ppn : Ppn}

/-! ### What is known of the guards that are kept -/

/-- Every pin is the pin of a guard, and guards that were not surrendered are of pages that
are where they were. -/
structure Custody (config : Config) (session : GuardedSession φ) : Prop where
  balanced : session.toPagerSession.Balanced config
  aligned : session.ledger.map Guard.ppn = session.guards
  counted : ∀ ppn, session.pager.pins.count ppn = session.guards.count ppn
  inPlace : ∀ guard ∈ session.ledger, guard.surrendered = false →
    session.pager.tables.frameOf guard.page = some guard.ppn

omit [FileSystem φ] in
@[simp] theorem ppn_after (guard : Guard) (call : PagerCall φ) (pager : Pager φ) :
    (guard.after call pager).ppn = guard.ppn := by
  rw [Guard.after]
  split <;> rfl

namespace Custody

omit [FileSystem φ] in
theorem isPinned (custody : session.Custody config) (kept : guard ∈ session.ledger) :
    session.pager.pins.isPinned guard.ppn = true := by
  have accounts : Accounts config session.held session.pager := custody.balanced
  rw [PinSet.isPinned_iff accounts.pins, custody.counted, List.count_pos_iff, ← custody.aligned]
  exact List.mem_map_of_mem kept

omit [FileSystem φ] in
/-- A page that a guard was kept of is where it was, or the call that took it has made the
guard surrendered. -/
theorem inPlace_after (custody : session.Custody config) {call : PagerCall φ}
    {pager : Pager φ} {pinned : Option Ppn}
    (steady : Steady call.Takes pinned session.pager pager) (kept : guard ∈ session.ledger)
    (notSurrendered : (guard.after call pager).surrendered = false) :
    pager.tables.frameOf (guard.after call pager).page = some (guard.after call pager).ppn := by
  rw [Guard.after] at notSurrendered ⊢
  split at notSurrendered
  · cases notSurrendered
  · next spared =>
    rw [if_neg spared]
    by_cases takes : call.Takes guard.page
    · by_contra moved
      exact spared ⟨takes, moved⟩
    · exact steady.stays takes (custody.isPinned kept) (custody.inPlace guard kept notSurrendered)

omit [FileSystem φ] in
/-- A call that drops no guard, and answers one at most. -/
theorem keep (custody : session.Custody config) {call : PagerCall φ} {next : PagerSession φ}
    (page : PageId) (gained : Option Ppn) (balanced : next.Balanced config)
    (more : next.guards = session.guards ++ gained.toList)
    (steady : Steady call.Takes gained session.pager next.pager)
    (there : ∀ ppn ∈ gained, next.pager.tables.frameOf page = some ppn) :
    Custody config
      { next with
        ledger := session.ledger.map (·.after call next.pager) ++
          gained.toList.map fun ppn => { page := page, ppn := ppn } } where
  balanced := balanced
  aligned := by
    rw [more, ← custody.aligned, List.map_append, List.map_map, List.map_map]
    congr 1
    · exact List.map_congr_left fun guard _ => ppn_after guard call next.pager
    · exact List.map_id _
  counted := by
    intro ppn
    rw [more, List.count_append, ← custody.counted, steady.pins_eq]
    cases gained with
    | none => rfl
    | some found =>
      rw [Option.elim_some, PinSet.count_hold, Option.toList_some, List.count_singleton]
      simp only [beq_iff_eq]
  inPlace := by
    intro guard kept notSurrendered
    rcases List.mem_append.mp kept with before | new
    · obtain ⟨old, wasKept, rfl⟩ := List.mem_map.mp before
      exact custody.inPlace_after steady wasKept notSurrendered
    · obtain ⟨ppn, isGained, rfl⟩ := List.mem_map.mp new
      exact there ppn (Option.mem_toList.mp isGained)

omit [FileSystem φ] in
/-- A call that has nothing to do with guards. -/
theorem keepAll (custody : session.Custody config) {call : PagerCall φ} {next : PagerSession φ}
    (balanced : next.Balanced config) (same : next.guards = session.guards)
    (steady : Steady call.Takes none session.pager next.pager) :
    Custody config { next with ledger := session.ledger.map (·.after call next.pager) } := by
  have kept := custody.keep ⟨0, 0⟩ none balanced (by simpa using same) steady (by simp)
  simpa using kept

omit [FileSystem φ] in
/-- A call that may answer a guard. -/
theorem keepGuarding (custody : session.Custody config) {call : PagerCall φ}
    {action : PagerAction φ (Option TranslationEntry)}
    (balanced : (session.afterGuarding action).Balanced config)
    (ends : action.Ends session.pager (Guarded call.Takes session.pager page)) :
    Custody config
      { session.afterGuarding action with
        ledger := session.ledger.map (·.after call (session.afterGuarding action).pager) ++
          ((session.afterGuarding action).guards.drop session.guards.length).map
            fun ppn => { page := page, ppn := ppn } } := by
  rw [Ends] at ends
  simp only [PagerSession.afterGuarding] at balanced ⊢
  generalize action.outcome session.pager = ended at ends balanced ⊢
  rcases ended with ⟨_ | _ | entry, next⟩
  · simpa using custody.keepAll balanced rfl ends
  · simpa using custody.keepAll balanced rfl ends
  · have kept := custody.keep page (some entry.ppn) balanced rfl ends.1 (by simpa using ends.2)
    simpa using kept

omit [FileSystem φ] in
/-- A pin goes with its guard. -/
theorem drop (custody : session.Custody config) {index : Nat}
    (there : session.guards[index]? = some ppn) :
    Custody config
      { session with
        pager := session.pager.unpin ppn
        guards := session.guards.eraseIdx index
        ledger := session.ledger.eraseIdx index } where
  balanced := Accounts.unpin custody.balanced ppn
  aligned := by rw [← List.eraseIdx_map, custody.aligned]
  counted := PinSet.count_release_eraseIdx custody.counted there
  inPlace guard kept := custody.inPlace guard (List.mem_of_mem_eraseIdx kept)

theorem perform (custody : session.Custody config) (call : PagerCall φ) :
    (session.step (.call call)).Custody config := by
  have accounts : Accounts config session.held session.pager := custody.balanced
  have balanced := PagerSession.balanced_step custody.balanced call
  cases call with
  | getFreeFrame =>
    refine custody.keepAll balanced rfl ?_
    exact (getFreeFrame_ends accounts).mono fun _ _ obtained => obtained.steady
  | returnFrame ppn => exact custody.keepAll balanced rfl (returnFrame_steady session.pager ppn)
  | newPage page readOnly =>
    exact custody.keepAll balanced rfl (newPage_steady accounts page readOnly)
  | newPagePinned page readOnly =>
    exact custody.keepGuarding balanced (newPagePinned_guarded accounts page readOnly)
  | putTranslation pid entry =>
    exact custody.keepAll balanced rfl (putTranslation_steady accounts pid entry)
  | getTranslation page => exact custody.keepAll balanced rfl (.refl _ session.pager)
  | getTranslationPinned page =>
    exact custody.keepGuarding balanced (getTranslationPinned_guarded session.pager page)
  | dropGuard index =>
    cases there : session.guards[index]? with
    | some ppn =>
      simp only [step, ledgerAfter, PagerSession.step, there]
      exact custody.drop there
    | none =>
      have outside : session.ledger.length ≤ index := by
        rw [← List.length_map Guard.ppn, custody.aligned]
        exact List.getElem?_eq_none_iff.mp there
      simp only [step, ledgerAfter, PagerSession.step, there,
        List.eraseIdx_of_length_le outside]
      exact custody
  | loadFromSwap page =>
    refine custody.keepAll balanced rfl ?_
    exact (loadFromSwap_ends accounts page).mono fun _ _ broughtBack => broughtBack.steady
  | evictPage =>
    refine custody.keepAll balanced rfl ?_
    exact (evictPage_ends accounts).mono fun _ _ evicted => evicted.steady
  | deallocate pid => exact custody.keepAll balanced rfl (deallocate_steady session.pager pid)
  | reclaimOnce => exact custody.keepAll balanced rfl (reclaimOnce_steady accounts)
  | initializeSwap =>
    exact custody.keepAll balanced rfl (initializeSwap_steady session.pager)
  | terminate => exact custody.keepAll balanced rfl (terminate_steady session.pager)
  | start pid stackTop => exact custody.keepAll balanced rfl (.of_same rfl rfl)
  | serve process request =>
    exact custody.keepAll balanced rfl (serve_steady accounts process request)
  | exit process => exact custody.keepAll balanced rfl (exit_steady process session.pager)
  | disturb change => exact custody.keepAll balanced rfl (.of_same rfl rfl)

/-- A copy that is made through a guard changes memory, and only memory. -/
theorem copyIn (custody : session.Custody config) (index offset : Nat) (data : Bytes) :
    (session.step (.copyIn index offset data)).Custody config := by
  have accounts : Accounts config session.held session.pager := custody.balanced
  simp only [step]
  split
  · exact custody
  · split
    · exact custody
    · next written =>
      exact
        { custody with
          balanced := accounts.of_same rfl rfl rfl accounts.pins
            (PhysicalMemory.size_of_write written) }

theorem run (custody : session.Custody config) (calls : List (GuardedCall φ)) :
    (session.run calls).Custody config := by
  induction calls generalizing session with
  | nil => exact custody
  | cons call rest hypothesis =>
    cases call with
    | call call => exact hypothesis (custody.perform call)
    | copyIn index offset data => exact hypothesis (custody.copyIn index offset data)

end Custody

/-! ### What a guard is good for -/

/-- What a guard is good for, as long as it is kept. -/
structure GuardsHold (session : GuardedSession φ) : Prop where
  pinned : ∀ guard ∈ session.ledger, session.pager.pins.isPinned guard.ppn = true
  never_evicted : ∀ guard ∈ session.ledger, ∀ {ppn pager},
    (evictPage : PagerAction φ Ppn).outcome session.pager = (.ok ppn, pager) → ppn ≠ guard.ppn
  in_place : ∀ guard ∈ session.ledger, guard.surrendered = false →
    session.pager.tables.frameOf guard.page = some guard.ppn
  not_free : ∀ guard ∈ session.ledger, guard.surrendered = false →
    session.pager.frames.isFree guard.ppn = false
  alone : ∀ guard ∈ session.ledger, guard.surrendered = false →
    ∀ page, session.pager.tables.frameOf page = some guard.ppn → page = guard.page
  /-- A copy that is made through a guard changes no page but its own. -/
  confined : ∀ {index guard}, session.ledger[index]? = some guard → guard.surrendered = false →
    ∀ {page ppn} offset data, page ≠ guard.page →
      session.pager.tables.frameOf page = some ppn →
        (session.step (.copyIn index offset data)).pager.memory.copyOut ppn =
          session.pager.memory.copyOut ppn

theorem Custody.guardsHold (custody : session.Custody config) : session.GuardsHold :=
  have accounts : Accounts config session.held session.pager := custody.balanced
  have owned : ∀ {page ppn}, session.pager.tables.frameOf page = some ppn →
      session.pager.tables.owner ppn = some page := accounts.tables.frameOf_eq_some_iff.mp
  have alone : ∀ guard ∈ session.ledger, guard.surrendered = false →
      ∀ page, session.pager.tables.frameOf page = some guard.ppn → page = guard.page := by
    intro guard kept notSurrendered page there
    have mine := owned (custody.inPlace guard kept notSurrendered)
    rw [owned there] at mine
    exact Option.some.inj mine
  { pinned := fun guard kept => custody.isPinned kept
    never_evicted := by
      rintro guard kept ppn pager ended rfl
      have isPinned := custody.isPinned kept
      rw [((evictPage_ends accounts).outcome ended).not_isPinned] at isPinned
      cases isPinned
    in_place := custody.inPlace
    not_free := by
      intro guard kept notSurrendered
      rw [← Bool.not_eq_true]
      intro free
      have mine := owned (custody.inPlace guard kept notSurrendered)
      rw [accounts.owner_of_isFree free] at mine
      cases mine
    alone := alone
    confined := by
      intro index guard found notSurrendered page ppn offset data different there
      have kept := List.mem_of_getElem? found
      have apart : guard.ppn ≠ ppn := fun same =>
        different (alone guard kept notSurrendered page (same ▸ there))
      simp only [step, found]
      cases written : session.pager.memory.write guard.ppn offset data with
      | error cause => rfl
      | ok pair =>
        exact PhysicalMemory.copyOut_write written apart }

/-- After any calls and copies, however they ended: a guard pins its frame, and its page
keeps the frame unless a call has taken it from that page. -/
theorem guards_hold {files : φ} {policy : Policy} {chance : Chance} {pager : Pager φ}
    (booted : Pager.boot config files policy chance = .ok pager)
    (calls : List (GuardedCall φ)) : GuardsHold (run { pager := pager } calls) := by
  have start : Custody config ({ pager := pager } : GuardedSession φ) :=
    { balanced := Accounts.boot booted
      aligned := rfl
      counted := by
        intro ppn
        simp only [Pager.boot] at booted
        split at booted
        · cases booted
        · cases booted
          exact PinSet.count_empty ppn
      inPlace := by simp }
  exact (start.run calls).guardsHold

/-- The only frame is pinned, so there is no page for anyone else, and the bytes copied in
are the guarded page's. -/
theorem guards_hold_one_frame :
    ∃ (pager : Pager EphemeralFiles) (session : GuardedSession EphemeralFiles),
      Pager.boot .oneFrame .empty (.scripted []) (.seeded 0) = .ok pager ∧
        session = run { pager := pager }
          [.call (.newPagePinned ⟨1, 4⟩ false), .call (.newPage ⟨2, 7⟩ false),
            .copyIn 0 0 [0xAB]] ∧
        session.ledger = [{ page := ⟨1, 4⟩, ppn := 0 }] ∧
        session.pager.tables.frameOf ⟨2, 7⟩ = none ∧
        GuardsHold session :=
  ⟨_, _, rfl, rfl, by decide +kernel, by decide +kernel,
    guards_hold
      (rfl : Pager.boot .oneFrame EphemeralFiles.empty (.scripted []) (.seeded 0) = .ok _) _⟩

/-- A process ends while a page of it is guarded. Its frame is free, then it is given to
another process, and a copy that is made through the guard changes that process's page. -/
theorem guard_outlives_mapping :
    ∃ (pager : Pager EphemeralFiles) (freed reused : GuardedSession EphemeralFiles),
      Pager.boot .oneFrame .empty (.scripted []) (.seeded 0) = .ok pager ∧
        freed = run { pager := pager } [.call (.newPagePinned ⟨1, 4⟩ false),
          .call (.deallocate 1)] ∧
        reused = freed.step (.call (.newPage ⟨2, 7⟩ false)) ∧
        freed.guards = [0] ∧ freed.pager.frames.isFree 0 = true ∧
        reused.guards = [0] ∧ reused.pager.tables.frameOf ⟨2, 7⟩ = some 0 ∧
        (reused.step (.copyIn 0 0 [0xAB])).pager.memory.copyOut 0 ≠
          reused.pager.memory.copyOut 0 :=
  ⟨_, _, _, rfl, rfl, rfl, by decide +kernel, by decide +kernel, by decide +kernel,
    by decide +kernel, by decide +kernel⟩

end GuardedSession

end VirtualMemory
