/-
Module: VirtualMemory.Proofs.Flat.Stores
Purpose: What the requests of a process leave in its flat memory, told for every byte and
  every page.
Main exports:
  FlatProcess.Grown, Overwritten, SectionMade, Leaves; access_ends, read_ends, write_ends,
  loadSection_ends, serve_leaves

A request that fails half way leaves what it has done so far. So it is told of every
request how far it came, and that it came to its end if it succeeded.
-/
import VirtualMemory.Proofs.Flat.Memory

namespace VirtualMemory.FlatProcess

open VirtualMemory.Action

variable {process : FlatProcess} {memory : FlatMemory} {before middle after : PageViews}
  {vpn : Vpn} {view : PageView}

/-! ### Pages of the stack that are made -/

/-- All pages stay, and blank ones may have been added where the stack may grow. -/
def Grown (process : FlatProcess) (before after : PageViews) : Prop :=
  ∀ vpn, after vpn = before vpn ∨
    before vpn = none ∧ process.isStackPage vpn = true ∧ after vpn = some .blank

namespace Grown

theorem refl (process : FlatProcess) (pages : PageViews) : process.Grown pages pages :=
  fun _ => Or.inl rfl

theorem trans (first : process.Grown before middle) (second : process.Grown middle after) :
    process.Grown before after := by
  intro vpn
  rcases second vpn with same | ⟨absent, onStack, made⟩
  · rw [same]
    exact first vpn
  · rcases first vpn with same | ⟨_, _, made⟩
    · exact Or.inr ⟨same ▸ absent, onStack, ‹_›⟩
    · cases made.symm.trans absent

/-- A page that was there stays as it was. -/
theorem of_present (grown : process.Grown before after) (found : before vpn = some view) :
    after vpn = some view := by
  rcases grown vpn with same | ⟨absent, _⟩
  · exact same.trans found
  · cases found.symm.trans absent

/-- No byte changes: a page that is not there reads as one of zeros. -/
theorem byteAt_eq (grown : process.Grown before after) (position : Nat) :
    after.byteAt position = before.byteAt position := by
  rcases grown (position / pageBytes).toUInt32 with same | ⟨absent, _, made⟩
  · simp only [PageViews.byteAt, same]
  · have within : position % pageBytes < pageBytes := Nat.mod_lt position (by decide)
    rw [PageViews.byteAt_of_page made, PageView.blank, Page.getD_ofFn within]
    simp only [PageViews.byteAt, absent]

/-- Pages that grow keep the bytes that were there. -/
theorem bytesFrom_eq (grown : process.Grown before after) (start length : Nat) :
    after.bytesFrom start length = before.bytesFrom start length := by
  simp only [PageViews.bytesFrom, grown.byteAt_eq]

end Grown

/-- A page is made or the request fails, and no other page changes. -/
theorem place_ends (vpn : Vpn) (view : PageView) :
    (place vpn view).Ends memory fun result next =>
      match result with
      | .ok _ => next.pages = Function.update memory.pages vpn (some view)
      | .error _ => next.pages = memory.pages := by
  rw [place]
  split
  · rfl
  · simp only [meet, ends_bind, ends_always]
    split <;> rfl

/-- An access that succeeds answers what the page holds from then on. -/
theorem access_ends (vpn : Vpn) :
    (process.access vpn).Ends memory fun result next =>
      process.Grown memory.pages next.pages ∧
        ∀ view, result = .ok view → next.pages vpn = some view := by
  simp only [access, ends_bind, ends_get]
  cases found : memory.pages vpn with
  | some view =>
    simp only [meet, ends_bind, ends_always]
    split
    · refine ⟨.refl process _, fun answer same => ?_⟩
      rw [← Except.ok.inj same]
      exact found
    · exact ⟨.refl process _, fun _ => no_answer⟩
    · exact ⟨.refl process _, fun _ => no_answer⟩
  | none =>
    simp only
    split
    · next onStack =>
      rw [ends_bind]
      apply Ends.mono (place_ends vpn .blank)
      intro result next placed
      cases result with
      | ok =>
        simp only [ends_pure] at placed ⊢
        refine ⟨fun other => ?_, fun view same => ?_⟩
        · rw [placed, Function.update_apply]
          split
          · next here =>
            subst here
            exact Or.inr ⟨found, onStack, rfl⟩
          · exact Or.inl rfl
        · rw [placed, Function.update_self, Except.ok.inj same]
      | error cause =>
        simp only at placed
        exact ⟨fun other => Or.inl (by rw [placed]), fun _ => no_answer⟩
    · exact ⟨.refl process _, fun _ => no_answer⟩

/-- To access pages only makes stack pages. -/
theorem accessAll_ends (numbers : List Nat) :
    (process.accessAll numbers).Ends memory fun _ next =>
      process.Grown memory.pages next.pages := by
  induction numbers generalizing memory with
  | nil => exact .refl process _
  | cons number rest hypothesis =>
    rw [accessAll, ends_bind]
    apply Ends.mono (access_ends number.toUInt32)
    intro result middle accessed
    cases result with
    | error cause => exact accessed.1
    | ok view => exact hypothesis.mono fun _ _ grown => accessed.1.trans grown

/-- A read answers the bytes at its addresses, and changes none. -/
theorem read_ends (address : UInt32) (length : Nat) :
    (process.read address length).Ends memory fun result next =>
      process.Grown memory.pages next.pages ∧
        ∀ data, result = .ok data → data = memory.pages.bytesFrom address.toNat
          (min length (UInt32.size - address.toNat)) := by
  rw [read, ends_bind]
  apply Ends.mono (accessAll_ends _)
  intro result next grown
  cases result with
  | error cause => exact ⟨grown, fun _ => no_answer⟩
  | ok =>
    simp only [ends_bind, ends_get, ends_pure]
    refine ⟨grown, fun data same => ?_⟩
    cases same
    exact grown.bytesFrom_eq _ _

/-! ### Bytes that are written -/

/-- The first `count` bytes of `data` were written from address `start` on, and nothing
else was. Pages keep their flags, those that refuse stores keep their bytes, and what was
added is the stack's. -/
structure Overwritten (process : FlatProcess) (start : Nat) (data : Bytes) (count : Nat)
    (before after : PageViews) : Prop where
  bytes : ∀ position < UInt32.size, after.byteAt position =
    if start ≤ position ∧ position < start + count then data.getD (position - start) 0
    else before.byteAt position
  kept : ∀ vpn view, before vpn = some view →
    ∃ contents, after vpn = some ⟨contents, view.readOnly⟩
  refused : ∀ vpn view, before vpn = some view → view.readOnly = true →
    after vpn = some view
  added : ∀ vpn view, before vpn = none → after vpn = some view →
    process.isStackPage vpn = true ∧ view.readOnly = false

namespace Overwritten

variable {start done : Nat} {data : Bytes}

/-- Nothing was written yet. -/
theorem nothing (process : FlatProcess) (start : Nat) (data : Bytes) (pages : PageViews) :
    process.Overwritten start data 0 pages pages where
  bytes position _ := by rw [if_neg (by omega)]
  kept _ view found := ⟨view.contents, found⟩
  refused _ _ found _ := found
  added _ _ absent found := by cases absent.symm.trans found

/-- The stack has grown since. -/
theorem grown (overwritten : process.Overwritten start data done before middle)
    (grown : process.Grown middle after) :
    process.Overwritten start data done before after where
  bytes position inside := (grown.byteAt_eq position).trans (overwritten.bytes position inside)
  kept vpn view found := by
    obtain ⟨contents, here⟩ := overwritten.kept vpn view found
    exact ⟨contents, grown.of_present here⟩
  refused vpn view found refuses := grown.of_present (overwritten.refused vpn view found refuses)
  added vpn view absent found := by
    rcases grown vpn with same | ⟨_, onStack, made⟩
    · exact overwritten.added vpn view absent (same.symm.trans found)
    · rw [← Option.some.inj (made.symm.trans found)]
      exact ⟨onStack, rfl⟩

/-- A page is covered, and with it are all bytes up to its end. -/
theorem cover (overwritten : process.Overwritten start data done before middle)
    (fits : start + data.length ≤ UInt32.size) (left : done < data.length)
    {number : Nat} (here : (start + done) / pageBytes = number)
    (found : middle number.toUInt32 = some view) (accepts : view.readOnly = false) :
    process.Overwritten start data
      (done + min (data.length - done) (pageBytes - (start + done) % pageBytes)) before
      (Function.update middle number.toUInt32
        (some { view with contents := covered start data number view.contents })) where
  bytes position inside := by
    have reached := overwritten.bytes position inside
    rw [PageViews.byteAt_update]
    by_cases onPage : position / pageBytes = number
    · have place : number * pageBytes + position % pageBytes = position := by
        rw [← onPage, Nat.mul_comm]
        exact Nat.div_add_mod position pageBytes
      have was := PageViews.byteAt_of_page (onPage ▸ found)
      rw [onPage, if_pos rfl]
      simp only [covered]
      rw [Page.getD_ofFn (Nat.mod_lt position (by decide)), place, ← was, reached]
      simp only [pageBytes] at here onPage ⊢
      grind
    · have elsewhere : (position / pageBytes).toUInt32 ≠ number.toUInt32 := by
        intro same
        apply onPage
        have equal := congrArg UInt32.toNat same
        simp only [Nat.toUInt32, UInt32.toNat_ofNat', pageBytes, UInt32.size] at *
        omega
      rw [if_neg elsewhere, reached]
      refine if_congr ?_ rfl rfl
      simp only [pageBytes] at here onPage ⊢
      omega
  kept vpn other was := by
    obtain ⟨contents, now⟩ := overwritten.kept vpn other was
    rw [Function.update_apply]
    split
    · next same =>
      subst same
      rw [← congrArg PageView.readOnly (Option.some.inj (now.symm.trans found))]
      exact ⟨_, rfl⟩
    · exact ⟨contents, now⟩
  refused vpn other was refuses := by
    have now := overwritten.refused vpn other was refuses
    rw [Function.update_apply]
    split
    · next same =>
      subst same
      rw [← Option.some.inj (now.symm.trans found), refuses] at accepts
      cases accepts
    · exact now
  added vpn other absent now := by
    rw [Function.update_apply] at now
    split at now
    · next same =>
      subst same
      rw [← Option.some.inj now]
      exact overwritten.added _ view absent found
    · exact overwritten.added vpn other absent now

/-- Only the bytes that were written matter. -/
theorem of_take {size : Nat} (overwritten : process.Overwritten start (data.take size) done
    before after) (enough : done ≤ size) : process.Overwritten start data done before after :=
  { overwritten with
    bytes := by
      intro position inside
      rw [overwritten.bytes position inside]
      split
      · simp only [List.getD_eq_getElem?_getD, List.getElem?_take]
        rw [if_pos (by omega)]
      · rfl }

end Overwritten

/-- The page of an address refuses stores. -/
def Refuses (pages : PageViews) (position : Nat) : Prop :=
  ∃ view, pages (position / pageBytes).toUInt32 = some view ∧ view.readOnly = true

/-- A write came to a halt after `count` bytes of `total`: at its end, or between two pages,
unless it has not begun. -/
def Halted (start total count : Nat) : Prop :=
  count ≤ total ∧ (count = total ∨ count = 0 ∨ (start + count) % pageBytes = 0)

/-- A page that is written gets the bytes that are for it, unless it is read-only or not there. -/
theorem writePage_ends (start : Nat) (data : Bytes) (number : Nat) :
    (process.writePage start data number).Ends memory fun result next =>
      match result with
      | .ok true => ∃ middle view, process.Grown memory.pages middle ∧
          middle number.toUInt32 = some view ∧ view.readOnly = false ∧
          next.pages = Function.update middle number.toUInt32
            (some { view with contents := covered start data number view.contents })
      | .ok false => process.Grown memory.pages next.pages ∧
          ∃ view, next.pages number.toUInt32 = some view ∧ view.readOnly = true
      | .error _ => process.Grown memory.pages next.pages := by
  rw [writePage, ends_bind]
  apply Ends.mono (access_ends _)
  intro result middle accessed
  rcases accessed with ⟨grown, viewed⟩
  cases result with
  | error cause => exact grown
  | ok view =>
    have found := viewed view rfl
    simp only
    split
    · next refuses => exact ⟨grown, view, found, refuses⟩
    · next accepts =>
      simp only [ends_bind, ends_modify, ends_pure]
      exact ⟨middle.pages, view, grown, found, (Bool.not_eq_true _).mp accepts, rfl⟩

/-- Writing goes on where it has come to: `done` bytes were written. -/
theorem writePages_ends {start done : Nat} {data : Bytes}
    (fits : start + data.length ≤ UInt32.size) (halted : Halted start data.length done)
    (overwritten : process.Overwritten start data done before memory.pages) :
    (process.writePages start data (pageNumbers (start + done) (data.length - done))).Ends
      memory fun result next => ∃ count, Halted start data.length count ∧
        process.Overwritten start data count before next.pages ∧
          ∀ total, result = .ok total → total = count ∧
            (count = data.length ∨ Refuses next.pages (start + count)) := by
  obtain ⟨left, leftover⟩ : ∃ left, data.length - done = left := ⟨_, rfl⟩
  rw [leftover]
  induction left using Nat.strongRecOn generalizing done memory with
  | ind left hypothesis =>
    by_cases finished : left = 0
    · have all : data.length = done := by
        simp only [Halted] at halted
        omega
      rw [finished, pageNumbers_zero, writePages, ends_pure]
      refine ⟨done, halted, overwritten, fun total same => ?_⟩
      rw [← Except.ok.inj same]
      exact ⟨all, Or.inl all.symm⟩
    · have positive : 0 < left := Nat.pos_of_ne_zero finished
      have more : 0 < (Span.first (start + done) left).count := Span.first_count_pos positive
      have shorter := Span.first_count_le (start + done) left
      rw [pageNumbers_of_pos (start + done) positive, writePages, ends_bind]
      apply Ends.mono (writePage_ends start data _)
      intro result middle wrote
      match result, wrote with
      | .error cause, grown => exact ⟨done, halted, overwritten.grown grown, fun _ => no_answer⟩
      | .ok false, ⟨grown, refuses⟩ =>
        simp only [Bool.false_eq_true, if_false, ends_pure]
        refine ⟨done, halted, overwritten.grown grown, fun total same => ?_⟩
        rw [← Except.ok.inj same]
        refine ⟨?_, Or.inr refuses⟩
        simp only [Span.first, Halted, pageBytes] at halted ⊢
        omega
      | .ok true, ⟨made, view, grown, found, accepts, put⟩ =>
        have step : min (data.length - done) (pageBytes - (start + done) % pageBytes) =
            (Span.first (start + done) left).count := by
          rw [leftover]
          rfl
        have written : process.Overwritten start data
            (done + (Span.first (start + done) left).count) before middle.pages := by
          rw [put, ← step]
          exact (overwritten.grown grown).cover fits (by omega) rfl found accepts
        have further : Halted start data.length (done + (Span.first (start + done) left).count) := by
          simp only [Span.first, Halted, pageBytes] at halted ⊢
          omega
        have later := hypothesis (left - (Span.first (start + done) left).count) (by omega)
          further written (by omega)
        rw [← Nat.add_assoc] at later
        simpa only [if_true] using later

/-- How many bytes of `data` have addresses, from `address` on. -/
def fitting (address : UInt32) (data : Bytes) : Nat :=
  min data.length (UInt32.size - address.toNat)

/-- A write succeeds where the bytes or the addresses end, or at a page that refuses
stores, and answers how many bytes it has written. -/
theorem write_ends (address : UInt32) (data : Bytes) :
    (process.write address data).Ends memory fun result next =>
      ∃ count, Halted address.toNat (fitting address data) count ∧
        process.Overwritten address.toNat data count memory.pages next.pages ∧
          ∀ total, result = .ok total → total = count ∧
            (count = fitting address data ∨ Refuses next.pages (address.toNat + count)) := by
  have below : address.toNat < UInt32.size := address.toNat_lt
  have length : (data.take (UInt32.size - address.toNat)).length = fitting address data := by
    rw [List.length_take, Nat.min_comm, fitting]
  rw [write]
  have fits : address.toNat + (data.take (UInt32.size - address.toNat)).length ≤ UInt32.size := by
    rw [length, fitting]
    omega
  have halted : Halted address.toNat (data.take (UInt32.size - address.toNat)).length 0 :=
    ⟨Nat.zero_le _, Or.inr (Or.inl rfl)⟩
  have ends := writePages_ends fits halted (.nothing process _ _ memory.pages)
  rw [length, Nat.add_zero, Nat.sub_zero] at ends
  rw [length]
  apply ends.mono
  rintro result next ⟨count, halted, overwritten, told⟩
  refine ⟨count, halted, overwritten.of_take ?_, told⟩
  simp only [Halted, fitting] at halted
  omega

/-! ### Sections that are loaded -/

/-- The first `count` pages of a section were made, and no other page has changed. -/
def SectionMade (first : Vpn) (contents : Bytes) (readOnly : Bool) (count : Nat)
    (before after : PageViews) : Prop :=
  ∀ vpn, after vpn =
    if first.toNat ≤ vpn.toNat ∧ vpn.toNat < first.toNat + count then
      some (sectionView contents readOnly (vpn.toNat - first.toNat))
    else before vpn

/-- Pages of a section are made one after another, up to the one that fails. -/
theorem loadPages_ends {first : Vpn} {contents : Bytes} {readOnly : Bool} {made : Nat}
    (reached : SectionMade first contents readOnly made before memory.pages) (left : Nat) :
    (loadPages first contents readOnly (List.range' made left)).Ends memory fun result next =>
      ∃ count ≤ made + left, SectionMade first contents readOnly count before next.pages ∧
        ∀ done, result = .ok done → count = made + left := by
  induction left generalizing made memory with
  | zero => exact ⟨made, Nat.le_refl _, reached, fun _ _ => rfl⟩
  | succ left hypothesis =>
    rw [List.range'_succ, loadPages]
    split
    · exact ⟨made, by omega, reached, fun _ => no_answer⟩
    · next inside =>
      have number : (first.toNat + made).toUInt32.toNat = first.toNat + made := by
        simp only [Nat.toUInt32, UInt32.toNat_ofNat', UInt32.size] at inside ⊢
        omega
      rw [ends_bind]
      apply Ends.mono (place_ends _ _)
      intro result middle placed
      cases result with
      | error cause =>
        simp only at placed
        exact ⟨made, by omega, placed ▸ reached, fun _ => no_answer⟩
      | ok =>
        simp only at placed
        have further : SectionMade first contents readOnly (made + 1) before middle.pages := by
          intro vpn
          rw [placed, Function.update_apply]
          split
          · next here =>
            rw [here, number, if_pos (by omega), Nat.add_sub_cancel_left]
          · next elsewhere =>
            have other : vpn.toNat ≠ first.toNat + made := by
              intro same
              exact elsewhere (UInt32.toNat_inj.mp (same.trans number.symm))
            rw [reached vpn]
            exact if_congr (by omega) rfl rfl
        have later := hypothesis further
        rw [show made + 1 + left = made + (left + 1) by omega] at later
        exact later

/-- A section that is loaded takes as few pages as its contents need. -/
theorem loadSection_ends (first : Vpn) (contents : Bytes) (readOnly : Bool) :
    (loadSection first contents readOnly).Ends memory fun result next =>
      ∃ count, (count = 0 ∨ (count - 1) * pageBytes < contents.length) ∧
        SectionMade first contents readOnly count memory.pages next.pages ∧
          ∀ pages, result = .ok pages → pages = count ∧ contents.length ≤ count * pageBytes := by
  have nothing : SectionMade first contents readOnly 0 memory.pages memory.pages :=
    fun vpn => by rw [if_neg (by omega)]
  have few : ∀ {count}, count ≤ pagesFor contents.length →
      count = 0 ∨ (count - 1) * pageBytes < contents.length := by
    intro count bound
    simp only [pagesFor, pageBytes] at bound ⊢
    omega
  rw [loadSection, List.range_eq_range', ends_bind]
  apply Ends.mono (loadPages_ends nothing _)
  rintro result next ⟨count, bound, made, told⟩
  rw [Nat.zero_add] at bound told
  cases result with
  | error cause => exact ⟨count, few bound, made, fun _ => no_answer⟩
  | ok =>
    simp only [ends_pure]
    refine ⟨count, few bound, made, fun pages same => ?_⟩
    rw [← Except.ok.inj same, told () rfl]
    refine ⟨rfl, ?_⟩
    simp only [pagesFor, pageBytes]
    omega

/-! ### Requests -/

/-- What a request leaves in the pages of its process. -/
def Leaves (process : FlatProcess) (request : ProcessRequest)
    (result : Except FaultError ProcessAnswer) (before after : PageViews) : Prop :=
  match request with
  | .fault _ | .read _ _ => process.Grown before after
  | .allocateStack =>
      match result with
      | .ok _ => after = Function.update before process.stackTop (some .blank)
      | .error _ => after = before
  | .loadSection first contents readOnly =>
      ∃ count, (count = 0 ∨ (count - 1) * pageBytes < contents.length) ∧
        SectionMade first contents readOnly count before after ∧
          ∀ pages, result = .ok (.loaded pages) →
            pages = count ∧ contents.length ≤ count * pageBytes
  | .write address data =>
      ∃ count, Halted address.toNat (fitting address data) count ∧
        process.Overwritten address.toNat data count before after ∧
          ∀ total, result = .ok (.written total) → total = count ∧
            (count = fitting address data ∨ Refuses after (address.toNat + count))
  | .saveState | .restoreState => after = before

/-- A request leaves in the pages of its process what it stores there, and nothing else. -/
theorem serve_leaves (process : FlatProcess) (memory : FlatMemory) (request : ProcessRequest) :
    (process.serve request).Ends memory fun result next =>
      process.Leaves request result memory.pages next.pages := by
  cases request with
  | fault address =>
    rw [serve, ends_bind]
    apply Ends.mono (access_ends _)
    rintro (cause | view) next ⟨grown, _⟩ <;> exact grown
  | loadSection first contents readOnly =>
    rw [serve, ends_bind]
    apply Ends.mono (loadSection_ends first contents readOnly)
    rintro (cause | pages) next ⟨count, few, made, told⟩
    · exact ⟨count, few, made, fun _ => no_answer⟩
    · refine ⟨count, few, made, fun answer same => told answer ?_⟩
      rw [ProcessAnswer.loaded.inj (Except.ok.inj same)]
  | allocateStack =>
    rw [serve, ends_bind]
    apply Ends.mono (place_ends _ _)
    rintro (cause | done) next placed <;> exact placed
  | read address length =>
    rw [serve, ends_bind]
    apply Ends.mono (read_ends address length)
    rintro (cause | data) next ⟨grown, _⟩ <;> exact grown
  | write address data =>
    rw [serve, ends_bind]
    apply Ends.mono (write_ends address data)
    rintro (cause | total) next ⟨count, halted, overwritten, told⟩
    · exact ⟨count, halted, overwritten, fun _ => no_answer⟩
    · refine ⟨count, halted, overwritten, fun answer same => told answer ?_⟩
      rw [ProcessAnswer.written.inj (Except.ok.inj same)]
  | saveState => exact rfl
  | restoreState => exact rfl

end VirtualMemory.FlatProcess
