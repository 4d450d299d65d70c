/-
Module: VirtualMemory.Proofs.Flat.Simulation
Purpose: What a process does to its paged memory is what it does to its flat memory.
Main exports:
  FlatMemory.CanEnd; UserProcess.seen, UserProcess.Tracks, pinPage_ends, serve_ends

Every operation of a process on the pager ends as the same operation ends on the flat
memory that the process sees, for some mishaps. Where the files have no faults, the mishaps
are none.
-/
import VirtualMemory.Proofs.Flat.Stores
import VirtualMemory.Proofs.Pager.View

namespace VirtualMemory

open VirtualMemory.Action

/-! ### Mishaps that explain what happens -/

namespace Mishaps

variable {faultless : Prop} {first second whole : Mishaps → Mishaps → Prop}

/-- Something happens if the right mishaps come before all the rest. Where files have no
faults, the right mishaps are none. -/
def Allow (faultless : Prop) (happens : (coming rest : Mishaps) → Prop) : Prop :=
  ∃ plan : List (Option Mishap), (faultless → ∀ mishap ∈ plan, mishap = none) ∧
    ∀ rest : Mishaps, happens (plan ++ₛ rest) rest

namespace Allow

/-- No page is needed. -/
theorem of_nothing (happens : ∀ rest, first rest rest) : Allow faultless first :=
  ⟨[], fun _ _ listed => absurd listed List.not_mem_nil, happens⟩

/-- One page is needed, and nothing goes wrong. -/
theorem of_none (happens : ∀ rest, first (Stream'.cons none rest) rest) :
    Allow faultless first :=
  ⟨[none], fun _ _ listed => List.mem_singleton.mp listed, happens⟩

/-- One page is needed, and something goes wrong. -/
theorem of_mishap (faulty : ¬ faultless) (mishap : Mishap)
    (happens : ∀ rest, first (Stream'.cons (some mishap) rest) rest) : Allow faultless first :=
  ⟨[some mishap], fun impossible => absurd impossible faulty, happens⟩

/-- What is allowed stays allowed when more is. -/
theorem mono (allow : Allow faultless first)
    (weaken : ∀ coming rest, first coming rest → second coming rest) :
    Allow faultless second := by
  rcases allow with ⟨plan, quiet, happens⟩
  exact ⟨plan, quiet, fun rest => weaken _ rest (happens rest)⟩

/-- One thing happens after the other. -/
theorem andThen (one : Allow faultless first) (two : Allow faultless second)
    (join : ∀ coming middle rest, first coming middle → second middle rest →
      whole coming rest) :
    Allow faultless whole := by
  rcases one with ⟨plan, quiet, happens⟩
  rcases two with ⟨more, quietMore, happensMore⟩
  refine ⟨plan ++ more, fun holds mishap listed => ?_, fun rest => ?_⟩
  · rcases List.mem_append.mp listed with early | late
    · exact quiet holds mishap early
    · exact quietMore holds mishap late
  · rw [Stream'.append_append_stream]
    exact join _ _ rest (happens _) (happensMore rest)

end Allow

/-- A plan in which nothing goes wrong makes no difference. -/
theorem append_never (plan : List (Option Mishap)) (quiet : ∀ mishap ∈ plan, mishap = none) :
    plan ++ₛ never = never := by
  induction plan with
  | nil => rfl
  | cons mishap rest hypothesis =>
    rw [Stream'.cons_append_stream, quiet mishap List.mem_cons_self,
      hypothesis fun other listed => quiet other (List.mem_cons_of_mem mishap listed)]
    exact (Stream'.const_eq none).symm

end Mishaps

/-! ### How operations on a flat memory can end -/

namespace FlatMemory

variable {α β : Type} {faultless : Prop} {pages middle next : PageViews}

/-- An operation ends in a given way and with given pages, if the right mishaps come. -/
def CanEnd (faultless : Prop) (operation : FlatAction α) (pages : PageViews)
    (result : Except FaultError α) (next : PageViews) : Prop :=
  Mishaps.Allow faultless fun coming rest =>
    operation.outcome ⟨pages, coming⟩ = (result, ⟨next, rest⟩)

namespace CanEnd

theorem pure (answer : α) : CanEnd faultless (Pure.pure answer) pages (.ok answer) pages :=
  .of_nothing fun _ => rfl

theorem throw (cause : FaultError) :
    CanEnd faultless (MonadExcept.throw cause : FlatAction α) pages (.error cause) pages :=
  .of_nothing fun _ => rfl

/-- Where two operations can end, they can end one after the other. -/
theorem bind {operation : FlatAction α} {others : α → FlatAction β} {answer : α}
    {result : Except FaultError β}
    (first : CanEnd faultless operation pages (.ok answer) middle)
    (second : CanEnd faultless (others answer) middle result next) :
    CanEnd faultless (operation >>= others) pages result next := by
  apply Mishaps.Allow.andThen first second
  intro coming later rest ends endsLater
  rw [outcome_bind, ends]
  exact endsLater

/-- Where the first operation can fail, both together can. -/
theorem stop {operation : FlatAction α} {others : α → FlatAction β} {cause : FaultError}
    (first : CanEnd faultless operation pages (.error cause) next) :
    CanEnd faultless (operation >>= others) pages (.error cause) next := by
  apply Mishaps.Allow.mono first
  intro coming rest ends
  rw [outcome_bind, ends]

/-- What an operation does whatever goes wrong, it does in every way in which it can end. -/
theorem of_ends {operation : FlatAction α} {result : Except FaultError α}
    (canEnd : CanEnd faultless operation pages result next)
    (post : Except FaultError α → PageViews → Prop)
    (ends : ∀ memory : FlatMemory, memory.pages = pages →
      operation.Ends memory fun result after => post result after.pages) :
    post result next := by
  rcases canEnd with ⟨plan, _, happens⟩
  exact (ends ⟨pages, plan ++ₛ Mishaps.never⟩ rfl).outcome (happens Mishaps.never)

end CanEnd

end FlatMemory

namespace FlatProcess

open FlatMemory

variable {process : FlatProcess} {faultless : Prop} {pages : PageViews} {vpn : Vpn}
  {view : PageView} {cause : SwapError}

/-- The last page is the last one with addresses. -/
theorem le_lastPage_iff : vpn ≤ lastPage ↔ ¬ UInt32.size ≤ vpn.toNat * pageBytes := by
  rw [UInt32.le_iff_toNat_le]
  simp only [lastPage, UInt32.size, pageBytes, UInt32.reduceToNat]
  omega

/-- A page that cannot be addressed is refused. -/
theorem place_outside (beyond : lastPage < vpn) :
    CanEnd faultless (place vpn view) pages (.error (.kernel (.invalidPage vpn))) pages := by
  apply Mishaps.Allow.of_nothing
  intro rest
  rw [place, if_pos (by_contra fun inside => UInt32.not_le.mpr beyond (le_lastPage_iff.mpr inside))]
  rfl

/-- A page that can be addressed may be made. -/
theorem place_done (inside : vpn ≤ lastPage) :
    CanEnd faultless (place vpn view) pages (.ok ())
      (Function.update pages vpn (some view)) := by
  apply Mishaps.Allow.of_none
  intro rest
  rw [place, if_neg (le_lastPage_iff.mp inside)]
  rfl

/-- Where frames may run out, a page that can be addressed may be refused. -/
theorem place_noRoom (inside : vpn ≤ lastPage) (faulty : ¬ faultless) :
    CanEnd faultless (place vpn view) pages (.error (.kernel (.swap cause))) pages := by
  apply Mishaps.Allow.of_mishap faulty (.noRoom cause)
  intro rest
  rw [place, if_neg (le_lastPage_iff.mp inside)]
  rfl

/-- A page that is there may be found. -/
theorem access_present (found : pages vpn = some view) :
    CanEnd faultless (process.access vpn) pages (.ok view) pages := by
  apply Mishaps.Allow.of_none
  intro rest
  simp only [access, outcome_bind, outcome_get, found]
  rfl

/-- Where frames may run out, there may be no room to bring a page back. -/
theorem access_noRoom (found : pages vpn = some view) (faulty : ¬ faultless) :
    CanEnd faultless (process.access vpn) pages (.error (.kernel (.swap cause))) pages := by
  apply Mishaps.Allow.of_mishap faulty (.noRoom cause)
  intro rest
  simp only [access, outcome_bind, outcome_get, found]
  rfl

/-- Where the files may fail, a page may be unreadable. -/
theorem access_unreadable (found : pages vpn = some view) (faulty : ¬ faultless) :
    CanEnd faultless (process.access vpn) pages (.error (.pageIn (process.page vpn) cause))
      pages := by
  apply Mishaps.Allow.of_mishap faulty (.unreadable cause)
  intro rest
  simp only [access, outcome_bind, outcome_get, found]
  rfl

/-- An access off the stack to a page that is not there may fail for good. -/
theorem access_segfault (absent : pages vpn = none) (offStack : process.isStackPage vpn = false) :
    CanEnd faultless (process.access vpn) pages (.error (.segfault (process.page vpn)))
      pages := by
  apply Mishaps.Allow.of_nothing
  intro rest
  simp only [access, outcome_bind, outcome_get, absent, offStack]
  rfl

/-- Where the stack may grow, an access makes the page. -/
theorem access_grown {result : Except FaultError Unit} {next : PageViews}
    (absent : pages vpn = none) (onStack : process.isStackPage vpn = true)
    (placed : CanEnd faultless (place vpn .blank) pages result next) :
    CanEnd faultless (process.access vpn) pages (result.map fun _ => .blank) next := by
  apply Mishaps.Allow.mono placed
  intro coming rest ends
  simp only [access, outcome_bind, outcome_get, absent, onStack, if_true, ends]
  cases result <;> rfl

end FlatProcess

/-! ### Pages, cut and put together -/

/-- The page of zeros that a fresh frame holds is a blank one. -/
theorem PageView.zero_eq_blank : ⟨.zero, false⟩ = PageView.blank := by
  rw [blank, Page.zero_eq_ofFn]

/-- The first part of a run of bytes is a slice of its page. -/
theorem PageViews.bytesFrom_first {pages : PageViews} {start length : Nat} {view : PageView}
    (found : pages (Span.first start length).page.toUInt32 = some view) :
    pages.bytesFrom start (Span.first start length).count =
      slice view.contents.bytes (Span.first start length).offset
        (Span.first start length).count := by
  have fits := Span.first_fits start length
  have size : (slice view.contents.bytes (Span.first start length).offset
      (Span.first start length).count).length = (Span.first start length).count := by
    rw [length_slice, view.contents.length_bytes]
    omega
  apply List.ext_getElem?'
  intro index inside
  rw [length_bytesFrom, size, Nat.max_self] at inside
  have here : (start + index) / pageBytes = (Span.first start length).page := by
    simp only [Span.first, pageBytes] at fits inside ⊢
    omega
  have there : (start + index) % pageBytes = (Span.first start length).offset + index := by
    simp only [Span.first, pageBytes] at fits inside ⊢
    omega
  rw [getElem?_bytesFrom inside, byteAt_of_page (here ▸ found), there, slice,
    List.getElem?_take_of_lt inside, List.getElem?_drop, List.getD_eq_getElem?_getD,
    List.getElem?_eq_getElem (by rw [view.contents.length_bytes]; omega), Option.getD_some]

namespace FlatProcess

/-- Where a write goes on, a page is covered by the part of the bytes that is for it. -/
theorem covered_eq_overwrite {start done : Nat} {data : Bytes}
    (halted : Halted start data.length done) (unfinished : done < data.length) (page : Page) :
    covered start data ((start + done) / pageBytes) page =
      page.overwrite ((start + done) % pageBytes)
        ((data.drop done).take (Span.first (start + done) (data.length - done)).count) := by
  have part : (Span.first (start + done) (data.length - done)).count =
      min (data.length - done) (pageBytes - (start + done) % pageBytes) := rfl
  have size : ((data.drop done).take
      (Span.first (start + done) (data.length - done)).count).length =
        min (data.length - done) (pageBytes - (start + done) % pageBytes) := by
    rw [List.length_take, List.length_drop]
    omega
  refine (Page.eq_ofFn fun offset within => ?_).symm
  have position : (start + done) / pageBytes * pageBytes + offset =
      start + done - (start + done) % pageBytes + offset := by
    simp only [pageBytes]
    omega
  rw [List.getD_eq_getElem?_getD, Page.getElem?_overwrite page, size]
  · simp only [position]
    split
    · next written =>
      have index : start + done - (start + done) % pageBytes + offset - start =
          done + (offset - (start + done) % pageBytes) := by
        simp only [Halted, pageBytes] at halted written ⊢
        omega
      rw [List.getElem?_take_of_lt (by omega), List.getElem?_drop, ← index,
        List.getD_eq_getElem?_getD, if_pos]
      simp only [Halted, pageBytes] at halted written ⊢
      omega
    · next elsewhere =>
      rw [if_neg, List.getD_eq_getElem?_getD]
      simp only [Halted, pageBytes] at halted elsewhere within ⊢
      omega
  · rw [size]
    simp only [pageBytes]
    omega

/-- A page of a section is a page of zeros over which its part of the contents was put. -/
theorem sectionView_eq (contents : Bytes) (readOnly : Bool) (index : Nat) :
    sectionView contents readOnly index =
      ⟨Page.zero.overwrite 0 ((contents.drop (index * pageBytes)).take pageBytes), readOnly⟩ := by
  rw [sectionView, PageView.mk.injEq]
  refine ⟨(Page.eq_ofFn fun offset within => ?_).symm, rfl⟩
  have size := List.length_take_le pageBytes (contents.drop (index * pageBytes))
  have length : ((contents.drop (index * pageBytes)).take pageBytes).length =
      min pageBytes (contents.length - index * pageBytes) := by
    rw [List.length_take, List.length_drop]
  rw [List.getD_eq_getElem?_getD, List.getD_eq_getElem?_getD,
    Page.getElem?_overwrite _ (by omega), length]
  split
  · next filled =>
    rw [List.getElem?_take_of_lt (by omega), List.getElem?_drop, Nat.sub_zero]
  · next empty =>
    rw [Page.getElem?_zero within, List.getElem?_eq_none (by omega)]
    rfl

end FlatProcess

/-! ### How operations on the paged memory end -/

namespace UserProcess

open FlatMemory Pager

variable {φ : Type} [FileSystem φ] [ByteFiles φ] {process : UserProcess} {config : Config}
  {pager middle next : Pager φ} {vpn : Vpn} {α β : Type}

/-- The process without its translation cache. -/
def flat (process : UserProcess) : FlatProcess :=
  { pid := process.pid, stackTop := process.stackTop, stackPages := process.stackPages }

/-- The pages that a process sees, wherever the pager has them. -/
def seen (process : UserProcess) (pager : Pager φ) : PageViews :=
  fun vpn => pager.viewOf (process.page vpn)

omit [FileSystem φ] [ByteFiles φ] in
theorem isStackPage_flat (process : UserProcess) (vpn : Vpn) :
    process.flat.isStackPage vpn = process.isStackPage vpn := by
  rw [Bool.eq_iff_iff, FlatProcess.isStackPage_iff, isStackPage, Bool.and_eq_true,
    decide_eq_true_iff, decide_eq_true_iff]
  simp only [flat]
  constructor
  · rintro ⟨below, near⟩
    have order : vpn ≤ process.stackTop := UInt32.le_iff_toNat_le.mpr below
    refine ⟨order, UInt32.le_iff_toNat_le.mpr ?_⟩
    rw [UInt32.toNat_sub_of_le _ _ order]
    omega
  · rintro ⟨order, near⟩
    have depth := UInt32.le_iff_toNat_le.mp near
    rw [UInt32.toNat_sub_of_le _ _ order] at depth
    refine ⟨UInt32.le_iff_toNat_le.mp order, ?_⟩
    omega

/-- An operation of a process has ended as the flat one can, and left the pages of all other
processes alone. -/
structure Tracks (config : Config) (process : UserProcess) (pager : Pager φ)
    (operation : FlatAction α) (result : Except FaultError α) (next : Pager φ) : Prop where
  intact : Intact config ∅ next
  others : ∀ page : PageId, page.pid ≠ process.pid → next.viewOf page = pager.viewOf page
  canEnd : CanEnd (ByteFiles.Faultless φ) operation (process.seen pager) result
    (process.seen next)

/-- A pager whose pages hold what they held is as good as the one before. -/
theorem seen_eq (same : ∀ page, next.viewOf page = pager.viewOf page) :
    process.seen next = process.seen pager :=
  funext fun vpn => same (process.page vpn)

/-- A process does not see what other processes have changed. -/
theorem seen_of_others {pid : Pid}
    (others : ∀ page : PageId, page.pid ≠ pid → next.viewOf page = pager.viewOf page)
    (different : process.pid ≠ pid) : process.seen next = process.seen pager :=
  funext fun vpn => others (process.page vpn) different

section Changed

variable {view : PageView}
  (changed : ∀ other, next.viewOf other =
    if process.page vpn = other then some view else pager.viewOf other)

include changed

/-- A process sees a change of its page, and sees it there. -/
theorem seen_of_changed :
    process.seen next = Function.update (process.seen pager) vpn (some view) := by
  funext other
  simp only [seen, changed, Function.update_apply, page, PageId.mk.injEq, true_and, eq_comm]

/-- What is done to the pages of a process leaves the pages of others as they are. -/
theorem others_of_changed (page : PageId) (other : page.pid ≠ process.pid) :
    next.viewOf page = pager.viewOf page := by
  rw [changed, if_neg]
  intro same
  apply other
  rw [← same, UserProcess.page]

end Changed

namespace Tracks

variable {operation : FlatAction α} {more : α → FlatAction β}

/-- Nothing that any process sees has changed. -/
theorem of_same (intact : Intact config ∅ next)
    (same : ∀ page, next.viewOf page = pager.viewOf page) {result : Except FaultError α}
    (canEnd : CanEnd (ByteFiles.Faultless φ) operation (process.seen pager) result
      (process.seen pager)) :
    Tracks config process pager operation result next where
  intact := intact
  others page _ := same page
  canEnd := by
    rw [seen_eq same]
    exact canEnd

/-- To answer without doing anything is tracked. -/
theorem pure (intact : Intact config ∅ pager) (answer : α) :
    Tracks config process pager (Pure.pure answer) (.ok answer) pager :=
  of_same intact (fun _ => rfl) (CanEnd.pure answer)

/-- What follows what is tracked is tracked. -/
theorem bind {answer : α} {result : Except FaultError β}
    (first : Tracks config process pager operation (.ok answer) middle)
    (second : Tracks config process middle (more answer) result next) :
    Tracks config process pager (operation >>= more) result next where
  intact := second.intact
  others page other := (second.others page other).trans (first.others page other)
  canEnd := first.canEnd.bind second.canEnd

/-- An operation that fails is tracked as far as it came. -/
theorem stop {cause : FaultError}
    (first : Tracks config process pager operation (.error cause) next) :
    Tracks config process pager (operation >>= more) (.error cause) next where
  intact := first.intact
  others := first.others
  canEnd := first.canEnd.stop

/-- Operations that end as flat ones do, one after the other, end as the flat ones one after
the other. -/
theorem ends_bind {action : ProcessAction φ α} {rest : α → ProcessAction φ β}
    (first : action.Ends pager (Tracks config process pager operation))
    (others : ∀ answer {middle : Pager φ}, Intact config ∅ middle →
      (rest answer).Ends middle (Tracks config process middle (more answer))) :
    (action >>= rest).Ends pager (Tracks config process pager (operation >>= more)) := by
  refine Ends.bind first (fun answer middle tracks => ?_) fun cause middle tracks => tracks.stop
  exact (others answer tracks.intact).mono fun result next after => tracks.bind after

/-- A tracked operation leaves in the pages of its process what the flat one always
leaves. -/
theorem of_ends {result : Except FaultError α}
    (tracks : Tracks config process pager operation result next)
    (post : Except FaultError α → PageViews → Prop)
    (ends : ∀ memory : FlatMemory, memory.pages = process.seen pager →
      operation.Ends memory fun result after => post result after.pages) :
    post result (process.seen next) :=
  tracks.canEnd.of_ends post ends

/-- What becomes of the caches is not seen. -/
theorem withTlbs {result : Except FaultError α}
    (tracks : Tracks config process pager operation result next) (tlbs : TlbBank) :
    Tracks config process pager operation result { next with tlbs := tlbs } where
  intact := tracks.intact.of_same (tracks.intact.accounts.withTlbs tlbs) rfl rfl
  others page other := tracks.others page other
  canEnd := tracks.canEnd

/-- What the caches hold makes no difference to what is tracked. -/
theorem from_tlbs {tlbs : TlbBank} {result : Except FaultError α}
    (tracks : Tracks config process { pager with tlbs := tlbs } operation result next) :
    Tracks config process pager operation result next where
  intact := tracks.intact
  others := tracks.others
  canEnd := tracks.canEnd

/-- That a page was accessed is not seen. -/
theorem markAccessed {result : Except FaultError α}
    (tracks : Tracks config process pager operation result next) (page : PageId)
    (write : Bool) :
    Tracks config process pager operation result
      { next with tables := (next.tables.markAccessed page write).2 } where
  intact := tracks.intact.of_same (tracks.intact.accounts.markAccessed page write) rfl rfl
  others other different :=
    (viewOf_markAccessed next page other write).trans (tracks.others other different)
  canEnd := by
    have same := @seen_eq φ _ _ process _ _ fun other =>
      viewOf_markAccessed next page other write
    rw [same]
    exact tracks.canEnd

end Tracks

/-! ### Finding or making a page -/

/-- A page that could not be backed could not be placed, whatever it was to hold. -/
theorem tracks_of_unbacked {readOnly : Bool} {cause : PagingError}
    (backed : Backed pager (process.page vpn) readOnly (.error cause) next)
    (intact : Intact config ∅ pager) (view : PageView) :
    Tracks config process pager (FlatProcess.place vpn view) (.error (.kernel cause)) next := by
  obtain ⟨kept, same, why⟩ := backed.viewOf intact
  apply Tracks.of_same kept same
  rcases why with ⟨beyond, rfl⟩ | ⟨inside, ⟨reason, rfl⟩, faulty⟩
  · exact FlatProcess.place_outside beyond
  · exact FlatProcess.place_noRoom inside faulty

/-- Once a page holds what it was to hold, it is placed. -/
theorem tracks_of_viewOf {view : PageView} (kept : Intact config ∅ next)
    (inside : vpn ≤ lastPage)
    (changed : ∀ other, next.viewOf other =
      if process.page vpn = other then some view else pager.viewOf other) :
    Tracks config process pager (FlatProcess.place vpn view) (.ok ()) next := by
  refine ⟨kept, others_of_changed changed, ?_⟩
  rw [seen_of_changed changed]
  exact FlatProcess.place_done inside

/-- A page that was found or made holds what the flat memory has. -/
theorem tracks_of_faultedIn {result : Except FaultError TranslationEntry}
    (faulted : FaultedIn process vpn pager result next) (intact : Intact config ∅ pager) :
    Tracks config process pager (process.flat.access vpn)
      (result.map fun entry => ⟨next.memory.frame entry.ppn, entry.readOnly⟩) next := by
  cases faulted with
  | found broughtBack =>
    obtain ⟨kept, same, _⟩ := broughtBack.viewOf intact
    apply Tracks.of_same kept same
    apply FlatProcess.access_present
    exact (same (process.page vpn)).symm.trans (viewOf_of_get broughtBack.get_eq)
  | missed broughtBack =>
    obtain ⟨kept, same, ⟨view, found⟩, faulty, reason, why⟩ := broughtBack.viewOf intact
    apply Tracks.of_same kept same
    rcases why with rfl | rfl
    · exact FlatProcess.access_noRoom found faulty
    · exact FlatProcess.access_unreadable found faulty
  | grown broughtBack onStack backed =>
    obtain ⟨_, _, absent⟩ := broughtBack.viewOf intact
    obtain ⟨kept, inside, ⟨ppn, rfl⟩, changed⟩ := backed.viewOf intact
    have placed := tracks_of_viewOf kept inside changed
    have resident := (changed (process.page vpn)).symm.trans (viewOf_of_get backed.get_eq)
    rw [if_pos rfl] at resident
    refine ⟨placed.intact, placed.others, ?_⟩
    rw [PageView.zero_eq_blank] at placed resident
    have grown := FlatProcess.access_grown absent
      ((isStackPage_flat process vpn).trans onStack) placed.canEnd
    simp only [Except.map] at grown ⊢
    rw [← Option.some.inj resident]
    exact grown
  | ungrown broughtBack onStack backed =>
    obtain ⟨_, _, absent⟩ := broughtBack.viewOf intact
    have placed := tracks_of_unbacked backed intact .blank
    exact ⟨placed.intact, placed.others, FlatProcess.access_grown absent
      ((isStackPage_flat process vpn).trans onStack) placed.canEnd⟩
  | segfault broughtBack offStack =>
    obtain ⟨_, _, absent⟩ := broughtBack.viewOf intact
    exact Tracks.of_same intact (fun _ => rfl) (FlatProcess.access_segfault absent
      ((isStackPage_flat process vpn).trans offStack))

/-- How an access ends: the page is resident and holds what the flat memory has. -/
def Found (config : Config) (process : UserProcess) (vpn : Vpn) (pager : Pager φ)
    (entry : TranslationEntry) (next : Pager φ) : Prop :=
  (∃ known, next.tables.get (process.page vpn) = some known ∧ known.ppn = entry.ppn ∧
    known.readOnly = entry.readOnly) ∧
  Tracks config process pager (process.flat.access vpn)
    (.ok ⟨next.memory.frame entry.ppn, entry.readOnly⟩) next

/-- The entry of a page is resolved as the flat process finds the page. -/
theorem resolve_ends (intact : Intact config ∅ pager) (running : process.exited = false)
    (vpn : Vpn) :
    (process.resolve vpn).Ends pager fun result next =>
      match result with
      | .ok entry => Found config process vpn pager entry next
      | .error cause =>
          Tracks config process pager (process.flat.access vpn) (.error cause) next := by
  rw [resolve, ends_ensureRunning running]
  refine Ends.bind (faultIn_ends intact.accounts process vpn) (fun entry middle faulted => ?_)
    fun cause middle faulted => tracks_of_faultedIn faulted intact
  have tracks := tracks_of_faultedIn faulted intact
  simp only [installCached, onTlbs, Action.ends_bind, ends_within, ends_always, ends_pure]
  exact ⟨⟨entry, faulted.get_eq, rfl, rfl⟩, tracks.withTlbs _⟩

/-- How an access ends that pins the page: the page was found, and then its frame was
pinned. -/
def Pinned (config : Config) (process : UserProcess) (vpn : Vpn) (pager : Pager φ) :
    Except FaultError TranslationEntry → Pager φ → Prop
  | .ok entry, next => ∃ settled, Found config process vpn pager entry settled ∧
      next = settled.pin entry.ppn
  | .error cause, next =>
      Tracks config process pager (process.flat.access vpn) (.error cause) next

/-- A page that is resolved for an access is pinned, and is the one that the flat process finds. -/
theorem resolvePinned_ends (intact : Intact config ∅ pager) (running : process.exited = false)
    (vpn : Vpn) (write : Bool) :
    (process.resolvePinned vpn write).Ends pager (Pinned config process vpn pager) := by
  rw [resolvePinned]
  refine Ends.bind (resolve_ends intact running vpn) (fun entry middle found => ?_)
    fun cause middle tracks => tracks
  rcases found with ⟨⟨known, resident, samePpn, sameFlag⟩, tracks⟩
  have marked : (middle.tables.markAccessed (process.page vpn) write).1 =
      some (known.touch (write && !known.readOnly)) := by
    simp only [PageTables.markAccessed, resident]
  have residentStill : (middle.tables.markAccessed (process.page vpn) write).2.get
      (process.page vpn) = some (known.touch (write && !known.readOnly)) := by
    rw [PageTables.get_markAccessed, if_pos rfl, resident]
    rfl
  simp only [onTables, Action.ends_bind, ends_within, ends_always, marked, Option.getD_some,
    ends_modify, ends_pure]
  refine ⟨_, ⟨⟨_, residentStill, rfl, rfl⟩, ?_⟩, rfl⟩
  have noted := (tracks.markAccessed (process.page vpn) write).withTlbs
    (middle.tlbs.change process.tlb fun tlb => (tlb.markAccessed vpn write).2)
  rw [← samePpn, ← sameFlag] at noted
  exact noted

/-- With a cached translation or without one, the page that is accessed is pinned. -/
theorem pinPage_ends (intact : Intact config ∅ pager) (running : process.exited = false)
    (vpn : Vpn) (write : Bool) :
    (process.pinPage vpn write).Ends pager (Pinned config process vpn pager) := by
  simp only [pinPage, Action.ends_bind, ends_get]
  split
  · simp only [getTranslationPinned, Action.ends_bind, ends_causing, ends_get]
    cases resident : pager.tables.get (process.page vpn) with
    | some entry =>
      simp only [Action.ends_bind, ends_modify, ends_pure, mapError_ok, mapError_error]
      refine ⟨process.markCached vpn write pager, ⟨⟨entry, resident, rfl, rfl⟩, ?_⟩, rfl⟩
      have found : process.seen pager vpn =
          some ⟨pager.memory.frame entry.ppn, entry.readOnly⟩ := viewOf_of_get resident
      have tracks : Tracks config process pager (process.flat.access vpn) _ pager :=
        .of_same intact (fun _ => rfl) (FlatProcess.access_present found)
      exact tracks.withTlbs _
    | none =>
      simp only [Action.ends_bind, ends_modify, ends_pure, mapError_ok]
      have dropped : Intact config ∅
          (process.changeCache (fun tlb => (tlb.invalidate vpn).2) pager) :=
        intact.of_same (intact.accounts.withTlbs _) rfl rfl
      apply Ends.mono (resolvePinned_ends dropped running vpn write)
      intro result next pinned
      cases result with
      | ok entry =>
        rcases pinned with ⟨settled, ⟨resident, tracks⟩, same⟩
        exact ⟨settled, ⟨resident, tracks.from_tlbs⟩, same⟩
      | error cause => exact Tracks.from_tlbs pinned
  · exact resolvePinned_ends intact running vpn write

/-! ### Copying -/

omit [FileSystem φ] [ByteFiles φ] in
/-- A pin that is let go leaves nothing behind. -/
theorem unpin_pin (sound : pager.pins.Sound) (ppn : Ppn) : (pager.pin ppn).unpin ppn = pager := by
  simp only [Pager.pin, Pager.unpin, PinSet.release_hold sound]

/-- A part that is read lies in a page that was found or made. -/
theorem readSpan_ends (intact : Intact config ∅ pager) (running : process.exited = false)
    (start length : Nat) :
    (process.readSpan (Span.first start length)).Ends pager fun result next =>
      (∃ answer, Tracks config process pager
        (process.flat.access (Span.first start length).page.toUInt32) answer next ∧
          (result.map fun _ => ()) = answer.map fun _ => ()) ∧
      ∀ bytes, result = .ok bytes →
        bytes = (process.seen next).bytesFrom start (Span.first start length).count := by
  have inside : (Span.first start length).offset < pageBytes := Nat.mod_lt start (by decide)
  rw [readSpan]
  refine Ends.bind (pinPage_ends intact running _ false) (fun entry middle pinned => ?_)
    fun cause middle tracks => ⟨⟨_, tracks, rfl⟩, fun _ => no_answer⟩
  rcases pinned with ⟨settled, ⟨⟨known, resident, samePpn, _⟩, tracks⟩, rfl⟩
  have accounts := tracks.intact.accounts
  have frameInside := accounts.lt_size_of_get resident
  rw [samePpn] at frameInside
  have read : (settled.pin entry.ppn).memory.read entry.ppn (Span.first start length).offset
      (Span.first start length).count = .ok (slice (settled.memory.frame entry.ppn).bytes
        (Span.first start length).offset (Span.first start length).count) := by
    simp only [PhysicalMemory.read, PhysicalMemory.accessed, if_neg (Nat.not_le.mpr inside),
      Pager.pin, PhysicalMemory.copyOut_eq frameInside]
  rw [ends_thenAlways, readFrame, ends_inspect, read, letGo, unpin_pin accounts.pins]
  refine ⟨⟨_, tracks, rfl⟩, fun bytes same => ?_⟩
  have found := tracks.of_ends (fun result after => ∀ view, result = .ok view → after _ = some view)
    (fun memory _ => (FlatProcess.access_ends _).mono fun _ _ holds => holds.2) _ rfl
  rw [← Except.ok.inj same, PageViews.bytesFrom_first found]

/-- The parts that are read are the bytes at their addresses, once all their pages were found
or made. -/
theorem readSpans_ends (intact : Intact config ∅ pager) (running : process.exited = false)
    (start length : Nat) :
    (process.readSpans (cut start length)).Ends pager fun result next =>
      Tracks config process pager (process.flat.accessAll (pageNumbers start length))
        (result.map fun _ => ()) next ∧
      ∀ data, result = .ok data → data = (process.seen next).bytesFrom start length := by
  induction length using Nat.strongRecOn generalizing pager start with
  | ind length hypothesis =>
    by_cases empty : length = 0
    · subst empty
      refine ⟨Tracks.pure intact (), fun data same => ?_⟩
      rw [← Except.ok.inj same]
      rfl
    · have positive := Nat.pos_of_ne_zero empty
      have more : 0 < (Span.first start length).count := Span.first_count_pos positive
      have shorter := Span.first_count_le start length
      rw [cut_of_pos start positive, pageNumbers_of_pos start positive, readSpans,
        FlatProcess.accessAll]
      refine Ends.bind (readSpan_ends intact running start length) (fun bytes middle holds => ?_)
        fun cause middle holds => ?_
      · obtain ⟨⟨answer, tracks, accessed⟩, told⟩ := holds
        cases answer with
        | error cause => cases accessed
        | ok view =>
          refine Ends.bind (hypothesis (length - (Span.first start length).count) (by omega)
            tracks.intact _) (fun others last after => ?_) fun cause last after => ?_
          · simp only [ends_pure]
            refine ⟨tracks.bind after.1, fun data same => ?_⟩
            have whole := PageViews.bytesFrom_add (process.seen last) start
              (Span.first start length).count (length - (Span.first start length).count)
            rw [Nat.add_sub_of_le shorter] at whole
            have grown := after.1.of_ends
              (fun _ pages => process.flat.Grown (process.seen middle) pages)
              fun memory same => same ▸ FlatProcess.accessAll_ends _
            rw [← Except.ok.inj same, told bytes rfl, after.2 others rfl,
              ← grown.bytesFrom_eq, ← whole]
          · exact ⟨tracks.bind after.1, fun _ => no_answer⟩
      · obtain ⟨⟨answer, tracks, accessed⟩, _⟩ := holds
        cases answer with
        | error other =>
          cases accessed
          exact ⟨tracks.stop, fun _ => no_answer⟩
        | ok view => cases accessed

/-- A read is one of the flat process. -/
theorem read_ends (intact : Intact config ∅ pager) (running : process.exited = false)
    (address : UInt32) (length : Nat) :
    (process.read address length).Ends pager
      (Tracks config process pager (process.flat.read address length)) := by
  rw [read, ends_ensureRunning running, FlatProcess.read]
  apply Ends.mono (readSpans_ends intact running _ _)
  rintro (cause | data) next ⟨tracks, told⟩
  · exact tracks.stop
  · rw [told data rfl]
    refine tracks.bind (Tracks.of_same tracks.intact (fun _ => rfl) ?_)
    exact .of_nothing fun _ => rfl

omit [FileSystem φ] [ByteFiles φ] in
/-- What was written to a frame while it was pinned stays when it is let go. -/
theorem letGo_store (sound : pager.pins.Sound) (entry : TranslationEntry)
    (memory : PhysicalMemory) :
    letGo entry { pager.pin entry.ppn with memory := memory } =
      { pager with memory := memory } := by
  simp only [letGo, Pager.pin, Pager.unpin, PinSet.release_hold sound]

omit [FileSystem φ] [ByteFiles φ] in
/-- A write to a frame puts as many bytes there as fit. -/
theorem ends_writeFrame {ppn : Ppn} {offset : Nat} {data : Bytes}
    (frameInside : ppn < pager.memory.size) (inside : offset < pageBytes)
    {post : Except FaultError Nat → Pager φ → Prop} :
    (writeFrame ppn offset data).Ends pager post ↔
      post (.ok (min data.length (pageBytes - offset)))
        { pager with
          memory := pager.memory.store ppn ((pager.memory.frame ppn).overwrite offset data) } := by
  have written : pager.memory.write ppn offset data = .ok (min data.length (pageBytes - offset),
      pager.memory.store ppn ((pager.memory.frame ppn).overwrite offset data)) := by
    simp only [PhysicalMemory.write, PhysicalMemory.accessed, if_neg (Nat.not_le.mpr inside),
      PhysicalMemory.copyOut_eq frameInside]
  simp only [writeFrame, onMemory, ends_causing, ends_within, ends_update, written,
    mapError_ok]

/-- To store something in a frame disturbs none of the books. -/
theorem intact_store (intact : Intact config ∅ pager) (ppn : Ppn) (contents : Page) :
    Intact config ∅ { pager with memory := pager.memory.store ppn contents } :=
  intact.of_same (intact.accounts.of_same rfl rfl rfl intact.accounts.pins
    (PhysicalMemory.size_store _ _ _)) rfl rfl

/-- What is written to the frame of a page is written to the flat memory. -/
theorem tracks_store (intact : Intact config ∅ pager) {known : TranslationEntry}
    (resident : pager.tables.get (process.page vpn) = some known) (contents : Page) :
    Tracks config process pager (modify (·.setPage vpn ⟨contents, known.readOnly⟩)) (.ok ())
      { pager with memory := pager.memory.store known.ppn contents } := by
  have changed := viewOf_store intact.accounts resident contents
  refine ⟨intact_store intact known.ppn contents, others_of_changed changed, ?_⟩
  rw [seen_of_changed changed]
  exact .of_nothing fun _ => rfl

/-- A part that is written covers its page, unless this refuses stores. -/
theorem writeSpan_ends (intact : Intact config ∅ pager) (running : process.exited = false)
    {start done : Nat} {data rest : Bytes} (halted : FlatProcess.Halted start data.length done)
    (unfinished : done < data.length) (same : rest.take (data.length - done) = data.drop done) :
    (process.writeSpan (Span.first (start + done) (data.length - done)) rest).Ends pager
      fun result next =>
        Tracks config process pager
          (process.flat.writePage start data ((start + done) / pageBytes))
          (result.map Option.isSome) next ∧
        ∀ count, result = .ok (some count) →
          count = (Span.first (start + done) (data.length - done)).count := by
  have inside : (Span.first (start + done) (data.length - done)).offset < pageBytes :=
    Nat.mod_lt _ (by decide)
  have fits := Span.first_fits (start + done) (data.length - done)
  have shorter := Span.first_count_le (start + done) (data.length - done)
  have part : rest.take (Span.first (start + done) (data.length - done)).count =
      (data.drop done).take (Span.first (start + done) (data.length - done)).count := by
    rw [← same, List.take_take, Nat.min_eq_left shorter]
  have covers := FlatProcess.covered_eq_overwrite halted unfinished
  rw [writeSpan, FlatProcess.writePage]
  refine Ends.bind (pinPage_ends intact running _ true) (fun entry middle pinned => ?_)
    fun cause middle tracks => ⟨tracks.stop, fun _ => no_answer⟩
  rcases pinned with ⟨settled, ⟨⟨known, resident, samePpn, sameFlag⟩, tracks⟩, rfl⟩
  have accounts := tracks.intact.accounts
  rw [ends_thenAlways]
  by_cases refuses : entry.readOnly = true
  · rw [if_pos refuses]
    simp only [ends_pure, letGo, unpin_pin accounts.pins]
    refine ⟨tracks.bind ?_, fun _ impossible => by cases impossible⟩
    simp only [refuses, if_true]
    exact Tracks.pure tracks.intact false
  · have frameInside := accounts.lt_size_of_get resident
    rw [samePpn] at frameInside
    have whole : min ((data.drop done).take
        (Span.first (start + done) (data.length - done)).count).length
          (pageBytes - (Span.first (start + done) (data.length - done)).offset) =
            (Span.first (start + done) (data.length - done)).count := by
      rw [List.length_take, List.length_drop]
      omega
    rw [if_neg refuses, part, map_eq_pure_bind, Action.ends_bind,
      ends_writeFrame (by exact frameInside) inside, whole]
    simp only [ends_pure, letGo_store accounts.pins]
    refine ⟨tracks.bind ?_, fun count answered => ?_⟩
    · simp only [refuses, if_false, Bool.false_eq_true, covers]
      have stored := tracks_store tracks.intact resident
        ((settled.memory.frame entry.ppn).overwrite ((start + done) % pageBytes)
          ((data.drop done).take (Span.first (start + done) (data.length - done)).count))
      rw [samePpn, sameFlag, (Bool.not_eq_true _).mp refuses] at stored
      refine stored.bind ?_
      exact Tracks.pure stored.intact true
    · cases answered
      rfl

/-- Writing goes on where it has come to: `done` bytes were written, and `rest` begins with
the others. -/
theorem writeSpans_ends (intact : Intact config ∅ pager) (running : process.exited = false)
    {start done : Nat} {data rest : Bytes} (halted : FlatProcess.Halted start data.length done)
    (same : rest.take (data.length - done) = data.drop done) :
    (process.writeSpans done rest (cut (start + done) (data.length - done))).Ends pager
      (Tracks config process pager (process.flat.writePages start data
        (pageNumbers (start + done) (data.length - done)))) := by
  obtain ⟨left, leftover⟩ : ∃ left, data.length - done = left := ⟨_, rfl⟩
  rw [leftover]
  induction left using Nat.strongRecOn generalizing pager done rest with
  | ind left hypothesis =>
    by_cases finished : left = 0
    · have all : done = data.length := Nat.le_antisymm halted.1 (by omega)
      rw [finished, cut_zero, pageNumbers_zero, writeSpans, FlatProcess.writePages, all]
      exact Tracks.pure intact data.length
    · have positive := Nat.pos_of_ne_zero finished
      have more : 0 < (Span.first (start + done) left).count := Span.first_count_pos positive
      have shorter := Span.first_count_le (start + done) left
      have written := writeSpan_ends intact running halted (by omega) same
      rw [leftover] at written
      rw [cut_of_pos _ positive, pageNumbers_of_pos _ positive, writeSpans,
        FlatProcess.writePages]
      refine Ends.bind written (fun answer middle holds => ?_) fun cause middle holds =>
        holds.1.stop
      rcases holds with ⟨tracks, told⟩
      cases answer with
      | none =>
        refine tracks.bind ?_
        have reached : (start + done) / pageBytes * pageBytes - start = done := by
          simp only [FlatProcess.Halted, pageBytes] at halted ⊢
          omega
        simp only [Option.isSome_none, Bool.false_eq_true, if_false]
        change Tracks config process middle
          (pure ((start + done) / pageBytes * pageBytes - start)) _ _
        rw [reached]
        exact Tracks.pure tracks.intact done
      | some count =>
        rw [told count rfl]
        have further : FlatProcess.Halted start data.length
            (done + (Span.first (start + done) left).count) := by
          simp only [Span.first, FlatProcess.Halted, pageBytes] at halted ⊢
          omega
        have others : (rest.drop (Span.first (start + done) left).count).take
            (data.length - (done + (Span.first (start + done) left).count)) =
              data.drop (done + (Span.first (start + done) left).count) := by
          rw [← List.drop_drop, ← same, List.drop_take]
          congr 1
          omega
        have later := hypothesis (left - (Span.first (start + done) left).count) (by omega)
          tracks.intact further others (by omega)
        rw [← Nat.add_assoc] at later
        refine later.mono fun result next after => tracks.bind ?_
        simp only [Option.isSome_some, if_true]
        exact after

/-- A write is one of the flat process, also where it ends halfway. -/
theorem write_ends (intact : Intact config ∅ pager) (running : process.exited = false)
    (address : UInt32) (data : Bytes) :
    (process.write address data).Ends pager
      (Tracks config process pager (process.flat.write address data)) := by
  have size : (data.take (UInt32.size - address.toNat)).length =
      min data.length (addressCount - address.toNat) := by
    rw [List.length_take, Nat.min_comm, addressCount]
  have halted : FlatProcess.Halted address.toNat
      (data.take (UInt32.size - address.toNat)).length 0 := ⟨Nat.zero_le _, Or.inr (Or.inl rfl)⟩
  have same : data.take ((data.take (UInt32.size - address.toNat)).length - 0) =
      (data.take (UInt32.size - address.toNat)).drop 0 := by
    rw [size, List.drop_zero, Nat.sub_zero, Nat.min_comm, addressCount]
    exact (List.take_eq_take_min ..).symm
  have ends := writeSpans_ends intact running halted same
  rw [Nat.add_zero, Nat.sub_zero, size] at ends
  rw [write, ends_ensureRunning running, FlatProcess.write, size]
  exact ends

/-! ### Loading -/

/-- A chunk is loaded into a page of its own. -/
theorem loadChunk_ends (intact : Intact config ∅ pager) (running : process.exited = false)
    (vpn : Vpn) (readOnly : Bool) (chunk : Bytes) :
    (process.loadChunk vpn readOnly chunk).Ends pager
      (Tracks config process pager
        (FlatProcess.place vpn ⟨Page.zero.overwrite 0 chunk, readOnly⟩)) := by
  rw [loadChunk, ends_ensureRunning running, newPagePinned, Action.ends_bind, ends_causing,
    Action.ends_bind]
  apply Ends.mono (newPage_ends intact.accounts (process.page vpn) readOnly)
  intro result middle backed
  cases result with
  | error cause => exact tracks_of_unbacked backed intact _
  | ok entry =>
    obtain ⟨kept, inside, ⟨ppn, rfl⟩, changed⟩ := backed.viewOf intact
    have resident := backed.get_eq
    have accounts := kept.accounts
    have frameInside : ppn < middle.memory.size := accounts.lt_size_of_get resident
    have zeros := (changed (process.page vpn)).symm.trans (viewOf_of_get resident)
    rw [if_pos rfl] at zeros
    have contents : Page.zero = middle.memory.frame ppn :=
      congrArg PageView.contents (Option.some.inj zeros)
    simp only [Action.ends_bind, ends_modify, ends_pure, mapError_ok, mapError_error]
    rw [ends_thenAlways, ends_writeFrame (by exact frameInside) (by decide),
      letGo_store accounts.pins]
    have vpnInside : vpn ≤ lastPage := inside
    apply tracks_of_viewOf (intact_store kept _ _) vpnInside
    intro other
    refine (viewOf_store accounts resident _ other).trans ?_
    split
    · next here =>
      exact congrArg (fun page : Page => some (PageView.mk (page.overwrite 0 chunk) readOnly))
        contents.symm
    · next elsewhere => rw [changed, if_neg elsewhere]

/-- The number of a page of a section, where there is one. -/
theorem sectionPage_eq (first : Vpn) (index : Nat) :
    sectionPage first index =
      if UInt32.size ≤ first.toNat + index then .error (.kernel (.invalidPage first))
      else .ok (first.toNat + index).toUInt32 := by
  rw [sectionPage]
  split
  · next inside =>
    rw [if_neg (Nat.not_le.mpr inside)]
    refine congrArg Except.ok (UInt32.toNat_inj.mp ?_)
    simp only [UInt32.toNat_add, Nat.toUInt32, UInt32.toNat_ofNat', Nat.add_mod_mod]
  · next outside => rw [if_pos (Nat.not_lt.mp outside)]

/-- The pages of a section that are left to be made, `index` of them having been made, hold
the contents that are left. -/
theorem loadChunks_ends (intact : Intact config ∅ pager) (running : process.exited = false)
    (first : Vpn) (contents : Bytes) (readOnly : Bool) {index limit : Nat}
    (enough : contents.length - index * pageBytes ≤ limit) :
    (process.loadChunks first readOnly index
        (chunksUpTo limit (contents.drop (index * pageBytes)))).Ends pager fun result next =>
      Tracks config process pager
        (FlatProcess.loadPages first contents readOnly
          (List.range' index (pagesFor (contents.length - index * pageBytes))))
        (result.map fun _ => ()) next ∧
      ∀ pages, result = .ok pages →
        pages = index + pagesFor (contents.length - index * pageBytes) := by
  induction limit generalizing pager index with
  | zero =>
    rw [Nat.le_zero.mp enough]
    exact ⟨Tracks.pure intact (), fun pages same => (Except.ok.inj same).symm⟩
  | succ limit hypothesis =>
    simp only [chunksUpTo, List.isEmpty_iff, List.drop_eq_nil_iff]
    split
    · next passed =>
      rw [Nat.sub_eq_zero_of_le passed]
      exact ⟨Tracks.pure intact (), fun pages same => (Except.ok.inj same).symm⟩
    · next left =>
      have rest : contents.length - index * pageBytes - pageBytes =
          contents.length - (index + 1) * pageBytes := by
        rw [Nat.succ_mul, Nat.sub_sub]
      have positive : 0 < pageBytes := by decide
      have fewer : contents.length - (index + 1) * pageBytes ≤ limit := by omega
      rw [pagesFor_of_pos (by omega), rest, List.range'_succ, loadChunks,
        FlatProcess.loadPages, List.drop_drop, ← Nat.succ_mul, sectionPage_eq]
      by_cases outside : UInt32.size ≤ first.toNat + index
      · rw [if_pos outside, if_pos outside, Action.ends_bind, ends_conclude]
        exact ⟨Tracks.stop (Tracks.of_same intact (fun _ => rfl) (.throw _)), fun _ => no_answer⟩
      · rw [if_neg outside, if_neg outside, Action.ends_bind, ends_conclude]
        refine Ends.bind (loadChunk_ends intact running _ readOnly _)
          (fun _ middle tracks => ?_) fun cause middle tracks => ?_
        · rw [← FlatProcess.sectionView_eq] at tracks
          apply Ends.mono (hypothesis tracks.intact fewer)
          rintro result last ⟨after, told⟩
          exact ⟨tracks.bind after, fun pages same => by rw [told pages same]; omega⟩
        · rw [← FlatProcess.sectionView_eq] at tracks
          exact ⟨tracks.stop, fun _ => no_answer⟩

/-- A section is loaded as the flat process loads it, page after page. -/
theorem loadSection_ends (intact : Intact config ∅ pager) (running : process.exited = false)
    (first : Vpn) (contents : Bytes) (readOnly : Bool) :
    (process.loadSection first contents readOnly).Ends pager
      (Tracks config process pager (FlatProcess.loadSection first contents readOnly)) := by
  have enough : contents.length - 0 * pageBytes ≤ contents.length := Nat.sub_le _ _
  have ends := loadChunks_ends intact running first contents readOnly enough
  simp only [Nat.zero_mul, List.drop_zero, Nat.sub_zero, Nat.zero_add] at ends
  rw [loadSection, chunks, FlatProcess.loadSection, List.range_eq_range']
  apply ends.mono
  rintro (cause | pages) next ⟨tracks, told⟩
  · exact tracks.stop
  · rw [told pages rfl]
    exact tracks.bind (Tracks.pure tracks.intact _)

/-- The stack page is made as the flat process makes it. -/
theorem allocateStack_ends (intact : Intact config ∅ pager)
    (running : process.exited = false) :
    process.allocateStack.Ends pager fun result next =>
      Tracks config process pager (FlatProcess.place process.stackTop .blank)
        (result.map fun _ => ()) next ∧
      ∀ entry, result = .ok entry → ∃ ppn, entry = .fresh process.stackTop ppn false := by
  rw [allocateStack, ends_ensureRunning running, ends_causing]
  apply Ends.mono (newPage_ends intact.accounts (process.page process.stackTop) false)
  intro result next backed
  cases result with
  | error cause =>
    exact ⟨tracks_of_unbacked backed intact _, fun _ => no_answer⟩
  | ok entry =>
    obtain ⟨kept, inside, fresh, changed⟩ := backed.viewOf intact
    rw [PageView.zero_eq_blank] at changed
    refine ⟨tracks_of_viewOf kept inside changed, fun answer same => ?_⟩
    cases same
    exact fresh

/-! ### Requests -/

/-- To save its state changes nothing of what a process sees. -/
theorem saveState_tracks (intact : Intact config ∅ pager) (answer : α) :
    Tracks config process pager (pure answer) (.ok answer) (process.saveState pager) := by
  have folded : ∀ (slots : List TranslationEntry) (tables : PageTables),
      Tracks config process pager (pure answer) (.ok answer) { pager with tables := tables } →
      Tracks config process pager (pure answer) (.ok answer)
        { pager with tables := slots.foldl process.foldBack tables } := by
    intro slots
    induction slots with
    | nil => exact fun _ tracks => tracks
    | cons slot rest hypothesis =>
      intro tables tracks
      apply hypothesis
      rw [foldBack]
      split
      · exact tracks.markAccessed _ _
      · exact tracks
  have tracks := folded (process.cache pager).slots pager.tables (Tracks.pure intact answer)
  exact tracks.withTlbs _

omit [FileSystem φ] [ByteFiles φ] in
/-- An address is on the page whose number is its upper bits. -/
theorem vpn_eq (address : UInt32) :
    (VirtualAddress.mk address).vpn = (address.toNat / pageBytes).toUInt32 := by
  have below := address.toNat_lt
  apply UInt32.toNat_inj.mp
  simp only [VirtualAddress.vpn, UInt32.toNat_shiftRight, UInt32.reduceToNat, Nat.reduceMod,
    Nat.shiftRight_eq_div_pow, Nat.reducePow, pageBytes, Nat.toUInt32, UInt32.toNat_ofNat']
  omega

/-- Whatever a process is asked for, it does to its paged memory what it would do to its
flat one. -/
theorem serve_ends (intact : Intact config ∅ pager) (running : process.exited = false)
    (request : ProcessRequest) :
    (process.serve request).Ends pager
      (Tracks config process pager (process.flat.serve request)) := by
  cases request with
  | fault address =>
    rw [serve, fault, FlatProcess.serve, ← vpn_eq, Action.ends_bind, Action.ends_bind]
    apply Ends.mono (resolve_ends intact running _)
    intro result next found
    cases result with
    | error cause => exact Tracks.stop found
    | ok entry =>
      rcases found with ⟨_, tracks⟩
      exact tracks.bind (Tracks.pure tracks.intact _)
  | loadSection first contents readOnly =>
    apply Tracks.ends_bind
    · exact loadSection_ends intact running first contents readOnly
    · exact fun pages _ kept => Tracks.pure kept (ProcessAnswer.loaded pages)
  | allocateStack =>
    rw [serve, FlatProcess.serve]
    refine Ends.bind (allocateStack_ends intact running) (fun entry next holds => ?_)
      fun cause next holds => holds.1.stop
    rcases holds with ⟨tracks, told⟩
    obtain ⟨ppn, rfl⟩ := told entry rfl
    exact tracks.bind (Tracks.pure tracks.intact _)
  | read address length =>
    apply Tracks.ends_bind
    · exact read_ends intact running address length
    · exact fun data _ kept => Tracks.pure kept (ProcessAnswer.bytes data)
  | write address data =>
    apply Tracks.ends_bind
    · exact write_ends intact running address data
    · exact fun count _ kept => Tracks.pure kept (ProcessAnswer.written count)
  | saveState => exact saveState_tracks intact ProcessAnswer.done
  | restoreState =>
    have tracks : Tracks config process pager _ _ pager :=
      Tracks.pure intact ProcessAnswer.done
    exact tracks.withTlbs (pager.tlbs.change process.tlb Tlb.invalidateAll)

end UserProcess

end VirtualMemory
