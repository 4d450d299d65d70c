/-
Module: VirtualMemory.Span
Purpose: Cutting a run of bytes at page boundaries.
Main exports:
  Span, cut, cut_of_pos, spans

Memory and files are kept in pages, and a copy that crosses a page boundary is made
page by page.
-/
import VirtualMemory.Address

namespace VirtualMemory

/-- The part of a run of bytes that lies in one page: the number of the page, and
where in the page the part starts and how long it is. -/
structure Span where
  page : Nat
  offset : Nat
  count : Nat
deriving DecidableEq, Repr

/-- The part of `length` bytes from `start` on that lies in the page of the
first. -/
def Span.first (start length : Nat) : Span :=
  { page := start / pageBytes
    offset := start % pageBytes
    count := min length (pageBytes - start % pageBytes) }

theorem Span.first_fits (start length : Nat) :
    (Span.first start length).offset + (Span.first start length).count ≤ pageBytes := by
  simp only [Span.first, pageBytes]
  omega

theorem Span.first_count_pos {start length : Nat} (positive : 0 < length) :
    0 < (Span.first start length).count := by
  simp only [Span.first, pageBytes]
  omega

theorem Span.first_count_le (start length : Nat) :
    (Span.first start length).count ≤ length := by
  simp only [Span.first]
  omega

/-- The first `limit` parts of a run of bytes. -/
def cutUpTo (start length : Nat) : (limit : Nat) → List Span
  | 0 => []
  | limit + 1 =>
      if length = 0 then []
      else
        let span := Span.first start length
        span :: cutUpTo (start + span.count) (length - span.count) limit

/-- Cuts the `length` bytes from `start` on at the page boundaries, in order. There
are no more parts than bytes. -/
def cut (start length : Nat) : List Span :=
  cutUpTo start length length

theorem cutUpTo_eq_cut {limit : Nat} (start : Nat) {length : Nat} (enough : length ≤ limit) :
    cutUpTo start length limit = cut start length := by
  induction limit using Nat.strongRecOn generalizing start length with
  | ind limit hypothesis =>
    match limit, length, enough with
    | 0, 0, _ => rfl
    | limit + 1, 0, _ => simp [cut, cutUpTo]
    | limit + 1, length + 1, enough =>
      have positive : 0 < (Span.first start (length + 1)).count :=
        Span.first_count_pos (Nat.succ_pos length)
      simp only [cut, cutUpTo, Nat.add_one_ne_zero, if_false]
      congr 1
      rw [hypothesis limit (by omega) _ (by omega), hypothesis length (by omega) _ (by omega)]

@[simp] theorem cut_zero (start : Nat) : cut start 0 = [] := rfl

/-- A run of bytes that is not empty is cut into its first part and the parts of the
rest. -/
theorem cut_of_pos (start : Nat) {length : Nat} (positive : 0 < length) :
    cut start length =
      Span.first start length ::
        cut (start + (Span.first start length).count)
          (length - (Span.first start length).count) := by
  obtain ⟨rest, rfl⟩ := Nat.exists_eq_add_one_of_ne_zero (Nat.ne_of_gt positive)
  have more : 0 < (Span.first start (rest + 1)).count := Span.first_count_pos positive
  rw [cut, cutUpTo, if_neg (Nat.succ_ne_zero rest)]
  simp only
  rw [cutUpTo_eq_cut _ (by omega)]

/-- The number of addresses. -/
def addressCount : Nat := UInt32.size

/-- Cuts the `length` bytes from address `start` on. Bytes past the last address are
left out. -/
def spans (start : UInt32) (length : Nat) : List Span :=
  cut start.toNat (min length (addressCount - start.toNat))

end VirtualMemory
