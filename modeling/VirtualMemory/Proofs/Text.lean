/-
Module: VirtualMemory.Proofs.Text
Purpose: What the lines of a text are, what is left of it without the white space at its ends,
  and which number it stands for.
Main exports:
  Text.Cut, cut_iff; Text.Blank, Text.Bare, exists_eq_trim, trim_eq; Text.Numeral,
  readNatural_eq_some_iff, readBelow_eq_some_iff

Each notion is told of texts put together from their parts, and not of how they are read.
-/
import Mathlib.Data.List.Induction
import Mathlib.Data.List.TakeWhile
import Mathlib.Data.Nat.Digits.Defs
import VirtualMemory.Text.Blank
import VirtualMemory.Text.Numeral

namespace VirtualMemory.Text

variable {text line rest content start finish : List Char} {found : List (List Char)}

/-! ### Lines -/

/-- A text and its lines. A line ends at a line feed, and one carriage return before it does not
belong to the line. What follows the last line feed is a line if there is anything. -/
inductive Cut : List Char → List (List Char) → Prop where
  | empty : Cut [] []
  | last {line : List Char} (nonempty : line ≠ []) (whole : '\n' ∉ line) : Cut line [line]
  | feed {line rest : List Char} {others : List (List Char)} (whole : '\n' ∉ line)
      (unreturned : line.getLast? ≠ some '\r') (cut : Cut rest others) :
      Cut (line ++ '\n' :: rest) (line :: others)
  | returned {line rest : List Char} {others : List (List Char)} (whole : '\n' ∉ line)
      (cut : Cut rest others) : Cut (line ++ '\r' :: '\n' :: rest) (line :: others)

theorem dropReturn_append (line : List Char) : dropReturn (line ++ ['\r']) = line := by
  simp [dropReturn]

theorem dropReturn_eq (unreturned : line.getLast? ≠ some '\r') : dropReturn line = line := by
  rw [dropReturn]
  split
  · next rest same =>
    rw [← List.head?_reverse, same] at unreturned
    exact absurd rfl unreturned
  · rfl

/-- A line feed ends a line, whatever stands before it. -/
theorem Cut.of_feed (whole : '\n' ∉ line) (cut : Cut rest found) :
    Cut (line ++ '\n' :: rest) (dropReturn line :: found) := by
  by_cases returned : line.getLast? = some '\r'
  · obtain ⟨before, rfl⟩ := List.getLast?_eq_some_iff.mp returned
    rw [dropReturn_append, List.append_assoc]
    exact .returned (fun inside => whole (List.mem_append_left _ inside)) cut
  · rw [dropReturn_eq returned]
    exact .feed whole returned cut

/-- The lines of a text are those that it is cut into. -/
theorem cut_linesFrom {current : List Char} (whole : '\n' ∉ current) (text : List Char) :
    Cut (current.reverse ++ text) (linesFrom current text) := by
  induction text generalizing current with
  | nil =>
    rw [linesFrom, List.append_nil]
    split
    · next empty =>
      rw [List.isEmpty_iff.mp empty]
      exact .empty
    · next nonempty =>
      refine .last (fun empty => nonempty ?_) (fun inside => whole (List.mem_reverse.mp inside))
      rw [List.isEmpty_iff, ← List.reverse_eq_nil_iff, empty]
  | cons character rest hypothesis =>
    by_cases feed : character = '\n'
    · subst feed
      have others : Cut rest (linesFrom [] rest) := hypothesis List.not_mem_nil
      exact .of_feed (fun inside => whole (List.mem_reverse.mp inside)) others
    · have stillWhole : '\n' ∉ character :: current := fun inside =>
        (List.mem_cons.mp inside).elim (fun same => feed same.symm) whole
      have longer := hypothesis stillWhole
      rw [List.reverse_cons, List.append_assoc] at longer
      rw [linesFrom]
      · exact longer
      · exact feed

theorem linesFrom_append (whole : '\n' ∉ line) (current rest : List Char) :
    linesFrom current (line ++ rest) = linesFrom (line.reverse ++ current) rest := by
  induction line generalizing current with
  | nil => rfl
  | cons character others hypothesis =>
    rw [List.mem_cons, not_or] at whole
    rw [List.cons_append, linesFrom, hypothesis whole.2, List.reverse_cons, List.append_assoc]
    · rfl
    · exact fun same => whole.1 same.symm

theorem lines_feed (whole : '\n' ∉ line) (rest : List Char) :
    lines (line ++ '\n' :: rest) = dropReturn line :: lines rest := by
  rw [lines, linesFrom_append whole, linesFrom, List.append_nil, List.reverse_reverse, lines]

/-- A text has the lines that it is cut into, and no others. -/
theorem cut_iff : Cut text found ↔ lines text = found := by
  constructor
  · intro cut
    induction cut with
    | empty => rfl
    | @last line nonempty whole =>
      have same := linesFrom_append whole [] []
      rw [List.append_nil, List.append_nil] at same
      rw [lines, same, linesFrom, List.reverse_reverse, List.isEmpty_reverse, if_neg]
      rwa [List.isEmpty_iff]
    | feed whole unreturned cut hypothesis =>
      rw [lines_feed whole, dropReturn_eq unreturned, hypothesis]
    | @returned line rest others whole cut hypothesis =>
      have inside : '\n' ∉ line ++ ['\r'] := by
        rw [List.mem_append, not_or]
        exact ⟨whole, by decide⟩
      rw [List.append_cons, lines_feed inside, dropReturn_append, hypothesis]
  · rintro rfl
    have nothing : '\n' ∉ ([] : List Char) := List.not_mem_nil
    exact cut_linesFrom nothing text

/-! ### Runs of characters -/

/-- A run of characters of a kind ends where the first one of another kind stands. -/
theorem takeWhile_append {kind : Char → Bool} {run : List Char}
    (inside : ∀ character ∈ run, kind character = true)
    (stops : ∀ character, rest.head? = some character → kind character = false) :
    (run ++ rest).takeWhile kind = run := by
  rw [List.takeWhile_append_of_pos inside]
  cases rest with
  | nil => rw [List.takeWhile_nil, List.append_nil]
  | cons first others =>
    rw [List.takeWhile_cons_of_neg (Bool.eq_false_iff.mp (stops first rfl)), List.append_nil]

theorem dropWhile_append {kind : Char → Bool} {run : List Char}
    (inside : ∀ character ∈ run, kind character = true)
    (stops : ∀ character, rest.head? = some character → kind character = false) :
    (run ++ rest).dropWhile kind = rest := by
  rw [List.dropWhile_append_of_pos inside]
  cases rest with
  | nil => rfl
  | cons first others => exact List.dropWhile_cons_of_neg (Bool.eq_false_iff.mp (stops first rfl))

/-- What is left after a run begins with another kind of character. -/
theorem head?_dropWhile (kind : Char → Bool) (text : List Char) {character : Char}
    (first : (text.dropWhile kind).head? = some character) : kind character = false := by
  have told := List.head?_dropWhile_not kind text
  rw [first] at told
  exact told

/-! ### White space at the ends -/

/-- Text of white space only. -/
def Blank (text : List Char) : Prop := ∀ character ∈ text, isBlank character = true

/-- Text that neither begins nor ends with white space. -/
structure Bare (text : List Char) : Prop where
  head : ∀ character, text.head? = some character → isBlank character = false
  last : ∀ character, text.getLast? = some character → isBlank character = false

/-- The end of a text is the start of the text read backwards. -/
theorem exists_eq_trimEnd (text : List Char) :
    ∃ finish, Blank finish ∧ text = trimEnd text ++ finish ∧
      ∀ character, (trimEnd text).getLast? = some character → isBlank character = false := by
  refine ⟨(text.reverse.takeWhile isBlank).reverse, ?_, ?_, ?_⟩
  · intro character inside
    exact List.mem_takeWhile_imp (List.mem_reverse.mp inside)
  · rw [trimEnd, ← List.reverse_append, List.takeWhile_append_dropWhile, List.reverse_reverse]
  · intro character last
    rw [trimEnd, List.getLast?_reverse] at last
    exact head?_dropWhile isBlank text.reverse last

/-- Trimming takes white space away, and all that there is at the ends. -/
theorem exists_eq_trim (text : List Char) :
    ∃ start finish, Blank start ∧ Blank finish ∧ text = start ++ (trim text ++ finish) ∧
      Bare (trim text) := by
  obtain ⟨finish, blank, cut, last⟩ := exists_eq_trimEnd (trimStart text)
  refine ⟨text.takeWhile isBlank, finish, fun _ => List.mem_takeWhile_imp, blank, ?_, ?_, last⟩
  · rw [trim, ← cut, trimStart, List.takeWhile_append_dropWhile]
  · intro character first
    apply head?_dropWhile isBlank text
    change (trimStart text).head? = some character
    rw [cut, List.head?_append]
    change (trim text).head?.or _ = _
    rw [first, Option.some_or]

theorem trimEnd_append (blank : Blank finish)
    (last : ∀ character, content.getLast? = some character → isBlank character = false) :
    trimEnd (content ++ finish) = content := by
  have reversed : (finish.reverse ++ content.reverse).dropWhile isBlank = content.reverse := by
    apply dropWhile_append
    · exact fun character inside => blank character (List.mem_reverse.mp inside)
    · exact fun character first => last character (List.head?_reverse ▸ first)
  rw [trimEnd, List.reverse_append, reversed, List.reverse_reverse]

/-- A text without white space at its ends is what is left when some is put there. -/
theorem trim_eq (blankStart : Blank start) (blankFinish : Blank finish) (bare : Bare content) :
    trim (start ++ (content ++ finish)) = content := by
  cases content with
  | nil =>
    have blank : ∀ character ∈ start ++ finish, isBlank character = true := by
      intro character inside
      exact (List.mem_append.mp inside).elim (blankStart character) (blankFinish character)
    rw [List.nil_append, trim, trimStart, List.dropWhile_eq_nil_iff.mpr blank]
    rfl
  | cons first others =>
    have begun : trimStart (start ++ (first :: others ++ finish)) = first :: others ++ finish :=
      dropWhile_append blankStart fun character same => bare.head character same
    rw [trim, begun, trimEnd_append blankFinish bare.last]

/-- A text of blanks has nothing left when it is trimmed. -/
theorem trim_eq_nil_iff : trim text = [] ↔ Blank text := by
  constructor
  · intro nothing
    obtain ⟨start, finish, blankStart, blankFinish, same, _⟩ := exists_eq_trim text
    rw [nothing, List.nil_append] at same
    intro character inside
    rw [same] at inside
    exact (List.mem_append.mp inside).elim (blankStart character) (blankFinish character)
  · intro blank
    rw [trim, trimStart, List.dropWhile_eq_nil_iff.mpr blank]
    rfl

/-! ### Numbers -/

/-- A text that stands for a number: its decimal digits, one at least, after a plus sign or after
none. -/
def Numeral (text : List Char) (value : Nat) : Prop :=
  ∃ digits, (text = digits ∨ text = '+' :: digits) ∧ digits ≠ [] ∧
    (∀ digit ∈ digits, '0' ≤ digit ∧ digit ≤ '9') ∧
    value = Nat.ofDigits 10 (digits.reverse.map fun digit => digit.toNat - '0'.toNat)

theorem isDigit_eq_true_iff {character : Char} :
    isDigit character = true ↔ '0' ≤ character ∧ character ≤ '9' := by
  rw [isDigit, Bool.and_eq_true, decide_eq_true_eq, decide_eq_true_eq]

/-- Digits are summed up from the first to the last, each step multiplying what is there. -/
theorem digitsValue_eq (digits : List Char) :
    digitsValue digits =
      Nat.ofDigits 10 (digits.reverse.map fun digit => digit.toNat - '0'.toNat) := by
  rw [digitsValue]
  induction digits using List.reverseRecOn with
  | nil => rfl
  | append_singleton digits digit hypothesis =>
    rw [List.foldl_append, hypothesis, List.reverse_append, List.reverse_singleton,
      List.singleton_append, List.map_cons, Nat.ofDigits_cons, List.foldl_cons, List.foldl_nil]
    rw [Nat.mul_comm, Nat.add_comm]

theorem unsignedPart_eq {digits : List Char}
    (numeric : ∀ digit ∈ digits, '0' ≤ digit ∧ digit ≤ '9')
    (form : text = digits ∨ text = '+' :: digits) : unsignedPart text = digits := by
  rcases form with rfl | rfl
  · rw [unsignedPart]
    rintro rest rfl
    exact absurd (numeric '+' List.mem_cons_self) (by decide)
  · rfl

/-- What is read as a number is a numeral, and every numeral is read. -/
theorem readNatural_eq_some_iff {value : Nat} :
    readNatural text = some value ↔ Numeral text value := by
  rw [readNatural]
  constructor
  · intro read
    split at read
    · next numeric =>
      simp only [Bool.and_eq_true, Bool.not_eq_true', List.isEmpty_eq_false_iff,
        List.all_eq_true] at numeric
      refine ⟨unsignedPart text, ?_, numeric.1,
        fun digit inside => isDigit_eq_true_iff.mp (numeric.2 digit inside), ?_⟩
      · unfold unsignedPart
        split
        · exact Or.inr rfl
        · exact Or.inl rfl
      · rw [← digitsValue_eq, Option.some.inj read]
    · cases read
  · rintro ⟨digits, form, nonempty, numeric, rfl⟩
    have all : digits.all isDigit = true :=
      List.all_eq_true.mpr fun digit inside => isDigit_eq_true_iff.mpr (numeric digit inside)
    have nonempty' : digits.isEmpty = false := List.isEmpty_eq_false_iff.mpr nonempty
    simp only [unsignedPart_eq numeric form, all, nonempty', Bool.not_false, Bool.and_self,
      if_true, digitsValue_eq]

/-- A number is read below a bound if it is a numeral, and in the bound. -/
theorem readBelow_eq_some_iff {bound value : Nat} :
    readBelow bound text = some value ↔ Numeral text value ∧ value < bound := by
  rw [readBelow, ← readNatural_eq_some_iff]
  cases readNatural text with
  | none => simp
  | some read =>
    dsimp only
    split
    · next below =>
      constructor
      · rintro ⟨⟩
        exact ⟨rfl, below⟩
      · exact And.left
    · next beyond =>
      constructor
      · rintro ⟨⟩
      · rintro ⟨⟨⟩, below⟩
        exact absurd below beyond

end VirtualMemory.Text
