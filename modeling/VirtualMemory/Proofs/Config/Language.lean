/-
Module: VirtualMemory.Proofs.Config.Language
Purpose: Which texts are configurations, what each of them sets, and why all others are refused.
Main exports:
  Config.Remains, exists_remains, Remains.unique; Config.Yields, yields_cons;
  Config.FirstRefused; readLines_of_acceptable, readLines_of_refused; Config.Rearranged;
  Config.Judged, parse_judges

The lines are read from the first to the last, and each changes the settings that the next one
finds. What comes of it is told of all lines together: of each key, the last line that sets it.
-/
import VirtualMemory.Proofs.Config.Settings

namespace VirtualMemory.Config

open Text

variable {base config next : Config} {number : Nat} {lines contents : List (List Char)}
  {remaining : List (Nat × List Char)} {content : List Char} {known : Key} {cause : ConfigError}

/-! ### The lines that remain -/

/-- What counts of each line, with the number of the line. Lines of which nothing counts are
numbered and left out. -/
inductive Numbered : Nat → List (List Char) → List (Nat × List Char) → Prop where
  | none (number : Nat) : Numbered number [] []
  | skipped {number : Nat} {line : List Char} {lines : List (List Char)}
      {remaining : List (Nat × List Char)} (counts : Counts line [])
      (others : Numbered (number + 1) lines remaining) : Numbered number (line :: lines) remaining
  | kept {number : Nat} {line content : List Char} {lines : List (List Char)}
      {remaining : List (Nat × List Char)} (counts : Counts line content)
      (nonempty : content ≠ []) (others : Numbered (number + 1) lines remaining) :
      Numbered number (line :: lines) ((number, content) :: remaining)

/-- A text and what counts of its lines, which are numbered from one on. -/
def Remains (text : String) (remaining : List (Nat × List Char)) : Prop :=
  ∃ lines, Cut text.toList lines ∧ Numbered 1 lines remaining

theorem exists_numbered (number : Nat) (lines : List (List Char)) :
    ∃ remaining, Numbered number lines remaining := by
  induction lines generalizing number with
  | nil => exact ⟨[], .none number⟩
  | cons line others hypothesis =>
    obtain ⟨remaining, numbered⟩ := hypothesis (number + 1)
    by_cases nothing : Config.content line = []
    · exact ⟨remaining, .skipped (counts_iff.mpr nothing) numbered⟩
    · exact ⟨_, .kept (counts_iff.mpr rfl) nothing numbered⟩

/-- Lines are numbered in one way. -/
theorem Numbered.unique {others : List (Nat × List Char)}
    (one : Numbered number lines remaining) (two : Numbered number lines others) :
    remaining = others := by
  induction one generalizing others with
  | none =>
    cases two
    rfl
  | skipped counts _ hypothesis =>
    cases two with
    | skipped _ numbered => exact hypothesis numbered
    | kept alsoCounts nonempty _ =>
      exact absurd ((counts_iff.mp alsoCounts).symm.trans (counts_iff.mp counts)) nonempty
  | kept counts nonempty _ hypothesis =>
    cases two with
    | skipped alsoCounts _ =>
      exact absurd ((counts_iff.mp counts).symm.trans (counts_iff.mp alsoCounts)) nonempty
    | kept alsoCounts _ numbered =>
      rw [hypothesis numbered, ← counts_iff.mp counts, ← counts_iff.mp alsoCounts]

theorem exists_remains (text : String) : ∃ remaining, Remains text remaining := by
  obtain ⟨remaining, numbered⟩ := exists_numbered 1 (Text.lines text.toList)
  exact ⟨remaining, _, cut_iff.mpr rfl, numbered⟩

/-- Something remains of a text in one way. -/
theorem Remains.unique {text : String} {others : List (Nat × List Char)}
    (one : Remains text remaining) (two : Remains text others) : remaining = others := by
  obtain ⟨lines, cut, numbered⟩ := one
  obtain ⟨otherLines, alsoCut, alsoNumbered⟩ := two
  obtain rfl : lines = otherLines := (cut_iff.mp cut).symm.trans (cut_iff.mp alsoCut)
  exact numbered.unique alsoNumbered

/-! ### What lines set -/

/-- None of the lines sets a key. -/
def Spares (contents : List (List Char)) (known : Key) : Prop :=
  ∀ content ∈ contents, ∀ value, ¬ Sets content known value

/-- The last of the lines that set a key sets it to a value. -/
def LastSets (contents : List (List Char)) (known : Key) (value : known.Value) : Prop :=
  ∃ earlier content later, contents = earlier ++ content :: later ∧ Sets content known value ∧
    Spares later known

/-- Each key has the value of the last line that sets it, and otherwise the one that it had. -/
def Yields (base : Config) (contents : List (List Char)) (config : Config) : Prop :=
  ∀ known, LastSets contents known (config.get known) ∨
    Spares contents known ∧ config.get known = base.get known

theorem spares_cons :
    Spares (content :: contents) known ↔
      (∀ value, ¬ Sets content known value) ∧ Spares contents known :=
  List.forall_mem_cons

/-- A line sets a key last if no line after it does. -/
theorem lastSets_cons {value : known.Value} :
    LastSets (content :: contents) known value ↔
      LastSets contents known value ∨ Sets content known value ∧ Spares contents known := by
  constructor
  · rintro ⟨_ | ⟨first, earlier⟩, last, later, same, sets, spares⟩
    · obtain ⟨rfl, rfl⟩ := List.cons_eq_cons.mp same
      exact Or.inr ⟨sets, spares⟩
    · obtain ⟨rfl, rfl⟩ := List.cons_eq_cons.mp same
      exact Or.inl ⟨earlier, last, later, rfl, sets, spares⟩
  · rintro (⟨earlier, last, later, rfl, sets, spares⟩ | ⟨sets, spares⟩)
    · exact ⟨content :: earlier, last, later, rfl, sets, spares⟩
    · exact ⟨[], content, contents, rfl, sets, spares⟩

theorem yields_nil : Yields base [] config ↔ config = base := by
  constructor
  · intro yields
    refine eq_of_get fun known => ?_
    rcases yields known with ⟨earlier, last, later, impossible, _⟩ | ⟨_, same⟩
    · simp at impossible
    · exact same
  · rintro rfl known
    exact Or.inr ⟨fun _ => (nomatch ·), rfl⟩

/-- What the first line sets is what the others find. -/
theorem yields_cons {value : known.Value} (sets : Sets content known value) :
    Yields base (content :: contents) config ↔ Yields (base.set known value) contents config := by
  refine forall_congr' fun other => ?_
  rw [lastSets_cons, spares_cons]
  by_cases same : known = other
  · subst same
    have found : Sets content known (config.get known) ↔ config.get known = value :=
      ⟨fun also => also.value_unique sets, fun same => same ▸ sets⟩
    rw [found, get_set_self]
    constructor
    · rintro ((last | ⟨same, spares⟩) | ⟨⟨never, _⟩, _⟩)
      · exact Or.inl last
      · exact Or.inr ⟨spares, same⟩
      · exact absurd sets (never value)
    · rintro (last | ⟨spares, same⟩)
      · exact Or.inl (Or.inl last)
      · exact Or.inl (Or.inr ⟨same, spares⟩)
  · have never : ∀ value, ¬ Sets content other value :=
      fun value also => same (sets.key_unique also)
    rw [get_set_of_ne base same]
    constructor
    · rintro ((last | ⟨also, _⟩) | ⟨⟨_, spares⟩, kept⟩)
      · exact Or.inl last
      · exact absurd also (never _)
      · exact Or.inr ⟨spares, kept⟩
    · rintro (last | ⟨spares, kept⟩)
      · exact Or.inl (Or.inl last)
      · exact Or.inr ⟨⟨never, spares⟩, kept⟩

/-! ### Reading the lines -/

/-- The first line that is not acceptable, and why it is refused. -/
def FirstRefused (remaining : List (Nat × List Char)) (cause : ConfigError) : Prop :=
  ∃ earlier number content later, remaining = earlier ++ (number, content) :: later ∧
    (∀ line ∈ earlier, Acceptable line.2) ∧ Refused number content cause

/-- All lines are acceptable, or there is a first one that is not. -/
theorem acceptable_or_firstRefused (remaining : List (Nat × List Char)) :
    (∀ line ∈ remaining, Acceptable line.2) ∨ ∃ cause, FirstRefused remaining cause := by
  induction remaining with
  | nil => exact Or.inl fun _ => (nomatch ·)
  | cons line rest hypothesis =>
    rcases acceptable_or_refused line.2 line.1 with acceptable | ⟨cause, refused⟩
    · rcases hypothesis with others | ⟨cause, earlier, number, content, later, rfl, before, refused⟩
      · exact Or.inl (List.forall_mem_cons.mpr ⟨acceptable, others⟩)
      · exact Or.inr ⟨cause, line :: earlier, number, content, later, rfl,
          List.forall_mem_cons.mpr ⟨acceptable, before⟩, refused⟩
    · exact Or.inr ⟨cause, [], line.1, line.2, rest, rfl, fun _ => (nomatch ·), refused⟩

/-- No line is both. -/
theorem Refused.not_acceptable (refused : Refused number content cause) :
    ¬ Acceptable content := by
  rintro ⟨known, value, text, assigns, denotes⟩
  cases refused with
  | malformed nothing => exact nothing ⟨_, _, assigns⟩
  | unknown alsoAssigns unnamed =>
    exact unnamed known (assigns.toParts.unique alsoAssigns.toParts).1
  | invalid alsoAssigns meaningless =>
    obtain ⟨sameName, rfl⟩ := assigns.toParts.unique alsoAssigns.toParts
    obtain rfl := Key.name_injective sameName
    exact meaningless value denotes

/-- If a line is refused, not all are acceptable. -/
theorem FirstRefused.not_acceptable (refused : FirstRefused remaining cause) :
    ¬ ∀ line ∈ remaining, Acceptable line.2 := by
  obtain ⟨earlier, number, content, later, rfl, _, why⟩ := refused
  exact fun all => why.not_acceptable (all (number, content) (by simp))

/-- Acceptable lines are read, and yield what they yield together. -/
theorem readLines_of_acceptable (numbered : Numbered number lines remaining)
    (acceptable : ∀ line ∈ remaining, Acceptable line.2) (base : Config) :
    ∃ config, base.readLines number lines = .ok config ∧
      ∀ other, Yields base (remaining.map Prod.snd) other ↔ other = config := by
  induction numbered generalizing base with
  | none => exact ⟨base, rfl, fun other => yields_nil⟩
  | skipped counts _ hypothesis =>
    rw [readLines, readLine_of_empty counts]
    exact hypothesis acceptable base
  | kept counts nonempty _ hypothesis =>
    obtain ⟨⟨known, value, sets⟩, others⟩ := List.forall_mem_cons.mp acceptable
    rw [readLines, readLine_of_sets counts sets]
    obtain ⟨config, read, yields_iff⟩ := hypothesis others (base.set known value)
    refine ⟨config, read, fun other => ?_⟩
    rw [← yields_iff, List.map_cons]
    exact yields_cons sets

/-- The first line that is refused ends the reading, whatever stands after it. -/
theorem readLines_of_refused (numbered : Numbered number lines remaining)
    (refused : FirstRefused remaining cause) (base : Config) :
    base.readLines number lines = .error cause := by
  induction numbered generalizing base with
  | none =>
    obtain ⟨earlier, _, _, later, impossible, _⟩ := refused
    simp at impossible
  | skipped counts _ hypothesis =>
    rw [readLines, readLine_of_empty counts]
    exact hypothesis refused base
  | kept counts nonempty _ hypothesis =>
    obtain ⟨_ | ⟨first, earlier⟩, number, content, later, same, acceptable, why⟩ := refused
    · cases same
      rw [readLines, readLine_of_refused counts nonempty why]
    · cases same
      obtain ⟨⟨known, value, sets⟩, others⟩ := List.forall_mem_cons.mp acceptable
      rw [readLines, readLine_of_sets counts sets]
      exact hypothesis ⟨earlier, number, content, later, rfl, others, why⟩ _

/-! ### The order of lines -/

/-- Lines that set different keys may change places. -/
inductive Rearranged : List (List Char) → List (List Char) → Prop where
  | refl (contents : List (List Char)) : Rearranged contents contents
  | swap {first second : List Char} {known other : Key} {value : known.Value}
      {otherValue : other.Value} (earlier later : List (List Char)) (different : known ≠ other)
      (one : Sets first known value) (two : Sets second other otherValue) :
      Rearranged (earlier ++ first :: second :: later) (earlier ++ second :: first :: later)
  | trans {first second third : List (List Char)} (one : Rearranged first second)
      (two : Rearranged second third) : Rearranged first third

theorem Rearranged.perm {others : List (List Char)} (rearranged : Rearranged contents others) :
    contents.Perm others := by
  induction rearranged with
  | refl => exact .refl _
  | swap earlier later => exact .append_left earlier (.swap _ _ _)
  | trans _ _ one two => exact one.trans two

theorem spares_of_perm {others : List (List Char)} (perm : contents.Perm others) :
    Spares contents known ↔ Spares others known :=
  forall_congr' fun _ => imp_congr_left perm.mem_iff

/-- Of two lines that set different keys, one at most sets a given key. -/
theorem lastSets_swap {first second : List Char} {value : known.Value}
    (apart : ∀ one two, Sets first known one → ¬ Sets second known two) :
    LastSets (first :: second :: contents) known value ↔
      LastSets (second :: first :: contents) known value := by
  simp only [lastSets_cons, spares_cons]
  constructor
  · rintro ((last | ⟨sets, spares⟩) | ⟨sets, _, spares⟩)
    · exact Or.inl (Or.inl last)
    · exact Or.inr ⟨sets, fun one also => apart one value also sets, spares⟩
    · exact Or.inl (Or.inr ⟨sets, spares⟩)
  · rintro ((last | ⟨sets, spares⟩) | ⟨sets, _, spares⟩)
    · exact Or.inl (Or.inl last)
    · exact Or.inr ⟨sets, fun two also => apart value two sets also, spares⟩
    · exact Or.inl (Or.inr ⟨sets, spares⟩)

theorem Rearranged.lastSets_iff {others : List (List Char)}
    (rearranged : Rearranged contents others) {value : known.Value} :
    LastSets contents known value ↔ LastSets others known value := by
  induction rearranged with
  | refl => exact Iff.rfl
  | @swap first second _ _ _ _ earlier later different one two =>
    have apart : ∀ value other, Sets first known value → ¬ Sets second known other :=
      fun _ _ also alsoTwo => different ((one.key_unique also).trans (two.key_unique alsoTwo).symm)
    induction earlier with
    | nil => exact lastSets_swap apart
    | cons content rest hypothesis =>
      have perm := (Rearranged.swap rest later different one two).perm
      rw [List.cons_append, List.cons_append, lastSets_cons, lastSets_cons]
      exact or_congr hypothesis (and_congr_right' (spares_of_perm perm))
  | trans _ _ one two => exact one.trans two

/-- Lines may be rearranged without making a difference to what they yield. -/
theorem Rearranged.yields_iff {others : List (List Char)}
    (rearranged : Rearranged contents others) :
    Yields base contents config ↔ Yields base others config :=
  forall_congr' fun _ =>
    or_congr rearranged.lastSets_iff (and_congr_left' (spares_of_perm rearranged.perm))

/-! ### Whole texts -/

/-- What becomes of a text, told of the lines of it that remain. -/
structure Judged (text : String) (remaining : List (Nat × List Char)) : Prop where
  /-- A text is a configuration if all lines are acceptable and what they yield together goes
  together. -/
  accepted_iff : ∀ config, parse text = .ok config ↔
    (∀ line ∈ remaining, Acceptable line.2) ∧ Yields {} (remaining.map Prod.snd) config ∧
      config.validate = .ok ()
  /-- A text is refused for its first line that is not acceptable or, if there is none, for
  what the lines yield together. -/
  refused_iff : ∀ cause, parse text = .error cause ↔
    FirstRefused remaining cause ∨
      (∀ line ∈ remaining, Acceptable line.2) ∧
        ∃ config, Yields {} (remaining.map Prod.snd) config ∧ config.validate = .error cause
  /-- Settings that do not go together are told of only if every line is acceptable. -/
  acceptable_of_invalid : ∀ reason, parse text = .error (.invalid reason) →
    ∀ line ∈ remaining, Acceptable line.2
  /-- Lines that set different keys may change places. -/
  rearranged : ∀ other others config, Remains other others →
    Rearranged (remaining.map Prod.snd) (others.map Prod.snd) →
    (parse text = .ok config ↔ parse other = .ok config)

theorem parse_of_acceptable {text : String} (remains : Remains text remaining)
    (acceptable : ∀ line ∈ remaining, Acceptable line.2) :
    ∃ config, (∀ other, Yields {} (remaining.map Prod.snd) other ↔ other = config) ∧
      parse text = config.validate.map fun _ => config := by
  obtain ⟨lines, cut, numbered⟩ := remains
  obtain ⟨config, read, yields_iff⟩ := readLines_of_acceptable numbered acceptable {}
  refine ⟨config, yields_iff, ?_⟩
  rw [parse, cut_iff.mp cut, read]
  dsimp only
  cases config.validate <;> rfl

/-- A text with a refused line is refused for the first one. -/
theorem parse_of_refused {text : String} (remains : Remains text remaining)
    (refused : FirstRefused remaining cause) : parse text = .error cause := by
  obtain ⟨lines, cut, numbered⟩ := remains
  rw [parse, cut_iff.mp cut, readLines_of_refused numbered refused]

/-- A text is parsed to the configuration that its lines yield, if that is valid. -/
theorem parse_eq_ok_iff {text : String} (remains : Remains text remaining) (config : Config) :
    parse text = .ok config ↔
      (∀ line ∈ remaining, Acceptable line.2) ∧ Yields {} (remaining.map Prod.snd) config ∧
        config.validate = .ok () := by
  rcases acceptable_or_firstRefused remaining with acceptable | ⟨cause, refused⟩
  · obtain ⟨yielded, yields_iff, parsed⟩ := parse_of_acceptable remains acceptable
    rw [parsed, yields_iff]
    cases valid : yielded.validate with
    | ok =>
      constructor
      · rintro ⟨⟩
        exact ⟨acceptable, rfl, valid⟩
      · rintro ⟨_, rfl, _⟩
        rfl
    | error cause =>
      constructor
      · rintro ⟨⟩
      · rintro ⟨_, rfl, alsoValid⟩
        cases valid.symm.trans alsoValid
  · rw [parse_of_refused remains refused]
    refine iff_of_false (fun impossible => ?_) fun ⟨acceptable, _⟩ =>
      refused.not_acceptable acceptable
    cases impossible

/-- A text is refused for its first bad line, or else for what its lines yield. -/
theorem parse_eq_error_iff {text : String} (remains : Remains text remaining)
    (cause : ConfigError) :
    parse text = .error cause ↔
      FirstRefused remaining cause ∨
        (∀ line ∈ remaining, Acceptable line.2) ∧
          ∃ config, Yields {} (remaining.map Prod.snd) config ∧
            config.validate = .error cause := by
  rcases acceptable_or_firstRefused remaining with acceptable | ⟨first, refused⟩
  · obtain ⟨yielded, yields_iff, parsed⟩ := parse_of_acceptable remains acceptable
    have notRefused : ¬ FirstRefused remaining cause :=
      fun refused => refused.not_acceptable acceptable
    simp only [parsed, yields_iff, notRefused, false_or, exists_eq_left]
    cases valid : yielded.validate with
    | ok =>
      refine iff_of_false (fun impossible => ?_) fun ⟨_, impossible⟩ => ?_ <;> cases impossible
    | error other =>
      constructor
      · rintro ⟨⟩
        exact ⟨acceptable, rfl⟩
      · rintro ⟨_, same⟩
        cases same
        rfl
  · rw [parse_of_refused remains refused]
    constructor
    · intro same
      cases same
      exact Or.inl refused
    · rintro (alsoRefused | ⟨acceptable, _⟩)
      · rw [← parse_of_refused remains refused, ← parse_of_refused remains alsoRefused]
      · exact absurd acceptable refused.not_acceptable

/-- A line is never refused for settings that do not go together. -/
theorem FirstRefused.ne_invalid {reason : String} (refused : FirstRefused remaining cause) :
    cause ≠ .invalid reason := by
  obtain ⟨_, _, _, _, _, _, why⟩ := refused
  rintro rfl
  cases why

/-- Every text has the lines that remain of it, and no others, and is judged by them. -/
theorem parse_judges (text : String) :
    ∃ remaining, (∀ other, Remains text other ↔ other = remaining) ∧ Judged text remaining := by
  obtain ⟨remaining, remains⟩ := exists_remains text
  refine ⟨remaining, fun other => ⟨fun also => also.unique remains, fun same => same ▸ remains⟩, ?_⟩
  constructor
  case accepted_iff => exact parse_eq_ok_iff remains
  case refused_iff => exact parse_eq_error_iff remains
  case acceptable_of_invalid =>
    intro reason invalid
    rcases (parse_eq_error_iff remains _).mp invalid with refused | ⟨acceptable, _⟩
    · exact absurd rfl refused.ne_invalid
    · exact acceptable
  case rearranged =>
    intro other others config alsoRemains rearranged
    have acceptable : (∀ line ∈ remaining, Acceptable line.2) ↔
        ∀ line ∈ others, Acceptable line.2 := by
      have contents (lines : List (Nat × List Char)) : (∀ line ∈ lines, Acceptable line.2) ↔
          ∀ content ∈ lines.map Prod.snd, Acceptable content := List.forall_mem_map.symm
      rw [contents, contents]
      exact forall_congr' fun _ => imp_congr_left rearranged.perm.mem_iff
    rw [parse_eq_ok_iff remains, parse_eq_ok_iff alsoRemains, acceptable, rearranged.yields_iff]

/-- Of two lines that set a key the last one counts, a value may hold an equals sign, and the first
line that is refused is told by its number among all lines. -/
example :
    (parse "vm.frames = 8 # small\r\n\nvm.swap_file=a = b\nvm.frames = +16").toOption =
      some { frames := 16, swapFile := "a = b" } ∧
    parse "# none\nvm.frames = x\nvm.frames" = .error (.invalidValue 2 "vm.frames" "x") := by
  constructor <;> rfl

end VirtualMemory.Config
