/-
Module: VirtualMemory.Proofs.Config.Settings
Purpose: What one line of a configuration may say.
Main exports:
  Config.Counts, counts_iff; Config.Parts, Config.Assigns, readSetting_eq_some_iff; Key.Value,
  Config.get, Config.set, Key.Denotes, Key.read_eq_some_iff; Config.Sets, Config.Acceptable,
  Config.Refused, acceptable_or_refused, readLine_of_sets, readLine_of_refused

A line is put together from white space, a key, an equals sign, a value and a comment. Each part
is told of without the order in which the parts are read.
-/
import VirtualMemory.Config.Language
import VirtualMemory.Proofs.Text

namespace VirtualMemory

open Text

namespace Config

variable {line text key value : List Char} {number : Nat} {config next : Config}

/-! ### The part of a line that counts -/

/-- A line and what counts of it: all that stands before the first number sign, without the white
space at the ends. -/
structure Counts (line content : List Char) : Prop where
  bare : Bare content
  within : ∃ start finish, Blank start ∧ Blank finish ∧
    '#' ∉ start ++ (content ++ finish) ∧
    (line = start ++ (content ++ finish) ∨
      ∃ comment, line = start ++ (content ++ finish) ++ '#' :: comment)

/-- Up to the comment, a line is its text. -/
theorem takeWhile_comment (uncommented : '#' ∉ text)
    (form : line = text ∨ ∃ comment, line = text ++ '#' :: comment) :
    line.takeWhile (· != '#') = text := by
  have inside : ∀ character ∈ text, (character != '#') = true := by
    intro character inside
    rw [bne_iff_ne]
    rintro rfl
    exact uncommented inside
  rcases form with rfl | ⟨comment, rfl⟩
  · exact List.takeWhile_eq_self_iff.mpr inside
  · refine Text.takeWhile_append inside fun character first => ?_
    cases first
    rfl

/-- A line is what comes before the first comment sign, with or without a comment. -/
theorem exists_comment (line : List Char) :
    line = line.takeWhile (· != '#') ∨
      ∃ comment, line = line.takeWhile (· != '#') ++ '#' :: comment := by
  have parts := List.takeWhile_append_dropWhile (p := (· != '#')) (l := line)
  cases rest : line.dropWhile (· != '#') with
  | nil =>
    rw [rest, List.append_nil] at parts
    exact Or.inl parts.symm
  | cons first comment =>
    have sign := head?_dropWhile (· != '#') line (congrArg List.head? rest)
    rw [bne_eq_false_iff_eq] at sign
    rw [rest, sign] at parts
    exact Or.inr ⟨comment, parts.symm⟩

/-- A text counts of a line if it is what the reader takes for its content. -/
theorem counts_iff : Counts line text ↔ content line = text := by
  constructor
  · rintro ⟨bare, start, finish, blankStart, blankFinish, uncommented, form⟩
    rw [content, takeWhile_comment uncommented form, trim_eq blankStart blankFinish bare]
  · rintro rfl
    obtain ⟨start, finish, blankStart, blankFinish, same, bare⟩ :=
      exists_eq_trim (line.takeWhile (· != '#'))
    refine ⟨bare, start, finish, blankStart, blankFinish, ?_, ?_⟩
    · rw [content, ← same]
      intro inside
      exact absurd (List.mem_takeWhile_imp inside) (by decide)
    · rw [content, ← same]
      exact exists_comment line

/-! ### Keys and values -/

/-- A letter or a digit of ASCII, a point or an underscore. -/
def KeyCharacter (character : Char) : Prop :=
  ('A' ≤ character ∧ character ≤ 'Z') ∨ ('a' ≤ character ∧ character ≤ 'z') ∨
    ('0' ≤ character ∧ character ≤ '9') ∨ character = '.' ∨ character = '_'

/-- The reader knows the characters of a key. -/
theorem isKeyCharacter_eq_true_iff {character : Char} :
    isKeyCharacter character = true ↔ KeyCharacter character := by
  have upper : character.isUpper = true ↔ 'A' ≤ character ∧ character ≤ 'Z' := decide_eq_true_iff
  have lower : character.isLower = true ↔ 'a' ≤ character ∧ character ≤ 'z' :=
    Bool.and_eq_true_iff.trans (and_congr decide_eq_true_iff decide_eq_true_iff)
  have digit : character.isDigit = true ↔ '0' ≤ character ∧ character ≤ '9' :=
    Bool.and_eq_true_iff.trans (and_congr decide_eq_true_iff decide_eq_true_iff)
  have alphanumeric : character.isAlphanum =
      ((character.isUpper || character.isLower) || character.isDigit) := rfl
  rw [isKeyCharacter, alphanumeric, Bool.or_eq_true, Bool.or_eq_true, Bool.or_eq_true,
    Bool.or_eq_true, upper, lower, digit, beq_iff_eq, beq_iff_eq, KeyCharacter, or_assoc, or_assoc,
    or_assoc]

/-- Text of spaces and tabs only. -/
def Gap (text : List Char) : Prop := ∀ character ∈ text, character = ' ' ∨ character = '\t'

/-- A line that is parted into a key and a value by an equals sign with gaps around it. The value
is all the rest of the line. -/
structure Parts (text key value : List Char) : Prop where
  form : ∃ before after, Gap before ∧ Gap after ∧
    text = key ++ (before ++ '=' :: (after ++ value))
  key_characters : ∀ character ∈ key, KeyCharacter character
  value_head : ∀ character, value.head? = some character → character ≠ ' ' ∧ character ≠ '\t'

/-- A line that assigns a value to a key: there is a key, and more than white space in the
value. -/
structure Assigns (text key value : List Char) : Prop extends Parts text key value where
  key_nonempty : key ≠ []
  value_visible : ∃ character ∈ value, isBlank character = false

/-- The reader knows the characters of a gap. -/
theorem isGap_eq_true_iff {character : Char} :
    isGap character = true ↔ character = ' ' ∨ character = '\t' := by
  rw [isGap, Bool.or_eq_true, beq_iff_eq, beq_iff_eq]

theorem isGap_eq_false_iff {character : Char} :
    isGap character = false ↔ character ≠ ' ' ∧ character ≠ '\t' := by
  rw [Bool.eq_false_iff, ne_eq, isGap_eq_true_iff, not_or]

/-- A gap has no other characters. -/
theorem Gap.isGap (gap : Gap text) : ∀ character ∈ text, Config.isGap character = true :=
  fun character inside => isGap_eq_true_iff.mpr (gap character inside)

/-- What is read as a gap is one. -/
theorem gap_takeWhile (text : List Char) : Gap (text.takeWhile isGap) :=
  fun _ inside => isGap_eq_true_iff.mp (List.mem_takeWhile_imp inside)

/-- What follows a key is no part of it. -/
theorem head?_gap_sign {before : List Char} (gap : Gap before) {character : Char}
    (first : (before ++ '=' :: text).head? = some character) :
    isKeyCharacter character = false := by
  have space : character = ' ' ∨ character = '\t' ∨ character = '=' := by
    cases before with
    | nil =>
      cases first
      exact Or.inr (Or.inr rfl)
    | cons =>
      cases first
      exact (gap _ List.mem_cons_self).imp_right Or.inl
  rcases space with rfl | rfl | rfl <;> decide

/-- Where the parts of a line are found. -/
theorem Parts.found (parts : Parts text key value) :
    text.takeWhile isKeyCharacter = key ∧
      ∃ rest, (text.dropWhile isKeyCharacter).dropWhile isGap = '=' :: rest ∧
        rest.dropWhile isGap = value := by
  obtain ⟨⟨before, after, gapBefore, gapAfter, rfl⟩, characters, head⟩ := parts
  have inKey : ∀ character ∈ key, isKeyCharacter character = true :=
    fun character inside => isKeyCharacter_eq_true_iff.mpr (characters character inside)
  have afterKey : ∀ character, (before ++ '=' :: (after ++ value)).head? = some character →
      isKeyCharacter character = false := fun _ => head?_gap_sign gapBefore
  refine ⟨Text.takeWhile_append inKey afterKey, after ++ value, ?_, ?_⟩
  · rw [Text.dropWhile_append inKey afterKey]
    refine Text.dropWhile_append gapBefore.isGap fun character first => ?_
    cases first
    rfl
  · exact Text.dropWhile_append gapAfter.isGap
      fun character first => isGap_eq_false_iff.mpr (head character first)

/-- A line has one key and one value. -/
theorem Parts.unique {otherKey otherValue : List Char} (one : Parts text key value)
    (two : Parts text otherKey otherValue) : key = otherKey ∧ value = otherValue := by
  obtain ⟨foundKey, rest, foundSign, foundValue⟩ := one.found
  obtain ⟨otherFoundKey, otherRest, otherFoundSign, otherFoundValue⟩ := two.found
  have sameRest := List.tail_eq_of_cons_eq (foundSign.symm.trans otherFoundSign)
  refine ⟨foundKey.symm.trans otherFoundKey, ?_⟩
  rw [← foundValue, sameRest, otherFoundValue]

/-- A setting is read as its parts, unless the key or the value is empty. -/
theorem readSetting_of_parts (parts : Parts text key value) :
    readSetting text =
      if key.isEmpty || (trim value).isEmpty then none
      else some { key := key, value := trimEnd value } := by
  obtain ⟨foundKey, rest, foundSign, foundValue⟩ := parts.found
  rw [readSetting, foundKey, foundSign]
  simp only [foundValue]

/-- Nothing is read of a line that does not have the parts. -/
theorem exists_parts (read : readSetting text ≠ none) : ∃ key value, Parts text key value := by
  have keyParts := List.takeWhile_append_dropWhile (p := isKeyCharacter) (l := text)
  have gapParts := List.takeWhile_append_dropWhile (p := isGap)
    (l := text.dropWhile isKeyCharacter)
  rw [readSetting] at read
  split at read
  · next rest sign =>
    have valueParts := List.takeWhile_append_dropWhile (p := isGap) (l := rest)
    refine ⟨text.takeWhile isKeyCharacter, rest.dropWhile isGap,
      ⟨(text.dropWhile isKeyCharacter).takeWhile isGap, rest.takeWhile isGap,
        gap_takeWhile _, gap_takeWhile _, ?_⟩, ?_, ?_⟩
    · rw [valueParts, ← sign, gapParts, keyParts]
    · exact fun character inside =>
        isKeyCharacter_eq_true_iff.mp (List.mem_takeWhile_imp inside)
    · exact fun character first => isGap_eq_false_iff.mp (head?_dropWhile isGap rest first)
  · exact absurd rfl read

/-- White space at the end of a value would be white space at the end of its line. -/
theorem Parts.trimEnd_value (parts : Parts text key value) (bare : Bare text) :
    trimEnd value = value := by
  obtain ⟨before, after, _, _, rfl⟩ := parts.form
  have last : ∀ character, value.getLast? = some character → isBlank character = false := by
    intro character last
    apply bare.last
    rw [List.append_cons, ← List.append_assoc, ← List.append_assoc, List.getLast?_append, last,
      Option.some_or]
  have nothing : Blank [] := fun _ => (nomatch ·)
  have trimmed := trimEnd_append nothing last
  rwa [List.append_nil] at trimmed

/-- A value is not empty if it has more than blanks. -/
theorem isEmpty_trim_eq_false_iff :
    (trim text).isEmpty = false ↔ ∃ character ∈ text, isBlank character = false := by
  rw [List.isEmpty_eq_false_iff, ne_eq, trim_eq_nil_iff]
  simp [Blank]

/-- A line is read as assigning exactly what it assigns. -/
theorem readSetting_eq_some_iff (bare : Bare text) :
    readSetting text = some { key := key, value := value } ↔ Assigns text key value := by
  constructor
  · intro read
    obtain ⟨key', value', parts⟩ := exists_parts (read ▸ Option.some_ne_none _)
    rw [readSetting_of_parts parts, parts.trimEnd_value bare] at read
    split at read
    · cases read
    · next proper =>
      cases read
      rw [Bool.not_eq_true, Bool.or_eq_false_iff, List.isEmpty_eq_false_iff,
        isEmpty_trim_eq_false_iff] at proper
      exact ⟨parts, proper.1, proper.2⟩
  · rintro ⟨parts, nonempty, visible⟩
    rw [readSetting_of_parts parts, parts.trimEnd_value bare,
      List.isEmpty_eq_false_iff.mpr nonempty, isEmpty_trim_eq_false_iff.mpr visible]
    rfl

/-! ### Keys and their values -/

/-- A key is found by its name. -/
theorem Key.named?_eq_some_iff {known : Key} :
    Key.named? key = some known ↔ known.name.toList = key := by
  constructor
  · intro found
    rw [Key.named?] at found
    have named := List.find?_some found
    exact of_decide_eq_true named
  · rintro rfl
    cases known <;> rfl

/-- What the values of a key are. -/
def Key.Value : Key → Type
  | .frames => Nat
  | .tlbEntries => Nat
  | .stackPages => UInt32
  | .lowWaterMark => Nat
  | .swapFile => String
  | .evictionRounds => Nat
  | .paging => PagingMode
  | .backgroundReclaim => Bool

/-- What the settings have for a key. -/
def get (config : Config) : (key : Key) → key.Value
  | .frames => config.frames
  | .tlbEntries => config.tlbEntries
  | .stackPages => config.stackPages
  | .lowWaterMark => config.lowWaterMark
  | .swapFile => config.swapFile
  | .evictionRounds => config.evictionRounds
  | .paging => config.paging
  | .backgroundReclaim => config.backgroundReclaim

/-- The settings with another value for a key. -/
def set (config : Config) : (key : Key) → key.Value → Config
  | .frames, count => { config with frames := count }
  | .tlbEntries, count => { config with tlbEntries := count }
  | .stackPages, count => { config with stackPages := count }
  | .lowWaterMark, count => { config with lowWaterMark := count }
  | .swapFile, name => { config with swapFile := name }
  | .evictionRounds, count => { config with evictionRounds := count }
  | .paging, mode => { config with paging := mode }
  | .backgroundReclaim, switch => { config with backgroundReclaim := switch }

@[simp] theorem get_set_self (config : Config) (known : Key) (value : known.Value) :
    (config.set known value).get known = value := by
  cases known <;> rfl

/-- To set one key leaves the others as they are. -/
theorem get_set_of_ne (config : Config) {known other : Key} (different : known ≠ other)
    (value : known.Value) : (config.set known value).get other = config.get other := by
  cases known <;> cases other <;> first | rfl | exact absurd rfl different

/-- There is nothing in the settings but what they have for each key. -/
theorem eq_of_get {config other : Config} (same : ∀ known, config.get known = other.get known) :
    config = other := by
  have frames : config.frames = other.frames := same .frames
  have tlbEntries : config.tlbEntries = other.tlbEntries := same .tlbEntries
  have stackPages : config.stackPages = other.stackPages := same .stackPages
  have lowWaterMark : config.lowWaterMark = other.lowWaterMark := same .lowWaterMark
  have swapFile : config.swapFile = other.swapFile := same .swapFile
  have evictionRounds : config.evictionRounds = other.evictionRounds := same .evictionRounds
  have paging : config.paging = other.paging := same .paging
  have reclaim : config.backgroundReclaim = other.backgroundReclaim := same .backgroundReclaim
  cases config
  cases other
  simp only at frames tlbEntries stackPages lowWaterMark swapFile evictionRounds paging reclaim
  simp only [frames, tlbEntries, stackPages, lowWaterMark, swapFile, evictionRounds, paging,
    reclaim]

/-- A text that stands for a count of 64 bits. -/
def Count (text : List Char) (count : Nat) : Prop := Numeral text count ∧ count < 2 ^ 64

/-- A text that stands for a value of a key. -/
def Key.Denotes : (key : Key) → List Char → key.Value → Prop
  | .frames, text, count => Count text count
  | .tlbEntries, text, count => Count text count
  | .stackPages, text, count => Numeral text (UInt32.toNat count)
  | .lowWaterMark, text, count => Count text count
  | .swapFile, text, name => name = String.ofList text
  | .evictionRounds, text, count => Count text count
  | .paging, text, mode =>
      text = "demand".toList ∧ mode = PagingMode.demand ∨
        text = "resident".toList ∧ mode = PagingMode.resident
  | .backgroundReclaim, text, switch =>
      text = "true".toList ∧ switch = true ∨ text = "false".toList ∧ switch = false

/-- The value of a key that a text is read as. -/
def Key.read : (key : Key) → List Char → Option key.Value
  | .frames => readCount
  | .tlbEntries => readCount
  | .stackPages => readShortCount
  | .lowWaterMark => readCount
  | .swapFile => fun text => some (String.ofList text)
  | .evictionRounds => readCount
  | .paging => readMode
  | .backgroundReclaim => readSwitch

/-- To assign a text is to read it and to set the key to what was read. -/
theorem assign_eq (config : Config) (known : Key) (text : List Char) :
    config.assign known text = (known.read text).map (config.set known) := by
  cases known <;> rfl

/-- What is read as a count is a count, and every count is read. -/
theorem readCount_eq_some_iff {count : Nat} : readCount text = some count ↔ Count text count :=
  readBelow_eq_some_iff

/-- What is read as a short count is a numeral, and every numeral that fits is read. -/
theorem readShortCount_eq_some_iff {count : UInt32} :
    readShortCount text = some count ↔ Numeral text count.toNat := by
  rw [readShortCount, Option.map_eq_some_iff]
  constructor
  · rintro ⟨read, found, rfl⟩
    obtain ⟨numeral, below⟩ := readBelow_eq_some_iff.mp found
    rwa [Nat.toUInt32, UInt32.toNat_ofNat_of_lt' below]
  · intro numeral
    exact ⟨count.toNat, readBelow_eq_some_iff.mpr ⟨numeral, count.toNat_lt⟩, by simp⟩

/-- One of two words is told from the other and from all else. -/
theorem word_eq_some_iff {α : Type} {first second : List Char} (different : first ≠ second)
    {one two value : α} :
    (if text = first then some one else if text = second then some two else none) = some value ↔
      text = first ∧ value = one ∨ text = second ∧ value = two := by
  by_cases isFirst : text = first
  · simp [isFirst, different, eq_comm]
  · by_cases isSecond : text = second
    · simp [isSecond, Ne.symm different, eq_comm]
    · simp [isFirst, isSecond]

/-- A value is read if the text denotes it, and only then. -/
theorem Key.read_eq_some_iff {known : Key} {value : known.Value} :
    known.read text = some value ↔ known.Denotes text value := by
  cases known with
  | frames | tlbEntries | lowWaterMark | evictionRounds => exact readCount_eq_some_iff
  | stackPages => exact readShortCount_eq_some_iff
  | swapFile => exact Option.some_inj.trans eq_comm
  | paging => exact word_eq_some_iff (by decide)
  | backgroundReclaim => exact word_eq_some_iff (by decide)

/-- A text stands for one value of a key at most. -/
theorem Key.Denotes.unique {known : Key} {value other : known.Value}
    (one : known.Denotes text value) (two : known.Denotes text other) : value = other :=
  Option.some_inj.mp ((Key.read_eq_some_iff.mpr one).symm.trans (Key.read_eq_some_iff.mpr two))

/-! ### Lines as a whole -/

/-- A line sets a key to a value. -/
def Sets (content : List Char) (known : Key) (value : known.Value) : Prop :=
  ∃ text, Assigns content known.name.toList text ∧ known.Denotes text value

/-- A line that says something that can be done. -/
def Acceptable (content : List Char) : Prop := ∃ known value, Sets content known value

/-- Why a line is refused: it assigns nothing, or something to a key that does not exist, or
something to a key that is no value of it. -/
inductive Refused (number : Nat) (content : List Char) : ConfigError → Prop where
  | malformed (nothing : ¬ ∃ key value, Assigns content key value) :
      Refused number content (.syntaxError number)
  | unknown {key value : List Char} (assigns : Assigns content key value)
      (unnamed : ∀ known : Key, known.name.toList ≠ key) :
      Refused number content (.unknownKey number (String.ofList key))
  | invalid {known : Key} {text : List Char} (assigns : Assigns content known.name.toList text)
      (meaningless : ∀ value, ¬ known.Denotes text value) :
      Refused number content (.invalidValue number known.name (String.ofList text))

/-- No two keys have the same name. -/
theorem Key.name_injective {known other : Key} (same : known.name.toList = other.name.toList) :
    known = other :=
  Option.some_inj.mp ((Key.named?_eq_some_iff.mpr same).symm.trans (Key.named?_eq_some_iff.mpr rfl))

/-- A line sets one key at most. -/
theorem Sets.key_unique {content : List Char} {known other : Key} {value : known.Value}
    {otherValue : other.Value} (one : Sets content known value)
    (two : Sets content other otherValue) : known = other := by
  obtain ⟨_, assigns, _⟩ := one
  obtain ⟨_, alsoAssigns, _⟩ := two
  exact Key.name_injective (assigns.toParts.unique alsoAssigns.toParts).1

/-- A line sets a key to one value. -/
theorem Sets.value_unique {content : List Char} {known : Key} {value other : known.Value}
    (one : Sets content known value) (two : Sets content known other) : value = other := by
  obtain ⟨text, assigns, denotes⟩ := one
  obtain ⟨otherText, alsoAssigns, otherDenotes⟩ := two
  obtain ⟨_, rfl⟩ := assigns.toParts.unique alsoAssigns.toParts
  exact Key.Denotes.unique denotes otherDenotes

/-- A line is acceptable, or it is refused for some reason. -/
theorem acceptable_or_refused (content : List Char) (number : Nat) :
    Acceptable content ∨ ∃ cause, Refused number content cause := by
  by_cases assigning : ∃ key value, Assigns content key value
  · obtain ⟨key, text, assigns⟩ := assigning
    by_cases named : ∃ known : Key, known.name.toList = key
    · obtain ⟨known, rfl⟩ := named
      by_cases meaningful : ∃ value, known.Denotes text value
      · obtain ⟨value, denotes⟩ := meaningful
        exact Or.inl ⟨known, value, text, assigns, denotes⟩
      · exact Or.inr ⟨_, .invalid assigns (not_exists.mp meaningful)⟩
    · exact Or.inr ⟨_, .unknown assigns (not_exists.mp named)⟩
  · exact Or.inr ⟨_, .malformed assigning⟩

/-- An assignment is not an empty text. -/
theorem Assigns.nonempty (assigns : Assigns text key value) : text.isEmpty = false := by
  obtain ⟨_, _, _, _, rfl⟩ := assigns.form
  simp [assigns.key_nonempty]

/-- A line without content changes nothing. -/
theorem readLine_of_empty (counts : Counts line []) : config.readLine number line = .ok config := by
  rw [readLine, counts_iff.mp counts]
  rfl

/-- A line that sets a key is read so. -/
theorem readLine_of_sets {content : List Char} (counts : Counts line content) {known : Key}
    {value : known.Value} (sets : Sets content known value) :
    config.readLine number line = .ok (config.set known value) := by
  obtain ⟨text, assigns, denotes⟩ := sets
  simp only [readLine, counts_iff.mp counts, assigns.nonempty, Bool.false_eq_true, if_false,
    (readSetting_eq_some_iff counts.bare).mpr assigns, Key.named?_eq_some_iff.mpr rfl, assign_eq,
    Key.read_eq_some_iff.mpr denotes, Option.map_some]

/-- A line that is refused is refused for what it says, whatever the settings are. -/
theorem readLine_of_refused {content : List Char} (counts : Counts line content)
    (nonempty : content ≠ []) {cause : ConfigError} (refused : Refused number content cause) :
    config.readLine number line = .error cause := by
  have isEmpty : content.isEmpty = false := List.isEmpty_eq_false_iff.mpr nonempty
  cases refused with
  | malformed nothing =>
    have unread : readSetting content = none := by
      refine Option.eq_none_iff_forall_ne_some.mpr fun setting read => nothing ?_
      exact ⟨_, _, (readSetting_eq_some_iff counts.bare).mp read⟩
    simp only [readLine, counts_iff.mp counts, isEmpty, Bool.false_eq_true, if_false, unread]
  | unknown assigns unnamed =>
    have unknown : Key.named? _ = none :=
      Option.eq_none_iff_forall_ne_some.mpr fun known found =>
        unnamed known (Key.named?_eq_some_iff.mp found)
    simp only [readLine, counts_iff.mp counts, isEmpty, Bool.false_eq_true, if_false,
      (readSetting_eq_some_iff counts.bare).mpr assigns, unknown]
  | @invalid known text assigns meaningless =>
    have unread : known.read text = none :=
      Option.eq_none_iff_forall_ne_some.mpr fun value read =>
        meaningless value (Key.read_eq_some_iff.mp read)
    simp only [readLine, counts_iff.mp counts, isEmpty, Bool.false_eq_true, if_false,
      (readSetting_eq_some_iff counts.bare).mpr assigns, Key.named?_eq_some_iff.mpr rfl, assign_eq,
      unread, Option.map_none, String.ofList_toList]

end Config

end VirtualMemory
