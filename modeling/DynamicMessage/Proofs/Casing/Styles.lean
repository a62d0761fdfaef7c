/-
# Proofs.Casing.Styles -- the casings of ASCII identifiers undo each other

Snake case puts an underscore in front of every capital and makes it small; camel and Pascal case
drop underscores and make the character behind each a capital.  On ASCII letters and digits nothing
is lost on the way.

* `words_flatMap_snakeInner`: the words of a text in snake case are the text cut in front of its
  capitals, with these small, by induction on the text with the run before it at hand;
* `camelChars_snakeChars`, `pascalChars_snakeChars`: so the text comes back, given how it starts;
* `PlainWord` and `Style` say how words are written in each style without the conversions, and
  `convert_spell` that each conversion takes what any style writes to what its own style writes.
-/
import DynamicMessage.Proofs.Casing.Separators
import DynamicMessage.Proofs.Casing.Stability

namespace DynamicMessage.Casing

set_option autoImplicit false

open Unicode

/-! ## ASCII letters and digits -/

section Ascii

variable {c : Char}

theorem isAlphanum_eq (c : Char) : c.isAlphanum = (c.isUpper || c.isLower || c.isDigit) := rfl

theorem ascii_of_isAlphanum (plain : c.isAlphanum = true) : c.toNat < 128 := by
  change (decide (65 ≤ c.val ∧ c.val ≤ 90) || (97 ≤ c.val && c.val ≤ 122) ||
    (48 ≤ c.val && c.val ≤ 57)) = true at plain
  simp only [Bool.or_eq_true, Bool.and_eq_true, decide_eq_true_eq, UInt32.le_iff_toNat_le]
    at plain
  change ((65 ≤ c.toNat ∧ c.toNat ≤ 90) ∨ (97 ≤ c.toNat ∧ c.toNat ≤ 122)) ∨
    (48 ≤ c.toNat ∧ c.toNat ≤ 57) at plain
  omega

theorem isAlphanum_of_isUpper (capital : c.isUpper = true) : c.isAlphanum = true := by
  rw [isAlphanum_eq, capital]
  rfl

theorem toLower_of_not_isUpper (ascii : c.toNat < 128) (small : c.isUpper = false) :
    c.toLower = c :=
  of_ascii (P := fun c => c.isUpper = false → c.toLower = c) (by decide +kernel) ascii small

theorem toUpper_of_not_isLower (ascii : c.toNat < 128) (large : c.isLower = false) :
    c.toUpper = c :=
  of_ascii (P := fun c => c.isLower = false → c.toUpper = c) (by decide +kernel) ascii large

/-- A capital has a small form, and comes back from it. -/
theorem toLower_of_isUpper (capital : c.isUpper = true) :
    c.toLower.isAlphanum = true ∧ c.toLower.toUpper = c :=
  of_ascii
    (P := fun c => c.isUpper = true → c.toLower.isAlphanum = true ∧ c.toLower.toUpper = c)
    (by decide +kernel) (ascii_of_isAlphanum (isAlphanum_of_isUpper capital)) capital

/-- A small letter has a capital, and comes back from it. -/
theorem toUpper_of_isLower (small : c.isLower = true) :
    c.toUpper.isUpper = true ∧ c.toUpper.toLower = c := by
  have plain : c.isAlphanum = true := by
    rw [isAlphanum_eq, small, Bool.or_true]
    rfl
  exact of_ascii
    (P := fun c => c.isLower = true → c.toUpper.isUpper = true ∧ c.toUpper.toLower = c)
    (by decide +kernel) (ascii_of_isAlphanum plain) small

theorem not_isLower_of_isUpper (capital : c.isUpper = true) : c.isLower = false :=
  of_ascii (P := fun c => c.isUpper = true → c.isLower = false) (by decide +kernel)
    (ascii_of_isAlphanum (isAlphanum_of_isUpper capital)) capital

theorem isAlphanum_toLower (plain : c.isAlphanum = true) : c.toLower.isAlphanum = true := by
  cases capital : c.isUpper with
  | true => exact (toLower_of_isUpper capital).1
  | false => rwa [toLower_of_not_isUpper (ascii_of_isAlphanum plain) capital]

theorem isAlphanumeric_of_isAlphanum (plain : c.isAlphanum = true) : isAlphanumeric c = true := by
  rw [isAlphanumeric_ascii (ascii_of_isAlphanum plain), plain]

theorem letters_of_isAlphanum {text : List Char} (plain : ∀ c ∈ text, c.isAlphanum = true) :
    ∀ c ∈ text, isAlphanumeric c = true :=
  fun c member => isAlphanumeric_of_isAlphanum (plain c member)

theorem isUppercase_of_isAlphanum (plain : c.isAlphanum = true) : isUppercase c = c.isUpper :=
  isUppercase_ascii (ascii_of_isAlphanum plain)

theorem toLowercase_of_not_isUpper (plain : c.isAlphanum = true) (small : c.isUpper = false) :
    toLowercase c = [c] := by
  have ascii := ascii_of_isAlphanum plain
  rw [toLowercase_ascii ascii, toLower_of_not_isUpper ascii small]

theorem toUppercase_of_not_isLower (plain : c.isAlphanum = true) (large : c.isLower = false) :
    toUppercase c = [c] := by
  have ascii := ascii_of_isAlphanum plain
  rw [toUppercase_ascii ascii, toUpper_of_not_isLower ascii large]

/-- A capital comes back from its small form. -/
theorem toUppercase_toLower (capital : c.isUpper = true) : toUppercase c.toLower = [c] := by
  obtain ⟨plain, back⟩ := toLower_of_isUpper capital
  rw [toUppercase_ascii (ascii_of_isAlphanum plain), back]

theorem snakeInner_of_isUpper (capital : c.isUpper = true) : snakeInner c = ['_', c.toLower] := by
  have plain := isAlphanum_of_isUpper capital
  rw [snakeInner, isUppercase_of_isAlphanum plain, if_pos capital,
    toLowercase_ascii (ascii_of_isAlphanum plain)]

theorem snakeInner_of_not_isUpper (plain : c.isAlphanum = true) (small : c.isUpper = false) :
    snakeInner c = [c] := by
  rw [snakeInner, isUppercase_of_isAlphanum plain, if_neg (by simp [small])]

end Ascii

/-! ## Back from snake case -/

theorem words_of_run {run : List Char} (nonempty : run ≠ [])
    (letters : ∀ c ∈ run, isAlphanumeric c = true) : words run = [run] := by
  rw [words_eq, List.splitOnP_eq_singleton fun c member => by simp [letters c member]]
  simp [nonempty]

/-- In snake case a text behind a run of letters and digits is cut in front of its capitals, and
capitalising the words behind the first cut gives back what they were. -/
theorem words_flatMap_snakeInner {run : List Char} (text : List Char) (nonempty : run ≠ [])
    (letters : ∀ c ∈ run, isAlphanumeric c = true) (plain : ∀ c ∈ text, c.isAlphanum = true) :
    ∃ front others, words (run ++ text.flatMap snakeInner) = (run ++ front) :: others ∧
      front ++ others.flatMap capitalize = text := by
  induction text generalizing run with
  | nil => exact ⟨[], [], by simp [words_of_run nonempty letters], rfl⟩
  | cons c text ih =>
    obtain ⟨first, rest⟩ := List.forall_mem_cons.1 plain
    cases capital : c.isUpper with
    | true =>
      -- The run ends here, and the small form of the capital starts the next one.
      have small := isAlphanumeric_of_isAlphanum (isAlphanum_toLower first)
      obtain ⟨front, others, found, same⟩ :=
        @ih [c.toLower] (by simp) (by simpa using small) rest
      refine ⟨[], (c.toLower :: front) :: others, ?_, ?_⟩
      · have underscore : isAlphanumeric '_' = false := by decide +kernel
        rw [List.flatMap_cons, snakeInner_of_isUpper capital, List.cons_append,
          words_append_cons underscore, words_of_run nonempty letters, found]
        simp
      · rw [List.flatMap_cons, capitalize, toUppercase_toLower capital, List.nil_append,
          List.append_assoc, same]
        rfl
    | false =>
      have longer : ∀ d ∈ run ++ [c], isAlphanumeric d = true := by
        intro d member
        rcases List.mem_append.1 member with inside | last
        · exact letters d inside
        · exact List.mem_singleton.1 last ▸ isAlphanumeric_of_isAlphanum first
      obtain ⟨front, others, found, same⟩ := ih (by simp) longer rest
      refine ⟨c :: front, others, ?_, by rw [List.cons_append, same]⟩
      rw [List.flatMap_cons, snakeInner_of_not_isUpper first capital, ← List.append_assoc, found]
      simp

section Run

variable {c : Char} {tail text : List Char}

theorem camelChars_run (letters : ∀ d ∈ c :: tail, isAlphanumeric d = true)
    (plain : ∀ d ∈ text, d.isAlphanum = true) :
    camelChars (c :: tail ++ text.flatMap snakeInner) = toLowercase c ++ tail ++ text := by
  obtain ⟨front, others, found, same⟩ :=
    words_flatMap_snakeInner text (List.cons_ne_nil c tail) letters plain
  rw [camelChars_of_words found, List.cons_append, uncapitalize, List.append_assoc,
    List.append_assoc, same, List.append_assoc]

theorem pascalChars_run (letters : ∀ d ∈ c :: tail, isAlphanumeric d = true)
    (plain : ∀ d ∈ text, d.isAlphanum = true) :
    pascalChars (c :: tail ++ text.flatMap snakeInner) = toUppercase c ++ tail ++ text := by
  obtain ⟨front, others, found, same⟩ :=
    words_flatMap_snakeInner text (List.cons_ne_nil c tail) letters plain
  rw [pascalChars, found, List.flatMap_cons, List.cons_append, capitalize, List.append_assoc,
    List.append_assoc, same, List.append_assoc]

theorem camelChars_of_run (letters : ∀ d ∈ c :: tail, isAlphanumeric d = true) :
    camelChars (c :: tail) = toLowercase c ++ tail := by
  simpa using @camelChars_run c tail [] letters (by simp)

theorem pascalChars_of_run (letters : ∀ d ∈ c :: tail, isAlphanumeric d = true) :
    pascalChars (c :: tail) = toUppercase c ++ tail := by
  simpa using @pascalChars_run c tail [] letters (by simp)

end Run

theorem camelChars_snakeChars {text : List Char} (plain : ∀ c ∈ text, c.isAlphanum = true)
    (small : ∀ c ∈ text.head?, c.isUpper = false) : camelChars (snakeChars text) = text := by
  cases text with
  | nil => rw [snakeChars, camelChars, words]
  | cons c rest =>
    obtain ⟨first, others⟩ := List.forall_mem_cons.1 plain
    have low : c.isUpper = false := small c (by simp)
    have letter := isAlphanumeric_of_isAlphanum first
    rw [snakeChars, isUppercase_of_isAlphanum first, if_neg (by simp [low]),
      camelChars_run (by simpa using letter) others, toLowercase_of_not_isUpper first low]
    rfl

theorem pascalChars_snakeChars {text : List Char} (plain : ∀ c ∈ text, c.isAlphanum = true)
    (large : ∀ c ∈ text.head?, c.isLower = false) : pascalChars (snakeChars text) = text := by
  cases text with
  | nil => rw [snakeChars, pascalChars, words]; rfl
  | cons c rest =>
    obtain ⟨first, others⟩ := List.forall_mem_cons.1 plain
    rw [snakeChars, isUppercase_of_isAlphanum first]
    cases capital : c.isUpper with
    | true =>
      have letter := isAlphanumeric_of_isAlphanum (isAlphanum_toLower first)
      rw [if_pos rfl, toLowercase_ascii (ascii_of_isAlphanum first),
        pascalChars_run (by simpa using letter) others, toUppercase_toLower capital]
      rfl
    | false =>
      have letter := isAlphanumeric_of_isAlphanum first
      rw [if_neg (by simp), pascalChars_run (by simpa using letter) others,
        toUppercase_of_not_isLower first (large c (by simp))]
      rfl

/-! ## Words in three styles -/

/-- A word of small letters and digits that starts with a letter, all of it ASCII. -/
structure PlainWord where
  head : Char
  tail : List Char
  head_isLower : head.isLower = true
  tail_isPlain : ∀ c ∈ tail, c.isLower = true ∨ c.isDigit = true

namespace PlainWord

/-- The word as it is. -/
def small (word : PlainWord) : List Char := word.head :: word.tail

/-- The word with a capital in front. -/
def capital (word : PlainWord) : List Char := word.head.toUpper :: word.tail

variable (word : PlainWord)

theorem small_isPlain : ∀ c ∈ word.small, c.isAlphanum = true ∧ c.isUpper = false := by
  have plain : ∀ c : Char, c.isLower = true ∨ c.isDigit = true →
      c.isAlphanum = true ∧ c.isUpper = false := by
    intro c shape
    have letter : c.isAlphanum = true := by
      rcases shape with low | number
      · rw [isAlphanum_eq, low, Bool.or_true]
        rfl
      · rw [isAlphanum_eq, number, Bool.or_true]
    exact of_ascii (P := fun c =>
        c.isLower = true ∨ c.isDigit = true → c.isAlphanum = true ∧ c.isUpper = false)
      (by decide +kernel) (ascii_of_isAlphanum letter) shape
  refine List.forall_mem_cons.2 ⟨plain _ (.inl word.head_isLower), fun c member => ?_⟩
  exact plain c (word.tail_isPlain c member)

theorem small_isUppercase : ∀ c ∈ word.small, isUppercase c = false := by
  intro c member
  obtain ⟨plain, small⟩ := word.small_isPlain c member
  rw [isUppercase_of_isAlphanum plain, small]

theorem head_isAlphanum : word.head.isAlphanum = true :=
  (word.small_isPlain word.head (List.mem_cons_self ..)).1

theorem head_toUpper_isUpper : word.head.toUpper.isUpper = true :=
  (toUpper_of_isLower word.head_isLower).1

theorem toLowercase_head : toLowercase word.head = [word.head] :=
  toLowercase_of_not_isUpper word.head_isAlphanum
    (word.small_isPlain word.head (List.mem_cons_self ..)).2

theorem toLowercase_head_toUpper : toLowercase word.head.toUpper = [word.head] := by
  have plain := isAlphanum_of_isUpper word.head_toUpper_isUpper
  rw [toLowercase_ascii (ascii_of_isAlphanum plain), (toUpper_of_isLower word.head_isLower).2]

theorem toUppercase_head : toUppercase word.head = [word.head.toUpper] :=
  toUppercase_ascii (ascii_of_isAlphanum word.head_isAlphanum)

theorem toUppercase_head_toUpper : toUppercase word.head.toUpper = [word.head.toUpper] :=
  toUppercase_of_not_isLower (isAlphanum_of_isUpper word.head_toUpper_isUpper)
    (not_isLower_of_isUpper word.head_toUpper_isUpper)

theorem capital_isAlphanum : ∀ c ∈ word.capital, c.isAlphanum = true := by
  refine List.forall_mem_cons.2 ⟨isAlphanum_of_isUpper word.head_toUpper_isUpper, ?_⟩
  exact fun c member => (word.small_isPlain c (List.mem_cons_of_mem _ member)).1

theorem flatMap_snakeInner_capital : word.capital.flatMap snakeInner = '_' :: word.small := by
  have tail := flatMap_snakeInner_eq_self
    fun c member => word.small_isUppercase c (List.mem_cons_of_mem _ member)
  have plain := isAlphanum_of_isUpper word.head_toUpper_isUpper
  rw [capital, List.flatMap_cons, snakeInner, isUppercase_of_isAlphanum plain,
    if_pos word.head_toUpper_isUpper, word.toLowercase_head_toUpper, tail, small]
  rfl

theorem snakeChars_capital_append (rest : List Char) :
    snakeChars (word.capital ++ rest) = word.small ++ rest.flatMap snakeInner := by
  have plain := isAlphanum_of_isUpper word.head_toUpper_isUpper
  have tail := flatMap_snakeInner_eq_self
    fun c member => word.small_isUppercase c (List.mem_cons_of_mem _ member)
  rw [capital, List.cons_append, snakeChars, isUppercase_of_isAlphanum plain,
    if_pos word.head_toUpper_isUpper, word.toLowercase_head_toUpper, List.flatMap_append, tail]
  rfl

theorem snakeChars_small_append (rest : List Char) :
    snakeChars (word.small ++ rest) = word.small ++ rest.flatMap snakeInner := by
  obtain ⟨head, tail⟩ := List.forall_mem_cons.1 word.small_isUppercase
  rw [small, List.cons_append, snakeChars, if_neg (by simp [head]), List.flatMap_append,
    flatMap_snakeInner_eq_self tail]
  rfl

end PlainWord

/-- The ways to write words as one identifier. -/
inductive Style where
  /-- Small words with underscores between them. -/
  | snake
  /-- Words with nothing between them, all but the first with a capital in front. -/
  | camel
  /-- Words with nothing between them, each with a capital in front. -/
  | pascal

namespace Style

/-- How a style writes words. -/
def spell : Style → List PlainWord → String
  | snake, words => "_".intercalate (words.map fun word => String.ofList word.small)
  | camel, [] => ""
  | camel, first :: others =>
    String.ofList first.small ++ String.join (others.map fun word => String.ofList word.capital)
  | pascal, words => String.join (words.map fun word => String.ofList word.capital)

/-- The conversion of identifiers to a style. -/
def convert : Style → String → String
  | snake => Casing.snake
  | camel => Casing.camel
  | pascal => Casing.pascal

section Spellings

variable (first : PlainWord) (others : List PlainWord)

theorem toList_spell_snake : (snake.spell (first :: others)).toList =
    first.small ++ others.flatMap fun word => '_' :: word.small := by
  have chars (words : List PlainWord) :
      (snake.spell words).toList = ['_'].intercalate (words.map PlainWord.small) := by
    simp [spell, Function.comp_def]
  rw [chars]
  induction others generalizing first with
  | nil => simp
  | cons second others ih =>
    rw [List.map_cons, List.map_cons, List.intercalate_cons_cons, ← List.map_cons, ih]
    simp

theorem toList_spell_camel : (camel.spell (first :: others)).toList =
    first.small ++ others.flatMap PlainWord.capital := by
  simp [spell, List.flatMap_map]

theorem toList_spell_pascal : (pascal.spell (first :: others)).toList =
    first.capital ++ others.flatMap PlainWord.capital := by
  simp [spell, List.flatMap_map]

theorem flatMap_snakeInner_capitals :
    (others.flatMap PlainWord.capital).flatMap snakeInner =
      others.flatMap fun word => '_' :: word.small := by
  rw [List.flatMap_assoc]
  exact List.flatMap_congr fun word _ => word.flatMap_snakeInner_capital

theorem capitals_isAlphanum : ∀ c ∈ others.flatMap PlainWord.capital, c.isAlphanum = true := by
  intro c member
  obtain ⟨word, -, inside⟩ := List.mem_flatMap.1 member
  exact word.capital_isAlphanum c inside

theorem isAlphanum_camel :
    ∀ c ∈ first.small ++ others.flatMap PlainWord.capital, c.isAlphanum = true :=
  List.forall_mem_append.2
    ⟨fun c member => (first.small_isPlain c member).1, capitals_isAlphanum others⟩

theorem isAlphanum_pascal :
    ∀ c ∈ first.capital ++ others.flatMap PlainWord.capital, c.isAlphanum = true :=
  List.forall_mem_append.2 ⟨first.capital_isAlphanum, capitals_isAlphanum others⟩

theorem snake_convert_spell (written : Style) :
    snake.convert (written.spell (first :: others)) = snake.spell (first :: others) := by
  rw [← String.toList_inj, convert, Casing.snake, String.toList_ofList]
  cases written with
  | snake =>
    refine snakeChars_eq_self fun c member => ?_
    rw [toList_spell_snake, List.mem_append, List.mem_flatMap] at member
    rcases member with inside | ⟨word, -, inside⟩
    · exact first.small_isUppercase c inside
    · rcases List.mem_cons.1 inside with rfl | inside
      · exact isUppercase_underscore
      · exact word.small_isUppercase c inside
  | camel =>
    rw [toList_spell_camel, first.snakeChars_small_append, flatMap_snakeInner_capitals,
      toList_spell_snake]
  | pascal =>
    rw [toList_spell_pascal, first.snakeChars_capital_append, flatMap_snakeInner_capitals,
      toList_spell_snake]

/-- What is spelled in snake case is the snake case of the other spellings. -/
theorem toList_spell_snake_eq (written : Style) :
    (snake.spell (first :: others)).toList =
      snakeChars (written.spell (first :: others)).toList := by
  rw [← snake_convert_spell first others written, convert, Casing.snake, String.toList_ofList]

theorem camel_convert_spell (written : Style) :
    camel.convert (written.spell (first :: others)) = camel.spell (first :: others) := by
  rw [← String.toList_inj, convert, Casing.camel, String.toList_ofList]
  cases written with
  | snake =>
    rw [toList_spell_snake_eq first others camel, toList_spell_camel]
    refine camelChars_snakeChars (isAlphanum_camel first others) ?_
    simpa [PlainWord.small] using (first.small_isPlain first.head (List.mem_cons_self ..)).2
  | camel =>
    have letters := letters_of_isAlphanum (isAlphanum_camel first others)
    rw [toList_spell_camel]
    exact (camelChars_of_run letters).trans (by rw [first.toLowercase_head]; rfl)
  | pascal =>
    have letters := letters_of_isAlphanum (isAlphanum_pascal first others)
    rw [toList_spell_pascal, toList_spell_camel]
    exact (camelChars_of_run letters).trans (by rw [first.toLowercase_head_toUpper]; rfl)

theorem pascal_convert_spell (written : Style) :
    pascal.convert (written.spell (first :: others)) = pascal.spell (first :: others) := by
  rw [← String.toList_inj, convert, Casing.pascal, String.toList_ofList]
  cases written with
  | snake =>
    rw [toList_spell_snake_eq first others pascal, toList_spell_pascal]
    refine pascalChars_snakeChars (isAlphanum_pascal first others) ?_
    exact fun c head => (Option.some.inj head) ▸ not_isLower_of_isUpper first.head_toUpper_isUpper
  | camel =>
    have letters := letters_of_isAlphanum (isAlphanum_camel first others)
    rw [toList_spell_camel, toList_spell_pascal]
    exact (pascalChars_of_run letters).trans (by rw [first.toUppercase_head]; rfl)
  | pascal =>
    have letters := letters_of_isAlphanum (isAlphanum_pascal first others)
    rw [toList_spell_pascal]
    exact (pascalChars_of_run letters).trans (by rw [first.toUppercase_head_toUpper]; rfl)

end Spellings

/-- Every conversion takes every spelling of words to its own. -/
theorem convert_spell (written wanted : Style) (words : List PlainWord) :
    wanted.convert (written.spell words) = wanted.spell words := by
  cases words with
  | nil => cases written <;> cases wanted <;> decide +kernel
  | cons first others =>
    cases wanted with
    | snake => exact snake_convert_spell first others written
    | camel => exact camel_convert_spell first others written
    | pascal => exact pascal_convert_spell first others written

end Style

/-- An identifier of ASCII letters and digits comes back from snake case: as camel case if it does
not start with a capital, as Pascal case if it does not start with a small letter.  Whatever style
words are written in, each conversion gives them in its own. -/
theorem casings_converge :
    (∀ name : String, (∀ c ∈ name.toList, c.isAlphanum = true) →
      ((∀ c ∈ name.toList.head?, c.isUpper = false) → camel (snake name) = name) ∧
        ((∀ c ∈ name.toList.head?, c.isLower = false) → pascal (snake name) = name)) ∧
      ∀ (words : List PlainWord) (written wanted : Style),
        wanted.convert (written.spell words) = wanted.spell words := by
  refine ⟨fun name plain => ⟨fun small => ?_, fun large => ?_⟩, fun words written wanted =>
    Style.convert_spell written wanted words⟩
  · rw [← String.toList_inj, camel, snake, String.toList_ofList, String.toList_ofList]
    exact camelChars_snakeChars plain small
  · rw [← String.toList_inj, pascal, snake, String.toList_ofList, String.toList_ofList]
    exact pascalChars_snakeChars plain large

/-- A run of capitals is a run of one-letter words in snake case, and a digit starts no word. -/
theorem capital_runs_come_back :
    (∀ c ∈ "HTTPServer2".toList, c.isAlphanum = true) ∧
      (∀ c ∈ "HTTPServer2".toList.head?, c.isLower = false) ∧
      snake "HTTPServer2" = "h_t_t_p_server2" ∧ pascal (snake "HTTPServer2") = "HTTPServer2" ∧
      snake "2ndTryAT3" = "2nd_try_a_t3" ∧ camel (snake "2ndTryAT3") = "2ndTryAT3" := by
  have plain : ∀ c ∈ "HTTPServer2".toList, c.isAlphanum = true := by simp
  have large : ∀ c ∈ "HTTPServer2".toList.head?, c.isLower = false := by simp
  exact ⟨plain, large, by decide +kernel, (casings_converge.1 _ plain).2 large,
    by decide +kernel, (casings_converge.1 _ (by simp)).1 (by simp)⟩

end DynamicMessage.Casing
