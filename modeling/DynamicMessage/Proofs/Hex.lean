/-
# Proofs.Hex -- which text spells which bytes

Text spells bytes (`Spells`) if it is, up to white space at both ends, a marker or none and then the
digits of the bytes in either case, among ASCII blanks.  Such text and no other is read, as the
bytes it spells; so is every respelling of what is written for bytes (`Respells`).

The reader and this grammar look at text in different ways, and they meet in two places.  The
reader skips blanks and takes digits byte by byte, in the UTF-8 form: an ASCII character is one
byte, and no byte of another character is a blank or a digit, so the character is refused and
cannot hide between digits (`shows_iff`).  And the reader takes white space off the ends before it
looks for anything, also blanks that the grammar counts with the digits; those say nothing
(`Shows.trim`).
-/
import DynamicMessage.Hex
import Mathlib.Data.List.TakeWhile

namespace DynamicMessage.Hex

set_option autoImplicit false

open Unicode (asciiBlanks isAsciiBlank isWhiteSpace)

/-! ## Spellings -/

/-- The digits in lowercase. -/
def lowercase : List Char :=
  ['0', '1', '2', '3', '4', '5', '6', '7', '8', '9', 'a', 'b', 'c', 'd', 'e', 'f']

/-- The digits in uppercase. -/
def uppercase : List Char :=
  ['0', '1', '2', '3', '4', '5', '6', '7', '8', '9', 'A', 'B', 'C', 'D', 'E', 'F']

/-- A character is the digit of a number below sixteen, in either case. -/
def IsDigit (c : Char) (v : UInt8) : Prop :=
  lowercase[v.toNat]? = some c ∨ uppercase[v.toNat]? = some c

instance (c : Char) (v : UInt8) : Decidable (IsDigit c v) := inferInstanceAs (Decidable (_ ∨ _))

/-- Text shows numbers by their digits in order, among ASCII blanks. -/
inductive Shows : List Char → List UInt8 → Prop
  | nil : Shows [] []
  | blank {c : Char} {text : List Char} {values : List UInt8} :
      isAsciiBlank c = true → Shows text values → Shows (c :: text) values
  | digit {c : Char} {v : UInt8} {text : List Char} {values : List UInt8} :
      IsDigit c v → Shows text values → Shows (c :: text) (v :: values)

/-- The halves of a byte, the high one first. -/
def halves (b : UInt8) : List UInt8 := [b / 16, b % 16]

/-- What may stand in front of digits. -/
def markers : List (List Char) := [[], ['0', 'x'], ['0', 'X']]

/-- Text spells bytes: a marker and their digits, between white space. -/
inductive Spells : List Char → List UInt8 → Prop
  | intro {before marker body after : List Char} {bytes : List UInt8} :
      (∀ c ∈ before, isWhiteSpace c = true) → marker ∈ markers →
      Shows body (bytes.flatMap halves) → (∀ c ∈ after, isWhiteSpace c = true) →
      Spells (before ++ (marker ++ body) ++ after) bytes

/-- The second text has the letters of the first one, each as it is or in uppercase, among ASCII
blanks. -/
inductive Recases : List Char → List Char → Prop
  | nil : Recases [] []
  | blank {c : Char} {written text : List Char} :
      isAsciiBlank c = true → Recases written text → Recases written (c :: text)
  | letter {c c' : Char} {written text : List Char} :
      c' = c ∨ c' = c.toUpper → Recases written text → Recases (c :: written) (c' :: text)

/-- The second text respells the first one: its letters in either case behind a marker, with ASCII
blanks anywhere but inside the marker. -/
inductive Respells : List Char → List Char → Prop
  | intro {blanks marker body written : List Char} :
      (∀ c ∈ blanks, isAsciiBlank c = true) → marker ∈ markers → Recases written body →
      Respells written (blanks ++ (marker ++ body))

/-! ## One character -/

theorem IsDigit.mem {c : Char} {v : UInt8} (digit : IsDigit c v) : c ∈ lowercase ++ uppercase :=
  List.mem_append.2 (digit.imp List.mem_of_getElem? List.mem_of_getElem?)

theorem IsDigit.lt {c : Char} {v : UInt8} (digit : IsDigit c v) : v < 16 := by
  rcases digit with found | found <;> exact (List.getElem?_eq_some_iff.1 found).1

theorem IsDigit.ascii {c : Char} {v : UInt8} (digit : IsDigit c v) : c.toNat < 128 := by
  have all : (lowercase ++ uppercase).all (·.toNat < 128) = true := by decide
  exact of_decide_eq_true (List.all_eq_true.1 all c digit.mem)

theorem IsDigit.not_isWhiteSpace {c : Char} {v : UInt8} (digit : IsDigit c v) :
    ¬isWhiteSpace c = true := by
  have all : (lowercase ++ uppercase).all (¬isWhiteSpace · = true) = true := by decide
  exact of_decide_eq_true (List.all_eq_true.1 all c digit.mem)

theorem isDigit_of_value? {b v : UInt8} (read : value? b = some v) :
    IsDigit (Char.ofUInt8 b) v := by
  have all : ∀ n < 256,
      (value? n.toUInt8).all (fun v => IsDigit (Char.ofUInt8 n.toUInt8) v) = true := by
    decide +kernel
  have digit := all b.toNat b.toNat_lt
  rw [Nat.toUInt8, UInt8.ofNat_toNat, read] at digit
  exact of_decide_eq_true digit

/-- What is read of a character: its bytes that are no blanks, with what they stand for. -/
def readings (c : Char) : List (Option UInt8) :=
  ((String.utf8EncodeChar c).filter (!isBlank ·)).map value?

theorem readings_of_blank {c : Char} (blank : isAsciiBlank c = true) : readings c = [] := by
  have all : asciiBlanks.all (readings · = []) = true := by decide
  exact of_decide_eq_true (List.all_eq_true.1 all c (Unicode.isAsciiBlank_iff.1 blank))

theorem readings_of_digit {c : Char} {v : UInt8} (digit : IsDigit c v) :
    readings c = [some v] := by
  have all : ∀ n < 16, lowercase[n]?.map readings = some [some n.toUInt8] ∧
      uppercase[n]?.map readings = some [some n.toUInt8] := by decide
  obtain ⟨lower, upper⟩ := all v.toNat digit.lt
  rw [Nat.toUInt8, UInt8.ofNat_toNat] at lower upper
  rcases digit with found | found
  · simpa [found] using lower
  · simpa [found] using upper

theorem IsDigit.unique {c : Char} {v v' : UInt8} (digit : IsDigit c v) (digit' : IsDigit c v') :
    v = v' := by
  have same := (readings_of_digit digit).symm.trans (readings_of_digit digit')
  simpa using same

theorem utf8EncodeChar_ascii {c : Char} (ascii : c.toNat < 128) :
    String.utf8EncodeChar c = [c.toUInt8] ∧ Char.ofUInt8 c.toUInt8 = c := by
  have small : c.val.toNat ≤ 127 := Nat.le_of_lt_succ ascii
  constructor
  · rw [String.utf8EncodeChar, if_pos small]
    rfl
  · refine Char.toNat_inj.1 ?_
    show c.val.toUInt8.toNat = c.val.toNat
    rw [UInt32.toNat_toUInt8, Nat.mod_eq_of_lt (by omega)]

theorem le_ofNat {n : Nat} (low : 128 ≤ n) (high : n < 256) : 128 ≤ UInt8.ofNat n := by
  rw [UInt8.le_iff_toNat_le, UInt8.toNat_ofNat', Nat.mod_eq_of_lt high]
  exact low

/-- The bytes of a character beyond ASCII are all above 127. -/
theorem le_of_mem_utf8EncodeChar {c : Char} (beyond : 128 ≤ c.toNat) :
    ∀ b ∈ String.utf8EncodeChar c, 128 ≤ b := by
  have notAscii : ¬c.val.toNat ≤ 127 := by
    rw [Char.toNat] at beyond
    omega
  unfold String.utf8EncodeChar
  simp only [if_neg notAscii]
  split
  · simp only [List.forall_mem_cons]
    exact ⟨le_ofNat (by omega) (by omega), le_ofNat (by omega) (by omega),
      List.forall_mem_nil _⟩
  · split
    · simp only [List.forall_mem_cons]
      exact ⟨le_ofNat (by omega) (by omega), le_ofNat (by omega) (by omega),
        le_ofNat (by omega) (by omega), List.forall_mem_nil _⟩
    · simp only [List.forall_mem_cons]
      exact ⟨le_ofNat (by omega) (by omega), le_ofNat (by omega) (by omega),
        le_ofNat (by omega) (by omega), le_ofNat (by omega) (by omega), List.forall_mem_nil _⟩

/-- No byte above 127 is a blank or a digit. -/
theorem refused_of_le {b : UInt8} (beyond : 128 ≤ b) : isBlank b = false ∧ value? b = none := by
  have high : 128 ≤ (Char.ofUInt8 b).toNat := beyond
  constructor
  · rw [isBlank, Bool.eq_false_iff]
    intro blank
    exact absurd (Unicode.isAsciiBlank_ascii blank) (Nat.not_lt.2 high)
  · cases digit : value? b with
    | none => rfl
    | some v => exact absurd (isDigit_of_value? digit).ascii (Nat.not_lt.2 high)

theorem none_mem_readings {c : Char} (notBlank : ¬isAsciiBlank c = true)
    (notDigit : ∀ v, ¬IsDigit c v) : none ∈ readings c := by
  have bad : ∃ b ∈ String.utf8EncodeChar c, isBlank b = false ∧ value? b = none := by
    by_cases ascii : c.toNat < 128
    · obtain ⟨one, same⟩ := utf8EncodeChar_ascii ascii
      refine ⟨c.toUInt8, by simp [one], by simpa [isBlank, same] using notBlank, ?_⟩
      cases digit : value? c.toUInt8 with
      | none => rfl
      | some v =>
        have isDigit := isDigit_of_value? digit
        rw [same] at isDigit
        exact absurd isDigit (notDigit v)
    · -- Beyond ASCII any of its bytes will do.
      obtain ⟨b, member⟩ := List.exists_mem_of_ne_nil _ (String.utf8EncodeChar_ne_nil (c := c))
      exact ⟨b, member, refused_of_le (le_of_mem_utf8EncodeChar (by omega) b member)⟩
  obtain ⟨b, member, kept, refused⟩ := bad
  exact List.mem_map.2 ⟨b, List.mem_filter.2 ⟨member, by simp [kept]⟩, refused⟩

/-! ## Digits among blanks -/

/-- What is read of text. -/
theorem map_value?_utf8 (text : List Char) :
    ((utf8 text).filter (!isBlank ·)).map value? = text.flatMap readings := by
  induction text with
  | nil => rfl
  | cons c text ih =>
    rw [utf8, List.flatMap_cons, List.filter_append, List.map_append, List.flatMap_cons, ← ih]
    rfl

theorem readings_of_shows {text : List Char} {values : List UInt8} (shown : Shows text values) :
    text.flatMap readings = values.map some := by
  induction shown with
  | nil => rfl
  | blank blank _ ih => rw [List.flatMap_cons, readings_of_blank blank, ih, List.nil_append]
  | digit digit _ ih =>
    rw [List.flatMap_cons, readings_of_digit digit, ih, List.map_cons]
    rfl

theorem shows_of_readings {text : List Char} {values : List UInt8}
    (read : text.flatMap readings = values.map some) : Shows text values := by
  induction text generalizing values with
  | nil =>
    cases values with
    | nil => exact .nil
    | cons v values => cases read
  | cons c text ih =>
    rw [List.flatMap_cons] at read
    by_cases blank : isAsciiBlank c = true
    · rw [readings_of_blank blank] at read
      exact .blank blank (ih read)
    · by_cases digit : ∃ v, IsDigit c v
      · obtain ⟨v, digit⟩ := digit
        rw [readings_of_digit digit] at read
        cases values with
        | nil => cases read
        | cons w values =>
          obtain ⟨same, rest⟩ := List.cons.inj read
          cases same
          exact .digit digit (ih rest)
      · have unread := none_mem_readings blank fun v isDigit => digit ⟨v, isDigit⟩
        have refused : none ∈ values.map some := by
          rw [← read]
          exact List.mem_append_left _ unread
        simp at refused

/-- Text shows numbers if these are what its bytes stand for, blanks left out. -/
theorem shows_iff {text : List Char} {values : List UInt8} :
    Shows text values ↔ ((utf8 text).filter (!isBlank ·)).map value? = values.map some := by
  rw [map_value?_utf8]
  exact ⟨readings_of_shows, shows_of_readings⟩

/-! ## Two digits a byte -/

theorem toNat_join {h l : UInt8} (high : h < 16) (low : l < 16) :
    (join h l).toNat = 16 * h.toNat + l.toNat := by
  have all : ∀ n < 16, ∀ k < 16, (join n.toUInt8 k.toUInt8).toNat = 16 * n + k := by
    decide
  simpa using all h.toNat high l.toNat low

theorem halves_join {h l : UInt8} (high : h < 16) (low : l < 16) : halves (join h l) = [h, l] := by
  have joined := toNat_join high low
  have high : h.toNat < 16 := high
  have low : l.toNat < 16 := low
  have first : join h l / 16 = h := by
    rw [← UInt8.toNat_inj, UInt8.toNat_div, joined]
    show (16 * h.toNat + l.toNat) / 16 = h.toNat
    omega
  have second : join h l % 16 = l := by
    rw [← UInt8.toNat_inj, UInt8.toNat_mod, joined]
    show (16 * h.toNat + l.toNat) % 16 = l.toNat
    omega
  rw [halves, first, second]

theorem halves_lt (b : UInt8) : b / 16 < 16 ∧ b % 16 < 16 := by
  have bound := b.toNat_lt
  constructor
  · show (b / 16).toNat < 16
    rw [UInt8.toNat_div]
    show b.toNat / 16 < 16
    omega
  · show (b % 16).toNat < 16
    rw [UInt8.toNat_mod]
    show b.toNat % 16 < 16
    omega

theorem join_halves (b : UInt8) : join (b / 16) (b % 16) = b := by
  rw [← UInt8.toNat_inj, toNat_join (halves_lt b).1 (halves_lt b).2, UInt8.toNat_div,
    UInt8.toNat_mod]
  exact Nat.div_add_mod b.toNat 16

theorem ofDigits?_eq_some_iff {digits bytes : List UInt8} :
    ofDigits? digits = some bytes ↔ digits.map value? = (bytes.flatMap halves).map some := by
  constructor
  · intro read
    fun_induction ofDigits? digits generalizing bytes with
    | case1 =>
      cases read
      rfl
    | case2 => cases read
    | case3 high low rest h l tail foundRest foundLow foundHigh ih =>
      cases read
      have joined := halves_join (isDigit_of_value? foundHigh).lt (isDigit_of_value? foundLow).lt
      rw [List.flatMap_cons, joined, List.map_cons, List.map_cons, foundHigh, foundLow,
        ih foundRest]
      rfl
    | case4 => cases read
  · intro read
    induction bytes generalizing digits with
    | nil =>
      cases digits with
      | nil => rfl
      | cons digit rest => cases read
    | cons b bytes ih =>
      rw [List.flatMap_cons, halves, List.cons_append, List.cons_append, List.nil_append,
        List.map_cons, List.map_cons] at read
      obtain ⟨high, digits, rfl, foundHigh, read⟩ := List.map_eq_cons_iff.1 read
      obtain ⟨low, rest, rfl, foundLow, read⟩ := List.map_eq_cons_iff.1 read
      rw [ofDigits?, foundHigh, foundLow, ih read]
      simp only [join_halves]

theorem parse?_eq_some_iff {text : List Char} {bytes : List UInt8} :
    parse? text = some bytes ↔
      Shows (dropMarker (trim isWhiteSpace text)) (bytes.flatMap halves) := by
  rw [parse?, ofDigits?_eq_some_iff, shows_iff]

/-! ## The ends of the text and the marker -/

theorem exists_trim (blank : Char → Bool) (text : List Char) :
    ∃ before after, text = before ++ trim blank text ++ after ∧
      (∀ c ∈ before, blank c = true) ∧ ∀ c ∈ after, blank c = true := by
  have back := List.takeWhile_append_dropWhile (p := blank) (l := (text.dropWhile blank).reverse)
  refine ⟨text.takeWhile blank, ((text.dropWhile blank).reverse.takeWhile blank).reverse, ?_,
    fun c member => List.mem_takeWhile_imp member,
    fun c member => List.mem_takeWhile_imp (List.mem_reverse.1 member)⟩
  rw [trim, List.append_assoc, ← List.reverse_append, back, List.reverse_reverse,
    List.takeWhile_append_dropWhile]

theorem trim_append {blank : Char → Bool} {before after : List Char} (text : List Char)
    (front : ∀ c ∈ before, blank c = true) (back : ∀ c ∈ after, blank c = true) :
    trim blank (before ++ text ++ after) = trim blank text := by
  have reversed : ∀ c ∈ after.reverse, blank c = true :=
    fun c member => back c (List.mem_reverse.1 member)
  rw [trim, List.append_assoc, List.dropWhile_append_of_pos front, List.dropWhile_append]
  split
  · -- The text is all white space, so nothing of what is behind it is left either.
    rename_i none
    rw [trim, List.isEmpty_iff.1 none, ← List.append_nil after, List.dropWhile_append_of_pos back]
    rfl
  · rw [List.reverse_append, List.dropWhile_append_of_pos reversed, trim]

/-- White space between a marker and the digits is not trimmed. -/
theorem trim_marked {blank : Char → Bool} {a m : Char} (body : List Char)
    (first : ¬blank a = true) (second : ¬blank m = true) :
    trim blank (a :: m :: body) = a :: m :: (body.reverse.dropWhile blank).reverse := by
  rw [trim, List.dropWhile_cons_of_neg first, List.reverse_cons, List.reverse_cons,
    List.append_assoc, List.dropWhile_append]
  split
  · rename_i none
    simp [List.isEmpty_iff.1 none, List.dropWhile_cons_of_neg second]
  · simp

theorem exists_marker (text : List Char) :
    ∃ marker ∈ markers, text = marker ++ dropMarker text := by
  fun_cases dropMarker text with
  | case1 rest => exact ⟨['0', 'x'], by decide, rfl⟩
  | case2 rest => exact ⟨['0', 'X'], by decide, rfl⟩
  | case3 => exact ⟨[], by decide, rfl⟩

namespace Shows

theorem append {front back : List Char} {values more : List UInt8} (first : Shows front values)
    (second : Shows back more) : Shows (front ++ back) (values ++ more) := by
  induction first with
  | nil => exact second
  | blank blank _ ih => exact .blank blank ih
  | digit digit _ ih => exact .digit digit ih

theorem reverse {text : List Char} {values : List UInt8} (shown : Shows text values) :
    Shows text.reverse values.reverse := by
  induction shown with
  | nil => exact .nil
  | blank blank _ ih =>
    rw [List.reverse_cons]
    simpa using ih.append (.blank blank .nil)
  | digit digit _ ih =>
    rw [List.reverse_cons, List.reverse_cons]
    exact ih.append (.digit digit .nil)

theorem of_mem {text : List Char} {values : List UInt8} (shown : Shows text values) :
    ∀ c ∈ text, isAsciiBlank c = true ∨ c ∈ lowercase ++ uppercase := by
  induction shown with
  | nil => exact List.forall_mem_nil _
  | blank blank _ ih => exact List.forall_mem_cons.2 ⟨.inl blank, ih⟩
  | digit digit _ ih => exact List.forall_mem_cons.2 ⟨.inr digit.mem, ih⟩

/-- White space in front says nothing. -/
theorem dropWhile {text : List Char} {values : List UInt8} (shown : Shows text values) :
    Shows (text.dropWhile isWhiteSpace) values := by
  induction shown with
  | nil => exact .nil
  | blank blank _ ih =>
    rw [List.dropWhile_cons_of_pos (Unicode.isWhiteSpace_of_isAsciiBlank blank)]
    exact ih
  | digit digit rest _ =>
    rw [List.dropWhile_cons_of_neg digit.not_isWhiteSpace]
    exact .digit digit rest

/-- White space behind says nothing either. -/
theorem dropWhileEnd {text : List Char} {values : List UInt8} (shown : Shows text values) :
    Shows (text.reverse.dropWhile isWhiteSpace).reverse values := by
  simpa using shown.reverse.dropWhile.reverse

theorem trim {text : List Char} {values : List UInt8} (shown : Shows text values) :
    Shows (trim isWhiteSpace text) values :=
  shown.dropWhile.dropWhileEnd

/-- Digits have no marker. -/
theorem dropMarker_eq {text : List Char} {values : List UInt8} (shown : Shows text values) :
    dropMarker text = text := by
  fun_cases dropMarker text with
  | case1 rest => exact absurd (shown.of_mem 'x' (by simp)) (by decide)
  | case2 rest => exact absurd (shown.of_mem 'X' (by simp)) (by decide)
  | case3 => rfl

end Shows

/-- Text spells bytes if its digits do, once its ends are trimmed and its marker is dropped. -/
theorem spells_iff {text : List Char} {bytes : List UInt8} :
    Spells text bytes ↔ Shows (dropMarker (trim isWhiteSpace text)) (bytes.flatMap halves) := by
  constructor
  · rintro ⟨front, marked, shown, back⟩
    rw [trim_append _ front back]
    simp only [markers, List.mem_cons, List.not_mem_nil, or_false] at marked
    rcases marked with rfl | rfl | rfl
    · rw [List.nil_append, shown.trim.dropMarker_eq]
      exact shown.trim
    · show Shows (dropMarker (trim isWhiteSpace ('0' :: 'x' :: _))) _
      rw [trim_marked _ (by decide) (by decide)]
      exact shown.dropWhileEnd
    · show Shows (dropMarker (trim isWhiteSpace ('0' :: 'X' :: _))) _
      rw [trim_marked _ (by decide) (by decide)]
      exact shown.dropWhileEnd
  · intro shown
    obtain ⟨before, after, split, front, back⟩ := exists_trim isWhiteSpace text
    obtain ⟨marker, marked, rest⟩ := exists_marker (trim isWhiteSpace text)
    rw [rest] at split
    rw [split]
    exact .intro front marked shown back

theorem parse_eq_ok_iff {text : String} {bytes : List UInt8} :
    parse text = .ok bytes ↔ Spells text.toList bytes := by
  rw [spells_iff, ← parse?_eq_some_iff, parse]
  cases parse? text.toList <;> simp

theorem parse_eq_error_iff {text : String} :
    parse text = .error (.invalidHex text) ↔ ∀ bytes, ¬Spells text.toList bytes := by
  constructor
  · intro refused bytes spelled
    rw [← parse_eq_ok_iff, refused] at spelled
    cases spelled
  · intro unspelled
    cases read : parse? text.toList with
    | none => rw [parse, read]
    | some bytes => exact absurd (parse_eq_ok_iff.1 (by rw [parse, read])) (unspelled bytes)

/-! ## Respellings -/

theorem isDigit_digit {n : Nat} (small : n < 16) : IsDigit (digit n) n.toUInt8 := by
  have all : ∀ n < 16, IsDigit (digit n) n.toUInt8 := by decide
  exact all n small

theorem shows_pair (b : UInt8) : Shows (pair b) (halves b) := by
  have high := isDigit_digit (n := (b / 16).toNat) (halves_lt b).1
  have low := isDigit_digit (n := (b % 16).toNat) (halves_lt b).2
  rw [Nat.toUInt8, UInt8.ofNat_toNat] at high low
  rw [UInt8.toNat_div] at high
  rw [UInt8.toNat_mod] at low
  exact .digit high (.digit low .nil)

theorem shows_encode (bytes : List UInt8) :
    Shows (encode bytes).toList (bytes.flatMap halves) := by
  rw [encode, String.toList_ofList]
  induction bytes with
  | nil => exact .nil
  | cons b bytes ih => exact (shows_pair b).append ih

theorem IsDigit.toUpper {c : Char} {v : UInt8} (digit : IsDigit c v) : IsDigit c.toUpper v := by
  have lower : lowercase.map Char.toUpper = uppercase := by decide
  have upper : uppercase.map Char.toUpper = uppercase := by decide
  right
  rcases digit with found | found
  · rw [← lower, List.getElem?_map, found, Option.map_some]
  · rw [← upper, List.getElem?_map, found, Option.map_some]

theorem isAsciiBlank_toUpper {c : Char} (blank : isAsciiBlank c = true) :
    isAsciiBlank c.toUpper = true := by
  have all : asciiBlanks.all (isAsciiBlank ·.toUpper) = true := by decide
  exact List.all_eq_true.1 all c (Unicode.isAsciiBlank_iff.1 blank)

/-- Neither the case of digits nor blanks among them change what they show. -/
theorem Recases.shows {written text : List Char} {values : List UInt8}
    (recased : Recases written text) (shown : Shows written values) : Shows text values := by
  induction recased generalizing values with
  | nil => exact shown
  | blank blank _ ih => exact .blank blank (ih shown)
  | letter same _ ih =>
    cases shown with
    | blank blank rest =>
      refine .blank ?_ (ih rest)
      rcases same with rfl | rfl
      · exact blank
      · exact isAsciiBlank_toUpper blank
    | digit digit rest =>
      refine .digit ?_ (ih rest)
      rcases same with rfl | rfl
      · exact digit
      · exact digit.toUpper

theorem Respells.spells {bytes : List UInt8} {text : List Char}
    (respelled : Respells (encode bytes).toList text) : Spells text bytes := by
  obtain ⟨blanks, marked, recased⟩ := respelled
  have spelled := Spells.intro (fun c member => Unicode.isWhiteSpace_of_isAsciiBlank
    (blanks c member)) marked (recased.shows (shows_encode bytes)) (List.forall_mem_nil _)
  rwa [List.append_nil] at spelled

theorem recases_self (text : List Char) : Recases text text := by
  induction text with
  | nil => exact .nil
  | cons c text ih => exact .letter (.inl rfl) ih

theorem respells_self (text : List Char) : Respells text text := by
  have plain : Respells text ([] ++ ([] ++ text)) :=
    .intro (List.forall_mem_nil _) (by decide) (recases_self text)
  exact plain

/-- Text is read exactly if it spells bytes, and as the bytes it spells; all other text is refused
with the text itself, unchanged.  What is written for bytes reads back as them, and so does every
respelling of it. -/
theorem text_reads_as_it_spells (text : String) (bytes : List UInt8) :
    (parse text = .ok bytes ↔ Spells text.toList bytes) ∧
      (parse text = .error (.invalidHex text) ↔ ∀ spelled, ¬Spells text.toList spelled) ∧
      parse (encode bytes) = .ok bytes ∧
      (Respells (encode bytes).toList text.toList → parse text = .ok bytes) :=
  ⟨parse_eq_ok_iff, parse_eq_error_iff, parse_eq_ok_iff.2 (respells_self _).spells,
    fun respelled => parse_eq_ok_iff.2 respelled.spells⟩

/-- A text of two bytes with a blank inside each pair, an uppercase marker and an uppercase digit is
read; a marker with a blank inside is none, and its text is refused. -/
theorem scattered_text_read :
    Respells (encode [0x08, 0x9A]).toList " 0X0 8\t9\nA\x0c".toList ∧
      parse " 0X0 8\t9\nA\x0c" = .ok [0x08, 0x9A] ∧
      (∀ spelled, ¬Spells "0 x08".toList spelled) := by
  have written : (encode [0x08, 0x9A]).toList = ['0', '8', '9', 'a'] := by decide
  have text : " 0X0 8\t9\nA\x0c".toList =
    [' '] ++ (['0', 'X'] ++ ['0', ' ', '8', '\t', '9', '\n', 'A', '\x0c']) := by decide
  have respelled : Respells (encode [0x08, 0x9A]).toList " 0X0 8\t9\nA\x0c".toList := by
    rw [written, text]
    refine .intro (List.forall_mem_singleton.2 rfl) (by decide) ?_
    exact .letter (.inl rfl) (.blank rfl (.letter (.inl rfl) (.blank rfl (.letter (.inl rfl)
      (.blank rfl (.letter (.inr rfl) (.blank rfl .nil)))))))
  refine ⟨respelled, (text_reads_as_it_spells _ _).2.2.2 respelled, ?_⟩
  exact (text_reads_as_it_spells "0 x08" []).2.1.1 (by decide)

end DynamicMessage.Hex
