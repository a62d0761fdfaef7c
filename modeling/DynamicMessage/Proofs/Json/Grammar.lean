/-
# Proofs.Json.Grammar -- which text is JSON text of which value

The rules of JSON, apart from any writer.  White space may stand around every value and every name.
In a string a character stands for itself, or as a letter behind a backslash, or as its number in
four hexadecimal digits; beyond the first 65536 characters it takes two such numbers, a surrogate
pair.  Numbers are natural numbers in decimal digits, since values have no others.

One value may be written in many ways, but a text is written for one value only (`Item.unique`).
Texts are followed from their start: the first character tells the kind of a value (`kindOf`), and
two texts of one kind are followed side by side to their ends (`ReadOff`).  What stands behind a
value matters in two places: a digit would go on a number and white space would go on a gap, so
neither may stand there (`Ends`), and neither does, since commas, colons and brackets follow values
(`ends_of_mem`).
-/
import DynamicMessage.Json
import DynamicMessage.Proofs.Hex

namespace DynamicMessage.Json

set_option autoImplicit false

/-! ## The rules -/

/-- The characters of white space. -/
def blanks : List Char := [' ', '\t', '\n', '\r']

/-- Text of white space only. -/
def Blank (text : List Char) : Prop := ∀ c ∈ text, c ∈ blanks

/-- The letters behind a backslash and what they stand for. -/
def shorthands : List (Char × Char) :=
  [('"', '"'), ('\\', '\\'), ('/', '/'), ('b', '\x08'), ('f', '\x0c'), ('n', '\n'), ('r', '\r'),
    ('t', '\t')]

/-- Four hexadecimal digits of a number, in either case. -/
inductive Code : List Char → Nat → Prop where
  | intro {a b c d : Char} {p q r s : UInt8} (first : Hex.IsDigit a p) (second : Hex.IsDigit b q)
      (third : Hex.IsDigit c r) (fourth : Hex.IsDigit d s) :
      Code [a, b, c, d] (4096 * p.toNat + 256 * q.toNat + 16 * r.toNat + s.toNat)

/-- A character as it may stand in a string. -/
inductive Letter : Char → List Char → Prop where
  | plain {c : Char} (printed : 32 ≤ c.toNat) (noQuote : c ≠ '"') (noBackslash : c ≠ '\\') :
      Letter c [c]
  | short {c letter : Char} (listed : (letter, c) ∈ shorthands) : Letter c ['\\', letter]
  | coded {c : Char} {digits : List Char} (code : Code digits c.toNat) :
      Letter c ('\\' :: 'u' :: digits)
  | paired {c : Char} {high low : List Char} {h l : Nat} (first : Code high (0xD800 + h))
      (small : h < 1024) (second : Code low (0xDC00 + l)) (small' : l < 1024)
      (number : c.toNat = 0x10000 + 1024 * h + l) :
      Letter c ('\\' :: 'u' :: (high ++ '\\' :: 'u' :: low))

/-- Characters as they may stand in a string, one after another. -/
inductive Letters : List Char → List Char → Prop where
  | nil : Letters [] []
  | cons {c : Char} {s text rest : List Char} (first : Letter c text) (later : Letters s rest) :
      Letters (c :: s) (text ++ rest)

/-- A string between quotes. -/
inductive Quoted : String → List Char → Prop where
  | intro {s : String} {text : List Char} (letters : Letters s.toList text) :
      Quoted s ('"' :: (text ++ ['"']))

/-- One text or more with commas between them. -/
inductive Separated {α : Type} (Form : α → List Char → Prop) : List α → List Char → Prop where
  | one {a : α} {text : List Char} (only : Form a text) : Separated Form [a] text
  | more {a : α} {others : List α} {text rest : List Char} (first : Form a text)
      (later : Separated Form others rest) : Separated Form (a :: others) (text ++ ',' :: rest)

/-- Such texts in brackets, or none and white space in their place. -/
inductive Bracketed {α : Type} (Form : α → List Char → Prop) (first last : Char) :
    List α → List Char → Prop where
  | none {gap : List Char} (blank : Blank gap) :
      Bracketed Form first last [] (first :: (gap ++ [last]))
  | some {items : List α} {text : List Char} (each : Separated Form items text) :
      Bracketed Form first last items (first :: (text ++ [last]))

mutual

/-- A value from its first character to its last one. -/
inductive Written : Json → List Char → Prop where
  | nullWord : Written .null ['n', 'u', 'l', 'l']
  | trueWord : Written (.bool true) ['t', 'r', 'u', 'e']
  | falseWord : Written (.bool false) ['f', 'a', 'l', 's', 'e']
  | nat (n : Nat) : Written (.nat n) (Nat.toDigits 10 n)
  | string {s : String} {text : List Char} (quoted : Quoted s text) : Written (.string s) text
  | array {items : List Json} {text : List Char} (each : Bracketed Item '[' ']' items text) :
      Written (.array items) text
  | object {members : List (String × Json)} {text : List Char}
      (each : Bracketed Member '\x7b' '\x7d' members text) : Written (.object members) text

/-- A value between white space.  This is also how a value makes a whole text. -/
inductive Item : Json → List Char → Prop where
  | intro {v : Json} {front text back : List Char} (before : Blank front) (written : Written v text)
      (after : Blank back) : Item v (front ++ (text ++ back))

/-- A name and a value with a colon between them. -/
inductive Member : String × Json → List Char → Prop where
  | intro {name : String} {v : Json} {front quoted back text : List Char} (before : Blank front)
      (named : Quoted name quoted) (after : Blank back) (item : Item v text) :
      Member (name, v) (front ++ (quoted ++ (back ++ ':' :: text)))

end

/-- The writer gives JSON text of whatever it is to write. -/
def Writes (write : Writer) : Prop := ∀ v, ∃ text, write v = .ok text ∧ Item v text.toList

theorem blank_singleton {c : Char} (member : c ∈ blanks) : Blank [c] :=
  List.forall_mem_singleton.2 member

/-- White space behind a text changes nothing. -/
theorem Item.append_blank {v : Json} {text gap : List Char} (item : Item v text)
    (blank : Blank gap) : Item v (text ++ gap) := by
  cases item with
  | intro before written after =>
    rw [List.append_assoc, List.append_assoc]
    exact .intro before written (List.forall_mem_append.2 ⟨after, blank⟩)

/-! ## Ends of numbers and gaps -/

/-- Text that does not go on with white space. -/
def NoBlank (rest : List Char) : Prop := ∀ c ∈ rest.head?, c ∉ blanks

/-- Text that does not go on with a digit. -/
def NoDigit (rest : List Char) : Prop := ∀ c ∈ rest.head?, c.isDigit = false

/-- Text that ends the value in front of it. -/
structure Ends (rest : List Char) : Prop where
  noBlank : NoBlank rest
  noDigit : NoDigit rest

/-- What stands behind values and names within a text. -/
def closers : List Char := [',', ':', ']', '\x7d']

theorem ends_nil : Ends [] := ⟨nofun, nofun⟩

theorem ends_of_mem {c : Char} (closer : c ∈ closers) (rest : List Char) : Ends (c :: rest) := by
  have all : closers.all (fun c => c ∉ blanks ∧ c.isDigit = false) = true := by decide
  have ink := of_decide_eq_true (List.all_eq_true.1 all c closer)
  constructor
  · rintro d ⟨⟩
    exact ink.1
  · rintro d ⟨⟩
    exact ink.2

theorem Blank.noDigit {gap rest : List Char} (blank : Blank gap) (ends : NoDigit rest) :
    NoDigit (gap ++ rest) := by
  cases gap with
  | nil => exact ends
  | cons c gap =>
    rintro d ⟨⟩
    have all : blanks.all (·.isDigit = false) = true := by decide
    exact of_decide_eq_true (List.all_eq_true.1 all c (blank c List.mem_cons_self))

/-- Where white space ends is told by what follows it. -/
theorem Blank.append_inj {gap gap' rest rest' : List Char} (blank : Blank gap)
    (blank' : Blank gap') (same : gap ++ rest = gap' ++ rest') (ends : NoBlank rest)
    (ends' : NoBlank rest') : rest = rest' := by
  have dropped : ∀ {gap rest : List Char}, Blank gap → NoBlank rest →
      (gap ++ rest).dropWhile (· ∈ blanks) = rest := by
    intro gap rest blank ends
    rw [List.dropWhile_append_of_pos fun c member => decide_eq_true (blank c member)]
    cases rest with
    | nil => rfl
    | cons c rest => exact List.dropWhile_cons_of_neg (by simpa using ends c rfl)
  rw [← dropped blank ends, same, dropped blank' ends']

/-- A number is read off its decimal digits. -/
theorem toDigits_inj {n k : Nat} (same : Nat.toDigits 10 n = Nat.toDigits 10 k) : n = k := by
  rw [← Nat.ofDigitChars_ten_toDigits (n := n), same, Nat.ofDigitChars_ten_toDigits]

/-- Where a number ends is told by what follows it. -/
theorem toDigits_append_inj {n k : Nat} {rest rest' : List Char}
    (same : Nat.toDigits 10 n ++ rest = Nat.toDigits 10 k ++ rest') (ends : NoDigit rest)
    (ends' : NoDigit rest') : n = k ∧ rest = rest' := by
  have taken : ∀ {n : Nat} {rest : List Char}, NoDigit rest →
      (Nat.toDigits 10 n ++ rest).takeWhile Char.isDigit = Nat.toDigits 10 n := by
    intro n rest ends
    rw [List.takeWhile_append_of_pos fun c member =>
      Nat.isDigit_of_mem_toDigits (by decide) (Nat.le_refl 10) member]
    cases rest with
    | nil => exact List.append_nil _
    | cons c rest =>
      rw [List.takeWhile_cons_of_neg (by simpa using ends c rfl), List.append_nil]
  have digits : Nat.toDigits 10 n = Nat.toDigits 10 k := by
    rw [← taken ends, same, taken ends']
  refine ⟨toDigits_inj digits, ?_⟩
  rw [digits] at same
  exact List.append_cancel_left same

/-! ## Strings -/

theorem Code.append_inj {digits digits' rest rest' : List Char} {n n' : Nat}
    (code : Code digits n) (code' : Code digits' n')
    (same : digits ++ rest = digits' ++ rest') : n = n' ∧ rest = rest' := by
  cases code with
  | intro first second third fourth =>
    cases code' with
    | intro first' second' third' fourth' =>
      simp only [List.cons_append, List.nil_append, List.cons.injEq] at same
      obtain ⟨rfl, rfl, rfl, rfl, rest⟩ := same
      rw [first.unique first', second.unique second', third.unique third', fourth.unique fourth']
      exact ⟨rfl, rest⟩

/-- A surrogate is no character. -/
theorem toNat_ne_surrogate (c : Char) {h : Nat} (small : h < 1024) : c.toNat ≠ 0xD800 + h := by
  intro surrogate
  have valid : c.toNat < 0xD800 ∨ 0xDFFF < c.toNat ∧ c.toNat < 0x110000 := c.valid
  omega

/-- The character behind a backslash tells how the text goes on. -/
theorem backslash_inj {c c' : Char} {text text' rest rest' : List Char}
    (same : '\\' :: c :: text ++ rest = '\\' :: c' :: text' ++ rest') :
    c = c' ∧ text ++ rest = text' ++ rest' := by
  simpa using same

theorem Letter.append_inj {c c' : Char} {text text' rest rest' : List Char}
    (letter : Letter c text) (letter' : Letter c' text') (same : text ++ rest = text' ++ rest') :
    c = c' ∧ rest = rest' := by
  have noCode : ∀ d, ('u', d) ∉ shorthands := by simp [shorthands]
  have once : ∀ p ∈ shorthands, ∀ q ∈ shorthands, p.1 = q.1 → p.2 = q.2 := by decide
  cases letter with
  | plain printed noQuote noBackslash =>
    cases letter' with
    | plain => simpa using same
    | _ => exact absurd (List.cons.inj same).1 noBackslash
  | short listed =>
    cases letter' with
    | plain printed noQuote noBackslash => exact absurd (List.cons.inj same).1.symm noBackslash
    | short listed' =>
      obtain ⟨letters, rest⟩ := backslash_inj same
      exact ⟨once _ listed _ listed' letters, rest⟩
    | _ => exact absurd ((backslash_inj same).1 ▸ listed) (noCode _)
  | coded code =>
    cases letter' with
    | plain printed noQuote noBackslash => exact absurd (List.cons.inj same).1.symm noBackslash
    | short listed' => exact absurd ((backslash_inj same).1 ▸ listed') (noCode _)
    | coded code' =>
      obtain ⟨numbers, rest⟩ := code.append_inj code' (backslash_inj same).2
      exact ⟨Char.toNat_inj.1 numbers, rest⟩
    | paired first' small' =>
      have codes := (backslash_inj same).2
      rw [List.append_assoc] at codes
      exact absurd (code.append_inj first' codes).1 (toNat_ne_surrogate c small')
  | paired first small second small' number =>
    cases letter' with
    | plain printed noQuote noBackslash => exact absurd (List.cons.inj same).1.symm noBackslash
    | short listed' => exact absurd ((backslash_inj same).1 ▸ listed') (noCode _)
    | coded code' =>
      have codes := (backslash_inj same).2
      rw [List.append_assoc] at codes
      exact absurd (first.append_inj code' codes).1.symm (toNat_ne_surrogate c' small)
    | paired first' _ second' _ number' =>
      have codes := (backslash_inj same).2
      rw [List.append_assoc, List.append_assoc] at codes
      obtain ⟨highs, later⟩ := first.append_inj first' codes
      obtain ⟨lows, rest⟩ := second.append_inj second' (backslash_inj later).2
      refine ⟨Char.toNat_inj.1 ?_, rest⟩
      omega

/-- No quote ends a string too early. -/
theorem Letter.head_ne {c : Char} {text : List Char} (letter : Letter c text) (rest : List Char) :
    (text ++ rest).head? ≠ some '"' := by
  cases letter with
  | plain printed noQuote noBackslash => simpa using noQuote
  | _ => simp

theorem Letters.append_inj {s s' text text' rest rest' : List Char} (letters : Letters s text)
    (letters' : Letters s' text') (same : text ++ '"' :: rest = text' ++ '"' :: rest') :
    s = s' ∧ rest = rest' := by
  induction letters generalizing s' text' with
  | nil =>
    cases letters' with
    | nil => exact ⟨rfl, (List.cons.inj same).2⟩
    | cons first' later' =>
      rw [List.append_assoc] at same
      exact absurd (by rw [← same]; rfl) (first'.head_ne _)
  | cons first later ih =>
    rw [List.append_assoc] at same
    cases letters' with
    | nil => exact absurd (by rw [same]; rfl) (first.head_ne _)
    | cons first' later' =>
      rw [List.append_assoc] at same
      obtain ⟨rfl, behind⟩ := first.append_inj first' same
      obtain ⟨rfl, rest⟩ := ih later' behind
      exact ⟨rfl, rest⟩

/-- What opens and closes two texts may be left out. -/
theorem enclosed_inj {first last : Char} {text text' rest rest' : List Char}
    (same : first :: (text ++ [last]) ++ rest = first :: (text' ++ [last]) ++ rest') :
    text ++ last :: rest = text' ++ last :: rest' := by
  simpa using same

theorem Quoted.append_inj {s s' : String} {text text' rest rest' : List Char}
    (quoted : Quoted s text) (quoted' : Quoted s' text')
    (same : text ++ rest = text' ++ rest') : s = s' ∧ rest = rest' := by
  cases quoted with
  | intro letters =>
    cases quoted' with
    | intro letters' =>
      obtain ⟨chars, behind⟩ := letters.append_inj letters' (enclosed_inj same)
      exact ⟨String.toList_inj.1 chars, behind⟩

/-! ## First characters -/

/-- The kind of a value, by its place among the kinds. -/
def kind : Json → Nat
  | .null => 0
  | .bool _ => 1
  | .nat _ => 2
  | .string _ => 3
  | .array _ => 4
  | .object _ => 5

/-- The kind of the values that start with a character, if any do. -/
def kindOf (c : Char) : Option Nat :=
  if c = 'n' then some 0
  else if c = 't' ∨ c = 'f' then some 1
  else if c.isDigit then some 2
  else if c = '"' then some 3
  else if c = '[' then some 4
  else if c = '\x7b' then some 5
  else none

theorem kindOf_digit {c : Char} (digit : c.isDigit = true) : kindOf c = some 2 := by
  have other : ∀ d : Char, ¬d.isDigit = true → c ≠ d := by
    rintro d none rfl
    exact none digit
  rw [kindOf, if_neg (other _ (by decide)), if_neg, if_pos digit]
  rintro (same | same)
  · exact other _ (by decide) same
  · exact other _ (by decide) same

/-- The first character of a text tells the kind of the value. -/
theorem Written.head {v : Json} {text : List Char} (written : Written v text) :
    ∃ c tail, text = c :: tail ∧ kindOf c = some v.kind := by
  cases written with
  | nat n =>
    obtain ⟨c, tail, digits⟩ := List.exists_cons_of_ne_nil (Nat.toDigits_ne_nil (n := n) (b := 10))
    have member : c ∈ Nat.toDigits 10 n := by
      rw [digits]
      exact List.mem_cons_self
    exact ⟨c, tail, digits,
      kindOf_digit (Nat.isDigit_of_mem_toDigits (by decide) (Nat.le_refl 10) member)⟩
  | string quoted =>
    cases quoted
    exact ⟨_, _, rfl, rfl⟩
  | array each =>
    cases each <;> exact ⟨_, _, rfl, rfl⟩
  | object each =>
    cases each <;> exact ⟨_, _, rfl, rfl⟩
  | _ => exact ⟨_, _, rfl, rfl⟩

theorem Written.kind_eq {v v' : Json} {text text' rest rest' : List Char}
    (written : Written v text) (written' : Written v' text')
    (same : text ++ rest = text' ++ rest') : v.kind = v'.kind := by
  obtain ⟨c, tail, rfl, kind⟩ := written.head
  obtain ⟨c', tail', rfl, kind'⟩ := written'.head
  rw [(List.cons.inj same).1, kind'] at kind
  exact (Option.some.inj kind).symm

/-- Text that starts, behind white space, with what is neither white space nor a closer. -/
def Starts (text : List Char) : Prop :=
  ∃ front c tail, Blank front ∧ text = front ++ c :: tail ∧ c ∉ blanks ++ closers

theorem Written.starts {v : Json} {text : List Char} (written : Written v text) :
    ∃ c tail, text = c :: tail ∧ c ∉ blanks ++ closers := by
  obtain ⟨c, tail, same, kind⟩ := written.head
  have all : (blanks ++ closers).all (kindOf · = none) = true := by decide
  refine ⟨c, tail, same, fun member => ?_⟩
  rw [of_decide_eq_true (List.all_eq_true.1 all c member)] at kind
  cases kind

theorem Written.noBlank {v : Json} {text : List Char} (written : Written v text)
    (rest : List Char) : NoBlank (text ++ rest) := by
  obtain ⟨c, tail, rfl, ink⟩ := written.starts
  rintro d ⟨⟩ blank
  exact ink (List.mem_append_left _ blank)

theorem Quoted.noBlank {s : String} {text : List Char} (quoted : Quoted s text)
    (rest : List Char) : NoBlank (text ++ rest) :=
  (Written.string quoted).noBlank rest

theorem Item.starts {v : Json} {text : List Char} (item : Item v text) : Starts text := by
  cases item with
  | intro before written after =>
    obtain ⟨c, tail, rfl, ink⟩ := written.starts
    exact ⟨_, c, _, before, rfl, ink⟩

theorem Member.starts {member : String × Json} {text : List Char} (form : Member member text) :
    Starts text := by
  cases form with
  | intro before named after item =>
    obtain ⟨c, tail, rfl, ink⟩ := (Written.string named).starts
    exact ⟨_, c, _, before, rfl, ink⟩

/-- Between brackets there is either white space only or something else. -/
theorem Starts.append_ne {text gap rest rest' : List Char} {close : Char} (starts : Starts text)
    (blank : Blank gap) (closer : close ∈ closers) : text ++ rest ≠ gap ++ close :: rest' := by
  obtain ⟨front, c, tail, before, rfl, ink⟩ := starts
  intro same
  rw [List.append_assoc] at same
  have behind := before.append_inj blank same
    (by rintro d ⟨⟩ member; exact ink (List.mem_append_left _ member))
    (ends_of_mem closer rest').noBlank
  rw [(List.cons.inj behind).1] at ink
  exact ink (List.mem_append_right _ closer)

/-! ## Reading off -/

/-- Whatever text of the form starts with text of `a`, it is the text of `a` and of nothing else. -/
def ReadOff {α : Type} (Form : α → List Char → Prop) (End : List Char → Prop) (a : α) : Prop :=
  ∀ ⦃a' : α⦄ ⦃text text' rest rest' : List Char⦄, Form a text → Form a' text' →
    text ++ rest = text' ++ rest' → End rest → End rest' → a = a' ∧ rest = rest'

namespace Separated

variable {α : Type} {Form : α → List Char → Prop} {others others' : List α} {text text' : List Char}

theorem starts (each : ∀ {a text}, Form a text → Starts text)
    (separated : Separated Form others text) : Starts text := by
  cases separated with
  | one only => exact each only
  | more first later =>
    obtain ⟨front, c, tail, before, rfl, ink⟩ := each first
    exact ⟨front, c, _, before, by rw [List.append_assoc]; rfl, ink⟩

/-- Commas tell the texts apart, and a closer that is no comma tells where the last one ends. -/
theorem append_inj (each : ∀ a ∈ others, ReadOff Form Ends a)
    (separated : Separated Form others text) (separated' : Separated Form others' text')
    {close : Char} (closer : close ∈ closers) (noComma : close ≠ ',') {rest rest' : List Char}
    (same : text ++ close :: rest = text' ++ close :: rest') : others = others' ∧ rest = rest' := by
  have ends := ends_of_mem closer
  have comma : ∀ rest, Ends (',' :: rest) := ends_of_mem (by decide)
  induction separated generalizing others' text' with
  | one only =>
    have read := each _ List.mem_cons_self
    cases separated' with
    | one only' =>
      obtain ⟨rfl, behind⟩ := read only only' same (ends _) (ends _)
      exact ⟨rfl, (List.cons.inj behind).2⟩
    | more first' later' =>
      rw [List.append_assoc] at same
      obtain ⟨-, behind⟩ := read only first' same (ends _) (comma _)
      exact absurd (List.cons.inj behind).1 noComma
  | more first later ih =>
    obtain ⟨read, each⟩ := List.forall_mem_cons.1 each
    rw [List.append_assoc] at same
    cases separated' with
    | one only' =>
      obtain ⟨-, behind⟩ := read first only' same (comma _) (ends _)
      exact absurd (List.cons.inj behind).1.symm noComma
    | more first' later' =>
      rw [List.append_assoc] at same
      obtain ⟨rfl, behind⟩ := read first first' same (comma _) (comma _)
      obtain ⟨rfl, rest⟩ := ih each later' (List.cons.inj behind).2
      exact ⟨rfl, rest⟩

end Separated

/-- The last bracket tells where the texts between brackets end. -/
theorem Bracketed.append_inj {α : Type} {Form : α → List Char → Prop} {first last : Char}
    {items items' : List α} {text text' rest rest' : List Char}
    (starts : ∀ {a text}, Form a text → Starts text) (each : ∀ a ∈ items, ReadOff Form Ends a)
    (bracketed : Bracketed Form first last items text)
    (bracketed' : Bracketed Form first last items' text') (closer : last ∈ closers)
    (noComma : last ≠ ',') (same : text ++ rest = text' ++ rest') :
    items = items' ∧ rest = rest' := by
  have ends : ∀ rest, NoBlank (last :: rest) := fun rest => (ends_of_mem closer rest).noBlank
  cases bracketed with
  | none blank =>
    cases bracketed' with
    | none blank' =>
      have closed := blank.append_inj blank' (enclosed_inj same) (ends _) (ends _)
      exact ⟨rfl, (List.cons.inj closed).2⟩
    | some separated' =>
      exact absurd (enclosed_inj same).symm ((separated'.starts starts).append_ne blank closer)
  | some separated =>
    cases bracketed' with
    | none blank' =>
      exact absurd (enclosed_inj same) ((separated.starts starts).append_ne blank' closer)
    | some separated' =>
      exact separated.append_inj each separated' closer noComma (enclosed_inj same)

/-- White space around a value says nothing. -/
theorem readOff_item {v : Json} (read : ReadOff Written NoDigit v) : ReadOff Item Ends v := by
  intro v' text text' rest rest' item item' same ends ends'
  cases item with
  | intro before written after =>
    cases item' with
    | intro before' written' after' =>
      simp only [List.append_assoc] at same
      have begun := before.append_inj before' same (written.noBlank _) (written'.noBlank _)
      obtain ⟨rfl, behind⟩ := read written written' begun (after.noDigit ends.noDigit)
        (after'.noDigit ends'.noDigit)
      exact ⟨rfl, after.append_inj after' behind ends.noBlank ends'.noBlank⟩

theorem readOff_member {name : String} {v : Json} (read : ReadOff Written NoDigit v) :
    ReadOff Member Ends (name, v) := by
  intro member' text text' rest rest' member member' same ends ends'
  have colon : ∀ rest, NoBlank (':' :: rest) := fun rest =>
    (ends_of_mem (by decide) rest).noBlank
  cases member with
  | intro before named after item =>
    cases member' with
    | intro before' named' after' item' =>
      simp only [List.append_assoc, List.cons_append] at same
      have begun := before.append_inj before' same (named.noBlank _) (named'.noBlank _)
      obtain ⟨rfl, gap⟩ := named.append_inj named' begun
      have items := after.append_inj after' gap (colon _) (colon _)
      obtain ⟨rfl, behind⟩ := readOff_item read item item' (List.cons.inj items).2 ends ends'
      exact ⟨rfl, behind⟩

mutual

/-- A value is read off its text, however deep values lie in it. -/
theorem readOff : (v : Json) → ReadOff Written NoDigit v
  | .null => by
    intro v' text text' rest rest' written written' same _ _
    cases v' with
    | null =>
      cases written
      cases written'
      exact ⟨rfl, List.append_cancel_left same⟩
    | _ => cases written.kind_eq written' same
  | .bool b => by
    intro v' text text' rest rest' written written' same _ _
    cases v' with
    | bool b' => cases written <;> cases written' <;> simp_all
    | _ => cases written.kind_eq written' same
  | .nat n => by
    intro v' text text' rest rest' written written' same ends ends'
    cases v' with
    | nat n' =>
      cases written
      cases written'
      obtain ⟨rfl, behind⟩ := toDigits_append_inj same ends ends'
      exact ⟨rfl, behind⟩
    | _ => cases written.kind_eq written' same
  | .string s => by
    intro v' text text' rest rest' written written' same _ _
    cases v' with
    | string s' =>
      cases written with
      | string quoted =>
        cases written' with
        | string quoted' =>
          obtain ⟨rfl, behind⟩ := quoted.append_inj quoted' same
          exact ⟨rfl, behind⟩
    | _ => cases written.kind_eq written' same
  | .array items => by
    intro v' text text' rest rest' written written' same _ _
    cases v' with
    | array items' =>
      cases written with
      | array each =>
        cases written' with
        | array each' =>
          obtain ⟨rfl, behind⟩ := each.append_inj Item.starts
            (fun v member => readOff_item (readOff_items items v member)) each' (by decide)
            (by decide) same
          exact ⟨rfl, behind⟩
    | _ => cases written.kind_eq written' same
  | .object members => by
    intro v' text text' rest rest' written written' same _ _
    cases v' with
    | object members' =>
      cases written with
      | object each =>
        cases written' with
        | object each' =>
          obtain ⟨rfl, behind⟩ := each.append_inj Member.starts
            (fun v member => readOff_member (readOff_members members v member)) each' (by decide)
            (by decide) same
          exact ⟨rfl, behind⟩
    | _ => cases written.kind_eq written' same

theorem readOff_items : (items : List Json) → ∀ v ∈ items, ReadOff Written NoDigit v
  | [] => List.forall_mem_nil _
  | v :: items => List.forall_mem_cons.2 ⟨readOff v, readOff_items items⟩

theorem readOff_members :
    (members : List (String × Json)) → ∀ member ∈ members, ReadOff Written NoDigit member.2
  | [] => List.forall_mem_nil _
  | (_, v) :: members => List.forall_mem_cons.2 ⟨readOff v, readOff_members members⟩

end

/-- A text is JSON text of one value at most. -/
theorem Item.unique {v v' : Json} {text : List Char} (item : Item v text) (item' : Item v' text) :
    v = v' :=
  (readOff_item (readOff v) item item' rfl ends_nil ends_nil).1

end DynamicMessage.Json
