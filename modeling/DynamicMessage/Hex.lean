/-
# Hex -- bytes spelled as hexadecimal digits

`encode` writes two lowercase digits a byte.  `parse` reads more than `encode` writes: white space
around the text, one `0x` or `0X` in front, digits of either case, and blanks anywhere between the
digits, also between the two digits of a byte.  All other text is refused with the text itself.

The ends of the text and the marker are looked at character by character, and what is left byte by
byte in its UTF-8 form.
-/
import DynamicMessage.Error
import DynamicMessage.Unicode.WhiteSpace

namespace DynamicMessage.Hex

set_option autoImplicit false

/-- The lowercase digit of a number below sixteen. -/
def digit (n : Nat) : Char := if n < 10 then Char.ofNat (48 + n) else Char.ofNat (87 + n)

/-- The two digits of a byte, the high half first. -/
def pair (b : UInt8) : List Char := [digit (b.toNat / 16), digit (b.toNat % 16)]

/-- The digits of bytes. -/
def encode (bytes : List UInt8) : String := String.ofList (bytes.flatMap pair)

/-- The UTF-8 form of text. -/
def utf8 (text : List Char) : List UInt8 := text.flatMap String.utf8EncodeChar

/-- The number that a byte stands for as a digit. -/
def value? (b : UInt8) : Option UInt8 :=
  if '0'.toUInt8 ≤ b ∧ b ≤ '9'.toUInt8 then some (b - '0'.toUInt8)
  else if 'a'.toUInt8 ≤ b ∧ b ≤ 'f'.toUInt8 then some (b - 'a'.toUInt8 + 10)
  else if 'A'.toUInt8 ≤ b ∧ b ≤ 'F'.toUInt8 then some (b - 'A'.toUInt8 + 10)
  else none

/-- Whether a byte is an ASCII blank. -/
def isBlank (b : UInt8) : Bool := Unicode.isAsciiBlank (Char.ofUInt8 b)

/-- The byte of two halves. -/
def join (high low : UInt8) : UInt8 := high <<< 4 ||| low

/-- The bytes that digits spell, two digits a byte. -/
def ofDigits? : List UInt8 → Option (List UInt8)
  | [] => some []
  | [_] => none
  | high :: low :: rest =>
    match value? high, value? low, ofDigits? rest with
    | some h, some l, some bytes => some (join h l :: bytes)
    | _, _, _ => none

/-- Text without the characters of a class at both ends. -/
def trim (blank : Char → Bool) (text : List Char) : List Char :=
  ((text.dropWhile blank).reverse.dropWhile blank).reverse

/-- Text without the marker of hexadecimal digits. -/
def dropMarker : List Char → List Char
  | '0' :: 'x' :: rest => rest
  | '0' :: 'X' :: rest => rest
  | text => text

/-- The bytes that text spells. -/
def parse? (text : List Char) : Option (List UInt8) :=
  ofDigits? ((utf8 (dropMarker (trim Unicode.isWhiteSpace text))).filter (!isBlank ·))

/-- Reads bytes. -/
def parse (text : String) : Except Error (List UInt8) :=
  match parse? text.toList with
  | some bytes => .ok bytes
  | none => .error (.invalidHex text)

theorem eq_of_parse_eq_error {text : String} {e : Error} (refused : parse text = .error e) :
    e = .invalidHex text := by
  unfold parse at refused
  split at refused <;> cases refused
  rfl

/-- A blank may split a pair; the marker may not. -/
example : parse? " 0x0 8\t9601 ".toList = some [0x08, 0x96, 0x01] ∧
    parse? "0 x08".toList = none := by decide +kernel

end DynamicMessage.Hex
