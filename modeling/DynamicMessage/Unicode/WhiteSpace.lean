/-
# Unicode.WhiteSpace -- characters with the White_Space property

Two notions of blank meet in text that people type.  `isWhiteSpace` is the Unicode property, and
`isAsciiBlank` the five blanks a byte-oriented reader skips: space, tab, line feed, form feed and
carriage return.  Every blank of the second kind is white space (`isWhiteSpace_of_isAsciiBlank`);
the vertical tab is white space only.
-/
import DynamicMessage.Unicode.Ranges

namespace DynamicMessage.Unicode

set_option autoImplicit false

/-- The White_Space property, as ranges of code points. -/
def whiteSpaceRanges : List Range :=
  [⟨0x9, 0xD, 1⟩, ⟨0x20, 0x20, 1⟩, ⟨0x85, 0x85, 1⟩, ⟨0xA0, 0xA0, 1⟩, ⟨0x1680, 0x1680, 1⟩,
   ⟨0x2000, 0x200A, 1⟩, ⟨0x2028, 0x2029, 1⟩, ⟨0x202F, 0x202F, 1⟩, ⟨0x205F, 0x205F, 1⟩,
   ⟨0x3000, 0x3000, 1⟩]

/-- Whether a character has the White_Space property. -/
def isWhiteSpace (c : Char) : Bool := whiteSpaceRanges.any (·.contains c.toNat)

/-- Space, tab, line feed, form feed and carriage return. -/
def isAsciiBlank (c : Char) : Bool :=
  c = ' ' || c = '\t' || c = '\n' || c = '\x0c' || c = '\r'

/-- The blanks that `isAsciiBlank` tells. -/
def asciiBlanks : List Char := [' ', '\t', '\n', '\x0c', '\r']

theorem isAsciiBlank_iff {c : Char} : isAsciiBlank c = true ↔ c ∈ asciiBlanks := by
  simp [isAsciiBlank, asciiBlanks, or_assoc]

theorem isWhiteSpace_of_isAsciiBlank {c : Char} (blank : isAsciiBlank c = true) :
    isWhiteSpace c = true := by
  have all : asciiBlanks.all isWhiteSpace = true := by decide
  exact List.all_eq_true.1 all c (isAsciiBlank_iff.1 blank)

theorem isAsciiBlank_ascii {c : Char} (blank : isAsciiBlank c = true) : c.toNat < 128 := by
  have all : asciiBlanks.all (·.toNat < 128) = true := by decide
  exact of_decide_eq_true (List.all_eq_true.1 all c (isAsciiBlank_iff.1 blank))

/-- The vertical tab is white space that a byte-oriented reader does not skip. -/
example : isWhiteSpace '\x0b' = true ∧ isAsciiBlank '\x0b' = false := by decide

end DynamicMessage.Unicode
