/-
# Casing -- spellings of identifiers

The words of an identifier are its maximal runs of letters and digits.  Camel and Pascal case join
the words and capitalise the first character of each, camel case all but the first.  Snake case
works character by character: it writes a capital small and puts `_` in front of it, unless it
starts the identifier, and leaves all else alone.
-/
import DynamicMessage.Unicode.Alphanumeric
import DynamicMessage.Unicode.CaseMapping
import DynamicMessage.Unicode.Uppercase

namespace DynamicMessage.Casing

set_option autoImplicit false

open Unicode

/-- The words of a text, in order. -/
def words (text : List Char) : List (List Char) :=
  match text with
  | [] => []
  | c :: rest =>
    if isAlphanumeric c then
      (c :: rest.takeWhile isAlphanumeric) :: words (rest.dropWhile isAlphanumeric)
    else words rest
termination_by text.length
decreasing_by
  · have := (List.dropWhile_sublist isAlphanumeric (l := rest)).length_le
    simp only [List.length_cons]
    omega
  · simp

/-- A word with its first character in uppercase. -/
def capitalize : List Char → List Char
  | [] => []
  | c :: rest => toUppercase c ++ rest

/-- A word with its first character in lowercase. -/
def uncapitalize : List Char → List Char
  | [] => []
  | c :: rest => toLowercase c ++ rest

/-- The words capitalised and joined. -/
def pascalChars (text : List Char) : List Char := (words text).flatMap capitalize

/-- The words joined, all but the first capitalised. -/
def camelChars (text : List Char) : List Char :=
  match words text with
  | [] => []
  | first :: others => uncapitalize first ++ others.flatMap capitalize

/-- A character after the first: a capital becomes small behind an underscore. -/
def snakeInner (c : Char) : List Char := if isUppercase c then '_' :: toLowercase c else [c]

/-- Each capital small, and an underscore in front of it unless it comes first. -/
def snakeChars : List Char → List Char
  | [] => []
  | c :: rest => (if isUppercase c then toLowercase c else [c]) ++ rest.flatMap snakeInner

/-- Upper camel case, as `MyVariableName`. -/
def pascal (name : String) : String := String.ofList (pascalChars name.toList)

/-- Lower camel case, as `myVariableName`. -/
def camel (name : String) : String := String.ofList (camelChars name.toList)

/-- Snake case, as `my_variable_name`. -/
def snake (name : String) : String := String.ofList (snakeChars name.toList)

/-- Each capital starts a word of its own in snake case, and no word in camel case. -/
example : snakeChars "HTTPServer".toList = "h_t_t_p_server".toList ∧
    camelChars "HTTPServer".toList = "hTTPServer".toList ∧
    pascalChars "my-variable name".toList = "MyVariableName".toList := by decide +kernel

end DynamicMessage.Casing
