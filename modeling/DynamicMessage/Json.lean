/-
# Json -- values and their writers

What prints JSON takes the writer as a parameter (`Writer`) and relies on it for no more than JSON
text of the value.  `indented` is a writer: it puts a value over several lines, two blanks deeper in
each array and object, and leaves an empty array or object on one line; in strings it escapes
quotes, backslashes and control characters and writes all else as it is.
-/
import DynamicMessage.Hex

namespace DynamicMessage

set_option autoImplicit false

/-- A JSON value with natural numbers. -/
inductive Json where
  | null
  | bool (b : Bool)
  | nat (n : Nat)
  | string (s : String)
  | array (items : List Json)
  | object (members : List (String × Json))

namespace Json

/-- Writes a value as text, or says why it cannot. -/
abbrev Writer := Json → Except String String

/-- How a character stands in a string. -/
def escape (c : Char) : List Char :=
  if c = '"' then ['\\', '"']
  else if c = '\\' then ['\\', '\\']
  else if c = '\x08' then ['\\', 'b']
  else if c = '\x0c' then ['\\', 'f']
  else if c = '\n' then ['\\', 'n']
  else if c = '\r' then ['\\', 'r']
  else if c = '\t' then ['\\', 't']
  else if c.toNat < 32 then
    ['\\', 'u', '0', '0', Hex.digit (c.toNat / 16), Hex.digit (c.toNat % 16)]
  else [c]

/-- A string between quotes. -/
def quote (s : String) : String := String.ofList ('"' :: s.toList.flatMap escape ++ ['"'])

/-- The blanks in front of a line. -/
def indent (depth : Nat) : String := String.ofList (List.replicate (2 * depth) ' ')

mutual

/-- A value, the lines after the first at a depth. -/
def render (depth : Nat) : Json → String
  | .null => "null"
  | .bool b => if b then "true" else "false"
  | .nat n => toString n
  | .string s => quote s
  | .array [] => "[]"
  | .array (item :: items) =>
    "[\n" ++ indent (depth + 1) ++ render (depth + 1) item ++ renderItems (depth + 1) items ++
      "\n" ++ indent depth ++ "]"
  | .object [] => "\x7b\x7d"
  | .object ((name, value) :: members) =>
    "\x7b\n" ++ indent (depth + 1) ++ quote name ++ ": " ++ render (depth + 1) value ++
      renderMembers (depth + 1) members ++ "\n" ++ indent depth ++ "\x7d"

/-- The items after the first. -/
def renderItems (depth : Nat) : List Json → String
  | [] => ""
  | item :: items => ",\n" ++ indent depth ++ render depth item ++ renderItems depth items

/-- The members after the first. -/
def renderMembers (depth : Nat) : List (String × Json) → String
  | [] => ""
  | (name, value) :: members =>
    ",\n" ++ indent depth ++ quote name ++ ": " ++ render depth value ++
      renderMembers depth members

end

/-- The text of a value. -/
def text (v : Json) : String := v.render 0

/-- The writer of indented text, which never fails. -/
def indented : Writer := fun v => .ok v.text

end Json

end DynamicMessage
