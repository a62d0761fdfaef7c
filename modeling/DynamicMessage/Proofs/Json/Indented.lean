/-
# Proofs.Json.Indented -- indented text is JSON text

The writer of indented text keeps the rules (`indented_writes`).  What it escapes it escapes in one
of the ways that are open to it (`letter_escape`), and its line feeds and blanks stand where white
space may stand: those in front of a value with that value, those behind the last one with it.
-/
import DynamicMessage.Proofs.Json.Grammar

namespace DynamicMessage.Json

set_option autoImplicit false

/-! ## Strings -/

/-- The number of a control character has two zeros in front. -/
theorem code_of_small {n : Nat} (small : n < 256) :
    Code ['0', '0', Hex.digit (n / 16), Hex.digit (n % 16)] n := by
  have zero : Hex.IsDigit '0' 0 := by decide
  have high : n / 16 < 16 := by omega
  have low : n % 16 < 16 := by omega
  have code := Code.intro zero zero (Hex.isDigit_digit high) (Hex.isDigit_digit low)
  have number : 4096 * (0 : UInt8).toNat + 256 * (0 : UInt8).toNat +
      16 * (n / 16).toUInt8.toNat + (n % 16).toUInt8.toNat = n := by
    show 4096 * 0 + 256 * 0 + 16 * (n / 16 % 256) + n % 16 % 256 = n
    omega
  rwa [number] at code

theorem letter_escape (c : Char) : Letter c (escape c) := by
  have short : ∀ {c letter : Char}, (letter, c) ∈ shorthands → Letter c ['\\', letter] := .short
  by_cases quote : c = '"'
  · rw [escape, if_pos quote, quote]
    exact short (by decide)
  by_cases backslash : c = '\\'
  · rw [escape, if_neg quote, if_pos backslash, backslash]
    exact short (by decide)
  rw [escape, if_neg quote, if_neg backslash]
  split
  · rename_i same
    exact same ▸ short (by decide)
  split
  · rename_i same
    exact same ▸ short (by decide)
  split
  · rename_i same
    exact same ▸ short (by decide)
  split
  · rename_i same
    exact same ▸ short (by decide)
  split
  · rename_i same
    exact same ▸ short (by decide)
  split
  · rename_i control
    exact .coded (code_of_small (by omega))
  · rename_i printed
    exact .plain (by omega) quote backslash

theorem letters_escape (s : List Char) : Letters s (s.flatMap escape) := by
  induction s with
  | nil => exact .nil
  | cons c s ih => exact .cons (letter_escape c) ih

theorem quoted_quote (s : String) : Quoted s (quote s).toList := by
  rw [quote, String.toList_ofList]
  exact .intro (letters_escape s.toList)

/-! ## Values -/

theorem blank_indent (depth : Nat) : Blank (indent depth).toList := by
  intro c member
  rw [indent, String.toList_ofList] at member
  rw [List.eq_of_mem_replicate member]
  decide

theorem blank_line (depth : Nat) : Blank ('\n' :: (indent depth).toList) :=
  List.forall_mem_cons.2 ⟨by decide, blank_indent depth⟩

/-- The lines of items: each one with the line feed and the blanks in front of it, the last one also
with what is behind it. -/
theorem separated_renderItems {depth : Nat} {items : List Json}
    (each : ∀ v ∈ items, Written v (v.render depth).toList) {v : Json}
    {front text back : List Char} (before : Blank front) (written : Written v text)
    (after : Blank back) :
    Separated Item (v :: items)
      (front ++ (text ++ ((renderItems depth items).toList ++ back))) := by
  induction items generalizing v front text with
  | nil => exact .one (.intro before written after)
  | cons item items ih =>
    obtain ⟨first, each⟩ := List.forall_mem_cons.1 each
    have item : Item v (front ++ (text ++ [])) := .intro before written (List.forall_mem_nil _)
    have separated := Separated.more item (ih each (blank_line depth) first)
    simpa [renderItems] using separated

theorem member_quote (name : String) {v : Json} {front text back : List Char}
    (before : Blank front) (written : Written v text) (after : Blank back) :
    Member (name, v) (front ++ ((quote name).toList ++ ':' :: ' ' :: (text ++ back))) := by
  have gap : Blank [' '] := blank_singleton (by decide)
  have item : Item v ([' '] ++ (text ++ back)) := .intro gap written after
  have member : Member (name, v) (front ++ ((quote name).toList ++ ([] ++ ':' :: _))) :=
    .intro before (quoted_quote name) (List.forall_mem_nil _) item
  simpa using member

theorem separated_renderMembers {depth : Nat} {members : List (String × Json)}
    (each : ∀ member ∈ members, Written member.2 (member.2.render depth).toList) (name : String)
    {v : Json} {front text back : List Char} (before : Blank front) (written : Written v text)
    (after : Blank back) :
    Separated Member ((name, v) :: members) (front ++ ((quote name).toList ++
      ':' :: ' ' :: (text ++ ((renderMembers depth members).toList ++ back)))) := by
  induction members generalizing name v front text with
  | nil => exact .one (member_quote name before written after)
  | cons other members ih =>
    obtain ⟨name', v'⟩ := other
    obtain ⟨first, each⟩ := List.forall_mem_cons.1 each
    have member := member_quote name before written (List.forall_mem_nil _)
    have separated := Separated.more member (ih each name' (blank_line depth) first)
    simpa [renderMembers] using separated

mutual

theorem written_render (depth : Nat) : (v : Json) → Written v (v.render depth).toList
  | .null => by simpa [render] using Written.nullWord
  | .bool true => by simpa [render] using Written.trueWord
  | .bool false => by simpa [render] using Written.falseWord
  | .nat n => by
    have digits : (toString n).toList = Nat.toDigits 10 n := Nat.toList_repr
    rw [render, digits]
    exact .nat n
  | .string s => .string (quoted_quote s)
  | .array [] => by
    have bracketed : Bracketed Item '[' ']' [] ['[', ']'] := .none (List.forall_mem_nil _)
    refine .array ?_
    simpa [render] using bracketed
  | .array (item :: items) => by
    have separated := separated_renderItems (written_renderItems (depth + 1) items)
      (blank_line (depth + 1)) (written_render (depth + 1) item) (blank_line depth)
    have bracketed : Bracketed Item '[' ']' _ _ := .some separated
    refine .array ?_
    simpa [render] using bracketed
  | .object [] => by
    have bracketed : Bracketed Member '\x7b' '\x7d' [] ['\x7b', '\x7d'] :=
      .none (List.forall_mem_nil _)
    refine .object ?_
    simpa [render] using bracketed
  | .object ((name, v) :: members) => by
    have separated := separated_renderMembers (written_renderMembers (depth + 1) members) name
      (blank_line (depth + 1)) (written_render (depth + 1) v) (blank_line depth)
    have bracketed : Bracketed Member '\x7b' '\x7d' _ _ := .some separated
    refine .object ?_
    simpa [render] using bracketed

theorem written_renderItems (depth : Nat) :
    (items : List Json) → ∀ v ∈ items, Written v (v.render depth).toList
  | [] => List.forall_mem_nil _
  | v :: items =>
    List.forall_mem_cons.2 ⟨written_render depth v, written_renderItems depth items⟩

theorem written_renderMembers (depth : Nat) : (members : List (String × Json)) →
    ∀ member ∈ members, Written member.2 (member.2.render depth).toList
  | [] => List.forall_mem_nil _
  | (_, v) :: members =>
    List.forall_mem_cons.2 ⟨written_render depth v, written_renderMembers depth members⟩

end

/-- The writer of indented text never fails, and what it writes is JSON text of the value. -/
theorem indented_writes : Writes indented := by
  intro v
  have item := Item.intro (List.forall_mem_nil _) (written_render 0 v) (List.forall_mem_nil _)
  rw [List.nil_append, List.append_nil] at item
  exact ⟨v.text, rfl, item⟩

end DynamicMessage.Json
