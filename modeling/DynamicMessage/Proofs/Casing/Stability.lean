/-
# Proofs.Casing.Stability -- converting to snake case twice

Snake case makes every capital small that has a small form.  A capital without one stays what it is,
and a second conversion finds it again and puts another underscore in front of it.

* `mem_snakeChars_isUppercase_iff`: the uppercase characters of a text in snake case are the lone
  capitals of the text;
* `snakeChars_snakeChars`: what a second conversion does, character by character;
* `snakeChars_snakeChars_eq_iff`: it changes nothing exactly if every character after the first one
  has a small form or is none of the capitals.
-/
import DynamicMessage.Casing
import DynamicMessage.Proofs.Unicode.Lowercase
import Mathlib.Data.List.Basic

namespace DynamicMessage.Casing

set_option autoImplicit false

open Unicode

/-! ## One character -/

/-- What a character leaves in snake case, apart from the underscore in front of it. -/
def smallForm (c : Char) : List Char := if isUppercase c then toLowercase c else [c]

theorem snakeChars_cons (c : Char) (rest : List Char) :
    snakeChars (c :: rest) = smallForm c ++ rest.flatMap snakeInner := rfl

theorem isUppercase_underscore : isUppercase '_' = false := isUppercase_ascii (by decide)

/-- A character leaves itself, if it is no capital or a lone one, or else small characters only. -/
theorem smallForm_cases (c : Char) :
    (smallForm c = [c] ∧ (isUppercase c = true ↔ isLoneCapital c = true)) ∨
      (smallForm c ≠ [] ∧ (∀ d ∈ smallForm c, isUppercase d = false) ∧
        isLoneCapital c = false) := by
  rw [smallForm]
  cases uppercase : isUppercase c with
  | false => exact .inl ⟨if_neg (by simp), by simp [isLoneCapital, uppercase]⟩
  | true =>
    rw [if_pos rfl]
    cases lone : isLoneCapital c with
    | true => exact .inl ⟨(isLoneCapital_iff.1 lone).2, by simp⟩
    | false =>
      obtain ⟨nonempty, small⟩ := toLowercase_small uppercase lone
      exact .inr ⟨nonempty, small, rfl⟩

theorem mem_smallForm_isUppercase_iff (c d : Char) :
    d ∈ smallForm c ∧ isUppercase d = true ↔ d = c ∧ isLoneCapital c = true := by
  obtain ⟨same, capital⟩ | ⟨-, small, paired⟩ := smallForm_cases c
  · rw [same, List.mem_singleton, ← capital]
    exact and_congr_right fun eq => by rw [eq]
  · constructor
    · rintro ⟨member, uppercase⟩
      rw [small d member] at uppercase
      cases uppercase
    · rintro ⟨-, lone⟩
      rw [paired] at lone
      cases lone

theorem snakeInner_eq (c : Char) :
    snakeInner c = if isUppercase c then '_' :: smallForm c else smallForm c := by
  cases uppercase : isUppercase c <;> simp [snakeInner, smallForm, uppercase]

theorem mem_snakeInner_isUppercase_iff (c d : Char) :
    d ∈ snakeInner c ∧ isUppercase d = true ↔ d = c ∧ isLoneCapital c = true := by
  rw [← mem_smallForm_isUppercase_iff, snakeInner_eq]
  split
  · constructor
    · rintro ⟨member, uppercase⟩
      refine ⟨(List.mem_cons.1 member).resolve_left fun underscore => ?_, uppercase⟩
      rw [underscore, isUppercase_underscore] at uppercase
      cases uppercase
    · exact fun ⟨member, uppercase⟩ => ⟨List.mem_cons_of_mem _ member, uppercase⟩
  · rfl

/-! ## A text -/

/-- A text without capitals is in snake case. -/
theorem flatMap_snakeInner_eq_self {text : List Char}
    (small : ∀ c ∈ text, isUppercase c = false) : text.flatMap snakeInner = text := by
  induction text with
  | nil => rfl
  | cons c rest ih =>
    obtain ⟨first, others⟩ := List.forall_mem_cons.1 small
    rw [List.flatMap_cons, ih others, snakeInner, if_neg (by simp [first])]
    rfl

theorem snakeChars_eq_self {text : List Char} (small : ∀ c ∈ text, isUppercase c = false) :
    snakeChars text = text := by
  cases text with
  | nil => rfl
  | cons c rest =>
    obtain ⟨first, others⟩ := List.forall_mem_cons.1 small
    rw [snakeChars, flatMap_snakeInner_eq_self others, if_neg (by simp [first])]
    rfl

theorem mem_flatMap_snakeInner_isUppercase_iff (text : List Char) (d : Char) :
    d ∈ text.flatMap snakeInner ∧ isUppercase d = true ↔ d ∈ text ∧ isLoneCapital d = true := by
  rw [List.mem_flatMap]
  constructor
  · rintro ⟨⟨c, member, inside⟩, uppercase⟩
    obtain ⟨rfl, lone⟩ := (mem_snakeInner_isUppercase_iff c d).1 ⟨inside, uppercase⟩
    exact ⟨member, lone⟩
  · rintro ⟨member, lone⟩
    obtain ⟨inside, uppercase⟩ := (mem_snakeInner_isUppercase_iff d d).2 ⟨rfl, lone⟩
    exact ⟨⟨d, member, inside⟩, uppercase⟩

theorem mem_snakeChars_isUppercase_iff (text : List Char) (d : Char) :
    d ∈ snakeChars text ∧ isUppercase d = true ↔ d ∈ text ∧ isLoneCapital d = true := by
  cases text with
  | nil => simp [snakeChars]
  | cons c rest =>
    have same : d = c ∧ isLoneCapital c = true ↔ d = c ∧ isLoneCapital d = true :=
      and_congr_right fun eq => by rw [eq]
    rw [snakeChars_cons, List.mem_append, or_and_right, mem_smallForm_isUppercase_iff, same,
      mem_flatMap_snakeInner_isUppercase_iff, List.mem_cons, or_and_right]

/-! ## A second conversion -/

/-- A character after the first one leaves another underscore if it is a lone capital. -/
theorem flatMap_snakeInner_snakeInner (c : Char) :
    (snakeInner c).flatMap snakeInner =
      if isLoneCapital c then '_' :: snakeInner c else snakeInner c := by
  have underscore : snakeInner '_' = ['_'] := by
    rw [snakeInner, if_neg (by simp [isUppercase_underscore])]
  obtain ⟨same, capital⟩ | ⟨-, small, paired⟩ := smallForm_cases c
  · cases lone : isLoneCapital c with
    | true =>
      have form : snakeInner c = ['_', c] := by rw [snakeInner_eq, capital.2 lone, same]; rfl
      rw [form, List.flatMap_cons, underscore, List.flatMap_cons, form]
      rfl
    | false =>
      have uppercase : isUppercase c = false := by
        rw [Bool.eq_false_iff, ne_eq, capital, lone]
        exact Bool.false_ne_true
      have form : snakeInner c = [c] := by rw [snakeInner, if_neg (by simp [uppercase])]
      rw [form, List.flatMap_cons, form]
      rfl
  · have unchanged := flatMap_snakeInner_eq_self small
    rw [paired, snakeInner_eq]
    split
    · rw [List.flatMap_cons, underscore, unchanged]
      rfl
    · rw [unchanged]
      rfl

theorem snakeChars_smallForm_append (c : Char) (rest : List Char) :
    snakeChars (smallForm c ++ rest) = smallForm c ++ rest.flatMap snakeInner := by
  obtain ⟨same, -⟩ | ⟨nonempty, small, -⟩ := smallForm_cases c
  · rw [same, List.cons_append, snakeChars_cons, same]
    rfl
  · obtain ⟨d, tail, form⟩ := List.exists_cons_of_ne_nil nonempty
    rw [form] at small ⊢
    obtain ⟨first, others⟩ := List.forall_mem_cons.1 small
    rw [List.cons_append, snakeChars, if_neg (by simp [first]), List.flatMap_append,
      flatMap_snakeInner_eq_self others]
    rfl

theorem snakeChars_snakeChars (c : Char) (rest : List Char) :
    snakeChars (snakeChars (c :: rest)) = smallForm c ++ rest.flatMap fun d =>
      if isLoneCapital d then '_' :: snakeInner d else snakeInner d := by
  rw [snakeChars_cons, snakeChars_smallForm_append, List.flatMap_assoc]
  simp only [flatMap_snakeInner_snakeInner]

theorem count_snakeChars_snakeChars (c : Char) (rest : List Char) :
    (snakeChars (snakeChars (c :: rest))).count '_' =
      (snakeChars (c :: rest)).count '_' + rest.countP isLoneCapital := by
  rw [snakeChars_snakeChars, snakeChars_cons, List.count_append, List.count_append, Nat.add_assoc]
  congr 1
  induction rest with
  | nil => rfl
  | cons d rest ih =>
    rw [List.flatMap_cons, List.flatMap_cons, List.count_append, List.count_append, ih,
      List.countP_cons]
    cases isLoneCapital d with
    | true =>
      rw [if_pos rfl, if_pos rfl, List.count_cons_self]
      omega
    | false =>
      rw [if_neg Bool.false_ne_true, if_neg Bool.false_ne_true]
      omega

theorem snakeChars_snakeChars_eq_iff (text : List Char) :
    snakeChars (snakeChars text) = snakeChars text ↔
      ∀ c ∈ text.tail, isLoneCapital c = false := by
  cases text with
  | nil => simp [snakeChars]
  | cons c rest =>
    constructor
    · intro stable d member
      have counted := count_snakeChars_snakeChars c rest
      have none : rest.countP isLoneCapital = 0 := by
        rw [stable] at counted
        omega
      simpa using List.countP_eq_zero.1 none d member
    · intro paired
      rw [snakeChars_snakeChars, snakeChars_cons]
      congr 1
      exact List.flatMap_congr fun d member => if_neg (by simp [paired d member])

/-- The uppercase characters of a name in snake case are the lone capitals of the name.  Converting
twice is converting once exactly if no character after the first is one; each of them is given an
underscore more. -/
theorem snake_stable_iff (name : String) :
    (∀ c, c ∈ (snake name).toList ∧ isUppercase c = true ↔
        c ∈ name.toList ∧ isLoneCapital c = true) ∧
      (snake (snake name) = snake name ↔ ∀ c ∈ name.toList.tail, isLoneCapital c = false) ∧
      (snake (snake name)).toList.count '_' =
        (snake name).toList.count '_' + name.toList.tail.countP isLoneCapital := by
  have once : (snake name).toList = snakeChars name.toList := String.toList_ofList
  have twice : (snake (snake name)).toList = snakeChars (snakeChars name.toList) := by
    rw [snake, String.toList_ofList, once]
  refine ⟨fun c => ?_, ?_, ?_⟩
  · rw [once]
    exact mem_snakeChars_isUppercase_iff name.toList c
  · rw [← String.toList_inj, twice, once]
    exact snakeChars_snakeChars_eq_iff name.toList
  · rw [twice, once]
    cases name.toList with
    | nil => rfl
    | cons c rest => exact count_snakeChars_snakeChars c rest

/-- A lone capital behind a small letter stays uppercase, and a second conversion puts another
underscore in front of it. -/
theorem snake_lone_capital_unstable :
    snake "a𝐀" = "a_𝐀" ∧ ¬(∀ c ∈ (snake "a𝐀").toList, isUppercase c = false) ∧
      snake (snake "a𝐀") = "a__𝐀" ∧ snake (snake "a𝐀") ≠ snake "a𝐀" := by
  have once : snake "a𝐀" = "a_𝐀" := by decide +kernel
  have twice : snake "a_𝐀" = "a__𝐀" := by decide +kernel
  have capital : isUppercase '𝐀' = true := by decide +kernel
  rw [once, twice]
  refine ⟨rfl, fun small => ?_, rfl, by decide⟩
  rw [small '𝐀' (by decide)] at capital
  cases capital

end DynamicMessage.Casing
