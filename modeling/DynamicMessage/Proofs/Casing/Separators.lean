/-
# Proofs.Casing.Separators -- separators delimit words and do nothing else

`words` cuts a text into runs; equally it is split at every separator and its empty pieces are
dropped (`words_eq`).  So a separator anywhere puts the words of two texts one after another
(`words_append_cons`), and the camel and Pascal case of the whole come from those of the parts:

* `pascalChars_append_cons`: Pascal case of the parts, joined;
* `camelChars_append_cons`: camel case of the first part and Pascal case of the second, unless the
  first has no word;
* `Respaces` is one change of separators, at either end of a text or inside it, and no run of such
  changes reaches a word (`words_eq_of_respaced`).
-/
import DynamicMessage.Casing
import Mathlib.Logic.Relation

namespace DynamicMessage.Casing

set_option autoImplicit false

open Unicode

/-! ## Words between separators -/

/-- The words of a text are its pieces between separators, those of no character left out. -/
theorem words_eq (text : List Char) :
    words text = (text.splitOnP (!isAlphanumeric ·)).filter (!·.isEmpty) := by
  fun_induction words text with
  | case1 => rfl
  | case2 c rest letter ih =>
    have run : ∀ d ∈ c :: rest.takeWhile isAlphanumeric, (!isAlphanumeric d) = false := by
      refine List.forall_mem_cons.2 ⟨by simp [letter], fun d member => ?_⟩
      simp [List.all_eq_true.1 List.all_takeWhile d member]
    have split : c :: rest =
        (c :: rest.takeWhile isAlphanumeric) ++ rest.dropWhile isAlphanumeric := by
      rw [List.cons_append, List.takeWhile_append_dropWhile]
    rw [ih, split]
    cases found : rest.dropWhile isAlphanumeric with
    | nil => simp [List.splitOnP_eq_singleton run]
    | cons d tail =>
      -- The run ends where a separator stands.
      have separator : (!isAlphanumeric d) = true := by
        have := List.head?_dropWhile_not isAlphanumeric rest
        simpa [found] using this
      have dropped := List.splitOnP_append_cons (p := (!isAlphanumeric ·)) [] tail separator
      rw [List.splitOnP_append_cons_of_forall_mem run d separator, ← List.nil_append (d :: tail),
        dropped]
      simp
  | case3 c rest separator ih =>
    have dropped := List.splitOnP_append_cons (p := (!isAlphanumeric ·)) [] rest
      (by simpa using separator)
    rw [ih, ← List.nil_append (c :: rest), dropped]
    simp

variable {c : Char}

theorem words_append_cons (separator : isAlphanumeric c = false) (front back : List Char) :
    words (front ++ c :: back) = words front ++ words back := by
  rw [words_eq, words_eq, words_eq, List.splitOnP_append_cons _ _ (by simpa using separator),
    List.filter_append]

theorem words_cons (separator : isAlphanumeric c = false) (back : List Char) :
    words (c :: back) = words back := by
  rw [words, if_neg (by simp [separator])]

theorem words_eq_nil_iff (text : List Char) :
    words text = [] ↔ ∀ d ∈ text, isAlphanumeric d = false := by
  fun_induction words text with
  | case1 => simp
  | case2 c rest letter ih => simp [letter]
  | case3 c rest separator ih => simp [separator, ih]

theorem camelChars_of_words {text first : List Char} {others : List (List Char)}
    (found : words text = first :: others) :
    camelChars text = uncapitalize first ++ others.flatMap capitalize := by
  rw [camelChars, found]

theorem pascalChars_append_cons (separator : isAlphanumeric c = false) (front back : List Char) :
    pascalChars (front ++ c :: back) = pascalChars front ++ pascalChars back := by
  rw [pascalChars, words_append_cons separator, List.flatMap_append, pascalChars, pascalChars]

theorem camelChars_append_cons (separator : isAlphanumeric c = false) {front : List Char}
    (back : List Char) (worded : words front ≠ []) :
    camelChars (front ++ c :: back) = camelChars front ++ pascalChars back := by
  obtain ⟨first, others, found⟩ := List.exists_cons_of_ne_nil worded
  have whole : words (front ++ c :: back) = first :: (others ++ words back) := by
    rw [words_append_cons separator, found, List.cons_append]
  rw [camelChars_of_words whole, camelChars_of_words found, List.flatMap_append, pascalChars,
    List.append_assoc]

/-! ## Changes of separators -/

/-- One text has a separator more than the other, in front, behind or next to another separator, or
has another separator in its place. -/
inductive Respaces : String → String → Prop where
  | leading {c : Char} (separator : isAlphanumeric c = false) (text : String) :
      Respaces (String.singleton c ++ text) text
  | trailing {c : Char} (separator : isAlphanumeric c = false) (text : String) :
      Respaces (text ++ String.singleton c) text
  | repeated {c d : Char} (separator : isAlphanumeric c = false)
      (another : isAlphanumeric d = false) (front back : String) :
      Respaces (front ++ String.singleton c ++ String.singleton d ++ back)
        (front ++ String.singleton c ++ back)
  | substituted {c d : Char} (separator : isAlphanumeric c = false)
      (another : isAlphanumeric d = false) (front back : String) :
      Respaces (front ++ String.singleton c ++ back) (front ++ String.singleton d ++ back)

theorem toList_around (front : String) (c : Char) (back : String) :
    (front ++ String.singleton c ++ back).toList = front.toList ++ c :: back.toList := by
  simp

theorem Respaces.words_eq {text other : String} (respaced : Respaces text other) :
    words text.toList = words other.toList := by
  cases respaced with
  | leading separator => simp [words_cons separator]
  | trailing separator => simp [words_append_cons separator, words]
  | repeated separator another front back =>
    rw [toList_around, toList_around, words_append_cons another, words_append_cons separator]
    simp [words_append_cons separator, words]
  | substituted separator another front back =>
    rw [toList_around, toList_around, words_append_cons separator, words_append_cons another]

theorem words_eq_of_respaced {text other : String}
    (respaced : Relation.EqvGen Respaces text other) :
    words text.toList = words other.toList := by
  induction respaced with
  | rel text other step => exact step.words_eq
  | refl text => rfl
  | symm text other _ ih => exact ih.symm
  | trans text middle other _ _ first second => exact first.trans second

/-- A separator cuts the Pascal case of a text into those of the parts around it, and the camel case
into that of the first part and the Pascal case of the second, or into that of the second part if
the first has no letter or digit.  No run of changes of separators alone shows in either. -/
theorem separators_only_delimit (separator : isAlphanumeric c = false) (front back : String) :
    pascal (front ++ String.singleton c ++ back) = pascal front ++ pascal back ∧
      ((∃ d ∈ front.toList, isAlphanumeric d = true) →
        camel (front ++ String.singleton c ++ back) = camel front ++ pascal back) ∧
      ((∀ d ∈ front.toList, isAlphanumeric d = false) →
        camel (front ++ String.singleton c ++ back) = camel back) ∧
      ∀ text other, Relation.EqvGen Respaces text other →
        camel text = camel other ∧ pascal text = pascal other := by
  have around := toList_around front c back
  refine ⟨?_, ?_, ?_, ?_⟩
  · rw [pascal, around, pascalChars_append_cons separator, String.ofList_append, pascal, pascal]
  · rintro ⟨d, member, letter⟩
    have worded : words front.toList ≠ [] := by
      intro none
      rw [(words_eq_nil_iff _).1 none d member] at letter
      cases letter
    rw [camel, around, camelChars_append_cons separator _ worded, String.ofList_append, camel,
      pascal]
  · intro separators
    have unworded := (words_eq_nil_iff _).2 separators
    rw [camel, around, camelChars, words_append_cons separator, unworded, List.nil_append, camel,
      camelChars]
  · intro text other respaced
    have same := words_eq_of_respaced respaced
    rw [camel, pascal, camelChars, pascalChars, same, camel, pascal, camelChars, pascalChars]
    exact ⟨rfl, rfl⟩

/-- A full stop before a letter that is written `SS` in capitals; repeated and exchanged separators
in front of the same words. -/
theorem scattered_separators :
    isAlphanumeric '.' = false ∧
      camel ("-http2" ++ String.singleton '.' ++ "ßeta") = "http2SSeta" ∧
      camel ("--" ++ String.singleton '.' ++ "ßeta") = camel "ßeta" ∧
      Relation.EqvGen Respaces "-_x" "x " ∧ camel "-_x" = camel "x " := by
  have stop : isAlphanumeric '.' = false := by decide +kernel
  have dash : isAlphanumeric '-' = false := by decide +kernel
  have underscore : isAlphanumeric '_' = false := by decide +kernel
  have blank : isAlphanumeric ' ' = false := by decide +kernel
  have letter : ∃ d ∈ "-http2".toList, isAlphanumeric d = true :=
    ⟨'h', by decide, by decide +kernel⟩
  have front := (separators_only_delimit stop "-http2" "ßeta").2.1 letter
  have parts : camel "-http2" ++ pascal "ßeta" = "http2SSeta" := by decide +kernel
  have respaced : Relation.EqvGen Respaces "-_x" "x " :=
    .trans _ "_x" _ (.rel _ _ (.leading dash "_x"))
      (.trans _ "x" _ (.rel _ _ (.leading underscore "x"))
        (.symm _ _ (.rel _ _ (.trailing blank "x"))))
  refine ⟨stop, front.trans parts, ?_, respaced, ?_⟩
  · exact (separators_only_delimit stop "--" "ßeta").2.2.1 (by simpa using dash)
  · exact ((separators_only_delimit stop "" "").2.2.2 _ _ respaced).1

end DynamicMessage.Casing
