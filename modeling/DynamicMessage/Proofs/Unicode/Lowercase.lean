/-
# Proofs.Unicode.Lowercase -- small forms are not capitals

Which characters are uppercase and what their small forms are stand in two tables, and neither is
computed from the other.  They agree in one direction: whatever a lowercase mapping changes, it
changes into characters that are not uppercase (`toLowercase_cases`).  In the other direction they
do not: an uppercase character may have no small form and stay what it is (`isLoneCapital`).

The tables are compared range by range: a shift moves its range to another one (`Shift.image`), and
this lies apart from every range of uppercase characters (`images_apart`).
-/
import DynamicMessage.Unicode.CaseMapping
import DynamicMessage.Unicode.Uppercase

namespace DynamicMessage.Unicode

set_option autoImplicit false

/-! ## Ranges that have no code point in common -/

/-- Whether a range ends before another one starts. -/
def Range.below (r s : Range) : Bool := Nat.blt r.last s.first

/-- Whether two ranges lie beside each other, or step over each other's code points: the one takes
odd code points where the other takes even ones. -/
def Range.apart (r s : Range) : Bool :=
  r.below s || s.below r ||
    ((r.first == r.last || r.step == 2) && s.step == 2 && r.first % 2 != s.first % 2)

theorem Range.not_contains_of_apart {r s : Range} {code : Nat} (apart : r.apart s = true)
    (inside : r.contains code = true) : s.contains code = false := by
  rw [Bool.eq_false_iff, ne_eq, s.contains_iff]
  rintro ⟨low, high, stride⟩
  rw [r.contains_iff] at inside
  simp only [Range.apart, Range.below, Bool.or_eq_true, Bool.and_eq_true, Nat.blt_eq, beq_iff_eq,
    bne_iff_ne, ne_eq] at apart
  obtain (below | above) | ⟨⟨single | double, two⟩, parity⟩ := apart
  · omega
  · omega
  · rw [two] at stride
    omega
  · rw [two] at stride
    rw [double] at inside
    omega

/-- Where a shift moves its range. -/
def Shift.image (shift : Shift) : Range :=
  ⟨(shift.range.first + shift.distance).toNat, (shift.range.last + shift.distance).toNat,
    shift.range.step⟩

theorem Shift.image_contains {shift : Shift} {code : Nat}
    (starts : 0 ≤ shift.range.first + shift.distance) (inside : shift.range.contains code = true) :
    shift.image.contains (code + shift.distance).toNat = true := by
  rw [Range.contains_iff] at inside ⊢
  obtain ⟨low, high, stride⟩ := inside
  have moved : (code + shift.distance).toNat - (shift.range.first + shift.distance).toNat =
      code - shift.range.first := by omega
  refine ⟨?_, ?_, ?_⟩
  · show (shift.range.first + shift.distance).toNat ≤ _
    omega
  · show _ ≤ (shift.range.last + shift.distance).toNat
    omega
  · show ((code + shift.distance).toNat - (shift.range.first + shift.distance).toNat) %
      shift.range.step = 0
    rw [moved, stride]

/-! ## The lowercase table against the uppercase table -/

theorem images_apart :
    (lowercaseShifts.all fun shift => uppercaseRanges.all shift.image.apart) = true := by
  decide +kernel

theorem images_start :
    (lowercaseShifts.all fun shift => 0 ≤ shift.range.first + shift.distance) = true := by
  decide +kernel

theorem isUppercase_ofNat {code : Nat} (outside : ∀ r ∈ uppercaseRanges, r.contains code = false) :
    isUppercase (Char.ofNat code) = false := by
  by_cases valid : code.isValidChar
  · have same : (Char.ofNat code).toNat = code := by
      rw [Char.ofNat, dif_pos valid]
      rfl
    rw [isUppercase, List.any_eq_false, same]
    simpa using outside
  · -- A code point that is no character is replaced by the first one of all, which is no capital.
    rw [Char.ofNat, dif_neg valid]
    decide +kernel

/-- In lowercase a character stays as it is or turns into characters that are not uppercase. -/
theorem toLowercase_cases (c : Char) :
    toLowercase c = [c] ∨
      (toLowercase c ≠ [] ∧ ∀ d ∈ toLowercase c, isUppercase d = false) := by
  rw [toLowercase, mapCase]
  split
  · rename_i entry code codes found
    have several : lowercaseSeveral.all fun entry =>
        (entry.2 ≠ [] ∧ ∀ code ∈ entry.2, isUppercase (Char.ofNat code) = false) := by
      decide +kernel
    have small := of_decide_eq_true
      (List.all_eq_true.1 several _ (List.mem_of_find?_eq_some found))
    exact .inr ⟨by simpa using small.1, by simpa using small.2⟩
  · rw [shifted]
    split
    · rename_i shift found
      have member := List.mem_of_find?_eq_some found
      have starts := of_decide_eq_true (List.all_eq_true.1 images_start shift member)
      have moved := shift.image_contains starts (by simpa using List.find?_some found)
      have apart := List.all_eq_true.1 images_apart shift member
      refine .inr ⟨List.cons_ne_nil _ _, List.forall_mem_singleton.2 (isUppercase_ofNat ?_)⟩
      exact fun r uppercase =>
        Range.not_contains_of_apart (List.all_eq_true.1 apart r uppercase) moved
    · left
      rw [Char.ofNat_toNat]

/-- An uppercase character without a small form. -/
def isLoneCapital (c : Char) : Bool := isUppercase c && toLowercase c == [c]

theorem isLoneCapital_iff {c : Char} :
    isLoneCapital c = true ↔ isUppercase c = true ∧ toLowercase c = [c] := by
  simp [isLoneCapital]

theorem toLowercase_small {c : Char} (uppercase : isUppercase c = true)
    (paired : isLoneCapital c = false) :
    toLowercase c ≠ [] ∧ ∀ d ∈ toLowercase c, isUppercase d = false := by
  refine (toLowercase_cases c).resolve_left fun same => ?_
  rw [isLoneCapital_iff.2 ⟨uppercase, same⟩] at paired
  cases paired

/-- `ℍ` is uppercase and has no small form, `H` has one. -/
example : isLoneCapital 'ℍ' = true ∧ isLoneCapital 'H' = false := by decide +kernel

end DynamicMessage.Unicode
