/-
# Unicode.Ranges -- sets of code points as lists of ranges

Character properties come as tables of ranges.  A `Range` may step over every other code point,
because capitals and small letters alternate in many blocks.  On ASCII a property can be checked
value by value (`of_ascii`), and most of a table does not matter there (`any_contains_ascii`).
-/
namespace DynamicMessage.Unicode

set_option autoImplicit false

/-- The code points `first`, `first + step`, … up to `last`. -/
structure Range where
  first : Nat
  last : Nat
  step : Nat

/-- Whether a code point belongs to a range. -/
def Range.contains (r : Range) (code : Nat) : Bool :=
  r.first ≤ code && code ≤ r.last && (code - r.first) % r.step = 0

theorem Range.contains_iff (r : Range) (code : Nat) :
    r.contains code = true ↔
      r.first ≤ code ∧ code ≤ r.last ∧ (code - r.first) % r.step = 0 := by
  simp [Range.contains, and_assoc]

theorem Range.not_contains_of_lt {r : Range} {code : Nat} (below : code < r.first) :
    r.contains code = false := by
  rw [Bool.eq_false_iff, ne_eq, r.contains_iff]
  omega

/-- To ASCII only the ranges at the front of a table matter, if the others start beyond it. -/
theorem any_contains_ascii (front : Nat) {table : List Range} {code : Nat}
    (beyond : (table.drop front).all (128 ≤ ·.first) = true) (ascii : code < 128) :
    table.any (·.contains code) = (table.take front).any (·.contains code) := by
  have none : (table.drop front).any (·.contains code) = false := by
    rw [List.any_eq_false]
    intro r member
    have first := of_decide_eq_true (List.all_eq_true.1 beyond r member)
    simp [Range.not_contains_of_lt (Nat.lt_of_lt_of_le ascii first)]
  rw [← List.take_append_drop front table, List.any_append, none, Bool.or_false,
    List.take_append_drop]

/-- What holds of the first 128 code points holds of every ASCII character. -/
theorem of_ascii {P : Char → Prop} (all : ∀ n < 128, P (Char.ofNat n)) {c : Char}
    (h : c.toNat < 128) : P c := by
  have := all c.toNat h
  rwa [Char.ofNat_toNat] at this

end DynamicMessage.Unicode
