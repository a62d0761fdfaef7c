/-
# FieldNumber -- the numbers that fields carry on the wire

A field number is a 32-bit word; only `1` to `2 ^ 29 - 1` fit beside the wire type in a tag.
-/
namespace DynamicMessage

set_option autoImplicit false

/-- The number that identifies a field within its message type. -/
abbrev FieldNumber := UInt32

namespace FieldNumber

/-- The smallest number a field may have. -/
def smallest : FieldNumber := 1

/-- The largest number a field may have, `2 ^ 29 - 1`. -/
def largest : FieldNumber := 536870911

/-- Whether a number may be declared and may appear in a tag. -/
def InRange (n : FieldNumber) : Prop := smallest ≤ n ∧ n ≤ largest

instance (n : FieldNumber) : Decidable n.InRange := inferInstanceAs (Decidable (_ ∧ _))

theorem inRange_iff (n : FieldNumber) : n.InRange ↔ 1 ≤ n.toNat ∧ n.toNat ≤ 536870911 := by
  simp only [InRange, smallest, largest, UInt32.le_iff_toNat_le, UInt32.reduceToNat]

end FieldNumber

end DynamicMessage
