/-
# Schema.MessageType -- declared message types

A message type lists its fields in declaration order, names its oneofs, and may open ranges of
numbers to extensions.  Looking up a field by number goes through a table of positions, which is
empty until the type becomes part of a schema; looking up by name searches the list.
-/
import DynamicMessage.Schema.Field
import DynamicMessage.Table

namespace DynamicMessage

set_option autoImplicit false

/-- The field numbers from `first` to `last`, both included. -/
structure NumberRange where
  first : FieldNumber
  last : FieldNumber
deriving DecidableEq, Repr

/-- Whether a number lies in a range. -/
def NumberRange.contains (r : NumberRange) (n : FieldNumber) : Bool := r.first ≤ n && n ≤ r.last

/-- The declaration of a message type. -/
structure MessageType where
  /-- The full name. -/
  name : String
  /-- The fields in declaration order. -/
  fields : List Field
  /-- The names of the oneofs, which fields refer to by position. -/
  oneofs : List String := []
  /-- The numbers open to extensions. -/
  extensionRanges : List NumberRange := []
  /-- Whether instances keep unrecognised records. -/
  keepsUnknown : Bool := true
  /-- The position in `fields` of each declared number. -/
  positions : Table FieldNumber Nat := ∅
deriving DecidableEq

namespace MessageType

/-- The declared field of a number. -/
def field? (t : MessageType) (n : FieldNumber) : Option Field :=
  match t.positions.find? n with
  | none => none
  | some position => t.fields[position]?

/-- The first declared field of a name. -/
def fieldNamed? (t : MessageType) (name : String) : Option Field :=
  t.fields.find? (·.name = name)

/-- The members of a oneof, in declaration order. -/
def membersOf (t : MessageType) (oneof : UInt32) : List Field :=
  t.fields.filter (·.oneof = some oneof)

/-- Whether a number is open to extensions. -/
def isOpenTo (t : MessageType) (n : FieldNumber) : Bool :=
  t.extensionRanges.any (·.contains n)

theorem mem_membersOf_iff (t : MessageType) (o : UInt32) (f : Field) :
    f ∈ t.membersOf o ↔ f ∈ t.fields ∧ f.oneof = some o := by
  simp [membersOf]

theorem isOpenTo_iff (t : MessageType) (n : FieldNumber) :
    t.isOpenTo n = true ↔ ∃ r ∈ t.extensionRanges, r.first ≤ n ∧ n ≤ r.last := by
  simp [isOpenTo, NumberRange.contains]

end MessageType

end DynamicMessage
