/-
# Kind -- the types a field may have

A kind is a scalar kind or names a message type of the same schema by its position, so recursive
types need no indirection.  A group is a message that is written between two tags.
-/
import DynamicMessage.Scalar

namespace DynamicMessage

set_option autoImplicit false

/-- The position of a message type in its schema. -/
abbrev MessageIndex := UInt32

/-- The type of a field, of a vector's elements, or of a map's values. -/
inductive Kind where
  | scalar (k : ScalarKind)
  | message (index : MessageIndex)
  | group (index : MessageIndex)
deriving DecidableEq, Repr

namespace Kind

/-- The spelling of a kind in the schema language. -/
def name : Kind → String
  | .scalar k => k.name
  | .message _ => "message"
  | .group _ => "group"

/-- The message type a kind names. -/
def messageIndex? : Kind → Option MessageIndex
  | .scalar _ => none
  | .message index | .group index => some index

theorem messageIndex?_eq_none_iff (kind : Kind) :
    kind.messageIndex? = none ↔ ∃ k, kind = .scalar k := by
  cases kind <;> simp [messageIndex?]

/-- Whether values of a kind may key a map. -/
def isKey : Kind → Bool
  | .scalar k => k.isKey
  | .message _ | .group _ => false

/-- The member that holds values of a kind. -/
def member : Kind → Member
  | .scalar k => k.member
  | .message _ | .group _ => .message

/-- The zero of a scalar kind; messages have none. -/
def zero? : Kind → Option Scalar
  | .scalar k => some k.zero
  | .message _ | .group _ => none

/-- Whether a scalar has the member of a scalar kind. -/
def accepts : Kind → Scalar → Bool
  | .scalar k, s => k.member = s.member
  | .message _, _ | .group _, _ => false

end Kind

end DynamicMessage
