/-
# Scalar -- values without parts

The sixteen scalar kinds of the schema language share eleven members: `int32`, `sint32` and
`sfixed32` differ only in how they are written on the wire, and all hold an `i32`.  Floating-point
numbers are kept as their bit patterns, so `-0.0` is not the zero of its kind
(`Scalar.isZero_iff`) and a NaN equals itself.
-/
import DynamicMessage.Member

namespace DynamicMessage

set_option autoImplicit false

/-- A scalar type of the schema language. -/
inductive ScalarKind where
  | bool
  | enum
  | int32
  | sint32
  | sfixed32
  | int64
  | sint64
  | sfixed64
  | uint32
  | fixed32
  | uint64
  | fixed64
  | float
  | double
  | string
  | bytes
deriving DecidableEq, Repr

/-- A scalar value. -/
inductive Scalar where
  | bool (b : Bool)
  | i32 (n : Int32)
  | i64 (n : Int64)
  | u32 (n : UInt32)
  | u64 (n : UInt64)
  /-- A single-precision number, as its bits. -/
  | f32 (bits : UInt32)
  /-- A double-precision number, as its bits. -/
  | f64 (bits : UInt64)
  | string (s : String)
  | bytes (data : List UInt8)
  /-- The number of an enum value. -/
  | enum (number : Int32)
deriving DecidableEq, Repr

/-- The member of a scalar. -/
def Scalar.member : Scalar → Member
  | .bool _ => .bool
  | .i32 _ => .i32
  | .i64 _ => .i64
  | .u32 _ => .u32
  | .u64 _ => .u64
  | .f32 _ => .f32
  | .f64 _ => .f64
  | .string _ => .string
  | .bytes _ => .bytes
  | .enum _ => .enum

/-- Whether a scalar is false, empty or has only zero bits. -/
def Scalar.isZero : Scalar → Bool
  | .bool b => !b
  | .i32 n => n = 0
  | .i64 n => n = 0
  | .u32 n => n = 0
  | .u64 n => n = 0
  | .f32 bits => bits = 0
  | .f64 bits => bits = 0
  | .string s => s.isEmpty
  | .bytes data => data.isEmpty
  | .enum number => number = 0

namespace ScalarKind

/-- The spelling of a kind in the schema language. -/
def name : ScalarKind → String
  | .bool => "bool"
  | .enum => "enum"
  | .int32 => "int32"
  | .sint32 => "sint32"
  | .sfixed32 => "sfixed32"
  | .int64 => "int64"
  | .sint64 => "sint64"
  | .sfixed64 => "sfixed64"
  | .uint32 => "uint32"
  | .fixed32 => "fixed32"
  | .uint64 => "uint64"
  | .fixed64 => "fixed64"
  | .float => "float"
  | .double => "double"
  | .string => "string"
  | .bytes => "bytes"

/-- The member that holds values of a kind. -/
def member : ScalarKind → Member
  | .bool => .bool
  | .enum => .enum
  | .int32 | .sint32 | .sfixed32 => .i32
  | .int64 | .sint64 | .sfixed64 => .i64
  | .uint32 | .fixed32 => .u32
  | .uint64 | .fixed64 => .u64
  | .float => .f32
  | .double => .f64
  | .string => .string
  | .bytes => .bytes

/-- The value a field of a kind has before anything is stored. -/
def zero : ScalarKind → Scalar
  | .bool => .bool false
  | .enum => .enum 0
  | .int32 | .sint32 | .sfixed32 => .i32 0
  | .int64 | .sint64 | .sfixed64 => .i64 0
  | .uint32 | .fixed32 => .u32 0
  | .uint64 | .fixed64 => .u64 0
  | .float => .f32 0
  | .double => .f64 0
  | .string => .string ""
  | .bytes => .bytes []

/-- Whether values of a kind may key a map. -/
def isKey : ScalarKind → Bool
  | .enum | .float | .double | .bytes => false
  | _ => true

theorem member_zero (k : ScalarKind) : k.zero.member = k.member := by cases k <;> rfl

end ScalarKind

/-- The zero of a kind is the one zero its member has. -/
theorem Scalar.isZero_iff (s : Scalar) (k : ScalarKind) (h : s.member = k.member) :
    s.isZero = true ↔ s = k.zero := by
  cases s <;> cases k <;> simp_all [member, ScalarKind.member, isZero, ScalarKind.zero]

/-- Negative zero has a bit set. -/
example : (Scalar.f64 0x8000000000000000).isZero = false := rfl

end DynamicMessage
