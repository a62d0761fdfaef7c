/-
# Member -- the alternatives a value is one of

Every value is exactly one member, and no member is converted into another.  Diagnostics name the
member a value has and what was expected of it, which is a member or one of two classes of them.
-/
namespace DynamicMessage

set_option autoImplicit false

/-- The alternative a value is. -/
inductive Member where
  | null
  | bool
  | i32
  | i64
  | u32
  | u64
  | f32
  | f64
  | string
  | bytes
  | enum
  | message
  | vector
  | map
deriving DecidableEq, Repr

/-- The name of a member in diagnostics. -/
def Member.name : Member → String
  | .null => "Null"
  | .bool => "Bool"
  | .i32 => "I32"
  | .i64 => "I64"
  | .u32 => "U32"
  | .u64 => "U64"
  | .f32 => "F32"
  | .f64 => "F64"
  | .string => "String"
  | .bytes => "Bytes"
  | .enum => "Enum"
  | .message => "Message"
  | .vector => "Vector"
  | .map => "Map"

/-- What an operation asked of a value. -/
inductive Expected where
  /-- One member. -/
  | member (m : Member)
  /-- Any member that may key a map. -/
  | mapKey
  /-- A message, a vector or a map. -/
  | composite
deriving DecidableEq, Repr

/-- The name of an expectation in diagnostics. -/
def Expected.name : Expected → String
  | .member m => m.name
  | .mapKey => "MapKey"
  | .composite => "composite"

end DynamicMessage
