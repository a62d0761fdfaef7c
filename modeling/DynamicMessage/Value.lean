/-
# Value -- what fields, vectors and maps hold

A value is null, a scalar, or a composite: a message, a vector or a map.  The three composites and
`Value` are one recursive family.  Each composite carries the schema instance it belongs to, and
the accessors `asBool` … `asMap` give a member's content or say which member was there instead.

`Value.isPopulated` decides what readers see: a vector or a map that holds nothing counts as unset,
even while it is stored.
-/
import DynamicMessage.Extension
import DynamicMessage.Key
import DynamicMessage.Schema.Basic
import DynamicMessage.Unknown

namespace DynamicMessage

set_option autoImplicit false

mutual

/-- A value of a field, an element of a vector or a value of a map. -/
inductive Value where
  /-- Unset; different from every zero. -/
  | null
  | scalar (s : Scalar)
  | composite (c : Composite)

/-- A value with parts. -/
inductive Composite where
  | message (m : Message)
  | vector (v : Vector)
  | map (m : Map)

/-- An instance of a message type. -/
structure Message where
  schema : Schema
  index : MessageIndex
  /-- The stored values, populated or not, by field number. -/
  fields : Table FieldNumber Value
  /-- The extensions registered on this instance. -/
  extensions : Registry
  /-- The unrecognised records. -/
  unknown : UnknownStore

/-- The elements of a repeated field. -/
structure Vector where
  schema : Schema
  /-- The kind of the elements. -/
  kind : Kind
  items : List Value

/-- The entries of a map field. -/
structure Map where
  schema : Schema
  key : Kind
  /-- The kind of the values. -/
  value : Kind
  entries : Table Key Value

end

/-- The member of a composite. -/
def Composite.member : Composite → Member
  | .message _ => .message
  | .vector _ => .vector
  | .map _ => .map

namespace Value

/-- A message as a value. -/
@[match_pattern] abbrev message (m : Message) : Value := .composite (.message m)

/-- A vector as a value. -/
@[match_pattern] abbrev vector (v : Vector) : Value := .composite (.vector v)

/-- A map as a value. -/
@[match_pattern] abbrev map (m : Map) : Value := .composite (.map m)

/-- The value of a scalar that may be missing. -/
def ofScalar? : Option Scalar → Value
  | none => .null
  | some s => .scalar s

/-- The member of a value. -/
def member : Value → Member
  | .null => .null
  | .scalar s => s.member
  | .composite c => c.member

/-- Whether a value is null. -/
def isNull : Value → Bool
  | .null => true
  | _ => false

/-- Whether a value is a scalar that is false, empty or has only zero bits. -/
def isZero : Value → Bool
  | .scalar s => s.isZero
  | _ => false

/-- Whether a stored value counts as set. -/
def isPopulated : Value → Bool
  | .null => false
  | .vector v => !v.items.isEmpty
  | .map m => !m.entries.rows.isEmpty
  | _ => true

/-! ## Accessors -/

/-- The error of asking for a member that the value is not. -/
def mismatch (expected : Member) (v : Value) : Error := .typeMismatch (.member expected) v.member

def asBool : Value → Except Error Bool
  | .scalar (.bool b) => .ok b
  | v => .error (v.mismatch .bool)

def asI32 : Value → Except Error Int32
  | .scalar (.i32 n) => .ok n
  | v => .error (v.mismatch .i32)

def asI64 : Value → Except Error Int64
  | .scalar (.i64 n) => .ok n
  | v => .error (v.mismatch .i64)

def asU32 : Value → Except Error UInt32
  | .scalar (.u32 n) => .ok n
  | v => .error (v.mismatch .u32)

def asU64 : Value → Except Error UInt64
  | .scalar (.u64 n) => .ok n
  | v => .error (v.mismatch .u64)

def asF32 : Value → Except Error UInt32
  | .scalar (.f32 bits) => .ok bits
  | v => .error (v.mismatch .f32)

def asF64 : Value → Except Error UInt64
  | .scalar (.f64 bits) => .ok bits
  | v => .error (v.mismatch .f64)

def asString : Value → Except Error String
  | .scalar (.string s) => .ok s
  | v => .error (v.mismatch .string)

def asBytes : Value → Except Error (List UInt8)
  | .scalar (.bytes data) => .ok data
  | v => .error (v.mismatch .bytes)

def asEnum : Value → Except Error Int32
  | .scalar (.enum number) => .ok number
  | v => .error (v.mismatch .enum)

def asMessage : Value → Except Error Message
  | .message m => .ok m
  | v => .error (v.mismatch .message)

def asVector : Value → Except Error Vector
  | .vector v => .ok v
  | v => .error (v.mismatch .vector)

def asMap : Value → Except Error Map
  | .map m => .ok m
  | v => .error (v.mismatch .map)

/-- The key a value makes.  Null is refused for being null, all else for its member. -/
def toKey : Value → Except Error Key
  | .null => .error (.nullRejected .mapKey)
  | .scalar s =>
    match s.toKey? with
    | some k => .ok k
    | none => .error (.typeMismatch .mapKey s.member)
  | .composite c => .error (.typeMismatch .mapKey c.member)

end Value

/-- The scalar of a key as a value. -/
def Key.toValue (k : Key) : Value := .scalar k.toScalar

end DynamicMessage
