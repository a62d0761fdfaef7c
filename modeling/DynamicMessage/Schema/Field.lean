/-
# Schema.Field -- declared fields

A field has a number, a name, a kind, and a shape: singular or repeated, a map when it has a key
kind, a member of a oneof, with or without presence of its own, with or without a default.  The
shape is built up by `optional`, `required`, `repeated`, `map`, `inOneof` and `withDefault`, each
of which overwrites what an earlier one said.

Two questions about the shape decide how values are stored.  A *nullable* field tells "unset" from
"set to zero"; a *composite* field holds a message, a vector or a map.
-/
import DynamicMessage.FieldNumber
import DynamicMessage.Kind

namespace DynamicMessage

set_option autoImplicit false

/-- How often a field occurs. -/
inductive Cardinality where
  /-- At most once. -/
  | optional
  /-- Exactly once on the wire. -/
  | required
  /-- Any number of times, or a map. -/
  | repeated
deriving DecidableEq, Repr

/-- What a field declares as its default. -/
inductive Default where
  | undeclared
  /-- The null value, which suits no field. -/
  | null
  /-- A message, a vector or a map, which suits no field either. -/
  | composite
  | scalar (s : Scalar)
deriving DecidableEq, Repr

/-- A declared field, or the field of an extension. -/
structure Field where
  number : FieldNumber
  /-- The field's name; the full name for an extension. -/
  name : String
  /-- The kind of the value, of the elements, or of a map's values. -/
  kind : Kind
  cardinality : Cardinality := .optional
  /-- The key kind of a map. -/
  mapKey : Option Kind := none
  /-- The position of the field's oneof in its message type. -/
  oneof : Option UInt32 := none
  explicitPresence : Bool := false
  declaredDefault : Default := .undeclared
deriving DecidableEq

namespace Field

/-! ## Shapes -/

/-- Singular, with presence of its own. -/
def optional (f : Field) : Field := { f with cardinality := .optional, explicitPresence := true }

/-- Required, with presence of its own. -/
def required (f : Field) : Field := { f with cardinality := .required, explicitPresence := true }

/-- Repeated. -/
def repeated (f : Field) : Field := { f with cardinality := .repeated }

/-- A map from `key` to the field's kind. -/
def map (f : Field) (key : Kind) : Field :=
  { f with cardinality := .repeated, mapKey := some key }

/-- A member of a oneof. -/
def inOneof (f : Field) (oneof : UInt32) : Field := { f with oneof := some oneof }

/-- With a default. -/
def withDefault (f : Field) (d : Default) : Field := { f with declaredDefault := d }

/-! ## Questions -/

/-- Whether the field is a map. -/
def isMap (f : Field) : Bool := f.mapKey.isSome

/-- Whether the field is a vector. -/
def isList (f : Field) : Bool := f.cardinality = .repeated && f.mapKey.isNone

/-- Whether "unset" and "set to zero" are different. -/
def isNullable (f : Field) : Bool :=
  f.cardinality ≠ .repeated &&
    (f.explicitPresence || f.oneof.isSome || f.kind.messageIndex?.isSome)

/-- Whether the field holds a message, a vector or a map. -/
def isComposite (f : Field) : Bool := f.isList || f.isMap || f.kind.messageIndex?.isSome

/-- The scalar an unset field stands for: the declared default, else the zero of the kind.
Repeated fields and messages have none. -/
def default? (f : Field) : Option Scalar :=
  if f.cardinality = .repeated then none
  else
    match f.declaredDefault with
    | .undeclared => f.kind.zero?
    | .null | .composite => none
    | .scalar s => some s

end Field

end DynamicMessage
