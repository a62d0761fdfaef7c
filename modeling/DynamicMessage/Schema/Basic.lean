/-
# Schema.Basic -- validated sets of message types

`Schema.declare` checks declarations and builds the tables that lookups go through.  Faults are
reported in a fixed order: first message names, over all types; then type by type the fields in
order (number, message index, map key, oneof, default, then a number seen before) and the
extension ranges in order (first number, last number, inversion).

A schema is identified by more than its contents: two schemas declared apart are different
instances even when their declarations agree, and values of one do not fit the other.  `id` tells
instances apart.
-/
import DynamicMessage.Error
import DynamicMessage.Schema.MessageType

namespace DynamicMessage

set_option autoImplicit false

/-- A validated set of message types. -/
structure Schema where
  /-- Tells schemas with the same declarations apart. -/
  id : Nat
  /-- The message types in declaration order. -/
  types : List MessageType
  /-- The position of each message type by name. -/
  indexes : Table String MessageIndex
deriving DecidableEq

namespace Schema

/-! ## Faults of a declaration -/

/-- A number out of range. -/
def numberFault? (message : String) (n : FieldNumber) : Option Error :=
  if n.InRange then none else some (.invalidFieldNumber message n)

/-- A kind that names a type past the last one. -/
def kindFault? (count : Nat) (t : MessageType) (f : Field) : Option Error :=
  match f.kind.messageIndex? with
  | none => none
  | some index =>
    if index.toNat < count then none
    else some (.messageIndexOutOfRange t.name f.name index count)

/-- A key kind that cannot key a map. -/
def mapKeyFault? (t : MessageType) (f : Field) : Option Error :=
  match f.mapKey with
  | none => none
  | some key => if key.isKey then none else some (.invalidMapKeyKind t.name f.name key)

/-- A oneof the type does not have, or a repeated member of one. -/
def oneofFault? (t : MessageType) (f : Field) : Option Error :=
  match f.oneof with
  | none => none
  | some oneof =>
    if oneof.toNat < t.oneofs.length ∧ f.cardinality ≠ .repeated then none
    else some (.oneofIndexOutOfRange t.name f.name oneof)

/-- A default on a composite field, or one of another member. -/
def defaultFault? (t : MessageType) (f : Field) : Option Error :=
  let composite := f.cardinality = .repeated ∨ f.kind.messageIndex?.isSome
  match f.declaredDefault with
  | .undeclared => none
  | .null | .composite =>
    some (.invalidDefault t.name f.name (if composite then .notSingularScalar else .otherMember))
  | .scalar s =>
    if composite then some (.invalidDefault t.name f.name .notSingularScalar)
    else if f.kind.accepts s then none
    else some (.invalidDefault t.name f.name .otherMember)

/-- The first fault of a field in a type of a schema of `count` types, its number being seen before
apart. -/
def fieldFault? (count : Nat) (t : MessageType) (f : Field) : Option Error :=
  (numberFault? t.name f.number).or <| (kindFault? count t f).or <| (mapKeyFault? t f).or <|
    (oneofFault? t f).or (defaultFault? t f)

/-- The first fault of an extension range. -/
def rangeFault? (t : MessageType) (r : NumberRange) : Option Error :=
  (numberFault? t.name r.first).or <| (numberFault? t.name r.last).or <|
    if r.first ≤ r.last then none else some (.invalidExtensionRange t.name r.first r.last)

/-! ## Building the tables -/

/-- Adds the fields from `position` on to the positions found so far. -/
def indexFields (count : Nat) (t : MessageType) :
    Nat → Table FieldNumber Nat → List Field → Except Error (Table FieldNumber Nat)
  | _, positions, [] => .ok positions
  | position, positions, f :: fields =>
    match fieldFault? count t f with
    | some fault => .error fault
    | none =>
      if positions.contains f.number then .error (.duplicateFieldNumber t.name f.number)
      else indexFields count t (position + 1) (positions.insert f.number position) fields

/-- Checks a message type of a schema of `count` types and fills in its positions. -/
def indexType (count : Nat) (t : MessageType) : Except Error MessageType :=
  match indexFields count t 0 ∅ t.fields with
  | .error fault => .error fault
  | .ok positions =>
    match t.extensionRanges.findSome? (rangeFault? t) with
    | some fault => .error fault
    | none => .ok { t with positions }

/-- Checks message types in order. -/
def indexTypes (count : Nat) : List MessageType → Except Error (List MessageType)
  | [] => .ok []
  | t :: types =>
    match indexType count t with
    | .error fault => .error fault
    | .ok t =>
      match indexTypes count types with
      | .error fault => .error fault
      | .ok types => .ok (t :: types)

/-- Adds the names from `index` on to the names found so far. -/
def indexNames :
    Nat → Table String MessageIndex → List MessageType →
      Except Error (Table String MessageIndex)
  | _, indexes, [] => .ok indexes
  | index, indexes, t :: types =>
    if indexes.contains t.name then .error (.duplicateMessageName t.name)
    else indexNames (index + 1) (indexes.insert t.name (UInt32.ofNat index)) types

/-- Checks declarations and makes a schema of them. -/
def declare (id : Nat) (types : List MessageType) : Except Error Schema :=
  match indexNames 0 ∅ types with
  | .error fault => .error fault
  | .ok indexes =>
    match indexTypes types.length types with
    | .error fault => .error fault
    | .ok types => .ok { id, types, indexes }

/-- Declarations that are accepted make the schema that is taken from their result. -/
theorem declare_eq_ok_of_isOk {id : Nat} {types : List MessageType} (other : Schema)
    (accepted : (declare id types).isOk = true) :
    declare id types = .ok ((declare id types).toOption.getD other) := by
  cases declared : declare id types with
  | error e => simp [declared, Except.isOk, Except.toBool] at accepted
  | ok s => rfl

/-! ## Lookups -/

/-- The number of message types. -/
def size (s : Schema) : Nat := s.types.length

/-- The message type at a position. -/
def type? (s : Schema) (index : MessageIndex) : Option MessageType := s.types[index.toNat]?

/-- The message type at a position that is known to exist. -/
def typeAt (s : Schema) (index : MessageIndex) : Except Error MessageType :=
  match s.type? index with
  | some t => .ok t
  | none => .error (.detachedType index)

/-- The position of a message type by name. -/
def indexNamed? (s : Schema) (name : String) : Option MessageIndex := s.indexes.find? name

end Schema

end DynamicMessage
