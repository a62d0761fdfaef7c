/-
# Error -- why an operation was refused

One cause per constructor, with what the diagnostic needs; `Error.message` is the one place where
the wording is fixed.
-/
import DynamicMessage.FieldNumber
import DynamicMessage.Kind

namespace DynamicMessage

set_option autoImplicit false

/-- Where a null value was offered although a populated one is required. -/
inductive NullContext where
  | mapKey
  | fieldSet
  | vectorSet
  | vectorAppend
  | mapSet
deriving DecidableEq, Repr

/-- The wording of a context. -/
def NullContext.text : NullContext → String
  | .mapKey => "map key"
  | .fieldSet => "known field set"
  | .vectorSet => "vector set"
  | .vectorAppend => "vector append"
  | .mapSet => "map set"

/-- Why an extension cannot be registered. -/
inductive Conflict where
  | otherExtendee
  | outsideRanges
  | declaredNumber
  | inOneof
  | isMap
  | registeredNumber
  | registeredName
deriving DecidableEq, Repr

/-- The wording of a conflict. -/
def Conflict.text : Conflict → String
  | .otherExtendee => "extended type does not match message"
  | .outsideRanges => "field number outside extension ranges"
  | .declaredNumber => "field number declared by message"
  | .inOneof => "extension cannot belong to a oneof"
  | .isMap => "extension cannot be a map"
  | .registeredNumber => "field number already registered"
  | .registeredName => "full name already registered"

/-- Why a declared default is refused. -/
inductive DefaultFault where
  | notSingularScalar
  | otherMember
deriving DecidableEq, Repr

/-- The wording of a refused default. -/
def DefaultFault.text : DefaultFault → String
  | .notSingularScalar => "only singular scalars take defaults"
  | .otherMember => "default does not match field kind"

/-- How a message type is asked for. -/
inductive TypeRef where
  | index (i : MessageIndex)
  | name (s : String)
deriving DecidableEq, Repr

/-- The spelling of a request for a message type. -/
def TypeRef.text : TypeRef → String
  | .index i => s!"#{i}"
  | .name s => s

/-- The cause of a refusal. -/
inductive Error where
  /-- A value of another member than the one asked for. -/
  | typeMismatch (expected : Expected) (got : Member)
  /-- A message of another type than the field declares. -/
  | messageTypeMismatch (expected got : String)
  /-- A number that is neither declared nor registered. -/
  | unknownFieldNumber (message : String) (number : FieldNumber)
  /-- A position past the end of a vector. -/
  | indexOutOfRange (index length : Nat)
  /-- A null value where a populated one is required. -/
  | nullRejected (context : NullContext)
  /-- An extension that cannot be registered. -/
  | extensionConflict (name : String) (number : FieldNumber) (reason : Conflict)
  /-- An extension that cannot be removed because its field is populated. -/
  | extensionStillSet (name : String) (number : FieldNumber)
  /-- An extension range that ends before it starts. -/
  | invalidExtensionRange (message : String) (first last : FieldNumber)
  /-- Bytes that break off; the number is 0 where the run has no slot. -/
  | malformedWire (number : FieldNumber) (offset : Nat)
  /-- A record stored under another number than its own. -/
  | wireFieldNumberMismatch (expected got : FieldNumber)
  /-- A message type the schema does not have. -/
  | messageNotFound (asked : TypeRef)
  /-- Two message types of one name. -/
  | duplicateMessageName (name : String)
  /-- Two fields of one number. -/
  | duplicateFieldNumber (message : String) (number : FieldNumber)
  /-- A field number outside the range of numbers. -/
  | invalidFieldNumber (message : String) (number : FieldNumber)
  /-- A kind that cannot key a map. -/
  | invalidMapKeyKind (message field : String) (kind : Kind)
  /-- A kind that names no message type of the schema. -/
  | messageIndexOutOfRange (message field : String) (index : MessageIndex) (count : Nat)
  /-- A oneof the message does not have, or a repeated member of one. -/
  | oneofIndexOutOfRange (message field : String) (index : UInt32)
  /-- A default that does not suit its field. -/
  | invalidDefault (message field : String) (reason : DefaultFault)
  /-- Text that does not spell bytes. -/
  | invalidHex (text : String)
  /-- A value whose message type is not in its schema.  No reachable value is like that. -/
  | detachedType (index : MessageIndex)
deriving DecidableEq, Repr

/-- The wording of an error. -/
def Error.message : Error → String
  | .typeMismatch expected got => s!"type mismatch: expected {expected.name}, got {got.name}"
  | .messageTypeMismatch expected got => s!"message type mismatch: expected {expected}, got {got}"
  | .unknownFieldNumber message number => s!"unknown field number {number} on {message}"
  | .indexOutOfRange index length => s!"index {index} out of range for length {length}"
  | .nullRejected context => s!"null rejected by {context.text}"
  | .extensionConflict name number reason =>
    s!"extension conflict for {name} (field {number}): {reason.text}"
  | .extensionStillSet name number => s!"extension {name} (field {number}) still has a value"
  | .invalidExtensionRange message first last =>
    s!"invalid extension range {first}..={last} in {message}"
  | .malformedWire number offset =>
    s!"malformed wire data for field {number} at offset {offset}"
  | .wireFieldNumberMismatch expected got =>
    s!"wire record for field {got} stored under field {expected}"
  | .messageNotFound asked => s!"message type not found: {asked.text}"
  | .duplicateMessageName name => s!"duplicate message type name: {name}"
  | .duplicateFieldNumber message number => s!"duplicate field number {number} on {message}"
  | .invalidFieldNumber message number => s!"invalid field number {number} on {message}"
  | .invalidMapKeyKind message field kind =>
    s!"invalid map key kind {kind.name} for {message}.{field}"
  | .messageIndexOutOfRange message field index count =>
    s!"message index out of range for {message}.{field}: idx={index}, max={count}"
  | .oneofIndexOutOfRange message field index =>
    s!"oneof index {index} out of range for {message}.{field}"
  | .invalidDefault message field reason =>
    s!"invalid default for {message}.{field}: {reason.text}"
  | .invalidHex text => s!"invalid hex input: {text}"
  | .detachedType index => s!"no message type at index {index}"

end DynamicMessage
