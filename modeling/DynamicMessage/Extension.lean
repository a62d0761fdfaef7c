/-
# Extension -- fields declared outside the message type they extend

A registry holds the extensions of one message, by number and by name.  The two tables are written
together, so each extension is found by both or by neither.
-/
import DynamicMessage.Schema.Field
import DynamicMessage.Table
import DynamicMessage.Visit

namespace DynamicMessage

set_option autoImplicit false

/-- An extension: a field, and the full name of the message type it extends. -/
structure Extension where
  extendee : String
  field : Field
deriving DecidableEq

namespace Extension

/-- Declares an extension.  A singular one has presence of its own. -/
def declare (extendee : String) (field : Field) : Extension :=
  { extendee
    field :=
      if field.cardinality = .repeated then field else { field with explicitPresence := true } }

/-- The number of the extension field. -/
def number (e : Extension) : FieldNumber := e.field.number

/-- The full name of the extension. -/
def name (e : Extension) : String := e.field.name

end Extension

/-- The extensions registered on one message. -/
structure Registry where
  byNumber : Table FieldNumber Extension := ∅
  byName : Table String FieldNumber := ∅
deriving DecidableEq

namespace Registry

/-- The registry without extensions. -/
def empty : Registry := {}

/-- The extensions, in an order that nothing promises. -/
def list (r : Registry) : List Extension := r.byNumber.values

/-- The number of extensions. -/
def size (r : Registry) : Nat := r.byNumber.size

/-- Whether there are no extensions. -/
def isEmpty (r : Registry) : Bool := r.byNumber.rows.isEmpty

/-- The extension of a number. -/
def findByNumber? (r : Registry) (n : FieldNumber) : Option Extension := r.byNumber.find? n

/-- The extension of a full name. -/
def findByName? (r : Registry) (name : String) : Option Extension :=
  match r.byName.find? name with
  | none => none
  | some n => r.byNumber.find? n

/-- Goes through the extensions. -/
def range {σ : Type} (r : Registry) (visitor : Extension → σ → ForInStep σ) (s : σ) : σ :=
  visit visitor s r.list

/-- Adds an extension to both tables. -/
def add (r : Registry) (e : Extension) : Registry :=
  { byNumber := r.byNumber.insert e.number e, byName := r.byName.insert e.name e.number }

/-- Drops a number and a name. -/
def drop (r : Registry) (n : FieldNumber) (name : String) : Registry :=
  { byNumber := r.byNumber.erase n, byName := r.byName.erase name }

end Registry

end DynamicMessage
