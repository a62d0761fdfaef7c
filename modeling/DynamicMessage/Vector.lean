/-
# Vector -- the elements of a repeated field

Every element fits the kind of the vector and none is null.  Writing checks the value first and
the position second.  Elements that are messages can be edited in place: `edit` and `editNew` run
an operation on the element and keep what it leaves, also when it fails.
-/
import DynamicMessage.Fit

namespace DynamicMessage

set_option autoImplicit false

namespace Vector

/-- The vector without elements, of a kind that is known to exist. -/
def empty (s : Schema) (kind : Kind) : Vector := { schema := s, kind, items := [] }

/-- The vector without elements. -/
def new (s : Schema) (kind : Kind) : Except Error Vector :=
  match kind.messageIndex? with
  | none => .ok (empty s kind)
  | some index =>
    match s.type? index with
    | none => .error (.messageNotFound (.index index))
    | some _ => .ok (empty s kind)

/-- The number of elements. -/
def length (v : Vector) : Nat := v.items.length

/-- Whether there are no elements. -/
def isEmpty (v : Vector) : Bool := v.items.isEmpty

/-- The element at a position. -/
def get (v : Vector) (i : Nat) : Except Error Value :=
  match v.items[i]? with
  | some item => .ok item
  | none => .error (.indexOutOfRange i v.length)

/-- Why a value is no element. -/
def misfit? (v : Vector) (context : NullContext) (x : Value) : Option Error :=
  if x.isNull then some (.nullRejected context) else v.schema.misfit? v.kind x

/-- Replaces the element at a position. -/
def set (v : Vector) (i : Nat) (x : Value) : Outcome Vector Unit :=
  match v.misfit? .vectorSet x with
  | some e => .fail e v
  | none =>
    if i < v.length then .done () { v with items := v.items.set i x }
    else .fail (.indexOutOfRange i v.length) v

/-- Adds an element at the end. -/
def append (v : Vector) (x : Value) : Outcome Vector Unit :=
  match v.misfit? .vectorAppend x with
  | some e => .fail e v
  | none => .done () { v with items := v.items ++ [x] }

/-- The message type of the elements. -/
def elementIndex (v : Vector) : Except Error MessageIndex :=
  match v.kind.messageIndex? with
  | some index => .ok index
  | none => .error (.typeMismatch (.member .message) v.kind.member)

/-- Edits the message at a position. -/
def edit {α : Type} (v : Vector) (i : Nat) (run : Message → Outcome Message α) :
    Outcome Vector α :=
  match v.elementIndex with
  | .error e => .fail e v
  | .ok _ =>
    match v.items[i]? with
    | none => .fail (.indexOutOfRange i v.length) v
    | some item =>
      match item.asMessage with
      | .error e => .fail e v
      | .ok m => (run m).within fun m => { v with items := v.items.set i (.message m) }

/-- Adds a message without fields at the end and edits it. -/
def editNew {α : Type} (v : Vector) (run : Message → Outcome Message α) :
    Outcome Vector α :=
  match v.elementIndex with
  | .error e => .fail e v
  | .ok index =>
    match Message.zero v.schema index with
    | .error e => .fail e v
    | .ok m => (run m).within fun m => { v with items := v.items ++ [.message m] }

/-- Drops the elements from a position on. -/
def truncate (v : Vector) (length : Nat) : Outcome Vector Unit :=
  if v.length < length then .fail (.indexOutOfRange length v.length) v
  else .done () { v with items := v.items.take length }

end Vector

end DynamicMessage
