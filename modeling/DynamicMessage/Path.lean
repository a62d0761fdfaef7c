/-
# Path -- reaching a value inside a value

A path takes steps from a message to a field, from a vector to an element, and from a map to the
value of a key.  Reading a path looks and changes nothing.  An `Edit` is an operation on a message,
on a vector or on a map, and `Edit.under` carries it to the end of a path: on the way it opens each
field and each entry for editing, so it may create what it passes, and what it created stays also
when a later step or the operation itself is refused.
-/
import DynamicMessage.Message.Write

namespace DynamicMessage

set_option autoImplicit false

/-- One step into a composite, to a key of type `κ` in a map. -/
inductive Step (κ : Type) where
  | field (n : FieldNumber)
  | index (i : Nat)
  | key (k : κ)

/-- A step with its key made. -/
def Step.withKey : Step Value → Except Error (Step Key)
  | .field n => .ok (.field n)
  | .index i => .ok (.index i)
  | .key v =>
    match v.toKey with
    | .error e => .error e
    | .ok k => .ok (.key k)

/-- The value one step into a value.  A key is made before the value is asked to be a map. -/
def Value.follow (v : Value) : Step Value → Except Error Value
  | .field n =>
    match v.asMessage with
    | .error e => .error e
    | .ok m => .ok (m.get n)
  | .index i =>
    match v.asVector with
    | .error e => .error e
    | .ok items => items.get i
  | .key k =>
    match k.toKey with
    | .error e => .error e
    | .ok k =>
      match v.asMap with
      | .error e => .error e
      | .ok m => .ok (m.get k)

/-- The value at the end of a path. -/
def Value.read : Value → List (Step Value) → Except Error Value
  | v, [] => .ok v
  | v, step :: rest =>
    match v.follow step with
    | .error e => .error e
    | .ok v => read v rest

/-- An operation on one member of the composites. -/
inductive Edit (α : Type) where
  | message (run : Message → Outcome Message α)
  | vector (run : Vector → Outcome Vector α)
  | map (run : Map → Outcome Map α)

namespace Edit

variable {α : Type}

/-- The member an edit is for. -/
def member : Edit α → Member
  | .message _ => .message
  | .vector _ => .vector
  | .map _ => .map

/-- Runs an edit on a composite of its member; another one is refused. -/
def onComposite : Edit α → Composite → Outcome Composite α
  | .message run, .message m => (run m).within .message
  | .vector run, .vector v => (run v).within .vector
  | .map run, .map m => (run m).within .map
  | edit, c => .fail (.typeMismatch (.member edit.member) c.member) c

/-- Runs an edit on a message. -/
def onMessage : Edit α → Message → Outcome Message α
  | .message run, m => run m
  | edit, m => .fail (.typeMismatch (.member edit.member) .message) m

/-- Runs an edit on a value. -/
def onValue (edit : Edit α) : Value → Outcome Value α
  | .composite c => (edit.onComposite c).within .composite
  | v => .fail (v.mismatch edit.member) v

/-- An edit behind one step. -/
def behind : Step Key → Edit α → Edit α
  | .field n, edit => .message fun m => m.edit n edit.onComposite
  | .index i, edit => .vector fun v => v.edit i edit.onMessage
  | .key k, edit => .map fun m => m.edit k edit.onMessage

/-- An edit at the end of a path. -/
def under (path : List (Step Key)) (edit : Edit α) : Edit α := path.foldr behind edit

end Edit

end DynamicMessage
