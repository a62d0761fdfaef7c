/-
# Map -- the entries of a map field

Every key has the member of the key kind, every value fits the value kind, and none is null.
Writing checks the key first and the value second.  Values that are messages can be edited in
place: `edit` makes a message where the key has none, runs an operation on it and keeps what that
leaves, also when it fails.
-/
import DynamicMessage.Fit

namespace DynamicMessage

set_option autoImplicit false

namespace Map

/-- The map without entries, of kinds that are known to suit. -/
def empty (s : Schema) (key value : Kind) : Map := { schema := s, key, value, entries := ∅ }

/-- The map without entries. -/
def new (s : Schema) (key value : Kind) : Except Error Map :=
  if !key.isKey then .error (.typeMismatch .mapKey key.member)
  else
    match value.messageIndex? with
    | none => .ok (empty s key value)
    | some index =>
      match s.type? index with
      | none => .error (.messageNotFound (.index index))
      | some _ => .ok (empty s key value)

/-- The number of entries. -/
def size (m : Map) : Nat := m.entries.size

/-- Whether there are no entries. -/
def isEmpty (m : Map) : Bool := m.entries.rows.isEmpty

/-- The keys, in an order that nothing promises. -/
def list (m : Map) : List Key := m.entries.keys

/-- The value of a key, else null. -/
def get (m : Map) (k : Key) : Value := (m.entries.find? k).getD .null

/-- Goes through the entries. -/
def range {σ : Type} (m : Map) (visitor : Key × Value → σ → ForInStep σ) (s : σ) : σ :=
  visit visitor s m.entries.rows

/-- Why a key is no key of the map. -/
def keyMisfit? (m : Map) (k : Key) : Option Error :=
  if m.key.member = k.member then none
  else some (.typeMismatch (.member m.key.member) k.member)

/-- Sets the value of a key. -/
def set (m : Map) (k : Key) (x : Value) : Outcome Map Unit :=
  match m.keyMisfit? k with
  | some e => .fail e m
  | none =>
    if x.isNull then .fail (.nullRejected .mapSet) m
    else
      match m.schema.misfit? m.value x with
      | some e => .fail e m
      | none => .done () { m with entries := m.entries.insert k x }

/-- Drops the entry of a key and gives the value it had. -/
def remove (m : Map) (k : Key) : Outcome Map (Option Value) :=
  .done (m.entries.find? k) { m with entries := m.entries.erase k }

/-- Edits the message of a key, a message without fields where there is none. -/
def edit {α : Type} (m : Map) (k : Key) (run : Message → Outcome Message α) : Outcome Map α :=
  match m.keyMisfit? k with
  | some e => .fail e m
  | none =>
    match m.value.messageIndex? with
    | none => .fail (.typeMismatch (.member .message) m.value.member) m
    | some index =>
      let put := fun message : Message =>
        { m with entries := m.entries.insert k (.message message) }
      match m.entries.find? k with
      | none =>
        match Message.zero m.schema index with
        | .error e => .fail e m
        | .ok message => (run message).within put
      | some stored =>
        match stored.asMessage with
        | .error e => .fail e m
        | .ok message => (run message).within put

end Map

end DynamicMessage
