/-
# Message.Write -- setting, clearing and editing fields

Setting null clears a nullable field.  Setting a field that is not nullable to zero, or to a vector
or map that holds nothing, leaves it unset.  Any other value is stored, and a member of a oneof
takes the place of its siblings.

`edit` opens a composite field.  It clears the siblings and stores an empty composite where there
is none, then runs an operation on what is stored and keeps what that leaves, also when it fails.
-/
import DynamicMessage.Map
import DynamicMessage.Vector

namespace DynamicMessage

set_option autoImplicit false

/-- The composite an unset field opens with. -/
def Field.initial (f : Field) (s : Schema) : Except Error Value :=
  match f.mapKey with
  | some key => .ok (.map (.empty s key f.kind))
  | none =>
    if f.isList then .ok (.vector (.empty s f.kind))
    else
      match f.kind.messageIndex? with
      | none => .ok .null
      | some index =>
        match Message.zero s index with
        | .error e => .error e
        | .ok m => .ok (.message m)

namespace Message

/-- Runs an operation on a field that is declared or registered. -/
def withField {α : Type} (m : Message) (n : FieldNumber)
    (run : MessageType → Field → Outcome Message α) : Outcome Message α :=
  match m.type with
  | .error e => .fail e m
  | .ok t =>
    match m.field? t n with
    | none => .fail (.unknownFieldNumber t.name n) m
    | some f => run t f

/-- Drops what is stored for a field. -/
def unset (m : Message) (n : FieldNumber) : Message := { m with fields := m.fields.erase n }

/-- Stores a value for a field. -/
def put (m : Message) (n : FieldNumber) (v : Value) : Message :=
  { m with fields := m.fields.insert n v }

/-- The other members of a field's oneof. -/
def siblings (t : MessageType) (n : FieldNumber) (f : Field) : List FieldNumber :=
  match f.oneof with
  | none => []
  | some oneof => ((t.membersOf oneof).map (·.number)).filter (· ≠ n)

/-- Drops what is stored for the siblings of a field. -/
def unsetSiblings (m : Message) (t : MessageType) (n : FieldNumber) (f : Field) : Message :=
  (siblings t n f).foldl unset m

/-- Whether a value that fits a field is stored, and does not leave the field unset. -/
def isKept (f : Field) (v : Value) : Bool := f.isNullable || (!v.isZero && v.isPopulated)

/-- Sets a field. -/
def set (m : Message) (n : FieldNumber) (v : Value) : Outcome Message Unit :=
  m.withField n fun t f =>
    if v.isNull then
      if f.isNullable then .done () (m.unset n) else .fail (.nullRejected .fieldSet) m
    else
      match f.misfit? m.schema v with
      | some e => .fail e m
      | none =>
        if isKept f v then .done () ((m.unsetSiblings t n f).put n v)
        else .done () (m.unset n)

/-- Leaves a field unset. -/
def clear (m : Message) (n : FieldNumber) : Outcome Message Unit :=
  m.withField n fun _ _ => .done () (m.unset n)

/-- Runs an operation on a stored value, which must be a composite. -/
def editStored {α : Type} (m : Message) (n : FieldNumber) (stored : Value)
    (run : Composite → Outcome Composite α) : Outcome Message α :=
  match stored with
  | .composite c => (run c).within fun c => m.put n (.composite c)
  | v => .fail (.typeMismatch .composite v.member) m

/-- Runs an operation on the composite of a field. -/
def edit {α : Type} (m : Message) (n : FieldNumber) (run : Composite → Outcome Composite α) :
    Outcome Message α :=
  m.withField n fun t f =>
    if f.isComposite then
      let m := m.unsetSiblings t n f
      match m.fields.find? n with
      | some stored => m.editStored n stored run
      | none =>
        match f.initial m.schema with
        | .error e => .fail e m
        | .ok initial => (m.put n initial).editStored n initial run
    else .fail (.typeMismatch .composite f.kind.member) m

/-! ## What the writes do to the stored values -/

theorem find?_put (m : Message) (n k : FieldNumber) (v : Value) :
    (m.put n v).fields.find? k = if k = n then some v else m.fields.find? k :=
  m.fields.find?_insert n k v

theorem find?_unset (m : Message) (n k : FieldNumber) :
    (m.unset n).fields.find? k = if k = n then none else m.fields.find? k :=
  m.fields.find?_erase n k

/-- A field without a row has nothing to drop. -/
theorem unset_of_absent {m : Message} {n : FieldNumber} (absent : m.fields.find? n = none) :
    m.unset n = m := by
  rw [unset, m.fields.erase_of_find?_eq_none n absent]
  cases m
  rfl

/-- Of a row that is stored nothing is left when it is dropped. -/
theorem unset_put (m : Message) (n : FieldNumber) (v : Value) : (m.put n v).unset n = m.unset n := by
  show ({ m with fields := (m.fields.insert n v).erase n } : Message) = _
  rw [m.fields.erase_insert n v]
  rfl

theorem foldl_unset (m : Message) (ns : List FieldNumber) :
    ns.foldl unset m = { m with fields := ns.foldl Table.erase m.fields } := by
  induction ns generalizing m with
  | nil => cases m; rfl
  | cons n ns ih => exact ih (m.unset n)

theorem find?_foldl_unset (m : Message) (ns : List FieldNumber) (k : FieldNumber) :
    (ns.foldl unset m).fields.find? k = if k ∈ ns then none else m.fields.find? k := by
  rw [foldl_unset]
  exact m.fields.find?_foldl_erase ns k

/-- Clearing the siblings touches nothing but the stored values. -/
theorem unsetSiblings_eq (m : Message) (t : MessageType) (n : FieldNumber) (f : Field) :
    m.unsetSiblings t n f =
      { m with fields := (siblings t n f).foldl Table.erase m.fields } :=
  m.foldl_unset (siblings t n f)

/-- The siblings are unset and all other fields are as they were. -/
theorem find?_unsetSiblings (m : Message) (t : MessageType) (n : FieldNumber) (f : Field)
    (k : FieldNumber) :
    (m.unsetSiblings t n f).fields.find? k =
      if k ∈ siblings t n f then none else m.fields.find? k :=
  m.find?_foldl_unset (siblings t n f) k

/-- A field is not among its siblings. -/
theorem not_mem_siblings (t : MessageType) (n : FieldNumber) (f : Field) :
    n ∉ siblings t n f := by
  unfold siblings
  split <;> simp

/-! ## Unrecognised records -/

/-- Replaces the unrecognised records of a number. -/
def setUnknown (m : Message) (n : FieldNumber) (run : Wire.Run) : Outcome Message Unit :=
  (m.unknown.set n run).within fun unknown => { m with unknown }

/-- Puts unrecognised records behind those of a number. -/
def appendUnknown (m : Message) (n : FieldNumber) (run : Wire.Run) : Outcome Message Unit :=
  (m.unknown.append n run).within fun unknown => { m with unknown }

end Message

end DynamicMessage
