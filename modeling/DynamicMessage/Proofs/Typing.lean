/-
# Proofs.Typing -- what is stored has the type it was declared with

The typing of values is stated without reference to the calls: a stored field is one that the
message's type declares, or that is registered on that very message, and its value has the shape of
that field; elements, keys and map values are of the kinds of their container; and everything
inside a value belongs to the schema instance of the value.  No run, over any number of schemas,
leads to a value that is not typed like that at some depth.
-/
import DynamicMessage.AddressBook
import DynamicMessage.Proofs.Container.Invariant

namespace DynamicMessage

set_option autoImplicit false

/-! ## Typed containers -/

/-- The fields of a number that a message has: declared by its type, or registered on it. -/
inductive Message.HasField (m : Message) (n : FieldNumber) : Field → Prop where
  | declared {t : MessageType} {f : Field} (type : m.schema.type? m.index = some t)
      (listed : f ∈ t.fields) (number : f.number = n) : HasField m n f
  | registered {e : Extension} (found : m.extensions.findByNumber? n = some e)
      (number : e.number = n) : HasField m n e.field

/-- The message has a type of its schema, and every stored row is of a field that the message has
and holds a value of that field's shape. -/
structure Message.Typed (m : Message) : Prop where
  type : ∃ t, m.schema.type? m.index = some t
  known : ∀ n v, (n, v) ∈ m.fields.rows → ∃ f, m.HasField n f
  typed : ∀ n v, (n, v) ∈ m.fields.rows → ∀ f, m.HasField n f → f.Holds m.schema v
  notNull : ∀ n v, (n, v) ∈ m.fields.rows → v ≠ .null

/-- Every element is of the vector's kind. -/
structure Vector.Typed (v : Vector) : Prop where
  typed : ∀ x ∈ v.items, v.kind.Holds v.schema x
  notNull : ∀ x ∈ v.items, x ≠ .null

/-- Every key has the member of the key kind, and every value is of the value kind. -/
structure Map.Typed (m : Map) : Prop where
  keyed : ∀ k x, (k, x) ∈ m.entries.rows → k.member = m.key.member
  typed : ∀ k x, (k, x) ∈ m.entries.rows → m.value.Holds m.schema x
  notNull : ∀ k x, (k, x) ∈ m.entries.rows → x ≠ .null

/-- A composite whose direct parts are typed. -/
def Composite.Typed : Composite → Prop
  | .message m => m.Typed
  | .vector v => v.Typed
  | .map m => m.Typed

/-! ## Sound containers are typed -/

theorem Value.ne_null {v : Value} (notNull : v.isNull = false) : v ≠ .null := by
  rintro rfl
  simp [Value.isNull] at notNull

theorem Value.isNull_of_ne_null {v : Value} (notNull : v ≠ .null) : v.isNull = false := by
  cases v with
  | null => exact absurd rfl notNull
  | scalar => rfl
  | composite => rfl

namespace Message.Sound

variable {m : Message} {t : MessageType}

/-- The fields that a sound message has are the ones it finds by number. -/
theorem hasField_iff (sound : m.Sound t) (n : FieldNumber) (f : Field) :
    m.HasField n f ↔ m.field? t n = some f := by
  constructor
  · intro has
    cases has with
    | @declared t' f type listed number =>
      have same : t' = t := Option.some.inj (type.symm.trans sound.type?)
      subst same
      have declared : t'.field? n = some f := by
        rw [← number]
        exact sound.indexed.field?_of_mem listed
      simp [Message.field?, declared]
    | registered found number =>
      have undeclared := (sound.registered n _ found).2.1
      simp [Message.field?, undeclared, found]
  · intro found
    unfold Message.field? at found
    split at found
    · rename_i declared
      cases found
      rw [sound.indexed.field?_eq_find?] at declared
      have number : f.number = n := by simpa using List.find?_some declared
      exact .declared sound.type? (List.mem_of_find?_eq_some declared) number
    · obtain ⟨e, registered, rfl⟩ := Option.map_eq_some_iff.1 found
      exact .registered registered (sound.registered n e registered).1

theorem typed (sound : m.Sound t) : m.Typed where
  type := ⟨t, sound.type?⟩
  known n v stored := by
    obtain ⟨f, field, _⟩ := sound.stored n v ((sound.ascending.mem_rows_iff n v).1 stored)
    exact ⟨f, (sound.hasField_iff n f).2 field⟩
  typed n v stored f has := by
    have found := (sound.ascending.mem_rows_iff n v).1 stored
    exact sound.holds_of_stored ((sound.hasField_iff n f).1 has) found
  notNull n v stored := by
    obtain ⟨f, _, holds⟩ := sound.stored n v ((sound.ascending.mem_rows_iff n v).1 stored)
    exact Value.ne_null holds.not_null

end Message.Sound

theorem Vector.Sound.typed {v : Vector} (sound : v.Sound) : v.Typed where
  typed := sound.items
  notNull x member := Value.ne_null (sound.items x member).not_null

theorem Map.Sound.typed {m : Map} (sound : m.Sound) : m.Typed where
  keyed k x stored := (sound.entries k x ((sound.ascending.mem_rows_iff k x).1 stored)).1.symm
  typed k x stored := (sound.entries k x ((sound.ascending.mem_rows_iff k x).1 stored)).2
  notNull k x stored :=
    Value.ne_null (sound.entries k x ((sound.ascending.mem_rows_iff k x).1 stored)).2.not_null

theorem Composite.Sound.typed {c : Composite} (sound : c.Sound) : c.Typed := by
  cases c with
  | message m =>
    obtain ⟨t, sound⟩ := sound
    exact sound.typed
  | vector v => exact Vector.Sound.typed sound
  | map m => exact Map.Sound.typed sound

/-- The parts of a sound composite that are composites have its schema. -/
theorem Composite.Sound.schema_eq_of_mem_parts {c d : Composite} (sound : c.Sound)
    (member : .composite d ∈ c.parts) : d.schema = c.schema := by
  cases c with
  | message m =>
    obtain ⟨t, sound⟩ := sound
    obtain ⟨⟨n, v⟩, stored, rfl⟩ := List.mem_map.1 member
    obtain ⟨f, _, holds⟩ := sound.stored n _ ((sound.ascending.mem_rows_iff n _).1 stored)
    exact holds.schema_eq
  | vector v => exact (Vector.Sound.items sound _ member).schema_eq
  | map m =>
    obtain ⟨⟨k, x⟩, stored, rfl⟩ := List.mem_map.1 member
    have ascending := Map.Sound.ascending sound
    exact (Map.Sound.entries sound k _ ((ascending.mem_rows_iff k _).1 stored)).2.schema_eq

/-- Everything inside a value that is sound everywhere has the schema of the value. -/
theorem Everywhere.same_schema {v : Value} (sound : Everywhere Composite.Sound v) (c : Composite)
    (same : v = .composite c) : Everywhere (fun d => d.schema = c.schema) v := by
  induction sound generalizing c with
  | null => exact .null
  | scalar x => exact .scalar x
  | @composite d here inside ih =>
    cases same
    refine .composite rfl ?_
    intro v member
    cases v with
    | null => exact .null
    | scalar x => exact .scalar x
    | composite e =>
      have schema := here.schema_eq_of_mem_parts member
      exact (ih _ member e rfl).imp fun _ same => same.trans schema

/-! ## Typing -/

/-- Whatever a program does over declared schemas, each value it holds is typed at every depth, and
all that is inside one belongs to one schema instance. -/
theorem reachable_typed {v : Value} (reachable : Reachable v) :
    Everywhere Composite.Typed v ∧
      ∀ c, v = .composite c → Everywhere (fun d => d.schema = c.schema) v :=
  ⟨reachable.sound.imp fun _ sound => sound.typed, reachable.sound.same_schema⟩

/-- The filled-in card is typed: a vector of messages, a map, a member of a oneof, an extension. -/
theorem AddressBook.card_typed :
    Reachable (.message card) ∧ card.list = [4, 5, 8, 100] ∧
      (Everywhere Composite.Typed (.message card) ∧
        ∀ c, Value.message card = .composite c →
          Everywhere (fun d => d.schema = c.schema) (.message card)) :=
  ⟨reachable_card, by decide +kernel, reachable_typed reachable_card⟩

end DynamicMessage
