/-
# Proofs.Container.Sound -- what the calls rely on, and keep

`Composite.Sound` is the invariant of one container: its schema is declared, its own kinds name
types of that schema, its rows ascend, and each value it stores suits the place it is stored in.
It looks at the headers of the stored values only.  New containers are sound (`Fresh.sound`), and a
change to a sound container leaves it sound (`Change.sound`).

In sound containers the opening calls are refused before they write, or they open: an opened part
is stored already or made anew, and storing any edited form of it is a change (`Opening`).
-/
import DynamicMessage.Proofs.Container.Change

namespace DynamicMessage

set_option autoImplicit false

/-! ## The invariant -/

/-- What the calls on a message of type `t` rely on. -/
structure Message.Sound (m : Message) (t : MessageType) : Prop where
  declared : m.schema.Declared
  type : m.type = .ok t
  ascending : m.fields.Ascending
  stored : ∀ n v, m.fields.find? n = some v → ∃ f, m.field? t n = some f ∧ f.Holds m.schema v
  registered : ∀ n e, m.extensions.findByNumber? n = some e →
    e.number = n ∧ t.field? n = none ∧ Schema.fieldFault? m.schema.size t e.field = none

/-- What the calls on a vector rely on. -/
structure Vector.Sound (v : Vector) : Prop where
  declared : v.schema.Declared
  names : v.schema.Names v.kind
  items : ∀ x ∈ v.items, v.kind.Holds v.schema x

/-- What the calls on a map rely on. -/
structure Map.Sound (m : Map) : Prop where
  declared : m.schema.Declared
  keyed : m.key.isKey = true
  names : m.schema.Names m.value
  ascending : m.entries.Ascending
  entries : ∀ k x, m.entries.find? k = some x →
    m.key.member = k.member ∧ m.value.Holds m.schema x

/-- What the calls on a composite rely on. -/
def Composite.Sound : Composite → Prop
  | .message m => ∃ t, m.Sound t
  | .vector v => v.Sound
  | .map m => m.Sound

theorem Composite.Sound.declared {c : Composite} (sound : c.Sound) : c.schema.Declared := by
  cases c with
  | message m =>
    obtain ⟨t, sound⟩ := sound
    exact sound.declared
  | vector v => exact Vector.Sound.declared sound
  | map m => exact Map.Sound.declared sound

/-- An extension that messages of a type may have: it is meant for the type, its number is open and
not declared, and it is singular or a vector outside every oneof. -/
structure MessageType.Admits (t : MessageType) (e : Extension) : Prop where
  extendee : e.extendee = t.name
  ranged : t.isOpenTo e.number = true
  undeclared : t.field? e.number = none
  ungrouped : e.field.oneof = none
  unkeyed : e.field.mapKey = none

/-! ## Sound messages -/

namespace Message

/-- The type of a message is the one its index names. -/
theorem type_eq_ok_iff (m : Message) (t : MessageType) :
    m.type = .ok t ↔ m.schema.type? m.index = some t :=
  ⟨Schema.type?_of_typeAt, Schema.typeAt_of_type?⟩

namespace Sound

variable {m : Message} {t : MessageType}

/-- A message has one type. -/
theorem type_eq (sound : m.Sound t) {t' : MessageType} (type : m.type = .ok t') : t' = t := by
  have same := sound.type
  rw [type] at same
  exact Except.ok.inj same

theorem type? (sound : m.Sound t) : m.schema.type? m.index = some t :=
  (m.type_eq_ok_iff t).1 sound.type

/-- The declared fields are found by their numbers. -/
theorem indexed (sound : m.Sound t) : Schema.IsIndexed m.schema.size t :=
  sound.declared.isIndexed sound.type?

/-- A field of the message has the number it is found at, and no fault. -/
theorem field (sound : m.Sound t) {n : FieldNumber} {f : Field} (found : m.field? t n = some f) :
    f.number = n ∧ Schema.fieldFault? m.schema.size t f = none := by
  unfold Message.field? at found
  split at found
  · rename_i declared
    rw [Option.some.injEq] at found
    subst found
    rw [sound.indexed.field?_eq_find?] at declared
    have number := List.find?_some declared
    exact ⟨by simpa using number, sound.indexed.faultless _ (List.mem_of_find?_eq_some declared)⟩
  · obtain ⟨e, registered, rfl⟩ := Option.map_eq_some_iff.1 found
    obtain ⟨number, _, faultless⟩ := sound.registered n e registered
    exact ⟨number, faultless⟩

/-- What is stored for a field of the message suits that field. -/
theorem holds_of_stored (sound : m.Sound t) {n : FieldNumber} {f : Field} {v : Value}
    (field : m.field? t n = some f) (stored : m.fields.find? n = some v) : f.Holds m.schema v := by
  obtain ⟨g, field', holds⟩ := sound.stored n v stored
  rw [field, Option.some.injEq] at field'
  rwa [field']

/-- The kind of a field names a type of the schema. -/
theorem names (sound : m.Sound t) {n : FieldNumber} {f : Field} (found : m.field? t n = some f) :
    m.schema.Names f.kind :=
  Schema.names_of_faultless (sound.field found).2

/-- Dropping rows keeps a message sound. -/
theorem of_fields (sound : m.Sound t) {fields : Table FieldNumber Value}
    (ascending : fields.Ascending)
    (fewer : ∀ n v, fields.find? n = some v → m.fields.find? n = some v) :
    Message.Sound { m with fields } t where
  declared := sound.declared
  type := sound.type
  ascending := ascending
  stored n v found := sound.stored n v (fewer n v found)
  registered := sound.registered

theorem unset (sound : m.Sound t) (n : FieldNumber) : (m.unset n).Sound t := by
  apply sound.of_fields (sound.ascending.erase n)
  intro k v found
  exact (Table.find?_erase_eq_some_iff.1 found).2

theorem foldl_unset (sound : m.Sound t) (ns : List FieldNumber) :
    (ns.foldl Message.unset m).Sound t := by
  induction ns generalizing m with
  | nil => exact sound
  | cons n ns ih => exact ih (sound.unset n)

/-- Storing a value that suits its field keeps a message sound. -/
theorem put (sound : m.Sound t) {n : FieldNumber} {f : Field} {v : Value}
    (field : m.field? t n = some f) (holds : f.Holds m.schema v) : (m.put n v).Sound t where
  declared := sound.declared
  type := sound.type
  ascending := sound.ascending.insert n v
  stored k x found := by
    rcases Table.find?_insert_eq_some_iff.1 found with ⟨rfl, rfl⟩ | ⟨-, found⟩
    · exact ⟨f, field, holds⟩
    · exact sound.stored k x found
  registered := sound.registered

end Sound

/-- A check that gives no reason fails, and so do the checks after it. -/
theorem guard_eq_none_iff {α : Type} {p : Prop} [Decidable p] {reason : α} {rest : Option α} :
    (if p then some reason else rest) = none ↔ ¬p ∧ rest = none := by
  split <;> simp [*]

/-- An extension is free to be registered when the type admits it and neither its number nor its
name is taken. -/
theorem conflict?_eq_none_iff (m : Message) (t : MessageType) (e : Extension) :
    m.conflict? t e = none ↔ t.Admits e ∧ m.extensions.findByNumber? e.number = none ∧
      m.extensions.byName.find? e.name = none := by
  -- The guards are taken apart before the tables and the shapes behind them are opened.
  simp only [conflict?, guard_eq_none_iff]
  simp only [Field.isMap, Table.contains, Registry.findByNumber?, Option.not_isSome_iff_eq_none,
    ne_eq, Decidable.not_not, Bool.not_eq_true', Bool.not_eq_false, and_true]
  constructor
  · rintro ⟨extendee, ranged, undeclared, ungrouped, unkeyed, number, name⟩
    exact ⟨⟨extendee, ranged, undeclared, ungrouped, unkeyed⟩, number, name⟩
  · rintro ⟨⟨extendee, ranged, undeclared, ungrouped, unkeyed⟩, number, name⟩
    exact ⟨extendee, ranged, undeclared, ungrouped, unkeyed, number, name⟩

/-- Registering leaves the fields of other numbers. -/
theorem field?_add_of_ne (m : Message) (t : MessageType) {e : Extension} {n : FieldNumber}
    (differ : n ≠ e.number) :
    Message.field? { m with extensions := m.extensions.add e } t n = m.field? t n := by
  have finds : (m.extensions.add e).findByNumber? n = m.extensions.findByNumber? n := by
    rw [Registry.findByNumber?, Registry.add, Table.find?_insert, if_neg differ]
    rfl
  unfold Message.field?
  rw [finds]

/-- A message has no field of a number that is free to be registered. -/
theorem field?_of_free {m : Message} {t : MessageType} {e : Extension}
    (free : m.conflict? t e = none) : m.field? t e.number = none := by
  obtain ⟨admits, unregistered, -⟩ := (m.conflict?_eq_none_iff t e).1 free
  simp [Message.field?, admits.undeclared, unregistered]

/-- Registering leaves the fields that the message has: none of them has a number that is free. -/
theorem field?_add {m : Message} {t : MessageType} {e : Extension} (free : m.conflict? t e = none)
    {n : FieldNumber} {f : Field} (field : m.field? t n = some f) :
    Message.field? { m with extensions := m.extensions.add e } t n = some f := by
  have differ : n ≠ e.number := by
    rintro rfl
    simp [field?_of_free free] at field
  rw [m.field?_add_of_ne t differ, field]

/-- Removing leaves the fields of other numbers. -/
theorem field?_drop (m : Message) (t : MessageType) {n k : FieldNumber} (name : String)
    (differ : k ≠ n) :
    Message.field? { m.unset n with extensions := m.extensions.drop n name } t k =
      m.field? t k := by
  have finds : (m.extensions.drop n name).findByNumber? k = m.extensions.findByNumber? k := by
    rw [Registry.findByNumber?, Registry.drop, Table.find?_erase, if_neg differ]
    rfl
  unfold Message.field?
  rw [finds]

namespace Sound

variable {m : Message} {t : MessageType}

/-- Registering keeps a message sound: no row is stored under a number that is free. -/
theorem register (sound : m.Sound t) {e : Extension} (free : m.conflict? t e = none)
    (faultless : Schema.fieldFault? m.schema.size t e.field = none) :
    Message.Sound { m with extensions := m.extensions.add e } t where
  declared := sound.declared
  type := sound.type
  ascending := sound.ascending
  stored n v found := by
    obtain ⟨f, field, holds⟩ := sound.stored n v found
    exact ⟨f, field?_add free field, holds⟩
  registered n e' found := by
    rcases Table.find?_insert_eq_some_iff.1 found with ⟨rfl, rfl⟩ | ⟨-, found⟩
    · exact ⟨rfl, ((m.conflict?_eq_none_iff t e).1 free).1.undeclared, faultless⟩
    · exact sound.registered n e' found

/-- Removing keeps a message sound: the row of the number goes with the extension. -/
theorem remove (sound : m.Sound t) (n : FieldNumber) (name : String) :
    Message.Sound { m.unset n with extensions := m.extensions.drop n name } t where
  declared := sound.declared
  type := sound.type
  ascending := sound.ascending.erase n
  stored k v found := by
    obtain ⟨differ, found⟩ := Table.find?_erase_eq_some_iff.1 found
    obtain ⟨f, field, holds⟩ := sound.stored k v found
    exact ⟨f, by rwa [m.field?_drop t name differ], holds⟩
  registered k e found := sound.registered k e (Table.find?_erase_eq_some_iff.1 found).2

end Sound

end Message

/-! ## Changes keep it -/

/-- A change to a sound composite leaves it sound. -/
theorem Change.sound {brought : List Value} {c c' : Composite} (change : Change brought c c')
    (sound : c.Sound) : c'.Sound := by
  cases change with
  | unset n =>
    obtain ⟨t, sound⟩ := sound
    exact ⟨t, sound.unset n⟩
  | @put m t n f v type field holds stays =>
    obtain ⟨t', sound⟩ := sound
    obtain rfl := sound.type_eq type
    refine ⟨t, (sound.foldl_unset (Message.siblings t n f)).put (f := f) ?_ ?_⟩
    · rwa [Message.foldl_unset]
    · rwa [Message.foldl_unset]
  | register type free faultless =>
    obtain ⟨t, sound⟩ := sound
    obtain rfl := sound.type_eq type
    exact ⟨_, sound.register free faultless⟩
  | @remove m e registered hidden =>
    obtain ⟨t, sound⟩ := sound
    exact ⟨t, sound.remove e.number e.name⟩
  | setUnknown =>
    obtain ⟨t, sound⟩ := sound
    exact ⟨t, sound.declared, sound.type, sound.ascending, sound.stored, sound.registered⟩
  | appendUnknown =>
    obtain ⟨t, sound⟩ := sound
    exact ⟨t, sound.declared, sound.type, sound.ascending, sound.stored, sound.registered⟩
  | setItem within holds =>
    have sound : Vector.Sound _ := sound
    refine Vector.Sound.mk sound.declared sound.names ?_
    intro x member
    rcases List.mem_or_eq_of_mem_set member with stored | rfl
    · exact sound.items x stored
    · exact holds
  | append holds =>
    have sound : Vector.Sound _ := sound
    refine Vector.Sound.mk sound.declared sound.names ?_
    intro x member
    rcases List.mem_append.1 member with stored | new
    · exact sound.items x stored
    · rwa [List.mem_singleton.1 new]
  | truncate length =>
    have sound : Vector.Sound _ := sound
    exact Vector.Sound.mk sound.declared sound.names fun x member =>
      sound.items x (List.mem_of_mem_take member)
  | setEntry key holds =>
    have sound : Map.Sound _ := sound
    refine Map.Sound.mk sound.declared sound.keyed sound.names (sound.ascending.insert _ _) ?_
    intro k x found
    rcases Table.find?_insert_eq_some_iff.1 found with ⟨rfl, rfl⟩ | ⟨-, found⟩
    · exact ⟨key, holds⟩
    · exact sound.entries k x found
  | removeEntry =>
    have sound : Map.Sound _ := sound
    refine Map.Sound.mk sound.declared sound.keyed sound.names (sound.ascending.erase _) ?_
    intro k x found
    exact sound.entries k x (Table.find?_erase_eq_some_iff.1 found).2

end DynamicMessage
