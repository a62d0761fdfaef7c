/-
# Proofs.Container.Change -- everything a call can do to a container

A `Change` is a success of one call that left its container different: one constructor for each way
to write, with what the call checked first, and with the values it brings in.  The effect lemmas
read every call off as a refusal, an answer that changes nothing, or one change.  Invariants then
go by cases on `Change` and never open a call again.

Editing a part in place is the change that stores the edited part in the place it was opened at.
-/
import DynamicMessage.Proofs.Container.Holds
import DynamicMessage.Message.Extensions

namespace DynamicMessage

set_option autoImplicit false

/-- The values stored directly in a composite. -/
def Composite.parts : Composite → List Value
  | .message m => m.fields.values
  | .vector v => v.items
  | .map m => m.entries.values

/-- A singular extension tells "unset" from "set to zero". -/
def Extension.HasPresence (e : Extension) : Prop :=
  e.field.cardinality = .repeated ∨ e.field.explicitPresence = true

theorem Extension.hasPresence_declare (extendee : String) (field : Field) :
    (declare extendee field).HasPresence := by
  unfold declare HasPresence
  split
  · rename_i repeated
    exact .inl repeated
  · exact .inr rfl

/-! ## Changes -/

/-- A change to a composite that brings values in. -/
inductive Change : List Value → Composite → Composite → Prop where
  | unset {m : Message} (n : FieldNumber) : Change [] (.message m) (.message (m.unset n))
  | put {m : Message} {t : MessageType} {n : FieldNumber} {f : Field} {v : Value}
      (type : m.type = .ok t) (field : m.field? t n = some f) (holds : f.Holds m.schema v)
      (stays : Message.isKept f v = true ∨ f.isComposite = true) :
      Change [v] (.message m) (.message ((m.unsetSiblings t n f).put n v))
  | register {m : Message} {t : MessageType} {e : Extension} (type : m.type = .ok t)
      (free : m.conflict? t e = none)
      (faultless : Schema.fieldFault? m.schema.size t e.field = none) (present : e.HasPresence) :
      Change [] (.message m) (.message { m with extensions := m.extensions.add e })
  | remove {m : Message} {e : Extension} (registered : m.isRegistered e = true)
      (hidden : m.has e.number = false) :
      Change [] (.message m)
        (.message { m.unset e.number with extensions := m.extensions.drop e.number e.name })
  | setUnknown {m : Message} (n : FieldNumber) (run : Wire.Run) :
      Change [] (.message m) (.message { m with unknown := (m.unknown.set n run).state })
  | appendUnknown {m : Message} (n : FieldNumber) (run : Wire.Run) :
      Change [] (.message m) (.message { m with unknown := (m.unknown.append n run).state })
  | setItem {v : Vector} {i : Nat} {x : Value} (within : i < v.length)
      (holds : v.kind.Holds v.schema x) :
      Change [x] (.vector v) (.vector { v with items := v.items.set i x })
  | append {v : Vector} {x : Value} (holds : v.kind.Holds v.schema x) :
      Change [x] (.vector v) (.vector { v with items := v.items ++ [x] })
  | truncate {v : Vector} (length : Nat) :
      Change [] (.vector v) (.vector { v with items := v.items.take length })
  | setEntry {m : Map} {k : Key} {x : Value} (key : m.key.member = k.member)
      (holds : m.value.Holds m.schema x) :
      Change [x] (.map m) (.map { m with entries := m.entries.insert k x })
  | removeEntry {m : Map} (k : Key) :
      Change [] (.map m) (.map { m with entries := m.entries.erase k })

namespace Change

variable {brought : List Value} {c c' : Composite}

/-- No change reaches the header. -/
theorem header_eq (change : Change brought c c') : c'.header = c.header := by
  cases change with
  | put => rw [Message.unsetSiblings_eq]; rfl
  | _ => rfl

/-- A change keeps parts, drops parts, and stores what it brings in. -/
theorem mem_parts (change : Change brought c c') {v : Value} (member : v ∈ c'.parts) :
    v ∈ c.parts ∨ v ∈ brought := by
  have kept : ∀ {m : Message} {ns : List FieldNumber},
      v ∈ (ns.foldl Table.erase m.fields).values → v ∈ m.fields.values := by
    intro m ns
    generalize m.fields = fields
    induction ns generalizing fields with
    | nil => exact id
    | cons n ns ih => exact fun stored => Table.mem_values_of_mem_erase (ih _ stored)
  cases change with
  | unset n => exact .inl (Table.mem_values_of_mem_erase member)
  | put type field holds stays =>
    rw [Message.unsetSiblings_eq] at member
    rcases Table.mem_values_of_mem_insert member with rfl | stored
    · exact .inr (List.mem_singleton_self _)
    · exact .inl (kept stored)
  | register => exact .inl member
  | remove => exact .inl (Table.mem_values_of_mem_erase member)
  | setUnknown => exact .inl member
  | appendUnknown => exact .inl member
  | setItem =>
    rcases List.mem_or_eq_of_mem_set member with stored | rfl
    · exact .inl stored
    · exact .inr (List.mem_singleton_self _)
  | append =>
    rcases List.mem_append.1 member with stored | new
    · exact .inl stored
    · exact .inr new
  | truncate => exact .inl (List.mem_of_mem_take member)
  | setEntry =>
    rcases Table.mem_values_of_mem_insert member with rfl | stored
    · exact .inr (List.mem_singleton_self _)
    · exact .inl stored
  | removeEntry => exact .inl (Table.mem_values_of_mem_erase member)

end Change

/-! ## Effects -/

/-- How a call can end that knows some values: refused, answered without a change, or answered with
one change that brings in values it knows. -/
inductive Effect (known : Value → Prop) {σ : Type} (composite : σ → Composite) (x : σ) {α : Type} :
    Outcome σ α → Prop where
  | refused (e : Error) : Effect known composite x (.fail e x)
  | kept (a : α) : Effect known composite x (.done a x)
  | changed (a : α) {x' : σ} {brought : List Value}
      (change : Change brought (composite x) (composite x')) (given : ∀ v ∈ brought, known v) :
      Effect known composite x (.done a x')

variable {known : Value → Prop}

namespace Effect

variable {σ α β : Type} {composite : σ → Composite} {x : σ} {o : Outcome σ α}

/-- A refused call leaves what it found. -/
theorem state_of_error (effect : Effect known composite x o) {e : Error}
    (refused : o.result = .error e) : o.state = x := by
  cases effect with
  | refused => rfl
  | kept => rfl
  | changed => simp at refused

/-- What a call leaves is what it found or one change away. -/
theorem state_eq_or_change (effect : Effect known composite x o) :
    o.state = x ∨ ∃ brought, (∀ v ∈ brought, known v) ∧
      Change brought (composite x) (composite o.state) := by
  cases effect with
  | refused => exact .inl rfl
  | kept => exact .inl rfl
  | changed a change given => exact .inr ⟨_, given, change⟩

/-- An effect is the same whatever form the answer takes. -/
theorem map (effect : Effect known composite x o) (form : α → β) :
    Effect known composite x ⟨o.result.map form, o.state⟩ := by
  cases effect with
  | refused e => exact .refused e
  | kept a => exact .kept (form a)
  | changed a change given => exact .changed (form a) change given

end Effect

/-! ## The calls on messages -/

namespace Message

variable (m : Message)

/-- An operation on a field is refused, or runs on the field that the message has. -/
theorem withField_effect {α : Type} (n : FieldNumber)
    {run : MessageType → Field → Outcome Message α}
    (runs : ∀ t f, m.type = .ok t → m.field? t n = some f →
      Effect known Composite.message m (run t f)) :
    Effect known Composite.message m (m.withField n run) := by
  unfold withField
  split
  · exact .refused _
  · rename_i t type
    split
    · exact .refused _
    · rename_i f field
      exact runs t f type field

theorem set_effect (n : FieldNumber) {v : Value} (given : known v) :
    Effect known Composite.message m (m.set n v) := by
  apply m.withField_effect n
  intro t f type field
  split
  · split
    · exact .changed () (.unset n) (by simp)
    · exact .refused _
  · split
    · exact .refused _
    · rename_i fits
      split
      · rename_i kept
        have holds := (Field.misfit?_eq_none_iff f m.schema v).1 fits
        exact .changed () (.put type field holds (.inl kept)) (by simpa using given)
      · exact .changed () (.unset n) (by simp)

theorem clear_effect (n : FieldNumber) : Effect known Composite.message m (m.clear n) :=
  m.withField_effect n fun _ _ _ _ => .changed () (.unset n) (by simp)

theorem register_effect {e : Extension} (present : e.HasPresence) :
    Effect known Composite.message m (m.register e) := by
  unfold register
  split
  · exact .refused _
  · rename_i t type
    split
    · exact .refused _
    · rename_i free
      split
      · exact .refused _
      · rename_i faultless
        exact .changed () (.register type free faultless present) (by simp)

theorem remove_effect (e : Extension) : Effect known Composite.message m (m.remove e) := by
  unfold remove
  split
  · exact .kept ()
  · rename_i registered
    split
    · exact .refused _
    · rename_i hidden
      exact .changed () (.remove (by simpa using registered) (by simpa using hidden)) (by simp)

end Message

/-! ## The calls on unrecognised records -/

namespace UnknownStore

variable (u : UnknownStore) (n : FieldNumber) (run : Wire.Run)

/-- A refused replacement leaves the store as it was. -/
theorem set_refused_or_done :
    (∃ e, u.set n run = .fail e u) ∨ ∃ u', u.set n run = .done () u' := by
  unfold set
  split
  · exact .inr ⟨_, rfl⟩
  · split
    · exact .inr ⟨_, rfl⟩
    · split
      · exact .inl ⟨_, rfl⟩
      · exact .inr ⟨_, rfl⟩

/-- A refused addition leaves the store as it was. -/
theorem append_refused_or_done :
    (∃ e, u.append n run = .fail e u) ∨ ∃ u', u.append n run = .done () u' := by
  unfold append
  split
  · exact .inr ⟨_, rfl⟩
  · split
    · exact .inr ⟨_, rfl⟩
    · split
      · exact .inl ⟨_, rfl⟩
      · exact .inr ⟨_, rfl⟩

end UnknownStore

/-- A write to the store of a message is refused or is a change to that store. -/
theorem Message.unknown_effect {m : Message} {o : Outcome UnknownStore Unit}
    (settled : (∃ e, o = .fail e m.unknown) ∨ ∃ u, o = .done () u)
    (change : Change [] (.message m) (.message { m with unknown := o.state })) :
    Effect known Composite.message m (o.within fun unknown => { m with unknown }) := by
  rcases settled with ⟨e, rfl⟩ | ⟨u, rfl⟩
  · cases m
    exact .refused e
  · exact .changed () change (by simp)

theorem Message.setUnknown_effect (m : Message) (n : FieldNumber) (run : Wire.Run) :
    Effect known Composite.message m (m.setUnknown n run) :=
  unknown_effect (m.unknown.set_refused_or_done n run) (.setUnknown n run)

theorem Message.appendUnknown_effect (m : Message) (n : FieldNumber) (run : Wire.Run) :
    Effect known Composite.message m (m.appendUnknown n run) :=
  unknown_effect (m.unknown.append_refused_or_done n run) (.appendUnknown n run)

/-! ## The calls on vectors and maps -/

theorem Vector.misfit?_eq_none_iff (v : Vector) (context : NullContext) (x : Value) :
    v.misfit? context x = none ↔ v.kind.Holds v.schema x := by
  unfold Vector.misfit?
  split
  · rename_i null
    simp only [reduceCtorEq, false_iff]
    intro holds
    rw [holds.not_null] at null
    simp at null
  · exact Schema.misfit?_eq_none_iff v.schema v.kind x

theorem Vector.set_effect (v : Vector) (i : Nat) {x : Value} (given : known x) :
    Effect known Composite.vector v (v.set i x) := by
  unfold Vector.set
  split
  · exact .refused _
  · rename_i fits
    split
    · rename_i within
      have holds := (v.misfit?_eq_none_iff _ x).1 fits
      exact .changed () (.setItem within holds) (by simpa using given)
    · exact .refused _

theorem Vector.append_effect (v : Vector) {x : Value} (given : known x) :
    Effect known Composite.vector v (v.append x) := by
  unfold Vector.append
  split
  · exact .refused _
  · rename_i fits
    have holds := (v.misfit?_eq_none_iff _ x).1 fits
    exact .changed () (.append holds) (by simpa using given)

theorem Vector.truncate_effect (v : Vector) (length : Nat) :
    Effect known Composite.vector v (v.truncate length) := by
  unfold Vector.truncate
  split
  · exact .refused _
  · exact .changed () (.truncate length) (by simp)

theorem Map.keyMisfit?_eq_none_iff (m : Map) (k : Key) :
    m.keyMisfit? k = none ↔ m.key.member = k.member := by
  unfold Map.keyMisfit?
  split <;> simp_all

theorem Map.set_effect (m : Map) (k : Key) {x : Value} (given : known x) :
    Effect known Composite.map m (m.set k x) := by
  unfold Map.set
  split
  · exact .refused _
  · rename_i key
    split
    · exact .refused _
    · split
      · exact .refused _
      · rename_i fits
        have holds := (Schema.misfit?_eq_none_iff m.schema m.value x).1 fits
        have key := (m.keyMisfit?_eq_none_iff k).1 key
        exact .changed () (.setEntry key holds) (by simpa using given)

theorem Map.remove_effect (m : Map) (k : Key) : Effect known Composite.map m (m.remove k) :=
  .changed _ (.removeEntry k) (by simp)

end DynamicMessage
