/-
# Proofs.Message.Oneof -- at most one member of a oneof is stored

Nothing in a message says which member of a oneof is the current one: it is the one with a row.
That no two have rows (`Message.Exclusive`) rests on the two calls that store a row, which both drop
the rows of the siblings first.  `Message.KeepsOneofs` says what each call does to the members of
the oneofs, and holds of every message at every depth of whatever a run leads to.

An extension never disturbs a declared oneof, because none that belongs to a oneof is registered.
-/
import DynamicMessage.Proofs.Message.Registry
import DynamicMessage.Proofs.Typing

namespace DynamicMessage

set_option autoImplicit false

/-! ## Members and siblings -/

/-- A field is a member of the oneof at `o`: it is declared, and declared to belong there. -/
structure MessageType.Groups (t : MessageType) (o : UInt32) (f : Field) : Prop where
  listed : f ∈ t.fields
  oneof : f.oneof = some o

/-- The siblings of a field are the numbers of the other members of its oneof. -/
theorem Message.mem_siblings_iff (t : MessageType) (n k : FieldNumber) (f : Field) :
    k ∈ siblings t n f ↔ k ≠ n ∧ ∃ o, f.oneof = some o ∧ ∃ g, t.Groups o g ∧ g.number = k := by
  have members : ∀ o g, g ∈ t.membersOf o ↔ t.Groups o g := by
    intro o g
    rw [t.mem_membersOf_iff]
    exact ⟨fun ⟨listed, oneof⟩ => ⟨listed, oneof⟩, fun member => ⟨member.listed, member.oneof⟩⟩
  unfold siblings
  cases f.oneof with
  | none => simp
  | some o => simp [members, and_comm]

/-- A field outside every oneof has no siblings. -/
theorem Message.unsetSiblings_of_ungrouped (m : Message) (t : MessageType) (n : FieldNumber)
    {f : Field} (ungrouped : f.oneof = none) : m.unsetSiblings t n f = m := by
  simp only [unsetSiblings, siblings, ungrouped, List.foldl_nil]

/-- What is stored after the siblings of a field were dropped was stored before. -/
theorem Message.find?_of_unsetSiblings {m : Message} {t : MessageType} {n k : FieldNumber}
    {f : Field} {v : Value} (found : (m.unsetSiblings t n f).fields.find? k = some v) :
    m.fields.find? k = some v := by
  rw [find?_unsetSiblings] at found
  split at found
  · simp at found
  · exact found

/-- Dropping the siblings of a field leaves the fields that the message has. -/
theorem Message.field?_unsetSiblings (m : Message) (t : MessageType) (n : FieldNumber) (f : Field)
    (k : FieldNumber) : (m.unsetSiblings t n f).field? t k = m.field? t k := by
  rw [unsetSiblings_eq]
  rfl

/-! ## One member at a time -/

/-- No two members of a oneof are stored, populated or not. -/
def Message.Exclusive (m : Message) (t : MessageType) : Prop :=
  ∀ o f g, t.Groups o f → t.Groups o g → m.fields.contains f.number = true →
    m.fields.contains g.number = true → f = g

namespace Message.Exclusive

variable {m m' : Message} {t : MessageType}

/-- Dropping rows leaves no two members stored. -/
theorem of_fewer (exclusive : m.Exclusive t)
    (fewer : ∀ n v, m'.fields.find? n = some v → m.fields.find? n = some v) :
    m'.Exclusive t := by
  have contained : ∀ n, m'.fields.contains n = true → m.fields.contains n = true := by
    intro n stored
    obtain ⟨v, found⟩ := Option.isSome_iff_exists.1 stored
    exact Option.isSome_iff_exists.2 ⟨v, fewer n v found⟩
  intro o f g member member' stored stored'
  exact exclusive o f g member member' (contained _ stored) (contained _ stored')

theorem unset (exclusive : m.Exclusive t) (n : FieldNumber) : (m.unset n).Exclusive t :=
  exclusive.of_fewer fun _ _ found => (Table.find?_erase_eq_some_iff.1 found).2

theorem unsetSiblings (exclusive : m.Exclusive t) (n : FieldNumber) (f : Field) :
    (m.unsetSiblings t n f).Exclusive t :=
  exclusive.of_fewer fun _ _ found => find?_of_unsetSiblings found

/-- No member that is stored has a stored sibling. -/
theorem find?_of_mem_siblings (exclusive : m.Exclusive t) (sound : m.Sound t) {n k : FieldNumber}
    {f : Field} (declared : t.field? n = some f) (stored : m.fields.contains n = true)
    (sibling : k ∈ siblings t n f) : m.fields.find? k = none := by
  obtain ⟨differ, o, grouped, g, member, rfl⟩ := (mem_siblings_iff t n k f).1 sibling
  rw [sound.indexed.field?_eq_find?] at declared
  have number : f.number = n := by simpa using List.find?_some declared
  have listed : f ∈ t.fields := List.mem_of_find?_eq_some declared
  cases found : m.fields.find? g.number with
  | none => rfl
  | some v =>
    have same : g = f := by
      apply exclusive o g f member ⟨listed, grouped⟩
      · rw [Table.contains, found]
        rfl
      · rwa [number]
    rw [same] at differ
    exact absurd number differ

/-- Storing a row for a field whose siblings are not stored leaves no two members stored. -/
theorem put (exclusive : m.Exclusive t) (sound : m.Sound t) {n : FieldNumber} {f : Field}
    (field : m.field? t n = some f) (v : Value) :
    ((m.unsetSiblings t n f).put n v).Exclusive t := by
  -- Of two stored members either both were stored before, or one is the field itself; then the
  -- other is a sibling, and siblings have no rows.
  have alone : ∀ o g h, t.Groups o g → t.Groups o h → g.number = n →
      ((m.unsetSiblings t n f).put n v).fields.contains h.number = true → g = h := by
    intro o g h member member' number stored
    have declared : t.field? n = some g := by
      rw [← number]
      exact sound.indexed.field?_of_mem member.listed
    have same : f = g := by
      rw [Message.field?, declared, Option.some.injEq] at field
      exact field.symm
    by_cases other : h.number = n
    · have declared' := sound.indexed.field?_of_mem member'.listed
      rw [other, declared] at declared'
      exact Option.some.inj declared'
    · have sibling : h.number ∈ siblings t n f := by
        rw [mem_siblings_iff, same]
        exact ⟨other, o, member.oneof, h, member', rfl⟩
      rw [Table.contains, find?_put, if_neg other, find?_unsetSiblings, if_pos sibling] at stored
      simp at stored
  intro o g h member member' stored stored'
  by_cases first : g.number = n
  · exact alone o g h member member' first stored'
  · by_cases second : h.number = n
    · exact (alone o h g member' member second stored).symm
    · rw [Table.contains, find?_put, if_neg first] at stored
      rw [Table.contains, find?_put, if_neg second] at stored'
      exact exclusive.unsetSiblings n f o g h member member' stored stored'

end Message.Exclusive

theorem Message.invariant_exclusive : Invariant (Composite.OnMessage Message.Exclusive) := by
  apply Invariant.onMessage
  · intro s index t _ _ o f g _ _ stored
    have nothing : (∅ : Table FieldNumber Value).contains f.number = true := stored
    simp [Table.contains] at nothing
  · intro brought m m' t sound exclusive change
    cases change with
    | unset n => exact exclusive.unset n
    | @put m t' n f v type field =>
      obtain rfl := sound.type_eq type
      exact exclusive.put sound field v
    | register => exact exclusive
    | @remove m e => exact exclusive.unset e.number
    | setUnknown => exact exclusive
    | appendUnknown => exact exclusive

/-! ## Taking over -/

/-- The member `f` of the oneof at `o` holds `v`, no other member is stored, and no row outside the
oneof has changed. -/
structure Message.TookOver (m : Message) (t : MessageType) (o : UInt32) (f : Field) (v : Value)
    (m' : Message) : Prop where
  stored : m'.fields.find? f.number = some v
  alone : ∀ g, t.Groups o g → g ≠ f → m'.fields.find? g.number = none
  outside : ∀ n, (∀ g, t.Groups o g → g.number ≠ n) → m'.fields.find? n = m.fields.find? n

/-- A member that is stored once its siblings are dropped has taken over. -/
theorem Message.Sound.tookOver {m : Message} {t : MessageType} (sound : m.Sound t) {o : UInt32}
    {f : Field} (member : t.Groups o f) (v : Value) :
    m.TookOver t o f v ((m.unsetSiblings t f.number f).put f.number v) where
  stored := by
    rw [find?_put, if_pos rfl]
  alone g member' differ := by
    have other : g.number ≠ f.number := by
      intro same
      have declared := sound.indexed.field?_of_mem member'.listed
      rw [same, sound.indexed.field?_of_mem member.listed, Option.some.injEq] at declared
      exact differ declared.symm
    have sibling : g.number ∈ siblings t f.number f := by
      rw [mem_siblings_iff]
      exact ⟨other, o, member.oneof, g, member', rfl⟩
    rw [find?_put, if_neg other, find?_unsetSiblings, if_pos sibling]
  outside n outside := by
    have apart : n ∉ siblings t f.number f := by
      intro sibling
      obtain ⟨-, o', grouped', g, member', number⟩ := (mem_siblings_iff _ _ _ _).1 sibling
      obtain rfl := Option.some.inj (member.oneof.symm.trans grouped')
      exact outside g member' number
    rw [find?_put, if_neg (outside f member).symm, find?_unsetSiblings, if_neg apart]

/-! ## The calls -/

namespace Message

variable {m : Message} {t : MessageType}

/-- What setting a field leaves: the message as it was, without a row for the field, or with a new
row and without the siblings. -/
theorem set_cases (type : m.type = .ok t) (n : FieldNumber) (v : Value) :
    (m.set n v).state = m ∨ (m.set n v).state = m.unset n ∨
      v.isNull = false ∧ ∃ f, m.field? t n = some f ∧
        (m.set n v).state = (m.unsetSiblings t n f).put n v := by
  cases field : m.field? t n with
  | none =>
    left
    simp only [Message.set, withField, type, field, Outcome.state_fail]
  | some f =>
    simp only [Message.set, withField, type, field]
    split
    · split
      · exact .inr (.inl rfl)
      · exact .inl rfl
    · rename_i notNull
      split
      · exact .inl rfl
      · split
        · exact .inr (.inr ⟨by simpa using notNull, f, rfl, rfl⟩)
        · exact .inr (.inl rfl)

/-- A value that fits a field and is kept takes the place of the siblings. -/
theorem set_of_kept (type : m.type = .ok t) {n : FieldNumber} {f : Field} {v : Value}
    (field : m.field? t n = some f) (holds : f.Holds m.schema v) (kept : isKept f v = true) :
    m.set n v = .done () ((m.unsetSiblings t n f).put n v) := by
  have fits := (Field.misfit?_eq_none_iff f m.schema v).2 holds
  simp only [Message.set, withField, type, field, holds.not_null, fits, kept, Bool.false_eq_true,
    ↓reduceIte]

/-- A value that fits a field and is not kept leaves it unset. -/
theorem set_of_not_kept (type : m.type = .ok t) {n : FieldNumber} {f : Field} {v : Value}
    (field : m.field? t n = some f) (holds : f.Holds m.schema v) (dropped : isKept f v = false) :
    m.set n v = .done () (m.unset n) := by
  have fits := (Field.misfit?_eq_none_iff f m.schema v).2 holds
  simp only [Message.set, withField, type, field, holds.not_null, fits, dropped, Bool.false_eq_true,
    ↓reduceIte]

/-- A value that is accepted fits its field, or is null. -/
theorem holds_of_set (type : m.type = .ok t) {n : FieldNumber} {f : Field} {v : Value}
    (field : m.field? t n = some f) (notNull : v.isNull = false)
    (accepted : (m.set n v).result = .ok ()) : f.Holds m.schema v := by
  rw [← Field.misfit?_eq_none_iff]
  cases fits : f.misfit? m.schema v with
  | none => rfl
  | some e =>
    simp [Message.set, withField, type, field, notNull, fits] at accepted

namespace Sound

/-- A member of a oneof is a field of the message, and is nullable. -/
theorem member (sound : m.Sound t) {o : UInt32} {f : Field} (member : t.Groups o f) :
    m.field? t f.number = some f ∧ f.isNullable = true := by
  have declared := sound.indexed.field?_of_mem member.listed
  refine ⟨by rw [Message.field?, declared], ?_⟩
  exact Schema.nullable_of_faultless (sound.indexed.faultless f member.listed) member.oneof

/-- A member of a oneof that is set takes over. -/
theorem tookOver_set (sound : m.Sound t) {o : UInt32} {f : Field} {v : Value}
    (member : t.Groups o f) (notNull : v.isNull = false)
    (accepted : (m.set f.number v).result = .ok ()) :
    m.TookOver t o f v (m.set f.number v).state := by
  obtain ⟨field, nullable⟩ := sound.member member
  have holds := holds_of_set sound.type field notNull accepted
  have kept : isKept f v = true := by
    rw [isKept, nullable, Bool.true_or]
  rw [set_of_kept sound.type field holds kept]
  exact sound.tookOver member v

/-- A field whose opening is accepted opens. -/
theorem opens_of_accepted (sound : m.Sound t) {n : FieldNumber}
    (accepted : ((Write.openField n).run m).result.isOk = true) : ∃ f c, m.Opens t n f c := by
  simp only [Write.run] at accepted
  cases field : m.field? t n with
  | none =>
    rw [edit_of_unknown sound.type field] at accepted
    simp at accepted
  | some f =>
    by_cases composite : f.isComposite = true
    · exact ⟨f, sound.opens_of_composite field composite⟩
    · rw [edit_of_scalar sound.type field (by simpa using composite)] at accepted
      simp at accepted

/-- A member of a oneof that is opened takes over, and holds what the operation leaves. -/
theorem tookOver_edit (sound : m.Sound t) {o : UInt32} {f : Field} {a : Answer}
    (member : t.Groups o f)
    (accepted : ((Write.openField f.number).run m).result = .ok a) {α : Type}
    (run : Composite → Outcome Composite α) :
    ∃ c, m.TookOver t o f (.composite c) (m.edit f.number run).state := by
  obtain ⟨field, -⟩ := sound.member member
  obtain ⟨g, c, opens⟩ := sound.opens_of_accepted (by rw [accepted, isOk_ok])
  obtain rfl := Option.some.inj (field.symm.trans opens.field)
  rw [opens.edit_eq]
  exact ⟨_, sound.tookOver member _⟩

/-- A field that is refused to be opened is as it was, whatever was to run on it. -/
theorem edit_of_refused (sound : m.Sound t) {n : FieldNumber} {e : Error}
    (refused : ((Write.openField n).run m).result = .error e) {α : Type}
    (run : Composite → Outcome Composite α) : (m.edit n run).state = m := by
  rcases sound.inPlace_edit n with ⟨e', fails⟩ | ⟨c, put, opening, runs⟩
  · have fails : m.edit n run = .fail e' m := fails run
    rw [fails, Outcome.state_fail]
  · have runs : (Write.openField n).run m = .done (.values [.composite c]) (put c) := runs _
    rw [runs] at refused
    simp at refused

/-- A field outside every oneof is written without an effect on other fields. -/
theorem find?_edit_of_ungrouped (sound : m.Sound t) {n k : FieldNumber}
    (ungrouped : ∀ f, m.field? t n = some f → f.oneof = none) (differ : k ≠ n) {α : Type}
    (run : Composite → Outcome Composite α) :
    (m.edit n run).state.fields.find? k = m.fields.find? k := by
  cases field : m.field? t n with
  | none => rw [edit_of_unknown sound.type field, Outcome.state_fail]
  | some f =>
    by_cases composite : f.isComposite = true
    · obtain ⟨c, opens⟩ := sound.opens_of_composite field composite
      rw [opens.edit_eq, Outcome.state_within, find?_put, if_neg differ,
        m.unsetSiblings_of_ungrouped t n (ungrouped f field)]
    · rw [edit_of_scalar sound.type field (by simpa using composite), Outcome.state_fail]

end Sound

theorem find?_set_of_ungrouped (type : m.type = .ok t) {n k : FieldNumber} {v : Value}
    (ungrouped : v.isNull = false → ∀ f, m.field? t n = some f → f.oneof = none) (differ : k ≠ n) :
    (m.set n v).state.fields.find? k = m.fields.find? k := by
  rcases set_cases type n v with same | same | ⟨notNull, f, field, same⟩
  · rw [same]
  · rw [same, find?_unset, if_neg differ]
  · rw [same, find?_put, if_neg differ,
      m.unsetSiblings_of_ungrouped t n (ungrouped notNull f field)]

theorem find?_clear (m : Message) {n k : FieldNumber} (differ : k ≠ n) :
    (m.clear n).state.fields.find? k = m.fields.find? k := by
  have cleared : (m.clear n).state = m ∨ (m.clear n).state = m.unset n := by
    unfold clear withField
    split
    · exact .inl rfl
    · split
      · exact .inl rfl
      · exact .inr rfl
  rcases cleared with same | same
  · rw [same]
  · rw [same, find?_unset, if_neg differ]

end Message

/-- The calls about fields that a type does not declare: registering and removing extensions, and
writes under other numbers than the declared ones. -/
inductive Write.OnExtension (t : MessageType) : Write .message → Prop where
  | set {n : FieldNumber} (v : Value) (undeclared : t.field? n = none) : OnExtension t (.set n v)
  | clear {n : FieldNumber} (undeclared : t.field? n = none) : OnExtension t (.clear n)
  | openField {n : FieldNumber} (undeclared : t.field? n = none) : OnExtension t (.openField n)
  | register (extendee : String) (field : Field) : OnExtension t (.register extendee field)
  | remove (extendee : String) (field : Field) : OnExtension t (.remove extendee field)

namespace Message

variable {m : Message} {t : MessageType}

/-- What is registered under a number that is not declared is outside every oneof. -/
theorem Extended.ungrouped (extended : m.Extended t) {n : FieldNumber}
    (undeclared : t.field? n = none) {f : Field} (field : m.field? t n = some f) :
    f.oneof = none := by
  rw [Message.field?, undeclared] at field
  obtain ⟨e, registered, rfl⟩ := Option.map_eq_some_iff.1 field
  exact (extended.admitted n e registered).ungrouped

/-- A field in a oneof is a declared member of it. -/
theorem Sound.groups (sound : m.Sound t) (extended : m.Extended t) {n : FieldNumber}
    {f : Field} (field : m.field? t n = some f) {o : UInt32} (grouped : f.oneof = some o) :
    t.Groups o f ∧ f.number = n := by
  have declared : t.field? n = some f := by
    cases undeclared : t.field? n with
    | some g => rwa [Message.field?, undeclared] at field
    | none => simp [extended.ungrouped undeclared field] at grouped
  rw [sound.indexed.field?_eq_find?] at declared
  have listed : f ∈ t.fields := List.mem_of_find?_eq_some declared
  exact ⟨⟨listed, grouped⟩, by simpa using List.find?_some declared⟩

/-- A declared number is not one that is undeclared. -/
theorem Sound.number_ne (sound : m.Sound t) {f : Field} (listed : f ∈ t.fields) {n : FieldNumber}
    (undeclared : t.field? n = none) : f.number ≠ n := by
  rintro rfl
  rw [sound.indexed.field?_of_mem listed] at undeclared
  simp at undeclared

/-- Removing an extension leaves the declared fields. -/
theorem Sound.find?_remove (sound : m.Sound t) (e : Extension) {f : Field} (listed : f ∈ t.fields) :
    (m.remove e).state.fields.find? f.number = m.fields.find? f.number := by
  unfold Message.remove
  split
  · rfl
  · rename_i registered
    split
    · rfl
    · have registered : m.isRegistered e = true := by simpa using registered
      obtain ⟨e', found, -⟩ := (m.isRegistered_iff e).1 registered
      have undeclared := (sound.registered e.number e' found).2.1
      show (m.unset e.number).fields.find? f.number = _
      rw [find?_unset, if_neg (sound.number_ne listed undeclared)]

theorem find?_register (m : Message) (e : Extension) (n : FieldNumber) :
    (m.register e).state.fields.find? n = m.fields.find? n := by
  unfold register
  split
  · rfl
  · split
    · rfl
    · split <;> rfl

/-- A call about a field that is not declared leaves the declared fields. -/
theorem Extended.find?_run (extended : m.Extended t) (sound : m.Sound t) {w : Write .message}
    (about : w.OnExtension t) {f : Field} (listed : f ∈ t.fields) :
    (w.run m).state.fields.find? f.number = m.fields.find? f.number := by
  cases about with
  | set v undeclared =>
    exact find?_set_of_ungrouped sound.type (fun _ _ field => extended.ungrouped undeclared field)
      (sound.number_ne listed undeclared)
  | clear undeclared => exact m.find?_clear (sound.number_ne listed undeclared)
  | openField undeclared =>
    exact sound.find?_edit_of_ungrouped (fun _ field => extended.ungrouped undeclared field)
      (sound.number_ne listed undeclared) _
  | register extendee field => exact m.find?_register _ f.number
  | remove extendee field => exact sound.find?_remove _ listed

/-! ## What every message does -/

/-- What the calls on a message of type `t` do to the oneofs of the type. -/
structure KeepsOneofs (m : Message) (t : MessageType) : Prop where
  /-- No two members of a oneof are stored. -/
  exclusive : m.Exclusive t
  /-- A member that is set to a value takes over. -/
  set : ∀ {o f v}, t.Groups o f → v.isNull = false → (m.set f.number v).result = .ok () →
    m.TookOver t o f v (m.set f.number v).state
  /-- A member that is opened takes over, whatever then runs on what it holds. -/
  opened : ∀ {o f a}, t.Groups o f →
    ((Write.openField f.number).run m).result = .ok a →
      ∀ {α : Type} (run : Composite → Outcome Composite α),
        ∃ c, m.TookOver t o f (.composite c) (m.edit f.number run).state
  /-- A refused call changes nothing. -/
  refused : ∀ {w : Write .message} {e}, (w.run m).result = .error e → (w.run m).state = m
  /-- Nothing runs on a field that is refused to be opened. -/
  unopened : ∀ {n e}, ((Write.openField n).run m).result = .error e →
    ∀ {α : Type} (run : Composite → Outcome Composite α), (m.edit n run).state = m
  /-- Setting a field to null changes no other field. -/
  nulled : ∀ {n k}, k ≠ n → (m.set n .null).state.fields.find? k = m.fields.find? k
  /-- Clearing a field changes no other field. -/
  cleared : ∀ {n k}, k ≠ n → (m.clear n).state.fields.find? k = m.fields.find? k
  /-- A call about an extension changes no declared field. -/
  extension : ∀ {w : Write .message}, w.OnExtension t → ∀ f ∈ t.fields,
    (w.run m).state.fields.find? f.number = m.fields.find? f.number
  /-- Nothing that runs on what an extension holds changes a declared field. -/
  extensionEdited : ∀ {n}, t.field? n = none →
    ∀ {α : Type} (run : Composite → Outcome Composite α), ∀ f ∈ t.fields,
      (m.edit n run).state.fields.find? f.number = m.fields.find? f.number

/-- A refused call on a sound message changes nothing. -/
theorem Sound.state_of_refused (sound : m.Sound t) {w : Write .message} {e : Error}
    (refused : (w.run m).result = .error e) : (w.run m).state = m := by
  have effect : Effect (fun _ => True) Composite.message m (w.run m) :=
    (w.effect ⟨t, sound⟩ (fun _ _ => trivial) (fun _ _ => trivial) fun _ _ => trivial).1
  exact effect.state_of_error refused

theorem Sound.keepsOneofs (sound : m.Sound t) (extended : m.Extended t)
    (exclusive : m.Exclusive t) : m.KeepsOneofs t where
  exclusive := exclusive
  set := sound.tookOver_set
  opened member accepted := sound.tookOver_edit member accepted
  refused refused := sound.state_of_refused refused
  unopened refused := sound.edit_of_refused refused
  nulled differ :=
    find?_set_of_ungrouped sound.type (fun notNull => by simp [Value.isNull] at notNull) differ
  cleared differ := m.find?_clear differ
  extension about _ listed := extended.find?_run sound about listed
  extensionEdited undeclared _ run _ listed :=
    sound.find?_edit_of_ungrouped (fun _ field => extended.ungrouped undeclared field)
      (sound.number_ne listed undeclared) run

end Message

/-- Whatever a program does over declared schemas, no oneof of any message in what it holds has two
stored members, and each call treats the members as `Message.KeepsOneofs` says. -/
theorem reachable_keepsOneofs {v : Value} (reachable : Reachable v) :
    Everywhere (Composite.OnMessage Message.KeepsOneofs) v := by
  have invariant := Message.invariant_extended.and Message.invariant_exclusive
  refine (invariant.everywhere reachable).imp ?_
  rintro (m | v | m) ⟨⟨t, sound⟩, extended, exclusive⟩
  · intro t' type
    obtain rfl := sound.type_eq type
    exact sound.keepsOneofs (extended _ type) (exclusive _ type)
  · exact trivial
  · exact trivial

/-- On the card, a handle takes the place of the pager. -/
theorem AddressBook.card_keepsOneofs :
    Reachable (.message card) ∧ card.list = [4, 5, 8, 100] ∧
      (card.set 7 (.scalar (.string "al"))).state.list = [4, 5, 7, 100] ∧
      Everywhere (Composite.OnMessage Message.KeepsOneofs) (.message card) :=
  ⟨reachable_card, by decide +kernel, by decide +kernel, reachable_keepsOneofs reachable_card⟩

end DynamicMessage
