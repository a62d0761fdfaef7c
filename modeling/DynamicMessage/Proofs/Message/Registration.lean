/-
# Proofs.Message.Registration -- from registering an extension to removing it

Registering checks nine conditions (`Message.CanRegister`) and writes nothing but the registry.
Removing gives back what registering took: the number, the name, and the row that was stored under
the number meanwhile, so that whatever is registered there next starts unset
(`Message.Registers`, `Message.Removes`).

Registering looks at the extendee and removing does not.  What is removed is whatever is registered
under the number and the name of the extension, also where it extends another message
(`Message.remove_eq_of_same`).
-/
import DynamicMessage.Proofs.Message.Acceptance
import DynamicMessage.Proofs.Message.LastWrite
import DynamicMessage.Proofs.Schema.Validation

namespace DynamicMessage

set_option autoImplicit false

namespace Message

variable {m : Message} {t : MessageType} {e : Extension}

/-! ## Registering -/

/-- The extension `e` can be registered on a message of type `t`. -/
structure CanRegister (m : Message) (t : MessageType) (e : Extension) : Prop where
  extendee : e.extendee = t.name
  ranged : ∃ r ∈ t.extensionRanges, r.first ≤ e.number ∧ e.number ≤ r.last
  undeclared : ∀ f ∈ t.fields, f.number ≠ e.number
  ungrouped : e.field.oneof = none
  unkeyed : e.field.isMap = false
  freeNumber : ∀ x ∈ m.extensions.list, x.number ≠ e.number
  freeName : ∀ x ∈ m.extensions.list, x.name ≠ e.name
  typed : ∀ index, e.field.kind.messageIndex? = some index → index.toNat < m.schema.size
  default : e.field.DefaultSuits

/-- The message `m'` is `m` with the extension `e` registered. -/
structure Registered (m : Message) (e : Extension) (m' : Message) : Prop where
  rest : m' = { m with extensions := m'.extensions }
  listed : m'.extensions.list.Perm (e :: m.extensions.list)
  byNumber : m'.extensions.findByNumber? e.number = some e
  byName : m'.extensions.findByName? e.name = some e
  unset : m'.fields.find? e.number = none
  undone : m'.remove e = .done () m

/-- What registering the extension `e` does. -/
structure Registers (m : Message) (t : MessageType) (e : Extension) : Prop where
  accepted : (m.register e).result = .ok () ↔ m.CanRegister t e
  refused : ¬m.CanRegister t e → (m.register e).state = m
  registered : m.CanRegister t e → m.Registered e (m.register e).state

/-- The conditions are those that registering checks.  That the number fits a tag is not among them:
the ranges of a declared schema lie within the numbers that do. -/
theorem canRegister_iff (sound : m.Sound t) (extended : m.Extended t) :
    m.CanRegister t e ↔
      m.conflict? t e = none ∧ Schema.fieldFault? m.schema.size t e.field = none := by
  have agrees := extended.agrees
  rw [m.conflict?_eq_none_iff, agrees.findByNumber?_eq_none_iff, agrees.byName_eq_none_iff,
    Schema.fieldFault?_eq_none_iff_wellFormed]
  constructor
  · intro can
    have unkeyed : e.field.mapKey = none := by simpa [Field.isMap] using can.unkeyed
    have ranged : t.isOpenTo e.number = true := (t.isOpenTo_iff e.number).2 can.ranged
    have undeclared : t.field? e.number = none :=
      (sound.indexed.field?_eq_none_iff e.number).2 can.undeclared
    refine ⟨⟨⟨can.extendee, ranged, undeclared, can.ungrouped, unkeyed⟩, can.freeNumber,
      can.freeName⟩, ?_⟩
    exact
      { number := sound.declared.inRange_of_isOpenTo sound.type? ranged
        kind := can.typed
        mapKey := by simp [unkeyed]
        oneof := by simp [can.ungrouped]
        default := can.default }
  · rintro ⟨⟨admits, freeNumber, freeName⟩, formed⟩
    exact
      { extendee := admits.extendee
        ranged := (t.isOpenTo_iff e.number).1 admits.ranged
        undeclared := (sound.indexed.field?_eq_none_iff e.number).1 admits.undeclared
        ungrouped := admits.ungrouped
        unkeyed := by rw [Field.isMap, admits.unkeyed]; rfl
        freeNumber, freeName
        typed := formed.kind
        default := formed.default }

theorem register_of_free (type : m.type = .ok t) (free : m.conflict? t e = none)
    (faultless : Schema.fieldFault? m.schema.size t e.field = none) :
    m.register e = .done () { m with extensions := m.extensions.add e } := by
  simp only [register, type, free, faultless]

/-- What cannot be registered is refused, and nothing changes. -/
theorem register_of_not_free (type : m.type = .ok t)
    (taken : ¬(m.conflict? t e = none ∧ Schema.fieldFault? m.schema.size t e.field = none)) :
    ∃ fault, m.register e = .fail fault m := by
  simp only [register, type]
  cases free : m.conflict? t e with
  | some reason => exact ⟨_, rfl⟩
  | none =>
    cases faultless : Schema.fieldFault? m.schema.size t e.field with
    | some fault => exact ⟨_, rfl⟩
    | none => exact absurd ⟨free, faultless⟩ taken

/-- What is registered and not populated is removed. -/
theorem remove_of_registered (registered : m.isRegistered e = true)
    (hidden : m.has e.number = false) :
    m.remove e =
      .done () { m.unset e.number with extensions := m.extensions.drop e.number e.name } := by
  simp only [remove, registered, hidden, Bool.not_true, Bool.false_eq_true, ↓reduceIte]

theorem has_of_absent {n : FieldNumber} (absent : m.fields.find? n = none) : m.has n = false := by
  rw [has, absent]

namespace Sound

/-- Nothing is stored under a number that is free. -/
theorem find?_of_free (sound : m.Sound t) (free : m.conflict? t e = none) :
    m.fields.find? e.number = none := by
  cases stored : m.fields.find? e.number with
  | none => rfl
  | some v =>
    obtain ⟨f, field, -⟩ := sound.stored e.number v stored
    simp [field?_of_free free] at field

/-- A free extension that is added is found, listed once, unset, and can be taken back. -/
theorem registered_add (sound : m.Sound t) (extended : m.Extended t)
    (free : m.conflict? t e = none) :
    m.Registered e { m with extensions := m.extensions.add e } := by
  obtain ⟨-, freeNumber, freeName⟩ := (m.conflict?_eq_none_iff t e).1 free
  have agrees := extended.agrees.add freeNumber freeName
  have found : (m.extensions.add e).byNumber.find? e.number = some e :=
    Table.find?_insert_eq_some_iff.2 (.inl ⟨rfl, rfl⟩)
  have listed : e ∈ (m.extensions.add e).list := (agrees.mem_list_iff e).2 found
  have absent := sound.find?_of_free free
  refine ⟨rfl, extended.agrees.list_add freeNumber freeName, found,
    (agrees.findByName?_eq_some_iff e.name e).2 ⟨listed, rfl⟩, absent, ?_⟩
  have registered : Message.isRegistered { m with extensions := m.extensions.add e } e = true :=
    (isRegistered_iff _ e).2 ⟨e, found, rfl⟩
  rw [remove_of_registered registered (has_of_absent absent)]
  show Outcome.done () { m with fields := m.fields.erase e.number
                                extensions := (m.extensions.add e).drop e.number e.name } = _
  rw [m.fields.erase_of_find?_eq_none e.number absent, Registry.Agrees.drop_add freeNumber freeName]
  cases m
  rfl

theorem registers (sound : m.Sound t) (extended : m.Extended t) (e : Extension) :
    m.Registers t e := by
  by_cases can : m.CanRegister t e
  · obtain ⟨free, faultless⟩ := (canRegister_iff sound extended).1 can
    have done := register_of_free sound.type free faultless
    refine ⟨?_, fun cannot => absurd can cannot, fun _ => ?_⟩
    · simp [done, can]
    · rw [done]
      exact sound.registered_add extended free
  · obtain ⟨fault, refused⟩ := register_of_not_free (e := e) sound.type
      (mt (canRegister_iff sound extended).2 can)
    refine ⟨?_, fun _ => ?_, fun can' => absurd can' can⟩
    · simp [refused, can]
    · rw [refused, Outcome.state_fail]

end Sound

/-! ## Removing -/

/-- The message `m'` is `m` without the extension `e` and without the row of its field.  Nothing
is left of the extension: its number has no field, and what can be registered, under its number or
its name or any other, depends on the other extensions only. -/
structure Removed (m : Message) (t : MessageType) (e : Extension) (m' : Message) : Prop where
  rest : m' = { m with fields := m'.fields, extensions := m'.extensions }
  rows : m'.fields = m.fields.erase e.number
  listed : m.extensions.list.Perm (e :: m'.extensions.list)
  get : m'.get e.number = .null
  set : ∀ v, m'.set e.number v = .fail (.unknownFieldNumber t.name e.number) m'
  clear : m'.clear e.number = .fail (.unknownFieldNumber t.name e.number) m'
  edit : ∀ {α : Type} (run : Composite → Outcome Composite α),
    m'.edit e.number run = .fail (.unknownFieldNumber t.name e.number) m'
  again : m'.CanRegister t e
  registers : ∀ x, m'.Registers t x

/-- What removing the extension `e`, which is registered, does. -/
structure Removes (m : Message) (t : MessageType) (e : Extension) : Prop where
  refused : (m.remove e).result = .error (.extensionStillSet e.name e.number) ↔
    m.has e.number = true
  kept : m.has e.number = true → (m.remove e).state = m
  accepted : m.has e.number = false → (m.remove e).result = .ok ()
  removed : m.has e.number = false → m.Removed t e (m.remove e).state

theorem remove_of_populated (registered : m.isRegistered e = true)
    (populated : m.has e.number = true) :
    m.remove e = .fail (.extensionStillSet e.name e.number) m := by
  simp only [remove, registered, populated, Bool.not_true, Bool.false_eq_true, ↓reduceIte]

/-- A number that an extension was removed from has no field. -/
theorem field?_drop_self (undeclared : t.field? e.number = none) :
    Message.field? { m.unset e.number with extensions := m.extensions.drop e.number e.name } t
      e.number = none := by
  have gone : (m.extensions.drop e.number e.name).findByNumber? e.number = none := by
    rw [Registry.findByNumber?, Registry.drop, Table.find?_erase, if_pos rfl]
  simp only [Message.field?, undeclared, gone]
  rfl

namespace Sound

/-- A listed extension is registered under its number and its name. -/
theorem isRegistered_of_mem (extended : m.Extended t) (listed : e ∈ m.extensions.list) :
    m.isRegistered e = true :=
  (m.isRegistered_iff e).2 ⟨e, (extended.agrees.mem_list_iff e).1 listed, rfl⟩

theorem removed_drop (sound : m.Sound t) (extended : m.Extended t)
    (listed : e ∈ m.extensions.list) (hidden : m.has e.number = false) :
    m.Removed t e
      { m.unset e.number with extensions := m.extensions.drop e.number e.name } := by
  have found := (extended.agrees.mem_list_iff e).1 listed
  obtain ⟨-, undeclared, faultless⟩ := sound.registered e.number e found
  have change := Change.remove (isRegistered_of_mem extended listed) hidden
  have sound' := sound.remove e.number e.name
  have here : Composite.Sound (.message m) := ⟨t, sound⟩
  have held : Composite.OnMessage Message.Extended (.message m) := by
    intro t' type
    rwa [sound.type_eq type]
  have extended' : Message.Extended _ t := invariant_extended.change here held change t sound'.type
  have absent := field?_drop_self (m := m) (e := e) undeclared
  refine
    { rest := rfl
      rows := rfl
      listed := extended.agrees.list_drop listed
      get := m.get_unset e.number
      set := fun v => ?_
      clear := ?_
      edit := fun run => edit_of_unknown sound'.type absent run
      again := (canRegister_iff sound' extended').2 ⟨?_, faultless⟩
      registers := sound'.registers extended' }
  · simp only [Message.set, withField, sound'.type, absent]
  · simp only [Message.clear, withField, sound'.type, absent]
  · refine (conflict?_eq_none_iff _ t e).2 ⟨extended.admitted e.number e found, ?_, ?_⟩
    · exact (m.extensions.byNumber.find?_erase e.number e.number).trans (if_pos rfl)
    · exact (m.extensions.byName.find?_erase e.name e.name).trans (if_pos rfl)

theorem removes (sound : m.Sound t) (extended : m.Extended t) (listed : e ∈ m.extensions.list) :
    m.Removes t e := by
  have registered := isRegistered_of_mem extended listed
  cases populated : m.has e.number with
  | true =>
    have refused := remove_of_populated registered populated
    refine ⟨?_, fun _ => ?_, fun hidden => ?_, fun hidden => ?_⟩
    · simp [refused, populated]
    · rw [refused, Outcome.state_fail]
    · simp [populated] at hidden
    · simp [populated] at hidden
  | false =>
    have done := remove_of_registered registered populated
    refine ⟨?_, fun still => ?_, fun _ => ?_, fun _ => ?_⟩
    · simp [done, populated]
    · simp [populated] at still
    · rw [done, Outcome.result_done]
    · rw [done]
      exact sound.removed_drop extended listed populated

end Sound

end Message

/-- The life of an extension on a message that a run leads to.  It is registered when the conditions
hold, and that adds it and nothing else; it is removed unless its field is populated, and that takes
it away with all that was stored for it, and nothing else; and what was just registered is removed
without a trace. -/
theorem reachable_extension_lifecycle {m : Message} (reachable : Reachable (.message m)) :
    ∃ t, m.type = .ok t ∧ (∀ e, m.Registers t e) ∧ ∀ e ∈ m.extensions.list, m.Removes t e := by
  obtain ⟨t, sound⟩ := reachable.sound.here
  have extended := reachable.onMessage Message.invariant_extended sound.type
  exact ⟨t, sound.type, sound.registers extended, fun e listed => sound.removes extended listed⟩

namespace AddressBook

/-- A text under the number and the name of the landline. -/
def extensionLine : Extension :=
  .declare "tutorial.Person" { number := 101, name := "tutorial.landline", kind := .scalar .string }

/-- The nickname is kept while it is set; the landline is removed, and a text that takes its place
comes and goes without a trace. -/
theorem full_extension_lifecycle :
    Reachable (.message full) ∧ nickname ∈ full.extensions.list ∧
      landline ∈ full.extensions.list ∧
      (full.remove nickname).result = .error (.extensionStillSet nickname.name nickname.number) ∧
      (full.remove landline).result = .ok () ∧
      ((full.remove landline).state.register extensionLine).result = .ok () ∧
      ((full.remove landline).state.register extensionLine).state.remove extensionLine =
        .done () (full.remove landline).state := by
  have reachable : Reachable (.message full) := reachable_extend reachable_card
  have listed : nickname ∈ full.extensions.list := by decide +kernel
  have listed' : landline ∈ full.extensions.list := by decide +kernel
  obtain ⟨t, -, -, removes⟩ := reachable_extension_lifecycle reachable
  have kept := (removes nickname listed).refused.2 (by decide +kernel)
  have hidden : full.has landline.number = false := by decide +kernel
  have registers := ((removes landline listed').removed hidden).registers extensionLine
  have accepted : ((full.remove landline).state.register extensionLine).result = .ok () :=
    eq_ok_of_isOk (by decide +kernel)
  exact ⟨reachable, listed, listed', kept, (removes landline listed').accepted hidden, accepted,
    (registers.registered (registers.accepted.1 accepted)).undone⟩

end AddressBook

/-! ## What removing looks at -/

namespace Message

variable {m : Message} {t : MessageType} {e : Extension}

/-- Removing looks at the number and the name of an extension only. -/
theorem remove_eq_of_same (m : Message) {e x : Extension} (number : x.number = e.number)
    (name : x.name = e.name) : m.remove e = m.remove x := by
  simp only [remove, isRegistered, number, name]

/-- Removing changes something, or is refused, exactly if the number is registered under the
name. -/
theorem Sound.remove_eq_done_iff (sound : m.Sound t) (extended : m.Extended t) (e : Extension) :
    m.remove e = .done () m ↔ ∀ x ∈ m.extensions.list, x.number = e.number → x.name ≠ e.name := by
  constructor
  · intro same x listed number name
    rw [m.remove_eq_of_same number name] at same
    have removes := sound.removes extended listed
    cases populated : m.has x.number with
    | true =>
      have refused := removes.refused.2 populated
      simp [same] at refused
    | false =>
      have fewer := (removes.removed populated).listed.length_eq
      rw [same, Outcome.state_done, List.length_cons] at fewer
      omega
  · intro other
    have absent : m.isRegistered e = false := by
      rw [Bool.eq_false_iff, ne_eq, isRegistered_iff]
      rintro ⟨x, found, name⟩
      obtain ⟨listed, number⟩ := (extended.agrees.findByNumber?_eq_some_iff e.number x).1 found
      exact other x listed number name
    simp only [Message.remove, absent, Bool.not_false, ↓reduceIte]

end Message

/-- On a message that a run leads to, removing an extension is no change if none of its number and
name is registered, whatever it extends; otherwise that one is removed, whatever it extends. -/
theorem reachable_remove_decided {m : Message} (reachable : Reachable (.message m))
    (e : Extension) :
    (m.remove e = .done () m ↔
      ∀ x ∈ m.extensions.list, x.number = e.number → x.name ≠ e.name) ∧
    ∀ x ∈ m.extensions.list, x.number = e.number → x.name = e.name → m.remove e = m.remove x := by
  obtain ⟨t, sound⟩ := reachable.sound.here
  have extended := reachable.onMessage Message.invariant_extended sound.type
  exact ⟨sound.remove_eq_done_iff extended e, fun x _ number name => m.remove_eq_of_same number name⟩

namespace AddressBook

/-- An extension of phone numbers with the number and the name of the nickname. -/
def misaddressed : Extension :=
  .declare "tutorial.PhoneNumber"
    { number := 100, name := "tutorial.nickname", kind := .scalar .string }

/-- On the filled-in card the misaddressed nickname is refused like the nickname, and one of another
name is no change. -/
theorem full_remove_decided :
    Reachable (.message full) ∧ full.remove misaddressed = full.remove nickname ∧
      full.remove { nickname with field := { nickname.field with name := "tutorial.alias" } } =
        .done () full := by
  have reachable : Reachable (.message full) := reachable_extend reachable_card
  refine ⟨reachable, ?_, ?_⟩
  · exact (reachable_remove_decided reachable misaddressed).2 nickname (by decide +kernel) (by decide)
      (by decide)
  · exact (reachable_remove_decided reachable _).1.2 (by decide +kernel)

/-- Nobody could have registered the misaddressed nickname on a person, and removing it takes the
nickname of the bare card away. -/
theorem misaddressed_removes_nickname :
    Reachable (.message bare) ∧ (∃ t, bare.type = .ok t ∧ misaddressed.extendee ≠ t.name) ∧
      bare.extensions.list = [nickname, landline] ∧
      (bare.remove misaddressed).state.extensions.list = [landline] ∧
      bare.remove misaddressed ≠ .done () bare := by
  have reachable : Reachable (.message bare) := reachable_extend reachable_blank
  have listed : bare.extensions.list = [nickname, landline] := by decide +kernel
  have left : (bare.remove misaddressed).state.extensions.list = [landline] := by decide +kernel
  have named : (bare.schema.type? bare.index).map (·.name) = some "tutorial.Person" := by
    decide +kernel
  obtain ⟨t, found, name⟩ := Option.map_eq_some_iff.1 named
  refine ⟨reachable, ⟨t, (bare.type_eq_ok_iff t).2 found, ?_⟩, listed, left, fun same => ?_⟩
  · rw [name]
    decide
  · rw [same, Outcome.state_done, listed] at left
    simp at left

end AddressBook

end DynamicMessage
