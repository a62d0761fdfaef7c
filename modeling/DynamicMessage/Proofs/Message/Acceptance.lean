/-
# Proofs.Message.Acceptance -- which values a field takes

Whether a field can be set is a matter of its declaration and of what is offered: `Field.answer`
has no message to look at.  A field takes null if it is nullable, and else what suits it
(`Field.Takes`); everything else it refuses for a reason of its own (`Field.Refuses`), of which
there is one for every value (`Field.answer_eq_error_iff`).

A message refuses a number that it has no field for, and leaves the rest to the field.  So setting
depends on the type and the extensions of a message, and on nothing that is stored in it
(`reachable_set_decided`).
-/
import DynamicMessage.Proofs.Message.Registry
import DynamicMessage.Proofs.Refusals

namespace DynamicMessage

set_option autoImplicit false

/-! ## Checks that fail -/

/-- The values of the member `message` are the messages. -/
theorem Value.member_eq_message_iff (v : Value) : v.member = .message ↔ ∃ m, v = .message m := by
  constructor
  · intro member
    cases v with
    | null => cases member
    | scalar x => cases x <;> cases member
    | composite c =>
      cases c with
      | message m => exact ⟨m, rfl⟩
      | vector => cases member
      | map => cases member
  · rintro ⟨m, rfl⟩
    rfl

/-- Unless a message is offered where messages belong, a value is refused for its member. -/
theorem Schema.misfit?_of_otherMember {s : Schema} {kind : Kind} {v : Value}
    (unfit : ¬kind.Holds s v) (apart : ¬(kind.IsMessage ∧ v.member = .message)) :
    s.misfit? kind v = some (v.mismatch kind.member) := by
  have misfit : s.misfit? kind v ≠ none := fun fits => unfit ((s.misfit?_eq_none_iff kind v).1 fits)
  unfold misfit? at misfit ⊢
  split
  · rename_i index m named
    exact absurd ⟨kind.isMessage_iff.2 ⟨index, named⟩, rfl⟩ apart
  · split
    · rename_i accepted
      simp [accepted] at misfit
    · rfl
  · rfl

/-- A message of another type or schema is refused by the names of the types. -/
theorem Schema.misfit?_of_otherMessage {s : Schema} {kind : Kind} {m : Message}
    {index : MessageIndex} {expected got : MessageType} (named : kind.messageIndex? = some index)
    (declared : s.type? index = some expected) (type : m.type = .ok got)
    (unfit : ¬kind.Holds s (.message m)) :
    s.misfit? kind (.message m) = some (.messageTypeMismatch expected.name got.name) := by
  have differs : ¬(m.schema = s ∧ m.index = index) := by
    rintro ⟨schema, same⟩
    exact unfit (.message (by rw [named, same]) schema)
  simp only [misfit?, named, differs, typeAt_of_type? declared, type, ↓reduceIte]

/-- Why a value other than null is no singular value of a kind in a schema. -/
inductive Kind.Refuses (s : Schema) (kind : Kind) : Value → Error → Prop where
  /-- The kind is that of a message, of another type or in another schema. -/
  | otherMessage {m : Message} {index : MessageIndex} {expected got : MessageType}
      (named : kind.messageIndex? = some index) (declared : s.type? index = some expected)
      (type : m.type = .ok got) (unfit : ¬kind.Holds s (.message m)) :
      Refuses s kind (.message m) (.messageTypeMismatch expected.name got.name)
  /-- The value does not suit, and is no message for a kind of messages. -/
  | otherMember {x : Value} (notNull : x ≠ .null) (unfit : ¬kind.Holds s x)
      (apart : ¬(kind.IsMessage ∧ x.member = .message)) :
      Refuses s kind x (.typeMismatch (.member kind.member) x.member)

theorem Kind.Refuses.misfit? {s : Schema} {kind : Kind} {x : Value} {e : Error}
    (refuses : kind.Refuses s x e) : x ≠ .null ∧ s.misfit? kind x = some e := by
  cases refuses with
  | otherMessage named declared type unfit =>
    exact ⟨by simp, Schema.misfit?_of_otherMessage named declared type unfit⟩
  | otherMember notNull unfit apart =>
    exact ⟨notNull, Schema.misfit?_of_otherMember unfit apart⟩

/-- A value is null, suits the kind, or is refused for a reason, if the kind names a type of the
schema and the value knows its own. -/
theorem Kind.null_or_holds_or_refuses {s : Schema} {kind : Kind} (names : s.Names kind) {x : Value}
    (typed : x.HasType) : x = .null ∨ kind.Holds s x ∨ ∃ e, kind.Refuses s x e := by
  by_cases null : x = .null
  · exact .inl null
  by_cases holds : kind.Holds s x
  · exact .inr (.inl holds)
  right; right
  by_cases offered : kind.IsMessage ∧ x.member = .message
  · obtain ⟨message, member⟩ := offered
    obtain ⟨m, rfl⟩ := x.member_eq_message_iff.1 member
    obtain ⟨index, named⟩ := kind.isMessage_iff.1 message
    obtain ⟨expected, declared⟩ := names index named
    obtain ⟨got, type⟩ := typed (.message m) rfl
    exact ⟨_, .otherMessage named declared type holds⟩
  · exact ⟨_, .otherMember null holds offered⟩

namespace Field

/-! ## What a field answers -/

/-- The field holds one message. -/
def IsMessage (f : Field) : Prop := f.isMap = false ∧ f.isList = false ∧ f.kind.IsMessage

/-- The member of what the field holds. -/
def member (f : Field) : Member :=
  if f.isMap then .map else if f.isList then .vector else f.kind.member

/-- The values that the field can be set to in a schema. -/
inductive Takes (f : Field) (s : Schema) : Value → Prop where
  /-- Null clears a field that can be null. -/
  | null (nullable : f.isNullable = true) : Takes f s .null
  /-- What suits is not null. -/
  | fits {v : Value} (notNull : v ≠ .null) (holds : f.Holds s v) : Takes f s v

/-- Why the field cannot be set to a value in a schema. -/
inductive Refuses (f : Field) (s : Schema) : Value → Error → Prop where
  /-- The field cannot be null. -/
  | null (required : f.isNullable = false) : Refuses f s .null (.nullRejected .fieldSet)
  /-- The field holds one message, of another type or in another schema. -/
  | otherMessage {m : Message} {index : MessageIndex} {expected got : MessageType}
      (one : f.IsMessage) (named : f.kind.messageIndex? = some index)
      (declared : s.type? index = some expected) (type : m.type = .ok got)
      (unfit : ¬f.Holds s (.message m)) :
      Refuses f s (.message m) (.messageTypeMismatch expected.name got.name)
  /-- The value does not suit, and is no message for a field that holds one. -/
  | otherMember {v : Value} (notNull : v ≠ .null) (unfit : ¬f.Holds s v)
      (apart : ¬(f.IsMessage ∧ v.member = .message)) :
      Refuses f s v (.typeMismatch (.member f.member) v.member)

/-- What setting the field to a value answers. -/
def answer (f : Field) (s : Schema) (v : Value) : Except Error Unit :=
  if v.isNull then if f.isNullable then .ok () else .error (.nullRejected .fieldSet)
  else
    match f.misfit? s v with
    | none => .ok ()
    | some e => .error e

variable {f : Field} {s : Schema} {v : Value}

/-- Unless a message is offered to a field that holds one, a value is refused for its member. -/
theorem misfit?_of_otherMember (unfit : ¬f.Holds s v)
    (apart : ¬(f.IsMessage ∧ v.member = .message)) :
    f.misfit? s v = some (v.mismatch f.member) := by
  have misfit : f.misfit? s v ≠ none := fun fits => unfit ((f.misfit?_eq_none_iff s v).1 fits)
  cases keyed : f.mapKey with
  | some key =>
    have member : f.member = .map := by simp [Field.member, isMap, keyed]
    simp only [misfit?, keyed, member] at misfit ⊢
    split
    · split
      · rename_i same
        simp [same] at misfit
      · rfl
    · rfl
  | none =>
    have unkeyed : f.isMap = false := by simp [isMap, keyed]
    by_cases list : f.isList = true
    · have member : f.member = .vector := by simp [Field.member, unkeyed, list]
      simp only [misfit?, keyed, list, member, ↓reduceIte] at misfit ⊢
      split
      · split
        · rename_i same
          simp [same] at misfit
        · rfl
      · rfl
    · have single : f.isList = false := by simpa using list
      have member : f.member = f.kind.member := by simp [Field.member, unkeyed, single]
      rw [misfit?_of_singular keyed single, member]
      apply Schema.misfit?_of_otherMember
      · intro holds
        exact unfit (.singular keyed single holds)
      · rintro ⟨kind, message⟩
        exact apart ⟨⟨unkeyed, single, kind⟩, message⟩

/-- A message of another type or schema is refused by the names of the types. -/
theorem misfit?_of_otherMessage {m : Message} {index : MessageIndex} {expected got : MessageType}
    (one : f.IsMessage) (named : f.kind.messageIndex? = some index)
    (declared : s.type? index = some expected) (type : m.type = .ok got)
    (unfit : ¬f.Holds s (.message m)) :
    f.misfit? s (.message m) = some (.messageTypeMismatch expected.name got.name) := by
  obtain ⟨unkeyed, single, -⟩ := one
  have keyed : f.mapKey = none := by simpa [isMap] using unkeyed
  rw [misfit?_of_singular keyed single]
  apply Schema.misfit?_of_otherMessage named declared type
  intro holds
  exact unfit (.singular keyed single holds)

theorem answer_null (f : Field) (s : Schema) :
    f.answer s .null = if f.isNullable then .ok () else .error (.nullRejected .fieldSet) := rfl

theorem answer_of_fits (notNull : v ≠ .null) (holds : f.Holds s v) : f.answer s v = .ok () := by
  simp [answer, Value.isNull_of_ne_null notNull, (f.misfit?_eq_none_iff s v).2 holds]

theorem answer_of_misfit (notNull : v ≠ .null) {e : Error} (misfit : f.misfit? s v = some e) :
    f.answer s v = .error e := by
  simp [answer, Value.isNull_of_ne_null notNull, misfit]

/-- A value that the field does not take is refused for a reason, if the kind of the field names a
type of the schema and the value knows its own. -/
theorem takes_or_refuses (names : s.Names f.kind) (typed : v.HasType) :
    f.Takes s v ∨ ∃ e, f.Refuses s v e := by
  by_cases null : v = .null
  · subst null
    by_cases nullable : f.isNullable = true
    · exact .inl (.null nullable)
    · exact .inr ⟨_, .null (by simpa using nullable)⟩
  by_cases holds : f.Holds s v
  · exact .inl (.fits null holds)
  · right
    by_cases offered : f.IsMessage ∧ v.member = .message
    · obtain ⟨one, member⟩ := offered
      obtain ⟨m, rfl⟩ := v.member_eq_message_iff.1 member
      obtain ⟨index, named⟩ := f.kind.isMessage_iff.1 one.2.2
      obtain ⟨expected, declared⟩ := names index named
      obtain ⟨got, type⟩ := typed (.message m) rfl
      exact ⟨_, .otherMessage one named declared type holds⟩
    · exact ⟨_, .otherMember null holds offered⟩

theorem Takes.answer (takes : f.Takes s v) : f.answer s v = .ok () := by
  cases takes with
  | null nullable => rw [answer_null, if_pos nullable]
  | fits notNull holds => exact answer_of_fits notNull holds

theorem Refuses.answer {e : Error} (refuses : f.Refuses s v e) : f.answer s v = .error e := by
  cases refuses with
  | null required => simp [answer_null, required]
  | otherMessage one named declared type unfit =>
    exact answer_of_misfit (by simp) (misfit?_of_otherMessage one named declared type unfit)
  | otherMember notNull unfit apart =>
    exact answer_of_misfit notNull (misfit?_of_otherMember unfit apart)

/-- A field takes what it does not refuse. -/
theorem answer_eq_ok_iff (f : Field) (s : Schema) (v : Value) :
    f.answer s v = .ok () ↔ f.Takes s v := by
  constructor
  · intro accepted
    by_cases null : v = .null
    · subst null
      by_cases nullable : f.isNullable = true
      · exact .null nullable
      · simp [answer_null, nullable] at accepted
    · refine .fits null ((f.misfit?_eq_none_iff s v).1 ?_)
      cases misfit : f.misfit? s v with
      | none => rfl
      | some e => simp [answer_of_misfit null misfit] at accepted
  · exact Takes.answer

/-- A refusal gives the one reason that there is for it. -/
theorem answer_eq_error_iff (names : s.Names f.kind) (typed : v.HasType) (e : Error) :
    f.answer s v = .error e ↔ f.Refuses s v e := by
  constructor
  · intro refused
    rcases takes_or_refuses names typed with takes | ⟨e', refuses⟩
    · simp [takes.answer] at refused
    · rw [refuses.answer] at refused
      rwa [← Except.error.inj refused]
  · exact Refuses.answer

end Field

/-! ## What a message answers -/

namespace Message

variable {m : Message} {t : MessageType} {n : FieldNumber} {f : Field}

/-- Why a field of a message cannot be set: there is none of the number, or it refuses the value. -/
inductive RefusesToSet (m : Message) (n : FieldNumber) (v : Value) : Error → Prop where
  | unknown {t : MessageType} (type : m.type = .ok t) (absent : ∀ f, ¬m.HasField n f) :
      RefusesToSet m n v (.unknownFieldNumber t.name n)
  | field {f : Field} {e : Error} (has : m.HasField n f) (refuses : f.Refuses m.schema v e) :
      RefusesToSet m n v e

/-- Setting a field answers what the field does. -/
theorem result_set_of_field? (type : m.type = .ok t) (field : m.field? t n = some f) (v : Value) :
    (m.set n v).result = f.answer m.schema v := by
  simp only [Message.set, withField, type, field, Field.answer]
  split
  · split <;> rfl
  · cases f.misfit? m.schema v with
    | none => cases isKept f v <;> rfl
    | some e => rfl

namespace Sound

theorem result_set_of_hasField (sound : m.Sound t) (has : m.HasField n f) (v : Value) :
    (m.set n v).result = f.answer m.schema v :=
  result_set_of_field? sound.type ((sound.hasField_iff n f).1 has) v

theorem result_set_of_absent (sound : m.Sound t) (absent : ∀ f, ¬m.HasField n f) (v : Value) :
    (m.set n v).result = .error (.unknownFieldNumber t.name n) := by
  simp only [Message.set, withField, sound.type, sound.field?_of_absent absent]
  rfl

theorem result_set_eq_ok_iff (sound : m.Sound t) (n : FieldNumber) (v : Value) :
    (m.set n v).result = .ok () ↔ ∃ f, m.HasField n f ∧ f.Takes m.schema v := by
  by_cases known : ∃ f, m.HasField n f
  · obtain ⟨f, has⟩ := known
    rw [sound.result_set_of_hasField has, f.answer_eq_ok_iff]
    constructor
    · intro takes
      exact ⟨f, has, takes⟩
    · rintro ⟨g, has', takes⟩
      rwa [sound.hasField_unique has' has]
  · rw [sound.result_set_of_absent (fun f has => known ⟨f, has⟩)]
    constructor
    · intro accepted
      cases accepted
    · rintro ⟨f, has, -⟩
      exact absurd ⟨f, has⟩ known

theorem result_set_eq_error_iff (sound : m.Sound t) (n : FieldNumber) {v : Value}
    (typed : v.HasType) (e : Error) :
    (m.set n v).result = .error e ↔ m.RefusesToSet n v e := by
  by_cases known : ∃ f, m.HasField n f
  · obtain ⟨f, has⟩ := known
    have names := sound.names ((sound.hasField_iff n f).1 has)
    rw [sound.result_set_of_hasField has, Field.answer_eq_error_iff names typed]
    constructor
    · exact .field has
    · intro refused
      cases refused with
      | unknown _ absent => exact absurd has (absent f)
      | field has' refuses => rwa [sound.hasField_unique has has'] at refuses
  · have absent : ∀ f, ¬m.HasField n f := fun f has => known ⟨f, has⟩
    rw [sound.result_set_of_absent absent]
    constructor
    · intro refused
      rw [← Except.error.inj refused]
      exact .unknown sound.type absent
    · intro refused
      cases refused with
      | unknown type => rw [sound.type_eq type]
      | field has => exact absurd has (absent _)

end Sound

/-! ## What is stored does not matter -/

/-- The two messages have one type in one schema, and one set of extensions. -/
structure SameFields (m m' : Message) : Prop where
  schema : m.schema = m'.schema
  index : m.index = m'.index
  extensions : ∀ e, e ∈ m.extensions.list ↔ e ∈ m'.extensions.list

namespace SameFields

variable {m' : Message}

theorem symm (same : m.SameFields m') : m'.SameFields m where
  schema := same.schema.symm
  index := same.index.symm
  extensions e := (same.extensions e).symm

theorem type_eq (same : m.SameFields m') : m.type = m'.type := by
  rw [Message.type, Message.type, same.schema, same.index]

/-- What one of them has a field for, the other one has. -/
theorem hasField (same : m.SameFields m') (agrees : m.extensions.Agrees)
    (agrees' : m'.extensions.Agrees) (has : m.HasField n f) : m'.HasField n f := by
  cases has with
  | declared type listed number =>
    rw [same.schema, same.index] at type
    exact .declared type listed number
  | @registered e found number =>
    obtain ⟨listed, -⟩ := (agrees.findByNumber?_eq_some_iff n e).1 found
    have listed' := (same.extensions e).1 listed
    exact .registered ((agrees'.findByNumber?_eq_some_iff n e).2 ⟨listed', number⟩) number

/-- They answer alike when a field is set. -/
theorem result_set_eq {t t' : MessageType} (same : m.SameFields m') (sound : m.Sound t)
    (sound' : m'.Sound t') (agrees : m.extensions.Agrees) (agrees' : m'.extensions.Agrees)
    (n : FieldNumber) (v : Value) : (m.set n v).result = (m'.set n v).result := by
  by_cases known : ∃ f, m.HasField n f
  · obtain ⟨f, has⟩ := known
    have has' := same.hasField agrees agrees' has
    rw [sound.result_set_of_hasField has, sound'.result_set_of_hasField has', same.schema]
  · have absent : ∀ f, ¬m.HasField n f := fun f has => known ⟨f, has⟩
    have absent' : ∀ f, ¬m'.HasField n f :=
      fun f has => absent f (same.symm.hasField agrees' agrees has)
    have one := sound.type_eq (same.type_eq.trans sound'.type)
    rw [sound.result_set_of_absent absent, sound'.result_set_of_absent absent', one]

end SameFields

end Message

/-- Whatever led to a message, what it can be set to is decided by its declaration.  A value is
accepted exactly if there is a field of the number that takes it, and refused for the one reason
there is against it: the number first, then null, then a message of another type or schema where one
message belongs, and a value of another member or of other kinds everywhere else.  A message of the
same type with the same extensions answers alike, whatever is stored in either. -/
theorem reachable_set_decided {m : Message} (reachable : Reachable (.message m)) :
    (∀ n v, (m.set n v).result = .ok () ↔ ∃ f, m.HasField n f ∧ f.Takes m.schema v) ∧
      (∀ n v, Reachable v → ∀ e, (m.set n v).result = .error e ↔ m.RefusesToSet n v e) ∧
      ∀ m', Reachable (.message m') → m.SameFields m' →
        ∀ n v, (m.set n v).result = (m'.set n v).result := by
  obtain ⟨t, sound⟩ := reachable.sound.here
  have agrees := (reachable.onMessage Message.invariant_extended sound.type).agrees
  refine ⟨sound.result_set_eq_ok_iff, fun n v given => ?_, fun m' reachable' same => ?_⟩
  · exact sound.result_set_eq_error_iff n given.sound.hasType
  · obtain ⟨t', sound'⟩ := reachable'.sound.here
    have agrees' := (reachable'.onMessage Message.invariant_extended sound'.type).agrees
    exact same.result_set_eq sound sound' agrees agrees'

namespace AddressBook

/-- Registers a nickname and a landline, which is one more phone number. -/
def extend : Program .message :=
  .seq
    (.write (.register "tutorial.Person"
      { number := 100, name := "tutorial.nickname", kind := .scalar .string }))
    (.write (.register "tutorial.Person"
      { number := 101, name := "tutorial.landline", kind := .message phoneNumber }))

/-- The filled-in card with both extensions. -/
def full : Message := (extend.run card).state

/-- A card with both extensions and nothing on it. -/
def bare : Message := (extend.run blank).state

theorem reachable_extend {m : Message} (reachable : Reachable (.message m)) :
    Reachable (.message (extend.run m).state) := by
  refine .run (σ := .message) extend reachable ?_
  intro v member
  simp [extend, Program.arguments, Write.arguments] at member

theorem sameFields_full_bare : full.SameFields bare where
  schema := by decide +kernel
  index := by decide +kernel
  extensions e := by
    have same : full.extensions.list = bare.extensions.list := by decide +kernel
    rw [same]

/-- The landline of a person, which is registered. -/
def landline : Extension :=
  .declare "tutorial.Person"
    { number := 101, name := "tutorial.landline", kind := .message phoneNumber }

theorem hasField_landline : full.HasField 101 landline.field :=
  .registered (by decide +kernel) rfl

/-- The filled-in card is a person. -/
theorem type_full : ∃ t, full.schema.type? full.index = some t ∧ t.name = "tutorial.Person" ∧
    t.fields = personType.fields := by
  have same : (full.schema.type? full.index).map (fun t => (t.name, t.fields)) =
      some ("tutorial.Person", personType.fields) := by decide +kernel
  obtain ⟨t, found, same⟩ := Option.map_eq_some_iff.1 same
  exact ⟨t, found, congrArg Prod.fst same, congrArg Prod.snd same⟩

theorem hasField_full {f : Field} (listed : f ∈ personType.fields) :
    full.HasField f.number f := by
  obtain ⟨t, found, -, same⟩ := type_full
  exact .declared found (by rwa [same]) rfl

theorem not_hasField_full (f : Field) : ¬full.HasField 102 f := by
  intro has
  cases has with
  | declared type listed number =>
    obtain ⟨t, found, -, same⟩ := type_full
    obtain rfl := Option.some.inj (found.symm.trans type)
    rw [same] at listed
    have other : ∀ g ∈ personType.fields, g.number ≠ 102 := by decide
    exact other f listed number
  | registered found =>
    have free : full.extensions.findByNumber? 102 = none := by decide +kernel
    rw [free] at found
    cases found

/-- The schema of a second declaration that says the same. -/
def copy : Schema := { schema with id := 1 }

theorem declare_copy : Schema.declare 1 types = .ok copy := by
  have same : (Schema.declare 1 types).toOption = some copy := by decide +kernel
  cases declared : Schema.declare 1 types with
  | error e => simp [declared, Except.toOption] at same
  | ok s => simpa [declared, Except.toOption] using same

/-- Phone numbers of the second declaration. -/
def copied : Vector := .empty copy (.message phoneNumber)

theorem reachable_copied : Reachable (.vector copied) := by
  have made : Vector.new copy (.message phoneNumber) = .ok copied := by
    have found : (copy.type? phoneNumber).isSome = true := by decide +kernel
    obtain ⟨t, found⟩ := Option.isSome_iff_exists.1 found
    simp [Vector.new, Kind.messageIndex?, found, copied]
  exact .newVector ⟨1, types, declare_copy⟩ made

/-- The landline can be cleared, and takes no person; the phones take no vector of the same
declaration made twice; a name is not null, and a number without a field is unknown also for null.
The bare card answers everything like the filled-in one. -/
theorem full_set_decided :
    Reachable (.message full) ∧
      (full.set 101 .null).result = .ok () ∧
      (full.set 101 (.message blank)).result =
        .error (.messageTypeMismatch "tutorial.PhoneNumber" "tutorial.Person") ∧
      (full.set 4 (.vector copied)).result = .error (.typeMismatch (.member .vector) .vector) ∧
      (full.set 1 .null).result = .error (.nullRejected .fieldSet) ∧
      (full.set 102 .null).result = .error (.unknownFieldNumber "tutorial.Person" 102) ∧
      ∀ n v, (full.set n v).result = (bare.set n v).result := by
  have reachable : Reachable (.message full) := reachable_extend reachable_card
  obtain ⟨accepted, refused, alike⟩ := reachable_set_decided reachable
  have name := hasField_full (f := { number := 1, name := "name", kind := .scalar .string })
    (by decide)
  have phones := hasField_full
    (f := .repeated { number := 4, name := "phones", kind := .message phoneNumber }) (by decide)
  have cleared : landline.field.Takes full.schema .null := .null (by decide)
  refine ⟨reachable, (accepted 101 .null).2 ⟨_, hasField_landline, cleared⟩, ?_, ?_,
    (refused 1 .null .null _).2 (.field name (.null rfl)), ?_,
    alike bare (reachable_extend reachable_blank) sameFields_full_bare⟩
  · have phone : (full.schema.type? phoneNumber).map (·.name) = some "tutorial.PhoneNumber" := by
      decide +kernel
    obtain ⟨expected, declared, expectedName⟩ := Option.map_eq_some_iff.1 phone
    have person : (blank.schema.type? blank.index).map (·.name) = some "tutorial.Person" := by
      decide +kernel
    obtain ⟨got, found, gotName⟩ := Option.map_eq_some_iff.1 person
    have one : landline.field.IsMessage := ⟨rfl, rfl, _, .inl rfl⟩
    have unfit : ¬landline.field.Holds full.schema (.message blank) := by
      rw [← Field.misfit?_eq_none_iff]
      decide +kernel
    have refuses := Field.Refuses.otherMessage one rfl declared ((blank.type_eq_ok_iff got).2 found)
      unfit
    rw [← expectedName, ← gotName]
    exact (refused 101 _ reachable_blank _).2 (.field hasField_landline refuses)
  · refine (refused 4 _ reachable_copied _).2 (.field phones (.otherMember (by simp) ?_ ?_))
    · rw [← Field.misfit?_eq_none_iff]
      decide +kernel
    · rintro ⟨-, ⟨⟩⟩
  · obtain ⟨t, found, named, -⟩ := type_full
    rw [← named]
    have type := (full.type_eq_ok_iff t).2 found
    exact (refused 102 .null .null _).2 (.unknown type not_hasField_full)

end AddressBook

end DynamicMessage
