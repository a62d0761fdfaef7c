/-
# Proofs.Refusals -- which calls are refused, and that none leaves the schema

An opening call is refused for what the declaration says, and for nothing that is stored: a field
opens if it is a map, a vector or a message, an element if it is a message and is there, the value
of a key if it is a message and the key suits (`Composite.OpensAsDeclared`).  The refusals of a
stored value that is not what it was declared as are never reached.

No call looks up a message type outside of its schema (`StaysInSchema`), because what an index
comes from has been validated against the same schema: declared and registered fields, containers
made by a program, and the values passed to a call.
-/
import DynamicMessage.Proofs.Typing

namespace DynamicMessage

set_option autoImplicit false

/-! ## Refusals -/

/-- The error is not that a message type is missing from its schema. -/
def Error.StaysInSchema (e : Error) : Prop := ∀ index, e ≠ .detachedType index

/-- An answer, unless it is a refusal for a message type that is missing from its schema. -/
def StaysInSchema {α : Type} (answer : Except Error α) : Prop :=
  ∀ e, answer = .error e → e.StaysInSchema

/-- A check, unless it fails for a message type that is missing from its schema. -/
def CheckStays (fault : Option Error) : Prop := ∀ e, fault = some e → e.StaysInSchema

/-- A call that succeeds exactly if it is possible, and is refused only for one of some causes. -/
structure Settled {α : Type} (answer : Except Error α) (possible : Prop) (cause : Error → Prop) :
    Prop where
  succeeds : (∃ a, answer = .ok a) ↔ possible
  refused : ∀ e, answer = .error e → cause e

section

variable {α β : Type}

theorem StaysInSchema.ok (a : α) : StaysInSchema (.ok a) := by
  rintro e ⟨⟩

theorem StaysInSchema.error {e : Error} (stays : e.StaysInSchema) :
    StaysInSchema (.error e : Except Error α) := by
  rintro _ ⟨⟩
  exact stays

theorem StaysInSchema.map {answer : Except Error α} (stays : StaysInSchema answer) (form : α → β) :
    StaysInSchema (answer.map form) := by
  cases answer with
  | ok a => exact .ok (form a)
  | error e => exact .error (stays e rfl)

theorem CheckStays.none : CheckStays none := by
  rintro e ⟨⟩

theorem CheckStays.some {e : Error} (stays : e.StaysInSchema) : CheckStays (some e) := by
  rintro _ ⟨⟩
  exact stays

theorem CheckStays.or {first second : Option Error} (stays : CheckStays first)
    (stays' : CheckStays second) : CheckStays (first.or second) := by
  cases first with
  | none => exact stays'
  | some e => exact stays

variable {possible : Prop} {cause : Error → Prop}

theorem Settled.ok (a : α) (holds : possible) : Settled (.ok a) possible cause where
  succeeds := ⟨fun _ => holds, fun _ => ⟨a, rfl⟩⟩
  refused := by rintro e ⟨⟩

theorem Settled.error {e : Error} (fails : ¬possible) (because : cause e) :
    Settled (.error e : Except Error α) possible cause where
  succeeds := by
    constructor
    · rintro ⟨a, ⟨⟩⟩
    · intro holds
      exact absurd holds fails
  refused := by
    rintro _ ⟨⟩
    exact because

/-- A call stays in the schema if its causes do. -/
theorem Settled.stays {answer : Except Error α} (settled : Settled answer possible cause)
    (causes : ∀ e, cause e → e.StaysInSchema) : StaysInSchema answer :=
  fun e refused => causes e (settled.refused e refused)

end

/-! ## Checks -/

/-- A message knows its type. -/
def Composite.HasType : Composite → Prop
  | .message m => ∃ t, m.type = .ok t
  | _ => True

theorem Composite.Sound.hasType {c : Composite} (sound : c.Sound) : c.HasType := by
  cases c with
  | message m =>
    obtain ⟨t, sound⟩ := sound
    exact ⟨t, sound.type⟩
  | vector => trivial
  | map => trivial

/-- The values with types that they know. -/
def Value.HasType (v : Value) : Prop := ∀ c, v = .composite c → c.HasType

theorem Everywhere.hasType {v : Value} (sound : Everywhere Composite.Sound v) : v.HasType := by
  rintro c rfl
  exact sound.here.hasType

theorem Value.mismatch_stays (expected : Member) (v : Value) :
    (v.mismatch expected).StaysInSchema := by
  rintro index ⟨⟩

/-- A kind of the schema is checked in the schema. -/
theorem Schema.misfit?_stays {s : Schema} {kind : Kind} {v : Value} (names : s.Names kind)
    (typed : v.HasType) : CheckStays (s.misfit? kind v) := by
  unfold misfit?
  split
  · rename_i index m named
    split
    · exact .none
    · obtain ⟨expected, found⟩ := names index named
      obtain ⟨got, type⟩ := typed _ rfl
      rw [typeAt_of_type? found, type]
      exact .some (by rintro _ ⟨⟩)
  · split
    · exact .none
    · exact .some (Value.mismatch_stays _ _)
  · exact .some (Value.mismatch_stays _ _)

theorem Field.misfit?_stays {f : Field} {s : Schema} {v : Value} (names : s.Names f.kind)
    (typed : v.HasType) : CheckStays (f.misfit? s v) := by
  unfold misfit?
  split
  · split
    · split
      · exact .none
      · exact .some (Value.mismatch_stays _ _)
    · exact .some (Value.mismatch_stays _ _)
  · split
    · split
      · split
        · exact .none
        · exact .some (Value.mismatch_stays _ _)
      · exact .some (Value.mismatch_stays _ _)
    · exact Schema.misfit?_stays names typed

theorem Vector.misfit?_stays {v : Vector} (names : v.schema.Names v.kind) (context : NullContext)
    {x : Value} (typed : x.HasType) : CheckStays (v.misfit? context x) := by
  unfold misfit?
  split
  · exact .some (by rintro _ ⟨⟩)
  · exact Schema.misfit?_stays names typed

theorem Map.keyMisfit?_stays (m : Map) (k : Key) : CheckStays (m.keyMisfit? k) := by
  unfold keyMisfit?
  split
  · exact .none
  · exact .some (by rintro _ ⟨⟩)

theorem Schema.defaultFault?_stays (t : MessageType) (f : Field) :
    CheckStays (defaultFault? t f) := by
  simp only [defaultFault?]
  split
  · exact .none
  · exact .some (by rintro _ ⟨⟩)
  · exact .some (by rintro _ ⟨⟩)
  · split
    · exact .some (by rintro _ ⟨⟩)
    · split
      · exact .none
      · exact .some (by rintro _ ⟨⟩)

theorem Schema.fieldFault?_stays (count : Nat) (t : MessageType) (f : Field) :
    CheckStays (fieldFault? count t f) := by
  refine .or ?_ (.or ?_ (.or ?_ (.or ?_ (defaultFault?_stays t f))))
  · unfold numberFault?
    split
    · exact .none
    · exact .some (by rintro _ ⟨⟩)
  · unfold kindFault?
    split
    · exact .none
    · split
      · exact .none
      · exact .some (by rintro _ ⟨⟩)
  · unfold mapKeyFault?
    split
    · exact .none
    · split
      · exact .none
      · exact .some (by rintro _ ⟨⟩)
  · unfold oneofFault?
    split
    · exact .none
    · split
      · exact .none
      · exact .some (by rintro _ ⟨⟩)

theorem Wire.Scan.fault?_stays (scan : Scan) (n : FieldNumber) : CheckStays (scan.fault? n) := by
  unfold fault?
  split
  · exact .some (by rintro _ ⟨⟩)
  · cases scan.brokenAt with
    | none => exact .none
    | some offset => exact .some (by rintro _ ⟨⟩)

/-! ## Opening calls -/

/-- Values of the kind are messages. -/
def Kind.IsMessage (kind : Kind) : Prop := ∃ index, kind = .message index ∨ kind = .group index

theorem Kind.isMessage_iff (kind : Kind) :
    kind.IsMessage ↔ ∃ index, kind.messageIndex? = some index := by
  cases kind <;> simp [IsMessage, messageIndex?]

theorem Kind.not_isMessage_iff (kind : Kind) : ¬kind.IsMessage ↔ kind.messageIndex? = none := by
  cases kind <;> simp [IsMessage, messageIndex?]

/-- The field is a map, a vector or a message. -/
def Field.HasParts (f : Field) : Prop := f.isMap = true ∨ f.isList = true ∨ f.kind.IsMessage

theorem Field.isComposite_iff (f : Field) : f.isComposite = true ↔ f.HasParts := by
  simp only [isComposite, HasParts, Bool.or_eq_true, Kind.isMessage_iff, Option.isSome_iff_exists]
  grind

/-- The member that a field with parts opens as. -/
def Field.opensAs (f : Field) : Member :=
  if f.isMap then .map else if f.isList then .vector else .message

theorem Kind.Holds.member_eq {s : Schema} {kind : Kind} {c : Composite}
    (holds : kind.Holds s (.composite c)) : c.member = .message := by
  cases holds with
  | message => rfl

theorem Field.Holds.member_eq {s : Schema} {f : Field} {c : Composite}
    (holds : f.Holds s (.composite c)) : c.member = f.opensAs := by
  cases holds with
  | map keyed => simp [Field.opensAs, Field.isMap, keyed, Composite.member]
  | vector list =>
    have unkeyed : f.isMap = false := by
      simp only [Field.isList, Bool.and_eq_true, Option.isNone_iff_eq_none] at list
      simp [Field.isMap, list.2]
    simp [Field.opensAs, unkeyed, list, Composite.member]
  | singular unkeyed single holds =>
    simp [Field.opensAs, Field.isMap, unkeyed, single, holds.member_eq]

/-- Why a field does not open: the message does not have it, or it is a scalar. -/
inductive Message.Closed (m : Message) (n : FieldNumber) : Error → Prop where
  | unknown {t : MessageType} (type : m.type = .ok t) (absent : ∀ f, ¬m.HasField n f) :
      Closed m n (.unknownFieldNumber t.name n)
  | scalar {f : Field} (has : m.HasField n f) (scalar : ¬f.HasParts) :
      Closed m n (.typeMismatch .composite f.kind.member)

/-- Why an element does not open: the elements are scalars, or there is none at the position. -/
inductive Vector.Closed (v : Vector) (i : Nat) : Error → Prop where
  | scalar (kind : ¬v.kind.IsMessage) : Closed v i (.typeMismatch (.member .message) v.kind.member)
  | past (outside : v.length ≤ i) : Closed v i (.indexOutOfRange i v.length)

/-- Why a new element does not open: the elements are scalars. -/
inductive Vector.ClosedToNew (v : Vector) : Error → Prop where
  | scalar (kind : ¬v.kind.IsMessage) :
      ClosedToNew v (.typeMismatch (.member .message) v.kind.member)

/-- Why the value of a key does not open: the key does not suit, or the values are scalars. -/
inductive Map.Closed (m : Map) (k : Key) : Error → Prop where
  | key (differ : m.key.member ≠ k.member) :
      Closed m k (.typeMismatch (.member m.key.member) k.member)
  | scalar (kind : ¬m.value.IsMessage) :
      Closed m k (.typeMismatch (.member .message) m.value.member)

/-- A message whose type is in its schema, and whose fields open as declared. -/
structure Message.OpensAsDeclared (m : Message) : Prop where
  type : ∃ t, m.type = .ok t
  field : ∀ n, Settled ((Write.openField n).run m).result (∃ f, m.HasField n f ∧ f.HasParts)
    (m.Closed n)
  part : ∀ n f a, m.HasField n f → ((Write.openField n).run m).result = .ok a →
    ∃ c, a = .values [.composite c] ∧ c.member = f.opensAs

/-- A vector whose elements open as declared. -/
structure Vector.OpensAsDeclared (v : Vector) : Prop where
  item : ∀ i, Settled ((Write.openItem i).run v).result (v.kind.IsMessage ∧ i < v.length)
    (v.Closed i)
  newItem : Settled (Write.openNewItem.run v).result v.kind.IsMessage v.ClosedToNew

/-- A map whose values open as declared. -/
structure Map.OpensAsDeclared (m : Map) : Prop where
  entry : ∀ k, Settled ((Write.openEntry k).run m).result
    (m.key.member = k.member ∧ m.value.IsMessage) (m.Closed k)

/-- A composite whose parts open as declared. -/
def Composite.OpensAsDeclared : Composite → Prop
  | .message m => m.OpensAsDeclared
  | .vector v => v.OpensAsDeclared
  | .map m => m.OpensAsDeclared

namespace Message.Sound

variable {m : Message} {t : MessageType} {n : FieldNumber} {f : Field}

/-- A field with parts opens to a part that suits it. -/
theorem openField_of_hasParts (sound : m.Sound t) (has : m.HasField n f) (parts : f.HasParts) :
    ∃ c, f.Holds m.schema (.composite c) ∧
      ((Write.openField n).run m).result = .ok (.values [.composite c]) := by
  have field := (sound.hasField_iff n f).1 has
  obtain ⟨c, opens⟩ := sound.opens_of_composite field (f.isComposite_iff.2 parts)
  refine ⟨c, sound.holds_of_opens opens, ?_⟩
  rw [Write.run, opens.edit_eq]
  rfl

theorem openField_of_scalar (sound : m.Sound t) (has : m.HasField n f) (scalar : ¬f.HasParts) :
    ((Write.openField n).run m).result = .error (.typeMismatch .composite f.kind.member) := by
  have field := (sound.hasField_iff n f).1 has
  have closed : f.isComposite = false := by
    rw [← Bool.not_eq_true, f.isComposite_iff]
    exact scalar
  rw [Write.run, edit_of_scalar sound.type field closed]
  rfl

/-- A message finds no field that it does not have. -/
theorem field?_of_absent (sound : m.Sound t) (absent : ∀ f, ¬m.HasField n f) :
    m.field? t n = none := by
  apply Option.eq_none_iff_forall_ne_some.2
  intro f found
  exact absent f ((sound.hasField_iff n f).2 found)

theorem openField_of_absent (sound : m.Sound t) (absent : ∀ f, ¬m.HasField n f) :
    ((Write.openField n).run m).result = .error (.unknownFieldNumber t.name n) := by
  rw [Write.run, edit_of_unknown sound.type (sound.field?_of_absent absent)]
  rfl

/-- A message has at most one field of a number. -/
theorem hasField_unique (sound : m.Sound t) {g : Field} (has : m.HasField n f)
    (has' : m.HasField n g) : g = f := by
  have field := (sound.hasField_iff n f).1 has
  rw [(sound.hasField_iff n g).1 has', Option.some.injEq] at field
  exact field

theorem opensAsDeclared (sound : m.Sound t) : m.OpensAsDeclared where
  type := ⟨t, sound.type⟩
  field n := by
    by_cases known : ∃ f, m.HasField n f
    · obtain ⟨f, has⟩ := known
      by_cases parts : f.HasParts
      · obtain ⟨c, -, opened⟩ := sound.openField_of_hasParts has parts
        rw [opened]
        exact .ok _ ⟨f, has, parts⟩
      · rw [sound.openField_of_scalar has parts]
        refine .error ?_ (.scalar has parts)
        rintro ⟨g, has', parts'⟩
        obtain rfl := sound.hasField_unique has has'
        exact parts parts'
    · have absent : ∀ f, ¬m.HasField n f := fun f has => known ⟨f, has⟩
      rw [sound.openField_of_absent absent]
      refine .error ?_ (.unknown sound.type absent)
      rintro ⟨f, has, -⟩
      exact absent f has
  part n f a has opened := by
    by_cases parts : f.HasParts
    · obtain ⟨c, holds, opens⟩ := sound.openField_of_hasParts has parts
      rw [opens] at opened
      exact ⟨c, (Except.ok.inj opened).symm, holds.member_eq⟩
    · rw [sound.openField_of_scalar has parts] at opened
      simp at opened

end Message.Sound

theorem Vector.Sound.opensAsDeclared {v : Vector} (sound : v.Sound) : v.OpensAsDeclared := by
  by_cases kind : v.kind.IsMessage
  · obtain ⟨index, named⟩ := v.kind.isMessage_iff.1 kind
    constructor
    · intro i
      simp only [Write.run, Vector.edit, Vector.elementIndex, named]
      cases found : v.items[i]? with
      | none =>
        have outside : v.length ≤ i := List.getElem?_eq_none_iff.1 found
        refine .error ?_ (.past outside)
        rintro ⟨-, within⟩
        omega
      | some item =>
        obtain ⟨m, rfl, -⟩ := (sound.items _ (List.mem_of_getElem? found)).exists_message named
        exact .ok _ ⟨kind, (List.getElem?_eq_some_iff.1 found).1⟩
    · obtain ⟨m, made⟩ := sound.names.exists_zero named
      simp only [Write.run, Vector.editNew, Vector.elementIndex, named, made]
      exact .ok _ kind
  · have named := v.kind.not_isMessage_iff.1 kind
    constructor
    · intro i
      simp only [Write.run, Vector.edit, Vector.elementIndex, named]
      exact .error (fun possible => kind possible.1) (.scalar kind)
    · simp only [Write.run, Vector.editNew, Vector.elementIndex, named]
      exact .error kind (.scalar kind)

theorem Map.Sound.opensAsDeclared {m : Map} (sound : m.Sound) : m.OpensAsDeclared where
  entry k := by
    simp only [Write.run, Map.edit]
    split
    · rename_i e misfit
      unfold keyMisfit? at misfit
      split at misfit
      · simp at misfit
      · rename_i differ
        cases misfit
        exact .error (fun possible => differ possible.1) (.key differ)
    · rename_i fits
      have key := (m.keyMisfit?_eq_none_iff k).1 fits
      split
      · rename_i named
        have kind := m.value.not_isMessage_iff.2 named
        exact .error (fun possible => kind possible.2) (.scalar kind)
      · rename_i index named
        have kind := m.value.isMessage_iff.2 ⟨index, named⟩
        split
        · obtain ⟨inner, made⟩ := sound.names.exists_zero named
          rw [made]
          exact .ok _ ⟨key, kind⟩
        · rename_i stored found
          obtain ⟨inner, rfl, -⟩ := (sound.entries k stored found).2.exists_message named
          exact .ok _ ⟨key, kind⟩

theorem Composite.Sound.opensAsDeclared {c : Composite} (sound : c.Sound) : c.OpensAsDeclared := by
  cases c with
  | message m =>
    obtain ⟨t, sound⟩ := sound
    exact sound.opensAsDeclared
  | vector v => exact Vector.Sound.opensAsDeclared sound
  | map m => exact Map.Sound.opensAsDeclared sound

/-! ## Calls stay in the schema -/

theorem Message.Closed.stays {m : Message} {n : FieldNumber} {e : Error} (closed : m.Closed n e) :
    e.StaysInSchema := by
  cases closed <;> rintro _ ⟨⟩

theorem Vector.Closed.stays {v : Vector} {i : Nat} {e : Error} (closed : v.Closed i e) :
    e.StaysInSchema := by
  cases closed <;> rintro _ ⟨⟩

theorem Vector.ClosedToNew.stays {v : Vector} {e : Error} (closed : v.ClosedToNew e) :
    e.StaysInSchema := by
  cases closed with
  | scalar => rintro _ ⟨⟩

theorem Map.Closed.stays {m : Map} {k : Key} {e : Error} (closed : m.Closed k e) :
    e.StaysInSchema := by
  cases closed <;> rintro _ ⟨⟩

namespace Message

variable {m : Message} {t : MessageType}

/-- An operation on a field stays in the schema if what it runs on the field does. -/
theorem withField_stays {α : Type} (type : m.type = .ok t) {n : FieldNumber}
    {run : MessageType → Field → Outcome Message α}
    (runs : ∀ f, m.field? t n = some f → StaysInSchema (run t f).result) :
    StaysInSchema (m.withField n run).result := by
  simp only [withField, type]
  cases field : m.field? t n with
  | none => exact .error (by rintro _ ⟨⟩)
  | some f => exact runs f field

theorem Sound.set_stays (sound : m.Sound t) (n : FieldNumber) {v : Value} (typed : v.HasType) :
    StaysInSchema (m.set n v).result := by
  apply withField_stays sound.type
  intro f field
  split
  · split
    · exact .ok ()
    · exact .error (by rintro _ ⟨⟩)
  · split
    · rename_i e misfit
      exact .error (Field.misfit?_stays (sound.names field) typed e misfit)
    · split <;> exact .ok ()

theorem Sound.clear_stays (sound : m.Sound t) (n : FieldNumber) :
    StaysInSchema (m.clear n).result :=
  withField_stays sound.type fun _ _ => .ok ()

theorem Sound.register_stays (sound : m.Sound t) (e : Extension) :
    StaysInSchema (m.register e).result := by
  simp only [Message.register, sound.type]
  split
  · exact .error (by rintro _ ⟨⟩)
  · split
    · rename_i fault faulty
      exact .error (Schema.fieldFault?_stays _ t e.field fault faulty)
    · exact .ok ()

theorem remove_stays (m : Message) (e : Extension) : StaysInSchema (m.remove e).result := by
  unfold remove
  split
  · exact .ok ()
  · split
    · exact .error (by rintro _ ⟨⟩)
    · exact .ok ()

end Message

namespace UnknownStore

variable (u : UnknownStore) (n : FieldNumber) (run : Wire.Run)

theorem set_stays : StaysInSchema (u.set n run).result := by
  unfold set
  split
  · exact .ok ()
  · split
    · exact .ok ()
    · split
      · rename_i fault faulty
        exact .error (Wire.Scan.fault?_stays _ n fault faulty)
      · exact .ok ()

theorem append_stays : StaysInSchema (u.append n run).result := by
  unfold append
  split
  · exact .ok ()
  · split
    · exact .ok ()
    · split
      · rename_i fault faulty
        exact .error (Wire.Scan.fault?_stays _ n fault faulty)
      · exact .ok ()

end UnknownStore

namespace Vector

variable {v : Vector}

theorem Sound.set_stays (sound : v.Sound) (i : Nat) {x : Value} (typed : x.HasType) :
    StaysInSchema (v.set i x).result := by
  unfold set
  split
  · rename_i e misfit
    exact .error (misfit?_stays sound.names _ typed e misfit)
  · split
    · exact .ok ()
    · exact .error (by rintro _ ⟨⟩)

theorem Sound.append_stays (sound : v.Sound) {x : Value} (typed : x.HasType) :
    StaysInSchema (v.append x).result := by
  unfold append
  split
  · rename_i e misfit
    exact .error (misfit?_stays sound.names _ typed e misfit)
  · exact .ok ()

theorem truncate_stays (v : Vector) (length : Nat) : StaysInSchema (v.truncate length).result := by
  unfold truncate
  split
  · exact .error (by rintro _ ⟨⟩)
  · exact .ok ()

end Vector

theorem Map.Sound.set_stays {m : Map} (sound : m.Sound) (k : Key) {x : Value} (typed : x.HasType) :
    StaysInSchema (m.set k x).result := by
  unfold set
  split
  · rename_i e misfit
    exact .error (m.keyMisfit?_stays k e misfit)
  · split
    · exact .error (by rintro _ ⟨⟩)
    · split
      · rename_i e misfit
        exact .error (Schema.misfit?_stays sound.names typed e misfit)
      · exact .ok ()

/-- A read is refused for a position at most. -/
theorem Read.stays {σ : Shape} (r : Read σ) (x : σ.Container) : StaysInSchema (r.answer x) := by
  cases r with
  | item i =>
    apply StaysInSchema.map
    unfold Vector.get
    split
    · exact .ok _
    · exact .error (by rintro _ ⟨⟩)
  | _ => exact .ok _

/-- A write to a sound container stays in the schema, if the values it is given know their types. -/
theorem Write.stays {σ : Shape} (w : Write σ) {x : σ.Container} (sound : (σ.composite x).Sound)
    (typed : ∀ v ∈ w.arguments, v.HasType) : StaysInSchema (w.run x).result := by
  cases w with
  | set n v =>
    obtain ⟨t, sound⟩ := sound
    exact (sound.set_stays n (typed v (by simp [arguments]))).map _
  | clear n =>
    obtain ⟨t, sound⟩ := sound
    exact (sound.clear_stays n).map _
  | openField n =>
    obtain ⟨t, sound⟩ := sound
    exact (sound.opensAsDeclared.field n).stays fun _ => Message.Closed.stays
  | register extendee field =>
    obtain ⟨t, sound⟩ := sound
    exact (sound.register_stays _).map _
  | remove extendee field => exact (x.remove_stays _).map _
  | setUnknown n run => exact (x.unknown.set_stays n run).map _
  | appendUnknown n run => exact (x.unknown.append_stays n run).map _
  | setItem i v => exact (Vector.Sound.set_stays sound i (typed v (by simp [arguments]))).map _
  | append v => exact (Vector.Sound.append_stays sound (typed v (by simp [arguments]))).map _
  | openItem i =>
    exact ((Vector.Sound.opensAsDeclared sound).item i).stays fun _ => Vector.Closed.stays
  | openNewItem =>
    exact (Vector.Sound.opensAsDeclared sound).newItem.stays fun _ => Vector.ClosedToNew.stays
  | truncate length => exact (x.truncate_stays length).map _
  | setEntry k v => exact (Map.Sound.set_stays sound k (typed v (by simp [arguments]))).map _
  | removeEntry k => exact .ok _
  | openEntry k =>
    exact ((Map.Sound.opensAsDeclared sound).entry k).stays fun _ => Map.Closed.stays

/-! ## Programs stay in the schema -/

/-- Every answer in the log stays in the schema. -/
def Log.Stays (log : Log) : Prop := ∀ answer ∈ log, StaysInSchema answer

theorem Log.stays_singleton {answer : Except Error Answer} (stays : StaysInSchema answer) :
    Log.Stays [answer] := by
  intro other member
  rwa [List.mem_singleton.1 member]

/-- What runs on a part in place stays in the schema, if looking at the part does and what runs on
it does. -/
theorem InPlace.log_stays {σ π : Type} {composite : σ → Composite} {part : π → Composite} {x : σ}
    {edit : {α : Type} → (π → Outcome π α) → Outcome σ α} (inPlace : InPlace composite part x edit)
    (looks : StaysInSchema (edit fun c => .done (Answer.values [.composite (part c)]) c).result)
    (held : Everywhere Composite.Sound (.composite (composite x))) {run : π → Outcome π Log}
    (inner : ∀ c, Everywhere Composite.Sound (.composite (part c)) →
      (run c).trace.log.Stays) :
    (edit run).trace.log.Stays := by
  rcases inPlace with ⟨e, refused⟩ | ⟨c, put, opening, runs⟩
  · have looked : edit (fun c => .done (Answer.values [.composite (part c)]) c) = .fail e x :=
      refused _
    have refused : edit run = .fail e x := refused run
    rw [looked] at looks
    rw [refused]
    exact Log.stays_singleton (.error (looks e rfl))
  · have runs : edit run = (run c).within fun c => put (part c) := runs run
    rw [runs, Outcome.trace_within]
    exact inner c (held.sound_part opening.part)

/-- No call of a program leaves the schema.  By induction on the program; its calls stay in the
schema because the containers they run on are sound. -/
theorem Program.log_stays {σ : Shape} (p : Program σ) {x : σ.Container}
    (held : Everywhere Composite.Sound (σ.value x))
    (arguments : ∀ v ∈ p.arguments, Everywhere Composite.Sound v) :
    (p.run x).log.Stays := by
  induction p with
  | idle => simp [Program.run, Log.Stays]
  | seq first second ih ih' =>
    obtain ⟨early, late⟩ := List.forall_mem_append.1 arguments
    intro answer member
    rcases List.mem_append.1 member with begun | done
    · exact ih held early answer begun
    · exact ih' (first.keeps_sound held early).state late answer done
  | read r => exact Log.stays_singleton (r.stays x)
  | write w =>
    exact Log.stays_singleton <|
      w.stays held.here fun v member => (arguments v member).hasType
  | @inField n τ inner ih =>
    obtain ⟨t, sound⟩ := held.here
    refine (sound.inPlace_edit n).log_stays ?_ held fun c part => ?_
    · exact (Write.openField n).stays held.here (by simp [Write.arguments])
    · rcases τ.onComposite_cases c with ⟨expected, refused⟩ | ⟨y, rfl, runs⟩
      · rw [refused]
        exact Log.stays_singleton (.error (by rintro _ ⟨⟩))
      · rw [runs, Outcome.trace_within]
        exact ih part arguments
  | inItem i inner ih =>
    refine (Vector.Sound.inPlace_edit held.here i).log_stays ?_ held fun m part => ih part arguments
    exact (Write.openItem i).stays held.here (by simp [Write.arguments])
  | @inNewItem inner ih =>
    refine (Vector.inPlace_editNew x).log_stays ?_ held fun m part => ih part arguments
    exact Write.openNewItem.stays held.here (by simp [Write.arguments])
  | inEntry k inner ih =>
    refine (Map.Sound.inPlace_edit held.here k).log_stays ?_ held fun m part => ih part arguments
    exact (Write.openEntry k).stays held.here (by simp [Write.arguments])

/-! ## New containers stay in the schema -/

/-- No container is made with a type that is missing from the schema. -/
structure Schema.MakesInside (s : Schema) : Prop where
  message : ∀ index, StaysInSchema (Message.new s index)
  messageByName : ∀ name, StaysInSchema (Message.newByName s name)
  vector : ∀ kind, StaysInSchema (Vector.new s kind)
  map : ∀ key value, StaysInSchema (Map.new s key value)

theorem Message.zero_stays {s : Schema} {index : MessageIndex} {t : MessageType}
    (found : s.type? index = some t) : StaysInSchema (zero s index) := by
  rw [zero, Schema.typeAt_of_type? found]
  exact .ok _

theorem Schema.Declared.makesInside {s : Schema} (declared : s.Declared) : s.MakesInside where
  message index := by
    unfold Message.new
    split
    · exact .error (by rintro _ ⟨⟩)
    · rename_i t found
      exact Message.zero_stays found
  messageByName name := by
    unfold Message.newByName
    split
    · exact .error (by rintro _ ⟨⟩)
    · rename_i index named
      obtain ⟨t, found⟩ := Schema.type?_of_lt (declared.indexNamed?_lt named)
      exact Message.zero_stays found
  vector kind := by
    unfold Vector.new
    split
    · exact .ok _
    · split
      · exact .error (by rintro _ ⟨⟩)
      · exact .ok _
  map key value := by
    unfold Map.new
    split
    · exact .error (by rintro _ ⟨⟩)
    · split
      · exact .ok _
      · split
        · exact .error (by rintro _ ⟨⟩)
        · exact .ok _

/-! ## Reachable containers -/

/-- Whatever led to a container, no call on it or inside it and no container made over its schema
looks up a message type outside of the schema, and at every depth its parts open as declared. -/
theorem reachable_opensAsDeclared {σ : Shape} {x : σ.Container}
    (reachable : Reachable (σ.value x)) :
    (σ.composite x).schema.MakesInside ∧
      (∀ p : Program σ, (∀ v ∈ p.arguments, Reachable v) → (p.run x).log.Stays) ∧
      Everywhere Composite.OpensAsDeclared (σ.value x) := by
  have sound := reachable.sound
  refine ⟨sound.here.declared.makesInside, fun p arguments => ?_, ?_⟩
  · exact p.log_stays sound fun v member => (arguments v member).sound
  · exact sound.imp fun _ sound => sound.opensAsDeclared

/-- On the filled-in card the phone numbers open, and the name and a number without a field do
not. -/
theorem AddressBook.card_opensAsDeclared :
    Reachable (.message card) ∧ ((Write.openField 4).run card).result.isOk = true ∧
      ((Write.openField 1).run card).result.isOk = false ∧
      ((Write.openField 99).run card).result.isOk = false ∧
      (card.schema.MakesInside ∧
        (∀ p : Program .message, (∀ v ∈ p.arguments, Reachable v) → (p.run card).log.Stays) ∧
        Everywhere Composite.OpensAsDeclared (.message card)) :=
  ⟨reachable_card, by decide +kernel, by decide +kernel, by decide +kernel,
    reachable_opensAsDeclared (σ := .message) reachable_card⟩

end DynamicMessage
