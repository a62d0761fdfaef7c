/-
# Proofs.Message.LastWrite -- a scalar field reads as the last call about it left it

Three rules decide what is stored for a scalar field: null and the zero of a field without presence
leave it unset, a member of a oneof that is set or opened takes the place of the others, and an
extension goes with what is stored for it.  `Write.Settles` states them call by call, as what the
field reads as afterwards; it looks at the call and the declarations, never at a message.

Of a run only the accepted calls on the message itself count (`Program.accepted`).  Each call
settles the field or leaves it (`Message.Sound.tracks_call`), and so does a whole run: the field
reads as the last call that settles it says, and as before the run if none does.
-/
import DynamicMessage.Proofs.Message.Oneof

namespace DynamicMessage

set_option autoImplicit false

/-! ## Scalar fields -/

/-- The zero of the kind of a field, null if it has none. -/
def Field.zero (f : Field) : Value := .ofScalar? f.kind.zero?

theorem Field.isComposite_eq_false_iff (f : Field) :
    f.isComposite = false ↔ f.isList = false ∧ f.mapKey = none ∧ ∃ k, f.kind = .scalar k := by
  cases kind : f.kind <;> simp [Field.isComposite, Field.isMap, Kind.messageIndex?, kind]

/-- What a scalar field holds is a scalar of its kind. -/
theorem Field.Holds.exists_scalar {s : Schema} {f : Field} {v : Value} (holds : f.Holds s v)
    (scalar : f.isComposite = false) :
    ∃ k x, f.kind = .scalar k ∧ v = .scalar x ∧ x.member = k.member := by
  obtain ⟨single, unkeyed, k, kind⟩ := f.isComposite_eq_false_iff.1 scalar
  cases holds with
  | map keyed => simp [unkeyed] at keyed
  | vector list => simp [single] at list
  | singular _ _ holds =>
    rw [kind] at holds
    cases holds with
    | scalar same => exact ⟨k, _, kind, rfl, same⟩
    | message type => simp [Kind.messageIndex?] at type

/-- A scalar that suits its field is stored, unless it is the zero of a field without presence. -/
theorem Message.isKept_iff_of_scalar {s : Schema} {f : Field} {v : Value} (holds : f.Holds s v)
    (scalar : f.isComposite = false) : isKept f v = true ↔ f.isNullable = true ∨ v ≠ f.zero := by
  obtain ⟨k, x, kind, rfl, same⟩ := holds.exists_scalar scalar
  have zero : x.isZero = true ↔ Value.scalar x = f.zero := by
    rw [Scalar.isZero_iff x k same, Field.zero, kind]
    simp [Kind.zero?, Value.ofScalar?]
  have kept : isKept f (.scalar x) = (f.isNullable || !x.isZero) := by
    simp [isKept, Value.isZero, Value.isPopulated]
  rw [kept, ne_eq, ← zero]
  simp

/-! ## Calls that settle a field -/

/-- Another member of the oneof of the field `f` of the number `n` has the number `k`. -/
def MessageType.Rivals (t : MessageType) (n : FieldNumber) (f : Field) (k : FieldNumber) : Prop :=
  k ≠ n ∧ ∃ o, f.oneof = some o ∧ ∃ g ∈ t.fields, g.oneof = some o ∧ g.number = k

/-- An accepted call on a message of type `t` that decides what the scalar field `f` of the number
`n` reads as, and what that is. -/
inductive Write.Settles (t : MessageType) (n : FieldNumber) (f : Field) :
    Write .message → Value → Prop where
  /-- A value that the field tells from being unset is read back. -/
  | set {v : Value} (notNull : v ≠ .null) (told : f.isNullable = true ∨ v ≠ f.zero) :
      Settles t n f (.set n v) v
  | setNull : Settles t n f (.set n .null) .null
  /-- Zero is the same as unset to a field without presence. -/
  | setZero {v : Value} (implicit : f.isNullable = false) (zero : v = f.zero) :
      Settles t n f (.set n v) .null
  | clear : Settles t n f (.clear n) .null
  /-- Another member of the oneof takes over. -/
  | setRival {k : FieldNumber} {v : Value} (rival : t.Rivals n f k) (notNull : v ≠ .null) :
      Settles t n f (.set k v) .null
  | openRival {k : FieldNumber} (rival : t.Rivals n f k) : Settles t n f (.openField k) .null
  /-- An extension starts unset. -/
  | register {extendee : String} {field : Field} (number : field.number = n) :
      Settles t n f (.register extendee field) .null

/-- An accepted call that leaves what the field reads as. -/
def Write.Spares (t : MessageType) (n : FieldNumber) (f : Field) (w : Write .message) : Prop :=
  ∀ v, ¬w.Settles t n f v

/-- The last of some accepted calls that settles the field leaves it to be read as a value. -/
inductive LastSettles (t : MessageType) (n : FieldNumber) (f : Field) :
    List (Write .message) → Value → Prop where
  | here {w : Write .message} {later : List (Write .message)} {v : Value}
      (settles : w.Settles t n f v) (spared : ∀ u ∈ later, u.Spares t n f) :
      LastSettles t n f (w :: later) v
  | later {w : Write .message} {calls : List (Write .message)} {v : Value}
      (last : LastSettles t n f calls v) : LastSettles t n f (w :: calls) v

section Calls

variable {t : MessageType} {n : FieldNumber} {f : Field} {v : Value}

/-- The last call of two runs that settles the field is in the second, or in the first and spared by
the second. -/
theorem LastSettles.of_append {calls later : List (Write .message)}
    (last : LastSettles t n f (calls ++ later) v) :
    LastSettles t n f later v ∨
      LastSettles t n f calls v ∧ ∀ w ∈ later, w.Spares t n f := by
  induction calls with
  | nil => exact .inl last
  | cons w calls ih =>
    cases last with
    | here settles spared =>
      refine .inr ⟨.here settles fun u member => ?_, fun u member => ?_⟩
      · exact spared u (List.mem_append_left _ member)
      · exact spared u (List.mem_append_right _ member)
    | later last =>
      rcases ih last with last | ⟨last, spared⟩
      · exact .inl last
      · exact .inr ⟨.later last, spared⟩

theorem lastSettles_singleton_iff {w : Write .message} :
    LastSettles t n f [w] v ↔ w.Settles t n f v := by
  constructor
  · intro last
    cases last with
    | here settles => exact settles
    | later last => cases last
  · exact fun settles => .here settles (by simp)

end Calls

/-! ## What a call leaves -/

/-- A call without an answer that is accepted answers so. -/
theorem eq_ok_of_isOk {ε : Type} {result : Except ε Unit} (accepted : result.isOk = true) :
    result = .ok () := by
  cases result with
  | ok a => rfl
  | error e => simp at accepted

theorem Outcome.accepted_of_answered {σ β : Type} {o : Outcome σ Unit} {form : Unit → β}
    (accepted : (o.answered form).result.isOk = true) : o.result = .ok () := by
  apply eq_ok_of_isOk
  cases result : o.result with
  | ok a => rfl
  | error e => simp [Outcome.answered, result, Except.map] at accepted

theorem Extension.number_declare (extendee : String) (field : Field) :
    (declare extendee field).number = field.number := by
  unfold number declare
  split <;> rfl

namespace Message

/-- What accepted calls that lead from `m` to `m'` made of the field `n`, if that is scalar now: it
reads as the last call that settles it says.  If all calls spare it, it was the same field before,
and read the same. -/
structure Tracks (t : MessageType) (n : FieldNumber) (m : Message) (calls : List (Write .message))
    (m' : Message) : Prop where
  settled : ∀ {f v}, m'.field? t n = some f → f.isComposite = false →
    LastSettles t n f calls v → m'.get n = v
  spared : ∀ {f}, m'.field? t n = some f → f.isComposite = false →
    (∀ w ∈ calls, w.Spares t n f) → m.field? t n = some f ∧ m'.get n = m.get n

variable {t : MessageType} {n : FieldNumber} {m m' : Message}

theorem Tracks.refl : Tracks t n m [] m where
  settled _ _ last := by cases last
  spared field _ _ := ⟨field, rfl⟩

/-- Runs put together track the field. -/
theorem Tracks.trans {m'' : Message} {calls later : List (Write .message)}
    (first : Tracks t n m calls m') (second : Tracks t n m' later m'') :
    Tracks t n m (calls ++ later) m'' where
  settled field scalar last := by
    rcases last.of_append with last | ⟨last, spared⟩
    · exact second.settled field scalar last
    · obtain ⟨before, same⟩ := second.spared field scalar spared
      rw [same]
      exact first.settled before scalar last
  spared field scalar spared := by
    obtain ⟨between, same⟩ := second.spared field scalar fun w member =>
      spared w (List.mem_append_right _ member)
    obtain ⟨before, same'⟩ := first.spared between scalar fun w member =>
      spared w (List.mem_append_left _ member)
    exact ⟨before, same.trans same'⟩

/-- A call tracks the field if it leaves what it settles, and leaves alone what it spares. -/
theorem Tracks.of_call {w : Write .message}
    (settled : ∀ {f v}, m'.field? t n = some f → f.isComposite = false → w.Settles t n f v →
      m'.get n = v)
    (spared : ∀ {f}, m'.field? t n = some f → f.isComposite = false → w.Spares t n f →
      m.field? t n = some f ∧ m'.get n = m.get n) :
    Tracks t n m [w] m' where
  settled field scalar last := settled field scalar (lastSettles_singleton_iff.1 last)
  spared field scalar spares := spared field scalar (spares w (by simp))

theorem get_congr (same : m'.fields.find? n = m.fields.find? n) : m'.get n = m.get n := by
  rw [get, get, same]

theorem get_of_absent (absent : m.fields.find? n = none) : m.get n = .null := by
  rw [get, absent]

theorem get_of_stored {v : Value} (stored : m.fields.find? n = some v)
    (populated : v.isPopulated = true) : m.get n = v := by
  rw [get, stored]
  simp [populated]

theorem get_unset (m : Message) (n : FieldNumber) : (m.unset n).get n = .null :=
  get_of_absent (by rw [find?_unset, if_pos rfl])

/-- What an accepted setting of a field leaves. -/
theorem set_accepted (type : m.type = .ok t) {k : FieldNumber} {v : Value}
    (accepted : (m.set k v).result = .ok ()) :
    ∃ g, m.field? t k = some g ∧
      (v = .null ∧ (m.set k v).state = m.unset k ∨
        g.Holds m.schema v ∧ isKept g v = true ∧
          (m.set k v).state = (m.unsetSiblings t k g).put k v ∨
        g.Holds m.schema v ∧ isKept g v = false ∧ (m.set k v).state = m.unset k) := by
  cases field : m.field? t k with
  | none => simp [Message.set, withField, type, field] at accepted
  | some g =>
    refine ⟨g, rfl, ?_⟩
    by_cases null : v.isNull = true
    · left
      simp only [Message.set, withField, type, field, null, ↓reduceIte] at accepted ⊢
      split at accepted
      · rename_i nullable
        refine ⟨?_, by simp [nullable]⟩
        cases v <;> simp [Value.isNull] at null ⊢
      · simp at accepted
    · have notNull : v.isNull = false := by simpa using null
      have holds := holds_of_set type field notNull accepted
      by_cases kept : isKept g v = true
      · refine .inr (.inl ⟨holds, kept, ?_⟩)
        rw [set_of_kept type field holds kept, Outcome.state_done]
      · have dropped : isKept g v = false := by simpa using kept
        refine .inr (.inr ⟨holds, dropped, ?_⟩)
        rw [set_of_not_kept type field holds dropped, Outcome.state_done]

theorem clear_accepted {k : FieldNumber} (accepted : (m.clear k).result = .ok ()) :
    (m.clear k).state = m.unset k := by
  unfold clear withField at accepted ⊢
  split
  · rename_i type
    simp [type] at accepted
  · rename_i type
    split
    · rename_i absent
      simp [type, absent] at accepted
    · rfl

theorem register_accepted (type : m.type = .ok t) {e : Extension}
    (accepted : (m.register e).result = .ok ()) :
    m.conflict? t e = none ∧
      (m.register e).state = { m with extensions := m.extensions.add e } := by
  unfold register at accepted ⊢
  simp only [type] at accepted ⊢
  split at accepted
  · simp at accepted
  · rename_i free
    split at accepted
    · simp at accepted
    · rename_i faultless
      exact ⟨free, rfl⟩

theorem remove_cases (m : Message) (e : Extension) :
    (m.remove e).state = m ∨ m.isRegistered e = true ∧ (m.remove e).state =
      { m.unset e.number with extensions := m.extensions.drop e.number e.name } := by
  unfold remove
  split
  · exact .inl rfl
  · rename_i registered
    split
    · exact .inl rfl
    · exact .inr ⟨by simpa using registered, rfl⟩

/-! ## Setting a field -/

section Setting

variable {f : Field} {k : FieldNumber} {v : Value}

/-- Setting a field leaves the extensions. -/
theorem extensions_set (type : m.type = .ok t) (n : FieldNumber) (v : Value) :
    (m.set n v).state.extensions = m.extensions := by
  rcases set_cases type n v with same | same | ⟨-, f, -, same⟩
  · rw [same]
  · rw [same, unset]
  · rw [same, put, unsetSiblings_eq]

/-- A value that the field tells from being unset is read back. -/
theorem get_set_of_told (type : m.type = .ok t) (field : m.field? t n = some f)
    (scalar : f.isComposite = false) (accepted : (m.set n v).result = .ok ())
    (notNull : v ≠ .null) (told : f.isNullable = true ∨ v ≠ f.zero) :
    (m.set n v).state.get n = v := by
  obtain ⟨g, field', null | ⟨holds, -, left⟩ | ⟨holds, unkept, -⟩⟩ := set_accepted type accepted
  · exact absurd null.1 notNull
  · obtain rfl := Option.some.inj (field.symm.trans field')
    obtain ⟨k, x, -, rfl, -⟩ := holds.exists_scalar scalar
    rw [left]
    exact get_of_stored (by rw [find?_put, if_pos rfl]) rfl
  · obtain rfl := Option.some.inj (field.symm.trans field')
    rw [(isKept_iff_of_scalar holds scalar).2 told] at unkept
    simp at unkept

/-- Null, and the zero of a field without presence, leave the field unset. -/
theorem get_set_of_untold (type : m.type = .ok t) (field : m.field? t n = some f)
    (scalar : f.isComposite = false) (accepted : (m.set n v).result = .ok ())
    (untold : v = .null ∨ f.isNullable = false ∧ v = f.zero) :
    (m.set n v).state.get n = .null := by
  obtain ⟨g, field', ⟨-, left⟩ | ⟨holds, kept, -⟩ | ⟨-, -, left⟩⟩ := set_accepted type accepted
  · rw [left, get_unset]
  · obtain rfl := Option.some.inj (field.symm.trans field')
    rcases untold with rfl | ⟨implicit, zero⟩
    · have notNull := holds.not_null
      simp [Value.isNull] at notNull
    · rcases (isKept_iff_of_scalar holds scalar).1 kept with nullable | differ
      · simp [nullable] at implicit
      · exact absurd zero differ
  · rw [left, get_unset]

/-- Setting a nullable field to a value leaves its siblings unset. -/
theorem get_set_of_mem_siblings (type : m.type = .ok t) (field : m.field? t k = some f)
    (nullable : f.isNullable = true) (sibling : n ∈ siblings t k f)
    (accepted : (m.set k v).result = .ok ()) (notNull : v ≠ .null) :
    (m.set k v).state.get n = .null := by
  obtain ⟨differ, -⟩ := (mem_siblings_iff t k n f).1 sibling
  obtain ⟨g, field', null | ⟨-, -, left⟩ | ⟨-, unkept, -⟩⟩ := set_accepted type accepted
  · exact absurd null.1 notNull
  · obtain rfl := Option.some.inj (field.symm.trans field')
    rw [left]
    exact get_of_absent (by rw [find?_put, if_neg differ, find?_unsetSiblings, if_pos sibling])
  · obtain rfl := Option.some.inj (field.symm.trans field')
    simp [isKept, nullable] at unkept

/-- Setting a field leaves the fields that are not its siblings. -/
theorem get_set_of_ne (type : m.type = .ok t) (differ : n ≠ k)
    (apart : v ≠ .null → ∀ g, m.field? t k = some g → n ∉ siblings t k g) :
    (m.set k v).state.get n = m.get n := by
  apply get_congr
  rcases set_cases type k v with same | same | ⟨notNull, g, field, same⟩
  · rw [same]
  · rw [same, find?_unset, if_neg differ]
  · have apart : n ∉ siblings t k g := by
      refine apart ?_ g field
      rintro rfl
      simp [Value.isNull] at notNull
    rw [same, find?_put, if_neg differ, find?_unsetSiblings, if_neg apart]

end Setting

/-! ## Rivals and siblings -/

section Rivals

variable {f g : Field} {k : FieldNumber}

/-- A rival of a field is a nullable field, and has the field for a sibling. -/
theorem Sound.exists_of_rivals (sound : m.Sound t) (extended : m.Extended t)
    (field : m.field? t n = some f) (rival : t.Rivals n f k) :
    ∃ g, m.field? t k = some g ∧ g.isNullable = true ∧ n ∈ siblings t k g := by
  obtain ⟨differ, o, grouped, g, listed, grouped', rfl⟩ := rival
  obtain ⟨field', nullable⟩ := sound.member ⟨listed, grouped'⟩
  obtain ⟨member, number⟩ := sound.groups extended field grouped
  refine ⟨g, field', nullable, ?_⟩
  exact (mem_siblings_iff t g.number n g).2 ⟨differ.symm, o, grouped', f, member, number⟩

/-- A field that has another for a sibling is a rival of it. -/
theorem Sound.rivals_of_mem_siblings (sound : m.Sound t) (extended : m.Extended t)
    (field : m.field? t n = some f) (other : m.field? t k = some g)
    (sibling : n ∈ siblings t k g) : t.Rivals n f k := by
  obtain ⟨differ, o, grouped, h, member, rfl⟩ := (mem_siblings_iff t k n g).1 sibling
  obtain ⟨field', -⟩ := sound.member member
  obtain rfl := Option.some.inj (field.symm.trans field')
  obtain ⟨member', number⟩ := sound.groups extended other grouped
  exact ⟨differ.symm, o, member.oneof, g, member'.listed, grouped, number⟩

end Rivals

/-! ## One call -/

namespace Sound

theorem tracks_set (sound : m.Sound t) (extended : m.Extended t) {k : FieldNumber} {v : Value}
    (accepted : (m.set k v).result = .ok ()) : Tracks t n m [.set k v] (m.set k v).state := by
  have fields : (m.set k v).state.field? t n = m.field? t n := by
    rw [Message.field?, extensions_set sound.type, Message.field?]
  apply Tracks.of_call
  · intro f w field scalar settles
    rw [fields] at field
    cases settles with
    | set notNull told => exact get_set_of_told sound.type field scalar accepted notNull told
    | setNull => exact get_set_of_untold sound.type field scalar accepted (.inl rfl)
    | setZero implicit zero =>
      exact get_set_of_untold sound.type field scalar accepted (.inr ⟨implicit, zero⟩)
    | setRival rival notNull =>
      obtain ⟨g, other, nullable, sibling⟩ := sound.exists_of_rivals extended field rival
      exact get_set_of_mem_siblings sound.type other nullable sibling accepted notNull
  · intro f field scalar spares
    rw [fields] at field
    refine ⟨field, ?_⟩
    have differ : n ≠ k := by
      rintro rfl
      by_cases null : v = .null
      · subst null
        exact spares .null .setNull
      · by_cases implicit : f.isNullable = false ∧ v = f.zero
        · exact spares .null (.setZero implicit.1 implicit.2)
        · exact spares v (.set null (by grind))
    apply get_set_of_ne sound.type differ
    intro notNull g other sibling
    have rival := sound.rivals_of_mem_siblings extended field other sibling
    exact spares .null (.setRival rival notNull)

/-- Opening a field, whatever then runs on what it holds. -/
theorem tracks_edit (sound : m.Sound t) (extended : m.Extended t) {k : FieldNumber}
    (accepted : ((Write.openField k).run m).result.isOk = true) {α : Type}
    (run : Composite → Outcome Composite α) :
    Tracks t n m [.openField k] (m.edit k run).state := by
  obtain ⟨g, c, opens⟩ := sound.opens_of_accepted accepted
  rw [opens.edit_eq, Outcome.state_within]
  generalize (run c).state = left
  have fields : ((m.unsetSiblings t k g).put k (.composite left)).field? t n = m.field? t n :=
    m.field?_unsetSiblings t k g n
  -- What is opened is composite, so it is not the field that is tracked.
  have apart : ∀ {f}, m.field? t n = some f → f.isComposite = false → n ≠ k := by
    intro f field scalar same
    rw [same, opens.field, Option.some.injEq] at field
    rw [← field, opens.composite] at scalar
    simp at scalar
  apply Tracks.of_call
  · intro f v field scalar settles
    rw [fields] at field
    cases settles with
    | openRival rival =>
      obtain ⟨g', other, -, sibling⟩ := sound.exists_of_rivals extended field rival
      obtain rfl := Option.some.inj (opens.field.symm.trans other)
      apply get_of_absent
      rw [find?_put, if_neg (apart field scalar), find?_unsetSiblings, if_pos sibling]
  · intro f field scalar spares
    rw [fields] at field
    refine ⟨field, get_congr ?_⟩
    have untouched : n ∉ siblings t k g := fun sibling =>
      spares .null (.openRival (sound.rivals_of_mem_siblings extended field opens.field sibling))
    rw [find?_put, if_neg (apart field scalar), find?_unsetSiblings, if_neg untouched]

theorem tracks_clear (m : Message) (k : FieldNumber) (accepted : (m.clear k).result = .ok ()) :
    Tracks t n m [.clear k] (m.clear k).state := by
  rw [clear_accepted accepted]
  apply Tracks.of_call
  · intro f v field scalar settles
    cases settles with
    | clear => exact get_unset m n
  · intro f field scalar spares
    have differ : n ≠ k := by
      rintro rfl
      exact spares .null .clear
    exact ⟨field, get_congr (by rw [find?_unset, if_neg differ])⟩

/-- A number that is free to be registered has no row, so the extension starts unset. -/
theorem tracks_register (sound : m.Sound t) {extendee : String} {field : Field}
    (accepted : (m.register (.declare extendee field)).result = .ok ()) :
    Tracks t n m [.register extendee field] (m.register (.declare extendee field)).state := by
  obtain ⟨free, left⟩ := register_accepted sound.type accepted
  have number : (Extension.declare extendee field).number = field.number :=
    Extension.number_declare extendee field
  rw [left]
  apply Tracks.of_call
  · intro f v _ scalar settles
    cases settles with
    | register same =>
      apply get_of_absent
      rw [← same, ← number]
      cases stored : m.fields.find? (Extension.declare extendee field).number with
      | none => rfl
      | some v =>
        obtain ⟨g, known, -⟩ := sound.stored _ v stored
        simp [field?_of_free free] at known
  · intro f after scalar spares
    have differ : n ≠ (Extension.declare extendee field).number := by
      rintro rfl
      exact spares .null (.register number.symm)
    rw [m.field?_add_of_ne t differ] at after
    exact ⟨after, rfl⟩

/-- What is removed takes its field along, so the field that is tracked is another one. -/
theorem tracks_remove (sound : m.Sound t) (extendee : String) (field : Field) :
    Tracks t n m [.remove extendee field] (m.remove (.declare extendee field)).state := by
  apply Tracks.of_call
  · intro f v _ _ settles
    cases settles
  · intro f after scalar _
    rcases m.remove_cases (.declare extendee field) with same | ⟨registered, left⟩
    · rw [same] at after ⊢
      exact ⟨after, rfl⟩
    · generalize Extension.declare extendee field = e at *
      rw [left] at after ⊢
      have differ : n ≠ e.number := by
        rintro rfl
        obtain ⟨e', found, -⟩ := (m.isRegistered_iff e).1 registered
        have undeclared := (sound.registered e.number e' found).2.1
        have gone : (m.extensions.drop e.number e.name).findByNumber? e.number = none := by
          rw [Registry.findByNumber?, Registry.drop, Table.find?_erase, if_pos rfl]
        simp [Message.field?, undeclared, gone] at after
      rw [m.field?_drop t e.name differ] at after
      refine ⟨after, get_congr ?_⟩
      show (m.unset e.number).fields.find? n = _
      rw [find?_unset, if_neg differ]

/-- An accepted call settles a scalar field as it says, or leaves it. -/
theorem tracks_call (sound : m.Sound t) (extended : m.Extended t) {w : Write .message}
    (accepted : (w.run m).result.isOk = true) : Tracks t n m [w] (w.run m).state := by
  cases w with
  | set k v => exact sound.tracks_set extended (Outcome.accepted_of_answered accepted)
  | clear k => exact tracks_clear m k (Outcome.accepted_of_answered accepted)
  | openField k => exact sound.tracks_edit extended accepted _
  | register extendee field => exact sound.tracks_register (Outcome.accepted_of_answered accepted)
  | remove extendee field => exact sound.tracks_remove extendee field
  | setUnknown k run =>
    exact Tracks.of_call (fun _ _ settles => nomatch settles) fun field _ _ => ⟨field, rfl⟩
  | appendUnknown k run =>
    exact Tracks.of_call (fun _ _ settles => nomatch settles) fun field _ _ => ⟨field, rfl⟩

end Sound

end Message

/-! ## Runs -/

/-- The call, if it is accepted. -/
def Write.ifAccepted {σ : Shape} (w : Write σ) (x : σ.Container) : List (Write σ) :=
  match (w.run x).result with
  | .ok _ => [w]
  | .error _ => []

theorem Write.ifAccepted_of_isOk {σ : Shape} {w : Write σ} {x : σ.Container}
    (accepted : (w.run x).result.isOk = true) : w.ifAccepted x = [w] := by
  unfold ifAccepted
  split
  · rfl
  · rename_i result
    simp [result] at accepted

theorem Write.ifAccepted_of_refused {σ : Shape} {w : Write σ} {x : σ.Container}
    (refused : (w.run x).result.isOk = false) : w.ifAccepted x = [] := by
  unfold ifAccepted
  split
  · rename_i result
    simp [result] at refused
  · rfl

/-- The calls on a container that a program makes and that are accepted, in order.  Work in place
counts as the call that opens the part. -/
def Program.accepted : {σ : Shape} → Program σ → σ.Container → List (Write σ)
  | _, .idle, _ => []
  | _, .seq first second, x => first.accepted x ++ second.accepted (first.run x).state
  | _, .read _, _ => []
  | _, .write w, x => w.ifAccepted x
  | _, .inField n _, m => (Write.openField n).ifAccepted m
  | _, .inItem i _, v => (Write.openItem i).ifAccepted v
  | _, .inNewItem _, v => Write.openNewItem.ifAccepted v
  | _, .inEntry k _, m => (Write.openEntry k).ifAccepted m

/-- A program on a message does nothing, does one thing after another, makes a call, or opens a
field. -/
@[elab_as_elim]
theorem Program.message_induction {motive : Program .message → Prop} (idle : motive .idle)
    (seq : ∀ first second, motive first → motive second → motive (.seq first second))
    (read : ∀ r, motive (.read r)) (write : ∀ w, motive (.write w))
    (inField : ∀ n {τ : Shape} (inner : Program τ), motive (.inField n inner)) :
    ∀ p, motive p
  | .idle => idle
  | .seq first second =>
    seq first second (message_induction idle seq read write inField first)
      (message_induction idle seq read write inField second)
  | .read r => read r
  | .write w => write w
  | .inField n inner => inField n inner

/-- What the calls on a message rely on, and extensions that the type admits. -/
abbrev Composite.Extended (c : Composite) : Prop := c.Sound ∧ c.OnMessage Message.Extended

/-- A call tracks a field if it does so when it is accepted, and changes nothing when refused. -/
theorem Message.Tracks.ifAccepted {t : MessageType} {n : FieldNumber} {m m' : Message}
    {w : Write .message} (accepted : (w.run m).result.isOk = true → Tracks t n m [w] m')
    (refused : ∀ e, (w.run m).result = .error e → m' = m) : Tracks t n m (w.ifAccepted m) m' := by
  unfold Write.ifAccepted
  split
  · rename_i result
    exact accepted (by rw [result]; rfl)
  · rename_i e result
    rw [refused e result]
    exact .refl

/-- A run of a program tracks every field of a message.  By induction on the program. -/
theorem Program.tracks (p : Program .message) {m : Message} {t : MessageType} (n : FieldNumber)
    (held : Everywhere Composite.Extended (.message m))
    (arguments : ∀ v ∈ p.arguments, Everywhere Composite.Extended v) (type : m.type = .ok t) :
    Message.Tracks t n m (p.accepted m) (p.run m).state := by
  induction p using Program.message_induction generalizing m with
  | idle => exact .refl
  | read r => exact .refl
  | seq first second ih ih' =>
    obtain ⟨early, late⟩ := List.forall_mem_append.1 arguments
    have kept := Message.invariant_extended.keeps_run first held early
    have same : (first.run m).state.type = .ok t :=
      (Message.type_of_header kept.header).trans type
    exact (ih held early type).trans (ih' kept.state late same)
  | write w =>
    obtain ⟨⟨t', sound⟩, extended⟩ := held.here
    obtain rfl := sound.type_eq type
    exact .ifAccepted (sound.tracks_call (extended _ type)) fun _ => sound.state_of_refused
  | inField k inner =>
    obtain ⟨⟨t', sound⟩, extended⟩ := held.here
    obtain rfl := sound.type_eq type
    rw [Program.run, Outcome.state_trace]
    refine .ifAccepted (fun accepted => ?_) fun e refused => ?_
    · exact sound.tracks_edit (extended _ type) accepted _
    · exact sound.edit_of_refused refused _

/-- Whatever a program does on a message that a run leads to, a scalar field that the message has in
the end, declared or registered, reads as the last accepted call that settles it says.  If none
does it reads as before the run, and on a new message that is null. -/
theorem reachable_reads_last_call {m : Message} (reachable : Reachable (.message m))
    (p : Program .message) (arguments : ∀ v ∈ p.arguments, Reachable v) {t : MessageType}
    (type : m.type = .ok t) {n : FieldNumber} {f : Field}
    (has : (p.run m).state.HasField n f) (scalar : f.isComposite = false) :
    (∀ v, LastSettles t n f (p.accepted m) v → (p.run m).state.get n = v) ∧
      ((∀ w ∈ p.accepted m, w.Spares t n f) → (p.run m).state.get n = m.get n) ∧
      ∀ s index, Message.new s index = .ok m → m.get n = .null := by
  have held := Message.invariant_extended.everywhere reachable
  have given : ∀ v ∈ p.arguments, Everywhere Composite.Extended v := fun v member =>
    Message.invariant_extended.everywhere (arguments v member)
  have kept := Message.invariant_extended.keeps_run p held given
  obtain ⟨t', sound⟩ := kept.state.here.1
  obtain rfl := sound.type_eq ((Message.type_of_header kept.header).trans type)
  have field := (sound.hasField_iff n f).1 has
  have tracks := p.tracks n held given type
  refine ⟨fun v => tracks.settled field scalar, fun spared => ?_, fun s index made => ?_⟩
  · exact (tracks.spared field scalar spared).2
  · cases Message.fresh_of_new made with
    | message made =>
      obtain ⟨t, -, rfl⟩ := Message.zero_eq_ok made
      rfl

namespace AddressBook

/-- Sets the pager to zero, tries a number that is not declared, and sets the handle. -/
def hand : Program .message :=
  .seq (.write (.set 8 (.scalar (.i64 0))))
    (.seq (.write (.set 99 (.scalar (.i64 1)))) (.write (.set 7 (.scalar (.string "al")))))

theorem reachable_arguments_hand : ∀ v ∈ hand.arguments, Reachable v := by
  intro v member
  have scalars : v = .scalar (.i64 0) ∨ v = .scalar (.i64 1) ∨ v = .scalar (.string "al") := by
    simpa [hand, Program.arguments, Write.arguments] using member
  rcases scalars with rfl | rfl | rfl <;> exact .scalar _

/-- The number that is not declared is refused. -/
theorem accepted_hand :
    hand.accepted card = [.set 8 (.scalar (.i64 0)), .set 7 (.scalar (.string "al"))] := by
  let paged := ((Write.set 8 (.scalar (.i64 0))).run card).state
  let tried := ((Write.set 99 (.scalar (.i64 1))).run paged).state
  show (Write.set 8 (.scalar (.i64 0))).ifAccepted card ++
    ((Write.set 99 (.scalar (.i64 1))).ifAccepted paged ++
      (Write.set 7 (.scalar (.string "al"))).ifAccepted tried) = _
  rw [Write.ifAccepted_of_isOk (by decide +kernel), Write.ifAccepted_of_refused (by decide +kernel),
    Write.ifAccepted_of_isOk (by decide +kernel)]
  rfl

/-- The pager of a person. -/
def pager : Field := .inOneof { number := 8, name := "pager", kind := .scalar .int64 } 0

/-- The nickname of a person, which is registered. -/
def nickname : Extension :=
  .declare "tutorial.Person" { number := 100, name := "tutorial.nickname", kind := .scalar .string }

theorem hasField_pager : (hand.run card).state.HasField 8 pager := by
  have kept : ((hand.run card).state.schema.type? (hand.run card).state.index).map (·.fields) =
      some personType.fields := by decide +kernel
  obtain ⟨t, type, same⟩ := Option.map_eq_some_iff.1 kept
  refine .declared type ?_ rfl
  rw [same]
  decide

theorem hasField_nickname : (hand.run card).state.HasField 100 nickname.field :=
  .registered (by decide +kernel) rfl

/-- The handle is set last, and takes the place of the pager. -/
theorem lastSettles_pager {t : MessageType} (type : schema.type? person = some t) :
    LastSettles t 8 pager (hand.accepted card) .null := by
  let handle : Field := .inOneof { number := 7, name := "handle", kind := .scalar .string } 0
  have rival : t.Rivals 8 pager 7 :=
    ⟨by decide, 0, rfl, handle, by rw [fields_of_person type]; decide, rfl, rfl⟩
  rw [accepted_hand]
  exact .later (.here (.setRival rival (by simp)) (by simp))

/-- The nickname is in no oneof, so only calls about its number settle it. -/
theorem spares_nickname {t : MessageType} {w : Write .message} (member : w ∈ hand.accepted card) :
    w.Spares t 100 nickname.field := by
  intro v settles
  have alone : ∀ {k}, ¬t.Rivals 100 nickname.field k := by
    rintro k ⟨-, o, grouped, -⟩
    simp [nickname, Extension.declare] at grouped
  rw [accepted_hand] at member
  rcases List.mem_cons.1 member with rfl | member
  · cases settles with
    | setRival rival => exact alone rival
  · obtain rfl := List.mem_singleton.1 member
    cases settles with
    | setRival rival => exact alone rival

/-- The handle takes the place of the pager, whose zero was kept until then; the nickname, which is
registered, stays. -/
theorem pager_reads_last_call :
    Reachable (.message card) ∧ (∀ v ∈ hand.arguments, Reachable v) ∧
      ∃ t, card.type = .ok t ∧
        (hand.run card).state.HasField 8 pager ∧ pager.isComposite = false ∧
        LastSettles t 8 pager (hand.accepted card) .null ∧
        (hand.run card).state.get 8 = .null ∧
        (hand.run card).state.HasField 100 nickname.field ∧ nickname.field.isComposite = false ∧
        (∀ w ∈ hand.accepted card, w.Spares t 100 nickname.field) ∧
        (hand.run card).state.get 100 = card.get 100 := by
  obtain ⟨t, sound⟩ := reachable_card.sound.here
  have last := lastSettles_pager sound.type?
  have settled := (reachable_reads_last_call reachable_card hand reachable_arguments_hand sound.type
    hasField_pager (by decide)).1 .null last
  have kept := (reachable_reads_last_call reachable_card hand reachable_arguments_hand sound.type
    hasField_nickname (by decide)).2.1 fun _ => spares_nickname
  exact ⟨reachable_card, reachable_arguments_hand, t, sound.type, hasField_pager, by decide, last,
    settled, hasField_nickname, by decide, fun _ => spares_nickname, kept⟩

end AddressBook

end DynamicMessage
