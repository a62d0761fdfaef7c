/-
# Proofs.Container.Opening -- new containers, and parts opened in place

`Composite.Fresh` lists how a composite is made.  A call that opens a part of a sound container is
refused with nothing written, whatever it was to run, or it runs on a part that is stored or fresh,
and stores what the run leaves (`InPlace`, for all shapes alike).

For messages `Message.Opens` says which part it is, and `Message.Opens.edit_eq` what the call does
with it: no step between the first write and the run can be refused.
-/
import DynamicMessage.Proofs.Container.Sound

namespace DynamicMessage

set_option autoImplicit false

/-! ## New containers -/

/-- A composite of a schema as it is made. -/
inductive Composite.Fresh (s : Schema) : Composite → Prop where
  | message {index : MessageIndex} {m : Message} (made : Message.zero s index = .ok m) :
      Fresh s (.message m)
  | vector {kind : Kind} (names : s.Names kind) : Fresh s (.vector (.empty s kind))
  | map {key value : Kind} (keyed : key.isKey = true) (names : s.Names value) :
      Fresh s (.map (.empty s key value))

theorem Message.fresh_of_new {s : Schema} {index : MessageIndex} {m : Message}
    (made : new s index = .ok m) : Composite.Fresh s (.message m) := by
  unfold new at made
  split at made
  · simp at made
  · exact .message made

theorem Message.fresh_of_newByName {s : Schema} {name : String} {m : Message}
    (made : newByName s name = .ok m) : Composite.Fresh s (.message m) := by
  unfold newByName at made
  split at made
  · simp at made
  · exact .message made

/-- A kind names a type of the schema if it names none, or one that is there. -/
theorem Schema.names_of_type? {s : Schema} {kind : Kind} {index : MessageIndex} {t : MessageType}
    (named : kind.messageIndex? = some index) (found : s.type? index = some t) : s.Names kind := by
  intro other named'
  rw [named, Option.some.injEq] at named'
  exact ⟨t, named' ▸ found⟩

theorem Schema.names_of_none {s : Schema} {kind : Kind} (named : kind.messageIndex? = none) :
    s.Names kind := by
  intro index named'
  simp [named] at named'

theorem Vector.fresh_of_new {s : Schema} {kind : Kind} {v : Vector} (made : new s kind = .ok v) :
    Composite.Fresh s (.vector v) := by
  unfold new at made
  split at made
  · rename_i named
    cases made
    exact .vector (Schema.names_of_none named)
  · rename_i index named
    split at made
    · simp at made
    · rename_i t found
      cases made
      exact .vector (Schema.names_of_type? named found)

theorem Map.fresh_of_new {s : Schema} {key value : Kind} {m : Map} (made : new s key value = .ok m) :
    Composite.Fresh s (.map m) := by
  unfold new at made
  split at made
  · simp at made
  · rename_i keyed
    have keyed : key.isKey = true := by simpa using keyed
    split at made
    · rename_i named
      cases made
      exact .map keyed (Schema.names_of_none named)
    · rename_i index named
      split at made
      · simp at made
      · rename_i t found
        cases made
        exact .map keyed (Schema.names_of_type? named found)

namespace Composite.Fresh

variable {s : Schema} {c : Composite}

/-- Nothing is stored in a new composite. -/
theorem parts_eq_nil (fresh : c.Fresh s) : c.parts = [] := by
  cases fresh with
  | message made =>
    obtain ⟨t, _, rfl⟩ := Message.zero_eq_ok made
    rfl
  | vector => rfl
  | map => rfl

/-- New composites of a declared schema are sound. -/
theorem sound (fresh : c.Fresh s) (declared : s.Declared) : c.Sound := by
  cases fresh with
  | message made =>
    obtain ⟨t, found, rfl⟩ := Message.zero_eq_ok made
    refine ⟨t, declared, Schema.typeAt_of_type? found, Table.Ascending.empty, ?_, ?_⟩
    · intro n v stored
      simp at stored
    · intro n e registered
      simp [Registry.findByNumber?, Registry.empty] at registered
  | vector names =>
    refine Vector.Sound.mk declared names ?_
    intro x member
    simp [Vector.empty] at member
  | map keyed names =>
    refine Map.Sound.mk declared keyed names Table.Ascending.empty ?_
    intro k x found
    simp [Map.empty] at found

end Composite.Fresh

/-- The composite a field opens with is fresh. -/
theorem Field.fresh_of_initial {s : Schema} {f : Field} {c : Composite} (names : s.Names f.kind)
    (keyed : ∀ key, f.mapKey = some key → key.isKey = true)
    (initial : f.initial s = .ok (.composite c)) : c.Fresh s := by
  unfold Field.initial at initial
  split at initial
  · rename_i key key?
    cases initial
    exact .map (keyed key key?) names
  · split at initial
    · cases initial
      exact .vector names
    · split at initial
      · simp at initial
      · split at initial
        · simp at initial
        · rename_i made
          cases initial
          exact .message made

/-! ## Openings -/

/-- A part of a container that a call can open, and the container with the part in its place. -/
structure Opening {σ : Type} (composite : σ → Composite) (x : σ) (c : Composite)
    (put : Composite → σ) : Prop where
  /-- The part is stored, or made to be opened. -/
  part : .composite c ∈ (composite x).parts ∨ c.Fresh (composite x).schema
  /-- Whatever is stored in its place is stored by one change, if the header is the same. -/
  change : ∀ c', c'.header = c.header →
    Change [.composite c'] (composite x) (composite (put c'))

/-- A call that edits a part of type `π` in place is refused, whatever it was to run, or runs on a
part that it opens. -/
def InPlace {σ π : Type} (composite : σ → Composite) (part : π → Composite) (x : σ)
    (edit : {α : Type} → (π → Outcome π α) → Outcome σ α) : Prop :=
  (∃ e, ∀ {α : Type} (run : π → Outcome π α), edit run = .fail e x) ∨
    ∃ c put, Opening composite x (part c) put ∧
      ∀ {α : Type} (run : π → Outcome π α), edit run = (run c).within fun c => put (part c)

namespace Message

/-- The part `c` that editing the field `n` opens: the stored one, or the one the field opens
with. -/
structure Opens (m : Message) (t : MessageType) (n : FieldNumber) (f : Field) (c : Composite) :
    Prop where
  type : m.type = .ok t
  field : m.field? t n = some f
  composite : f.isComposite = true
  part : m.fields.find? n = some (.composite c) ∨
    m.fields.find? n = none ∧ f.initial m.schema = .ok (.composite c)

variable {m : Message} {t : MessageType} {n : FieldNumber} {f : Field} {c : Composite}

theorem put_put (m : Message) (n : FieldNumber) (v w : Value) :
    (m.put n v).put n w = m.put n w := by
  simp only [put, Table.insert_insert]

/-- Editing a number that the message has no field of is refused. -/
theorem edit_of_unknown (type : m.type = .ok t) (absent : m.field? t n = none) {α : Type}
    (run : Composite → Outcome Composite α) :
    m.edit n run = .fail (.unknownFieldNumber t.name n) m := by
  simp only [edit, withField, type, absent]

/-- Editing a scalar field is refused. -/
theorem edit_of_scalar (type : m.type = .ok t) (field : m.field? t n = some f)
    (scalar : f.isComposite = false) {α : Type} (run : Composite → Outcome Composite α) :
    m.edit n run = .fail (.typeMismatch .composite f.kind.member) m := by
  simp only [edit, withField, type, field, scalar, Bool.false_eq_true, ↓reduceIte]

/-- Editing a field that opens runs on its part and stores what the run leaves. -/
theorem Opens.edit_eq (opens : m.Opens t n f c) {α : Type}
    (run : Composite → Outcome Composite α) :
    m.edit n run = (run c).within fun c' => (m.unsetSiblings t n f).put n (.composite c') := by
  have stored : (m.unsetSiblings t n f).fields.find? n = m.fields.find? n := by
    rw [find?_unsetSiblings, if_neg (not_mem_siblings t n f)]
  have schema : (m.unsetSiblings t n f).schema = m.schema := by
    rw [unsetSiblings_eq]
  simp only [edit, withField, opens.type, opens.field, opens.composite, ↓reduceIte, stored, schema]
  rcases opens.part with found | ⟨absent, initial⟩
  · simp only [found, editStored]
  · simp only [absent, initial, editStored, put_put]

namespace Sound

/-- A composite field of a sound message opens. -/
theorem opens_of_composite (sound : m.Sound t) (field : m.field? t n = some f)
    (composite : f.isComposite = true) : ∃ c, m.Opens t n f c := by
  cases found : m.fields.find? n with
  | some v =>
    obtain ⟨c, rfl⟩ := (sound.holds_of_stored field found).exists_composite composite
    exact ⟨c, sound.type, field, composite, .inl found⟩
  | none =>
    obtain ⟨c, initial, _⟩ := Field.exists_initial (sound.names field) composite
    exact ⟨c, sound.type, field, composite, .inr ⟨found, initial⟩⟩

/-- The part that a field of a sound message opens suits the field. -/
theorem holds_of_opens (sound : m.Sound t) (opens : m.Opens t n f c) :
    f.Holds m.schema (.composite c) := by
  rcases opens.part with found | ⟨_, initial⟩
  · exact sound.holds_of_stored opens.field found
  · obtain ⟨c', initial', holds⟩ := Field.exists_initial (sound.names opens.field) opens.composite
    rw [initial', Except.ok.injEq, Value.composite.injEq] at initial
    rwa [← initial]

/-- The composite that a field of a sound message opens with is fresh. -/
theorem fresh_of_initial (sound : m.Sound t) (field : m.field? t n = some f)
    (initial : f.initial m.schema = .ok (.composite c)) : c.Fresh m.schema :=
  Field.fresh_of_initial (sound.names field)
    (fun _ => Schema.isKey_of_faultless (sound.field field).2) initial

theorem opening (sound : m.Sound t) (opens : m.Opens t n f c) :
    Opening Composite.message m c fun c' => (m.unsetSiblings t n f).put n (.composite c') where
  part := by
    rcases opens.part with found | ⟨_, initial⟩
    · exact .inl (Table.mem_values_of_find? found)
    · exact .inr (sound.fresh_of_initial opens.field initial)
  change c' same :=
    .put opens.type opens.field ((sound.holds_of_opens opens).of_header same) (.inr opens.composite)

/-- Editing a field of a sound message is refused, or opens the field. -/
theorem inPlace_edit (sound : m.Sound t) (n : FieldNumber) :
    InPlace Composite.message id m (m.edit n) := by
  cases field : m.field? t n with
  | none => exact .inl ⟨_, edit_of_unknown sound.type field⟩
  | some f =>
    by_cases composite : f.isComposite = true
    · obtain ⟨c, opens⟩ := sound.opens_of_composite field composite
      exact .inr ⟨c, _, sound.opening opens, opens.edit_eq⟩
    · exact .inl ⟨_, edit_of_scalar sound.type field (by simpa using composite)⟩

end Sound

end Message

/-- Editing an element of a sound vector is refused, or opens the element. -/
theorem Vector.Sound.inPlace_edit {v : Vector} (sound : v.Sound) (i : Nat) :
    InPlace Composite.vector Composite.message v (v.edit i) := by
  unfold InPlace Vector.edit
  split
  · exact .inl ⟨_, fun _ => rfl⟩
  · split
    · exact .inl ⟨_, fun _ => rfl⟩
    · rename_i item found
      cases item with
      | composite c =>
        cases c with
        | message m =>
          have holds := sound.items _ (List.mem_of_getElem? found)
          refine .inr ⟨m, fun c => { v with items := v.items.set i (.composite c) }, ?_, fun _ => rfl⟩
          refine ⟨.inl (List.mem_of_getElem? found), fun c' same => ?_⟩
          exact .setItem (List.getElem?_eq_some_iff.1 found).1 (holds.of_header same)
        | vector => exact .inl ⟨_, fun _ => rfl⟩
        | map => exact .inl ⟨_, fun _ => rfl⟩
      | null => exact .inl ⟨_, fun _ => rfl⟩
      | scalar => exact .inl ⟨_, fun _ => rfl⟩

/-- Editing a new element of a vector is refused, or opens a fresh message. -/
theorem Vector.inPlace_editNew (v : Vector) :
    InPlace Composite.vector Composite.message v v.editNew := by
  unfold InPlace Vector.editNew Vector.elementIndex
  split
  · exact .inl ⟨_, fun _ => rfl⟩
  · rename_i index element
    split at element
    · rename_i named
      cases element
      split
      · exact .inl ⟨_, fun _ => rfl⟩
      · rename_i m made
        refine .inr ⟨m, fun c => { v with items := v.items ++ [.composite c] }, ?_, fun _ => rfl⟩
        refine ⟨.inr (.message made), fun c' same => ?_⟩
        exact .append ((Kind.holds_of_zero named made).of_header same)
    · simp at element

/-- Editing the value of a key of a sound map is refused, or opens the value or a fresh message. -/
theorem Map.Sound.inPlace_edit {m : Map} (sound : m.Sound) (k : Key) :
    InPlace Composite.map Composite.message m (m.edit k) := by
  unfold InPlace Map.edit
  split
  · exact .inl ⟨_, fun _ => rfl⟩
  · rename_i key
    have key := (m.keyMisfit?_eq_none_iff k).1 key
    split
    · exact .inl ⟨_, fun _ => rfl⟩
    · rename_i index named
      let put : Composite → Map := fun c => { m with entries := m.entries.insert k (.composite c) }
      split
      · split
        · exact .inl ⟨_, fun _ => rfl⟩
        · rename_i inner made
          refine .inr ⟨inner, put, ⟨.inr (.message made), fun c' same => ?_⟩, fun _ => rfl⟩
          exact .setEntry key ((Kind.holds_of_zero named made).of_header same)
      · rename_i stored found
        have holds := (sound.entries k stored found).2
        obtain ⟨inner, rfl, _⟩ := holds.exists_message named
        refine .inr ⟨inner, put, ⟨.inl (Table.mem_values_of_find? found), ?_⟩, fun _ => rfl⟩
        exact fun c' same => .setEntry key (holds.of_header same)

end DynamicMessage
