/-
# Proofs.HiddenRows.Writes -- no write brings a hidden row to light

Every write to messages that are alike up to hidden rows gives the same refusal or related answers,
and leaves them alike.  The one case with content is opening a field: where the part is hidden in
one message and not stored in the other, the stored part is what the other message opens with,
because it suits its field and holds nothing.
-/
import DynamicMessage.Proofs.HiddenRows.Reads

namespace DynamicMessage

set_option autoImplicit false

/-! ## Related outcomes -/

/-- Outcomes of two messages that are the same up to hidden rows. -/
structure Message.Steps (R : Value → Value → Prop) {α : Type} (o o' : Outcome Message α) :
    Prop where
  result : o'.result = o.result
  state : Message.Like R o.state o'.state

/-- Outcomes with the same refusal or related answers, and related states. -/
structure OutcomeLike (R : Value → Value → Prop) {σ : Type} (S : σ → σ → Prop)
    (o o' : Outcome σ Answer) : Prop where
  result : ResultLike R o.result o'.result
  state : S o.state o'.state

/-- One call opens related parts of two containers, and related parts in their place leave the
containers related. -/
structure OpensLike (R : Value → Value → Prop) {σ : Type} (composite : σ → Composite)
    (S : σ → σ → Prop) (x x' : σ) (c c' : Composite) (put put' : Composite → σ) : Prop where
  related : R (.composite c) (.composite c')
  part : .composite c ∈ (composite x).parts ∨ c.Fresh (composite x).schema
  part' : .composite c' ∈ (composite x').parts ∨ c'.Fresh (composite x').schema
  stored : ∀ d d', R (.composite d) (.composite d') → S (put d) (put' d')

/-- Calls that edit a part in place in two containers are refused for one reason, whatever they were
to run, or run on related parts that they open. -/
def InPlaceLike (R : Value → Value → Prop) {σ π : Type} (composite : σ → Composite)
    (part : π → Composite) (S : σ → σ → Prop) (x x' : σ)
    (edit edit' : {α : Type} → (π → Outcome π α) → Outcome σ α) : Prop :=
  (∃ e, (∀ {α : Type} (run : π → Outcome π α), edit run = .fail e x) ∧
      ∀ {α : Type} (run : π → Outcome π α), edit' run = .fail e x') ∨
    ∃ c c' put put', OpensLike R composite S x x' (part c) (part c') put put' ∧
      (∀ {α : Type} (run : π → Outcome π α), edit run = (run c).within fun c => put (part c)) ∧
      ∀ {α : Type} (run : π → Outcome π α), edit' run = (run c').within fun c => put' (part c)

/-- Opening related parts to look at them answers alike. -/
theorem InPlaceLike.look {R : Value → Value → Prop} {σ π : Type} {composite : σ → Composite}
    {part : π → Composite} {S : σ → σ → Prop} {x x' : σ}
    {edit edit' : {α : Type} → (π → Outcome π α) → Outcome σ α}
    (inPlace : InPlaceLike R composite part S x x' edit edit') (like : S x x') :
    OutcomeLike R S (edit fun c => .done (.values [.composite (part c)]) c)
      (edit' fun c => .done (.values [.composite (part c)]) c) := by
  let look : π → Outcome π Answer := fun c => .done (.values [.composite (part c)]) c
  rcases inPlace with ⟨e, refused, refused'⟩ | ⟨c, c', put, put', opens, runs, runs'⟩
  · have refused : edit look = .fail e x := refused look
    have refused' : edit' look = .fail e x' := refused' look
    rw [refused, refused']
    exact ⟨.error e, like⟩
  · have runs : edit look = .done (.values [.composite (part c)]) (put (part c)) := runs look
    have runs' : edit' look = .done (.values [.composite (part c')]) (put' (part c')) :=
      runs' look
    rw [runs, runs']
    exact ⟨.ok (.values (.cons opens.related .nil)), opens.stored _ _ opens.related⟩

/-- A write without an answer has related outcomes if it is refused for the same reason. -/
theorem OutcomeLike.of_answered_done {R : Value → Value → Prop} {σ α : Type} {S : σ → σ → Prop}
    {o o' : Outcome σ α} (result : o'.result = o.result) (state : S o.state o'.state) :
    OutcomeLike R S (o.answered fun _ => .done) (o'.answered fun _ => .done) where
  result := by
    simp only [Outcome.answered, result]
    cases o.result with
    | error e => exact .error e
    | ok a => exact .ok (.same rfl)
  state := state

/-- Writes that are equal but for related values they are given. -/
inductive Write.Like (R : Value → Value → Prop) : {σ : Shape} → Write σ → Write σ → Prop where
  | same {σ : Shape} {w : Write σ} (plain : w.arguments = []) : Write.Like R w w
  | set (n : FieldNumber) {v v' : Value} (related : R v v') : Write.Like R (.set n v) (.set n v')
  | setItem (i : Nat) {v v' : Value} (related : R v v') :
      Write.Like R (.setItem i v) (.setItem i v')
  | append {v v' : Value} (related : R v v') : Write.Like R (.append v) (.append v')
  | setEntry (k : Key) {v v' : Value} (related : R v v') :
      Write.Like R (.setEntry k v) (.setEntry k v')

namespace Message.Like

variable {R : Value → Value → Prop} {m m' : Message}

/-! ## Writes without an answer -/

/-- Both messages refuse a failed write as they are. -/
theorem fail {α : Type} (like : Message.Like R m m') (e : Error) :
    Steps R (.fail e m : Outcome Message α) (.fail e m') :=
  ⟨rfl, like⟩

theorem withField {α : Type} (like : Message.Like R m m') (n : FieldNumber)
    {run run' : MessageType → Field → Outcome Message α}
    (runs : ∀ t f, Steps R (run t f) (run' t f)) :
    Steps R (m.withField n run) (m'.withField n run') := by
  unfold Message.withField
  rw [like.type_eq]
  split
  · exact like.fail _
  · rename_i t _
    rw [like.field?_eq]
    split
    · exact like.fail _
    · exact runs _ _

theorem set (agrees : Agreement R) (like : Message.Like R m m') (n : FieldNumber) {v v' : Value}
    (related : R v v') : Steps R (m.set n v) (m'.set n v') := by
  have face := agrees.face related
  apply like.withField n
  intro t f
  rw [← Value.isNull_of_face face, like.schema_eq, ← Field.misfit?_of_face face,
    ← Message.isKept_of_face face]
  split
  · split
    · exact ⟨rfl, like.unset n⟩
    · exact like.fail _
  · split
    · exact like.fail _
    · split
      · exact ⟨rfl, (like.unsetSiblings t n f).put n related⟩
      · exact ⟨rfl, like.unset n⟩

theorem clear (like : Message.Like R m m') (n : FieldNumber) : Steps R (m.clear n) (m'.clear n) :=
  like.withField n fun _ _ => ⟨rfl, like.unset n⟩

theorem register (like : Message.Like R m m') (e : Extension) :
    Steps R (m.register e) (m'.register e) := by
  have conflict : ∀ t, m'.conflict? t e = m.conflict? t e := by
    intro t
    simp only [conflict?, like.extensions_eq]
  have size : m'.schema.size = m.schema.size := by rw [like.schema_eq]
  unfold Message.register
  rw [like.type_eq]
  split
  · exact like.fail _
  · rename_i t _
    rw [conflict t]
    split
    · exact like.fail _
    · rw [size]
      split
      · exact like.fail _
      · rw [like.extensions_eq]
        exact ⟨rfl, like.with_extensions _⟩

theorem remove (agrees : Agreement R) (like : Message.Like R m m') (e : Extension) :
    Steps R (m.remove e) (m'.remove e) := by
  have registered : m'.isRegistered e = m.isRegistered e := by
    simp only [isRegistered, like.extensions_eq]
  unfold Message.remove
  rw [registered, like.has_eq agrees]
  split
  · exact ⟨rfl, like⟩
  · split
    · exact like.fail _
    · rw [like.extensions_eq]
      exact ⟨rfl, (like.unset e.number).with_extensions _⟩

theorem setUnknown (like : Message.Like R m m') (n : FieldNumber) (run : Wire.Run) :
    Steps R (m.setUnknown n run) (m'.setUnknown n run) := by
  unfold Message.setUnknown
  rw [like.unknown_eq]
  exact ⟨rfl, like.with_unknown _⟩

theorem appendUnknown (like : Message.Like R m m') (n : FieldNumber) (run : Wire.Run) :
    Steps R (m.appendUnknown n run) (m'.appendUnknown n run) := by
  unfold Message.appendUnknown
  rw [like.unknown_eq]
  exact ⟨rfl, like.with_unknown _⟩

/-! ## Opening a field -/

variable {t : MessageType}

/-- What a field opens with is related to itself. -/
theorem related_initial (agrees : Agreement R) (sound : m.Sound t) {n : FieldNumber} {f : Field}
    {c : Composite} (field : m.field? t n = some f)
    (initial : f.initial m.schema = .ok (.composite c)) : R (.composite c) (.composite c) :=
  agrees.fresh (sound.fresh_of_initial field initial)

/-- A field that opens in one message opens in the other, with a related part. -/
theorem opens (agrees : Agreement R) (like : Message.Like R m m') (sound : m.Sound t)
    (sound' : m'.Sound t) {n : FieldNumber} {f : Field} {c : Composite}
    (opens : m.Opens t n f c) :
    ∃ c', m'.Opens t n f c' ∧ R (.composite c) (.composite c') := by
  have field' : m'.field? t n = some f := by rw [like.field?_eq, opens.field]
  have slots := like.slots n
  generalize stored' : m'.fields.find? n = o' at slots
  rcases opens.part with stored | ⟨absent, initial⟩
  · rw [stored] at slots
    cases slots with
    | @both _ v' related =>
      obtain ⟨c', rfl⟩ := (sound'.holds_of_stored field' stored').exists_composite opens.composite
      exact ⟨c', ⟨sound'.type, field', opens.composite, .inl stored'⟩, related⟩
    | first hidden =>
      -- The hidden part of the first message is what the second one opens with.
      have initial := (sound.holds_of_opens opens).initial_of_hidden hidden
      have initial' : f.initial m'.schema = .ok (.composite c) := by rw [like.schema_eq, initial]
      exact ⟨c, ⟨sound'.type, field', opens.composite, .inr ⟨stored', initial'⟩⟩,
        related_initial agrees sound opens.field initial⟩
  · rw [absent] at slots
    cases slots with
    | absent =>
      have initial' : f.initial m'.schema = .ok (.composite c) := by rw [like.schema_eq, initial]
      exact ⟨c, ⟨sound'.type, field', opens.composite, .inr ⟨stored', initial'⟩⟩,
        related_initial agrees sound opens.field initial⟩
    | second hidden =>
      -- The hidden part of the second message is what the first one opens with.
      have same := (sound'.holds_of_stored field' stored').initial_of_hidden hidden
      rw [like.schema_eq, initial, Except.ok.injEq] at same
      subst same
      exact ⟨c, ⟨sound'.type, field', opens.composite, .inl stored'⟩,
        related_initial agrees sound opens.field initial⟩

/-- Editing a field is refused by both messages for one reason, or opens related parts. -/
theorem inPlace_edit (agrees : Agreement R) (like : Message.Like R m m') (sound : m.Sound t)
    (sound' : m'.Sound t) (n : FieldNumber) :
    InPlaceLike R Composite.message id (Message.Like R) m m' (m.edit n) (m'.edit n) := by
  cases field : m.field? t n with
  | none =>
    have field' : m'.field? t n = none := by rw [like.field?_eq, field]
    exact .inl ⟨_, edit_of_unknown sound.type field, edit_of_unknown sound'.type field'⟩
  | some f =>
    have field' : m'.field? t n = some f := by rw [like.field?_eq, field]
    by_cases composite : f.isComposite = true
    · obtain ⟨c, opens⟩ := sound.opens_of_composite field composite
      obtain ⟨c', opens', related⟩ := like.opens agrees sound sound' opens
      refine .inr ⟨c, c', fun d => (m.unsetSiblings t n f).put n (.composite d),
        fun d => (m'.unsetSiblings t n f).put n (.composite d),
        ⟨related, (sound.opening opens).part, (sound'.opening opens').part, ?_⟩,
        opens.edit_eq, opens'.edit_eq⟩
      intro d d' parts
      exact (like.unsetSiblings t n f).put n parts
    · have scalar : f.isComposite = false := by simpa using composite
      exact .inl ⟨_, edit_of_scalar sound.type field scalar, edit_of_scalar sound'.type field' scalar⟩

/-! ## All writes -/

/-- A write to messages that are alike answers alike and leaves them alike. -/
theorem write (agrees : Agreement R) (like : Message.Like R m m') (sound : m.Sound t)
    (sound' : m'.Sound t) {w w' : Write .message} (given : Write.Like R w w') :
    OutcomeLike R (Message.Like R) (w.run m) (w'.run m') := by
  have plain : ∀ {α : Type} {o o' : Outcome Message α}, Steps R o o' →
      OutcomeLike R (Message.Like R) (o.answered fun _ => .done) (o'.answered fun _ => .done) :=
    fun steps => .of_answered_done steps.result steps.state
  cases given with
  | set n related => exact plain (like.set agrees n related)
  | same none =>
    cases w with
    | set n v => simp [Write.arguments] at none
    | clear n => exact plain (like.clear n)
    | register extendee field => exact plain (like.register _)
    | remove extendee field => exact plain (like.remove agrees _)
    | setUnknown n run => exact plain (like.setUnknown n run)
    | appendUnknown n run => exact plain (like.appendUnknown n run)
    | openField n => exact (like.inPlace_edit agrees sound sound' n).look like

end Message.Like

end DynamicMessage
