/-
# Proofs.Message.Independence -- writes to independent fields commute

A write to a field looks at one row, the one under its own number, and at nothing else that writes
change.  So what it answers and what it does to the rows is settled before it runs, whatever other
rows are stored by then (`FieldWrite.Settled`): it keeps the rows, drops its own, or stores its own
and drops those of its siblings (`RowChange`).  Two changes commute when neither is about the row of
the other (`RowChange.apply_comm`), and siblings are the only rows that a write reaches beside its
own.

An edit runs whatever it is given and may leave any composite, so the messages between two writes
need not be sound.
-/
import DynamicMessage.Proofs.Message.Oneof

namespace DynamicMessage

set_option autoImplicit false

/-! ## Changes to the rows -/

/-- What a write to a field does to the rows: nothing, dropping the row of the field, or storing a
row for it and dropping those of its siblings. -/
inductive RowChange where
  | keep
  | drop
  | store (siblings : List FieldNumber) (v : Value)

namespace RowChange

/-- The rows after a change to the field of a number. -/
def apply (n : FieldNumber) (rows : Table FieldNumber Value) : RowChange → Table FieldNumber Value
  | keep => rows
  | drop => rows.erase n
  | store siblings v => (siblings.foldl Table.erase rows).insert n v

/-- The row of the field after a change to it. -/
def own (row : Option Value) : RowChange → Option Value
  | keep => row
  | drop => none
  | store _ v => some v

/-- The numbers whose rows a change drops beside its own. -/
def dropped : RowChange → List FieldNumber
  | keep => []
  | drop => []
  | store siblings _ => siblings

variable {rows : Table FieldNumber Value} {n k : FieldNumber} {c d : RowChange}

theorem find?_apply (c : RowChange) (n : FieldNumber) (rows : Table FieldNumber Value)
    (k : FieldNumber) :
    (c.apply n rows).find? k =
      if k = n then c.own (rows.find? n) else if k ∈ c.dropped then none else rows.find? k := by
  cases c with
  | keep =>
    simp only [apply, own, dropped, List.not_mem_nil, ↓reduceIte]
    split <;> simp [*]
  | drop => simp [apply, own, dropped, Table.find?_erase]
  | store siblings v =>
    rw [apply, Table.find?_insert, Table.find?_foldl_erase]
    rfl

theorem find?_apply_of_apart (differ : k ≠ n) (apart : k ∉ c.dropped) :
    (c.apply n rows).find? k = rows.find? k := by
  rw [find?_apply, if_neg differ, if_neg apart]

theorem ascending_apply (ascending : rows.Ascending) (c : RowChange) (n : FieldNumber) :
    (c.apply n rows).Ascending := by
  cases c with
  | keep => exact ascending
  | drop => exact ascending.erase n
  | store siblings v => exact (ascending.foldl_erase siblings).insert n v

/-- Neither of two changes is about the row of the other. -/
structure Apart (c d : FieldNumber × RowChange) : Prop where
  differ : c.1 ≠ d.1
  first : d.1 ∉ c.2.dropped
  second : c.1 ∉ d.2.dropped

theorem Apart.symm {c d : FieldNumber × RowChange} (apart : Apart c d) : Apart d c :=
  ⟨apart.differ.symm, apart.second, apart.first⟩

/-- Changes that are apart commute: each decides its own row, and the other rows are dropped by one
of them or by none. -/
theorem apply_comm (ascending : rows.Ascending) (apart : Apart (n, c) (k, d)) :
    d.apply k (c.apply n rows) = c.apply n (d.apply k rows) := by
  refine (ascending_apply (ascending_apply ascending c n) d k).ext
    (ascending_apply (ascending_apply ascending d k) c n) fun j => ?_
  have differ : n ≠ k := apart.differ
  have first : k ∉ c.dropped := apart.first
  have second : n ∉ d.dropped := apart.second
  simp only [find?_apply]
  grind

/-- The rows after changes in order. -/
def applyAll (rows : Table FieldNumber Value) (changes : List (FieldNumber × RowChange)) :
    Table FieldNumber Value :=
  changes.foldl (fun rows c => c.2.apply c.1 rows) rows

/-- Changes that are apart leave the same rows in every order. -/
theorem applyAll_perm {cs ds : List (FieldNumber × RowChange)} (perm : cs.Perm ds)
    (apart : cs.Pairwise Apart) (ascending : rows.Ascending) :
    applyAll rows cs = applyAll rows ds := by
  induction perm generalizing rows with
  | nil => rfl
  | cons c _ ih => exact ih (List.pairwise_cons.1 apart).2 (ascending_apply ascending c.2 c.1)
  | swap c d cs =>
    have other : Apart d c := (List.pairwise_cons.1 apart).1 c (by simp)
    show applyAll (c.2.apply c.1 (d.2.apply d.1 rows)) cs = _
    rw [apply_comm ascending other]
    rfl
  | trans first _ ih ih' =>
    rw [ih apart ascending, ih' ((first.pairwise_iff fun apart => apart.symm).1 apart) ascending]

end RowChange

/-! ## Writes -/

/-- A write to one field: setting it, clearing it, or opening it to run an operation on the
composite that it holds. -/
inductive FieldWrite (α : Type) where
  | set (n : FieldNumber) (v : Value)
  | clear (n : FieldNumber)
  | edit (n : FieldNumber) (run : Composite → Outcome Composite α)

namespace FieldWrite

variable {α β : Type}

/-- The number that a write is addressed to. -/
def number : FieldWrite α → FieldNumber
  | set n _ => n
  | clear n => n
  | edit n _ => n

/-- What a write answers and leaves; an edit answers what its operation does. -/
def run : FieldWrite α → Message → Outcome Message (Option α)
  | set n v, m => (m.set n v).answered fun _ => none
  | clear n, m => (m.clear n).answered fun _ => none
  | edit n run, m => (m.edit n run).answered some

/-- The message after writes in order, of which a refused one does not stop the next. -/
def after (ws : List (FieldWrite α)) (m : Message) : Message :=
  ws.foldl (fun m w => (w.run m).state) m

/-- What writes answer one after another. -/
def answers : List (FieldWrite α) → Message → List (Except Error (Option α))
  | [], _ => []
  | w :: ws, m => (w.run m).result :: answers ws (w.run m).state

/-- What a write to a message of type `t` answers, and what it does to the rows, as long as the row
under its number is the one that the message has. -/
structure Settled (w : FieldWrite α) (m : Message) (t : MessageType)
    (answer : Except Error (Option α)) (change : RowChange) : Prop where
  run : ∀ rows : Table FieldNumber Value, rows.find? w.number = m.fields.find? w.number →
    w.run { m with fields := rows } = ⟨answer, { m with fields := change.apply w.number rows }⟩
  siblings : ∀ k ∈ change.dropped, ∃ f, m.field? t w.number = some f ∧
    k ∈ Message.siblings t w.number f

variable {m : Message} {t : MessageType}

/-- A write that is refused whatever rows are stored keeps them. -/
theorem settled_of_refused {w : FieldWrite α} (e : Error)
    (refused : ∀ rows : Table FieldNumber Value, w.run { m with fields := rows } =
      .fail e { m with fields := rows }) : w.Settled m t (.error e) .keep where
  run rows _ := refused rows
  siblings k dropped := by simp [RowChange.dropped] at dropped

/-- A write that only drops the row of its field. -/
theorem settled_of_dropped {w : FieldWrite α} (answer : Option α)
    (dropped : ∀ rows : Table FieldNumber Value, w.run { m with fields := rows } =
      .done answer { m with fields := rows.erase w.number }) :
    w.Settled m t (.ok answer) .drop where
  run rows _ := dropped rows
  siblings k dropped := by simp [RowChange.dropped] at dropped

theorem exists_settled_set (type : m.type = .ok t) (n : FieldNumber) (v : Value) :
    ∃ answer change, (set n v : FieldWrite α).Settled m t answer change := by
  have typed : ∀ rows, Message.type { m with fields := rows } = .ok t := fun _ => type
  cases field : m.field? t n with
  | none =>
    have absent : ∀ rows, Message.field? { m with fields := rows } t n = none := fun _ => field
    refine ⟨_, _, settled_of_refused (.unknownFieldNumber t.name n) fun rows => ?_⟩
    simp only [run, Message.set, Message.withField, typed, absent]
    rfl
  | some f =>
    have present : ∀ rows, Message.field? { m with fields := rows } t n = some f := fun _ => field
    by_cases null : v.isNull = true
    · by_cases nullable : f.isNullable = true
      · refine ⟨_, _, settled_of_dropped none fun rows => ?_⟩
        simp only [run, Message.set, Message.withField, typed, present, null, nullable, ↓reduceIte]
        rfl
      · refine ⟨_, _, settled_of_refused (.nullRejected .fieldSet) fun rows => ?_⟩
        simp only [run, Message.set, Message.withField, typed, present, null, nullable, ↓reduceIte]
        rfl
    · cases misfit : f.misfit? m.schema v with
      | some e =>
        refine ⟨_, _, settled_of_refused e fun rows => ?_⟩
        simp only [run, Message.set, Message.withField, typed, present, null, misfit]
        rfl
      | none =>
        by_cases kept : Message.isKept f v = true
        · refine ⟨.ok none, .store (Message.siblings t n f) v, fun rows _ => ?_, ?_⟩
          · simp only [run, Message.set, Message.withField, typed, present, null, misfit, kept,
              ↓reduceIte, Message.unsetSiblings_eq]
            rfl
          · exact fun k sibling => ⟨f, field, sibling⟩
        · refine ⟨_, _, settled_of_dropped none fun rows => ?_⟩
          simp only [run, Message.set, Message.withField, typed, present, null, misfit, kept]
          rfl

theorem exists_settled_clear (type : m.type = .ok t) (n : FieldNumber) :
    ∃ answer change, (clear n : FieldWrite α).Settled m t answer change := by
  have typed : ∀ rows, Message.type { m with fields := rows } = .ok t := fun _ => type
  cases field : m.field? t n with
  | none =>
    have absent : ∀ rows, Message.field? { m with fields := rows } t n = none := fun _ => field
    refine ⟨_, _, settled_of_refused (.unknownFieldNumber t.name n) fun rows => ?_⟩
    simp only [run, Message.clear, Message.withField, typed, absent]
    rfl
  | some f =>
    have present : ∀ rows, Message.field? { m with fields := rows } t n = some f := fun _ => field
    refine ⟨_, _, settled_of_dropped none fun rows => ?_⟩
    simp only [run, Message.clear, Message.withField, typed, present]
    rfl

/-- What an edit opens is known from the row under its number. -/
theorem exists_settled_edit (sound : m.Sound t) (n : FieldNumber)
    (operation : Composite → Outcome Composite α) :
    ∃ answer change, (edit n operation).Settled m t answer change := by
  have typed : ∀ rows, Message.type { m with fields := rows } = .ok t := fun _ => sound.type
  cases field : m.field? t n with
  | none =>
    refine ⟨_, _, settled_of_refused (.unknownFieldNumber t.name n) fun rows => ?_⟩
    rw [run, Message.edit_of_unknown (typed rows) field]
    rfl
  | some f =>
    by_cases composite : f.isComposite = true
    · obtain ⟨c, opens⟩ := sound.opens_of_composite field composite
      refine ⟨(operation c).result.map some,
        .store (Message.siblings t n f) (.composite (operation c).state), fun rows same => ?_, ?_⟩
      · have opens' : Message.Opens { m with fields := rows } t n f c := by
          refine ⟨opens.type, opens.field, opens.composite, ?_⟩
          show rows.find? n = some _ ∨ rows.find? n = none ∧ _
          rw [show rows.find? n = m.fields.find? n from same]
          exact opens.part
        rw [run, opens'.edit_eq, Message.unsetSiblings_eq]
        rfl
      · exact fun k sibling => ⟨f, field, sibling⟩
    · refine ⟨_, _, settled_of_refused (.typeMismatch .composite f.kind.member) fun rows => ?_⟩
      rw [run, Message.edit_of_scalar (typed rows) field (by simpa using composite)]
      rfl

/-- Every write to a sound message is settled. -/
theorem exists_settled (sound : m.Sound t) (w : FieldWrite α) :
    ∃ answer change, w.Settled m t answer change := by
  cases w with
  | set n v => exact exists_settled_set sound.type n v
  | clear n => exact exists_settled_clear sound.type n
  | edit n operation => exact exists_settled_edit sound n operation

end FieldWrite

/-! ## Independent fields -/

/-- The numbers are different, and not those of two members of one oneof. -/
structure MessageType.Independent (t : MessageType) (n k : FieldNumber) : Prop where
  differ : n ≠ k
  apart : ¬∃ o, (∃ f, t.Groups o f ∧ f.number = n) ∧ ∃ g, t.Groups o g ∧ g.number = k

theorem MessageType.Independent.symm {t : MessageType} {n k : FieldNumber}
    (independent : t.Independent n k) : t.Independent k n where
  differ := independent.differ.symm
  apart := fun ⟨o, member, member'⟩ => independent.apart ⟨o, member', member⟩

namespace Message

variable {m : Message} {t : MessageType}

/-- A field has a sibling only if it is declared as a member of the oneof that the sibling is a
member of. -/
theorem Sound.member_of_sibling (sound : m.Sound t) (extended : m.Extended t) {n k : FieldNumber}
    {f : Field} (field : m.field? t n = some f) (sibling : k ∈ siblings t n f) :
    ∃ o, (∃ f, t.Groups o f ∧ f.number = n) ∧ ∃ g, t.Groups o g ∧ g.number = k := by
  obtain ⟨-, o, grouped, other⟩ := (mem_siblings_iff t n k f).1 sibling
  obtain ⟨member, number⟩ := sound.groups extended field grouped
  exact ⟨o, ⟨f, member, number⟩, other⟩

end Message

namespace FieldWrite

variable {α β : Type} {m : Message} {t : MessageType}

namespace Settled

variable {w : FieldWrite α} {u : FieldWrite β} {answer : Except Error (Option α)}
  {answer' : Except Error (Option β)} {c d : RowChange}

theorem run_self (settled : w.Settled m t answer c) :
    w.run m = ⟨answer, { m with fields := c.apply w.number m.fields }⟩ := by
  have run := settled.run m.fields rfl
  cases m
  exact run

/-- Changes of writes to independent fields are apart. -/
theorem apart (sound : m.Sound t) (extended : m.Extended t) (settled : w.Settled m t answer c)
    (settled' : u.Settled m t answer' d) (independent : t.Independent w.number u.number) :
    RowChange.Apart (w.number, c) (u.number, d) where
  differ := independent.differ
  first dropped := by
    obtain ⟨f, field, sibling⟩ := settled.siblings _ dropped
    exact independent.apart (sound.member_of_sibling extended field sibling)
  second dropped := by
    obtain ⟨f, field, sibling⟩ := settled'.siblings _ dropped
    exact independent.symm.apart (sound.member_of_sibling extended field sibling)

/-- A write answers and does the same after another one whose change is apart. -/
theorem run_after (settled' : u.Settled m t answer' d)
    (apart : RowChange.Apart (w.number, c) (u.number, d)) :
    u.run { m with fields := c.apply w.number m.fields } =
      ⟨answer', { m with fields := d.apply u.number (c.apply w.number m.fields) }⟩ :=
  settled'.run _ (RowChange.find?_apply_of_apart apart.differ.symm apart.first)

end Settled

/-- Settled writes whose changes are apart answer as each does alone, and leave the rows after all
their changes.  By induction on the writes that are left, whose rows are still those of `m`. -/
theorem after_eq {answer : FieldWrite α → Except Error (Option α)}
    {change : FieldWrite α → RowChange}
    (settled : ∀ w : FieldWrite α, w.Settled m t (answer w) (change w))
    {ws : List (FieldWrite α)}
    (apart : (ws.map fun w => (w.number, change w)).Pairwise RowChange.Apart)
    (rows : Table FieldNumber Value)
    (same : ∀ w ∈ ws, rows.find? w.number = m.fields.find? w.number) :
    after ws { m with fields := rows } =
        { m with fields := RowChange.applyAll rows (ws.map fun w => (w.number, change w)) } ∧
      answers ws { m with fields := rows } = ws.map answer := by
  induction ws generalizing rows with
  | nil => exact ⟨rfl, rfl⟩
  | cons w ws ih =>
    obtain ⟨others, rest⟩ := List.pairwise_cons.1 apart
    have run := (settled w).run rows (same w (by simp))
    have left : ∀ u ∈ ws, ((change w).apply w.number rows).find? u.number =
        m.fields.find? u.number := by
      intro u member
      have other := others _ (List.mem_map.2 ⟨u, member, rfl⟩)
      rw [RowChange.find?_apply_of_apart other.differ.symm other.first]
      exact same u (List.mem_cons_of_mem _ member)
    obtain ⟨state, results⟩ := ih rest _ left
    constructor
    · show after ws (w.run { m with fields := rows }).state = _
      rw [run]
      exact state
    · rw [answers, run, results]
      rfl

theorem after_self {answer : FieldWrite α → Except Error (Option α)}
    {change : FieldWrite α → RowChange}
    (settled : ∀ w : FieldWrite α, w.Settled m t (answer w) (change w)) {ws : List (FieldWrite α)}
    (apart : (ws.map fun w => (w.number, change w)).Pairwise RowChange.Apart) :
    after ws m =
        { m with fields := RowChange.applyAll m.fields (ws.map fun w => (w.number, change w)) } ∧
      answers ws m = ws.map answer := by
  have all := after_eq settled apart m.fields fun _ _ => rfl
  cases m
  exact all

end FieldWrite

/-- Writes to independent fields of a message that a run leads to commute: each of two answers the
same before and after the other, and they leave the same message in either order.  A batch of
writes to pairwise independent fields leaves the same message in every order, and each write
answers as if it came first. -/
theorem reachable_writes_commute {m : Message} (reachable : Reachable (.message m)) :
    ∃ t, m.type = .ok t ∧
      (∀ {α β : Type} (w : FieldWrite α) (u : FieldWrite β), t.Independent w.number u.number →
        (u.run (w.run m).state).result = (u.run m).result ∧
        (w.run (u.run m).state).result = (w.run m).result ∧
        (u.run (w.run m).state).state = (w.run (u.run m).state).state) ∧
      ∀ {α : Type} (ws us : List (FieldWrite α)),
        ws.Pairwise (fun w u => t.Independent w.number u.number) → us.Perm ws →
        FieldWrite.after us m = FieldWrite.after ws m ∧
        FieldWrite.answers us m = us.map fun w => (w.run m).result := by
  obtain ⟨t, sound⟩ := reachable.sound.here
  have extended := reachable.onMessage Message.invariant_extended sound.type
  refine ⟨t, sound.type, fun w u independent => ?_, fun {α} ws us independent perm => ?_⟩
  · obtain ⟨answer, c, settled⟩ := w.exists_settled sound
    obtain ⟨answer', d, settled'⟩ := u.exists_settled sound
    have apart := settled.apart sound extended settled' independent
    rw [settled.run_self, settled'.run_self, settled'.run_after apart,
      settled.run_after apart.symm, RowChange.apply_comm sound.ascending apart]
    exact ⟨rfl, rfl, rfl⟩
  · choose answer change settled using FieldWrite.exists_settled (α := α) sound
    have results : ∀ w, answer w = (w.run m).result := fun w => by rw [(settled w).run_self]
    have apart : (ws.map fun w => (w.number, change w)).Pairwise RowChange.Apart :=
      List.pairwise_map.2 (independent.imp fun {w u} =>
        (settled w).apart sound extended (settled u))
    have perm' := perm.symm.map fun w => (w.number, change w)
    have apart' := (perm'.pairwise_iff fun apart => apart.symm).1 apart
    have order := RowChange.applyAll_perm perm' apart sound.ascending
    obtain ⟨state, -⟩ := FieldWrite.after_self settled apart
    obtain ⟨state', answers⟩ := FieldWrite.after_self settled apart'
    rw [state, state', answers, order]
    exact ⟨rfl, List.map_congr_left fun w _ => results w⟩

namespace AddressBook

/-- Writes to a card: the handle takes the place of the pager, the type of a value is refused, and
the phone numbers are dropped in place. -/
def errands : List (FieldWrite Unit) :=
  [.set 7 (.scalar (.string "al")), .set 1 (.scalar (.string "Al")),
   .set 2 (.scalar (.string "two")), .edit 4 (Shape.vector.edit fun v => v.truncate 0).onComposite,
   .clear 100]

/-- The errands in reverse leave the same card, and each answers the same. -/
theorem errands_in_reverse :
    Reachable (.message card) ∧ (FieldWrite.after errands card).list = [1, 5, 7] ∧
      FieldWrite.after errands.reverse card = FieldWrite.after errands card ∧
      FieldWrite.answers errands.reverse card =
        errands.reverse.map fun w => (w.run card).result := by
  obtain ⟨t, type, -, batch⟩ := reachable_writes_commute reachable_card
  have found : schema.type? person = some t := (card.type_eq_ok_iff t).1 type
  have grouped : ∀ f ∈ t.fields, f.oneof.isSome = true → f.number = 7 ∨ f.number = 8 := by
    rw [fields_of_person found]
    decide
  have apart : ∀ {n k : FieldNumber}, n ≠ k → k ≠ 7 → k ≠ 8 → t.Independent n k := by
    intro n k differ handle pager
    refine ⟨differ, ?_⟩
    rintro ⟨o, -, g, member, rfl⟩
    rcases grouped g member.listed (by simp [member.oneof]) with number | number
    · exact handle number
    · exact pager number
  have independent : errands.Pairwise fun w u => t.Independent w.number u.number := by
    have differ : errands.Pairwise fun w u =>
        w.number ≠ u.number ∧ u.number ≠ 7 ∧ u.number ≠ 8 := by
      simp [errands, FieldWrite.number]
    exact differ.imp fun other => apart other.1 other.2.1 other.2.2
  obtain ⟨same, answers⟩ := batch errands errands.reverse independent (List.reverse_perm _)
  exact ⟨reachable_card, by decide +kernel, same, answers⟩

end AddressBook

end DynamicMessage
