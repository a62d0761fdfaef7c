/-
# Proofs.HiddenRows.Nested -- hidden rows at every depth

`Alike` relates values that differ in hidden rows of messages anywhere inside them: elements of
vectors and values of maps correspond one to one, fields of messages do up to hidden rows.  It
agrees with what the checks see, so all calls respect it, on vectors and maps as on messages, and
sound values are alike to themselves.
-/
import DynamicMessage.Proofs.HiddenRows.Writes

namespace DynamicMessage

set_option autoImplicit false

/-! ## Vectors and maps with related values -/

/-- Vectors of one kind with related elements. -/
inductive Vector.Like (R : Value → Value → Prop) : Vector → Vector → Prop where
  | intro {schema : Schema} {kind : Kind} {items items' : List Value}
      (related : List.Forall₂ R items items') :
      Vector.Like R ⟨schema, kind, items⟩ ⟨schema, kind, items'⟩

/-- Maps of one kind with the same keys and related values. -/
inductive Map.Like (R : Value → Value → Prop) : Map → Map → Prop where
  | intro {schema : Schema} {key value : Kind} {entries entries' : Table Key Value}
      (related : ∀ k, Option.Rel R (entries.find? k) (entries'.find? k)) :
      Map.Like R ⟨schema, key, value, entries⟩ ⟨schema, key, value, entries'⟩

/-- The positions of related lists hold related values. -/
theorem rel_getElem? {R : Value → Value → Prop} {xs ys : List Value} (related : List.Forall₂ R xs ys)
    (i : Nat) : Option.Rel R xs[i]? ys[i]? := by
  induction related generalizing i with
  | nil => exact .none
  | cons first _ ih =>
    cases i with
    | zero => exact .some first
    | succ i => exact ih i

theorem forall₂_set {R : Value → Value → Prop} {xs ys : List Value} {x y : Value}
    (related : List.Forall₂ R xs ys) (i : Nat) (new : R x y) :
    List.Forall₂ R (xs.set i x) (ys.set i y) := by
  induction related generalizing i with
  | nil => exact .nil
  | cons first rest ih =>
    cases i with
    | zero => exact .cons new rest
    | succ i => exact .cons first (ih i)

section Related

variable {R : Value → Value → Prop}

/-- Related values are messages together, or are refused as messages for one reason. -/
theorem Agreement.asMessage (agrees : Agreement R) {v v' : Value} (related : R v v') :
    (∃ e, v.asMessage = .error e ∧ v'.asMessage = .error e) ∨
      ∃ m m', v = .message m ∧ v' = .message m' := by
  rcases Value.face_cases (agrees.face related) with rfl | ⟨c, c', rfl, rfl, header, -⟩
  · cases v with
    | null => exact .inl ⟨_, rfl, rfl⟩
    | scalar x => exact .inl ⟨_, rfl, rfl⟩
    | composite c =>
      cases c with
      | message m => exact .inr ⟨m, m, rfl, rfl⟩
      | vector v => exact .inl ⟨_, rfl, rfl⟩
      | map m => exact .inl ⟨_, rfl, rfl⟩
  · cases c <;> cases c' <;> simp only [Composite.header, reduceCtorEq] at header
    case message m m' => exact .inr ⟨m, m', rfl, rfl⟩
    case vector => exact .inl ⟨_, rfl, rfl⟩
    case map => exact .inl ⟨_, rfl, rfl⟩

/-! ## The calls on vectors -/

namespace Vector.Like

variable {v v' : Vector}

theorem schema_eq (like : Vector.Like R v v') : v'.schema = v.schema := by
  cases like
  rfl

theorem kind_eq (like : Vector.Like R v v') : v'.kind = v.kind := by
  cases like
  rfl

theorem items (like : Vector.Like R v v') : List.Forall₂ R v.items v'.items := by
  cases like with
  | intro related => exact related

theorem length_eq (like : Vector.Like R v v') : v'.length = v.length :=
  like.items.length_eq.symm

theorem with_items (like : Vector.Like R v v') {items items' : List Value}
    (related : List.Forall₂ R items items') :
    Vector.Like R { v with items } { v' with items := items' } := by
  cases like
  exact .intro related

theorem misfit?_eq (agrees : Agreement R) (like : Vector.Like R v v') (context : NullContext)
    {x x' : Value} (related : R x x') : v'.misfit? context x' = v.misfit? context x := by
  have face := agrees.face related
  rw [Vector.misfit?, Vector.misfit?, like.schema_eq, like.kind_eq, ← Value.isNull_of_face face,
    ← Schema.misfit?_of_face face]

/-- Every read of a vector answers alike. -/
theorem read (like : Vector.Like R v v') (r : Read .vector) :
    ResultLike R (r.answer v) (r.answer v') := by
  cases r with
  | item i =>
    have related := rel_getElem? like.items i
    simp only [Read.answer, Vector.get, like.length_eq]
    generalize v.items[i]? = o at related
    generalize v'.items[i]? = o' at related
    cases related with
    | none => exact .error _
    | some related => exact .ok (.values (.cons related .nil))
  | items => exact .ok (.values like.items)

/-- Editing an element is refused by both vectors for one reason, or opens related messages. -/
theorem inPlace_edit (agrees : Agreement R) (like : Vector.Like R v v') (i : Nat) :
    InPlaceLike R Composite.vector Composite.message (Vector.Like R) v v' (v.edit i) (v'.edit i) := by
  have element : v'.elementIndex = v.elementIndex := by
    rw [Vector.elementIndex, Vector.elementIndex, like.kind_eq]
  have related := rel_getElem? like.items i
  unfold InPlaceLike Vector.edit
  rw [element, like.length_eq]
  split
  · exact .inl ⟨_, fun _ => rfl, fun _ => rfl⟩
  · generalize found : v.items[i]? = o at related
    generalize found' : v'.items[i]? = o' at related
    cases related with
    | none => exact .inl ⟨_, fun _ => rfl, fun _ => rfl⟩
    | some related =>
      rcases agrees.asMessage related with ⟨e, refused, refused'⟩ | ⟨m, m', rfl, rfl⟩
      · refine .inl ⟨e, fun _ => ?_, fun _ => ?_⟩
        · simp only [refused]
        · simp only [refused']
      · refine .inr ⟨m, m', fun c => { v with items := v.items.set i (.composite c) },
          fun c => { v' with items := v'.items.set i (.composite c) }, ⟨related, ?_, ?_, ?_⟩,
          fun _ => rfl, fun _ => rfl⟩
        · exact .inl (List.mem_of_getElem? found)
        · exact .inl (List.mem_of_getElem? found')
        · exact fun d d' parts => like.with_items (forall₂_set like.items i parts)

/-- Adding an element in place is refused by both vectors for one reason, or opens new messages. -/
theorem inPlace_editNew (agrees : Agreement R) (like : Vector.Like R v v') :
    InPlaceLike R Composite.vector Composite.message (Vector.Like R) v v' v.editNew v'.editNew := by
  have element : v'.elementIndex = v.elementIndex := by
    rw [Vector.elementIndex, Vector.elementIndex, like.kind_eq]
  unfold InPlaceLike Vector.editNew
  rw [element]
  split
  · exact .inl ⟨_, fun _ => rfl, fun _ => rfl⟩
  · rename_i index _
    have zero : Message.zero v'.schema index = Message.zero v.schema index := by rw [like.schema_eq]
    rw [zero]
    cases made : Message.zero v.schema index with
    | error e => exact .inl ⟨e, fun _ => rfl, fun _ => rfl⟩
    | ok m =>
      refine .inr ⟨m, m, fun c => { v with items := v.items ++ [.composite c] },
        fun c => { v' with items := v'.items ++ [.composite c] }, ⟨?_, ?_, ?_, ?_⟩,
        fun _ => rfl, fun _ => rfl⟩
      · exact agrees.fresh (.message made)
      · exact .inr (.message made)
      · exact .inr (.message (zero.trans made))
      · exact fun d d' parts => like.with_items (List.rel_append like.items (.cons parts .nil))

/-- A write to vectors with related elements answers alike and leaves them related. -/
theorem write (agrees : Agreement R) (like : Vector.Like R v v') {w w' : Write .vector}
    (given : Write.Like R w w') : OutcomeLike R (Vector.Like R) (w.run v) (w'.run v') := by
  cases given with
  | setItem i related =>
    refine OutcomeLike.of_answered_done ?_ ?_ <;>
      simp only [Vector.set, like.misfit?_eq agrees _ related, like.length_eq]
    · split
      · rfl
      · split <;> rfl
    · split
      · exact like
      · split
        · exact like.with_items (forall₂_set like.items i related)
        · exact like
  | append related =>
    refine OutcomeLike.of_answered_done ?_ ?_ <;>
      simp only [Vector.append, like.misfit?_eq agrees _ related]
    · split <;> rfl
    · split
      · exact like
      · exact like.with_items (List.rel_append like.items (.cons related .nil))
  | same plain =>
    cases w with
    | setItem i x => simp [Write.arguments] at plain
    | append x => simp [Write.arguments] at plain
    | truncate length =>
      refine OutcomeLike.of_answered_done ?_ ?_ <;> simp only [Vector.truncate, like.length_eq]
      · split <;> rfl
      · split
        · exact like
        · exact like.with_items (List.forall₂_take length like.items)
    | openItem i => exact (like.inPlace_edit agrees i).look like
    | openNewItem => exact (like.inPlace_editNew agrees).look like

end Vector.Like

/-! ## The calls on maps -/

namespace Map.Like

variable {m m' : Map}

theorem schema_eq (like : Map.Like R m m') : m'.schema = m.schema := by
  cases like
  rfl

theorem key_eq (like : Map.Like R m m') : m'.key = m.key := by
  cases like
  rfl

theorem value_eq (like : Map.Like R m m') : m'.value = m.value := by
  cases like
  rfl

theorem entries (like : Map.Like R m m') (k : Key) :
    Option.Rel R (m.entries.find? k) (m'.entries.find? k) := by
  cases like with
  | intro related => exact related k

theorem insert (like : Map.Like R m m') (k : Key) {x x' : Value} (related : R x x') :
    Map.Like R { m with entries := m.entries.insert k x }
      { m' with entries := m'.entries.insert k x' } := by
  have entries := like.entries
  cases like
  refine .intro ?_
  intro k'
  rw [Table.find?_insert, Table.find?_insert]
  split
  · exact .some related
  · exact entries k'

theorem erase (like : Map.Like R m m') (k : Key) :
    Map.Like R { m with entries := m.entries.erase k }
      { m' with entries := m'.entries.erase k } := by
  have entries := like.entries
  cases like
  refine .intro ?_
  intro k'
  rw [Table.find?_erase, Table.find?_erase]
  split
  · exact .none
  · exact entries k'

theorem keyMisfit?_eq (like : Map.Like R m m') (k : Key) : m'.keyMisfit? k = m.keyMisfit? k := by
  rw [Map.keyMisfit?, Map.keyMisfit?, like.key_eq]

/-- The rows are related in order. -/
theorem rows (like : Map.Like R m m') (ascending : m.entries.Ascending)
    (ascending' : m'.entries.Ascending) :
    List.Forall₂ (RowLike R) m.entries.rows m'.entries.rows :=
  Table.forall₂_rows ascending ascending' like.entries

/-- Every read of a map answers alike. -/
theorem read (agrees : Agreement R) (like : Map.Like R m m') (ascending : m.entries.Ascending)
    (ascending' : m'.entries.Ascending) (r : Read .map) :
    ResultLike R (r.answer m) (r.answer m') := by
  have rows := like.rows ascending ascending'
  cases r with
  | entry k =>
    refine .ok (.values (.cons ?_ .nil))
    have related := like.entries k
    rw [Map.get, Map.get]
    generalize m.entries.find? k = o at related
    generalize m'.entries.find? k = o' at related
    cases related with
    | none => exact agrees.null
    | some related => exact related
  | keys =>
    have keys : m.list = m'.list := by
      have : List.Forall₂ Eq m.list m'.list := List.rel_map (fun _ _ row => row.1) rows
      rwa [List.forall₂_eq_eq_eq] at this
    simp only [Read.answer, keys]
    exact .ok (.same rfl)
  | entries limit => exact .ok (.entries (forall₂_visit_collect limit rows .nil))

/-- Editing the value of a key is refused by both maps for one reason, or opens related messages. -/
theorem inPlace_edit (agrees : Agreement R) (like : Map.Like R m m') (k : Key) :
    InPlaceLike R Composite.map Composite.message (Map.Like R) m m' (m.edit k) (m'.edit k) := by
  have related := like.entries k
  have stored : ∀ d d', R (.composite d) (.composite d') →
      Map.Like R { m with entries := m.entries.insert k (.composite d) }
        { m' with entries := m'.entries.insert k (.composite d') } :=
    fun d d' parts => like.insert k parts
  have index : m'.value.messageIndex? = m.value.messageIndex? := by rw [like.value_eq]
  unfold InPlaceLike Map.edit
  rw [like.keyMisfit?_eq, index]
  split
  · exact .inl ⟨_, fun _ => rfl, fun _ => rfl⟩
  · split
    · refine .inl ⟨_, fun _ => rfl, fun _ => ?_⟩
      rw [like.value_eq]
    · rename_i index _
      generalize found : m.entries.find? k = o at related
      generalize found' : m'.entries.find? k = o' at related
      cases related with
      | none =>
        have zero : Message.zero m'.schema index = Message.zero m.schema index := by
          rw [like.schema_eq]
        cases made : Message.zero m.schema index with
        | error e =>
          refine .inl ⟨e, fun _ => rfl, fun _ => ?_⟩
          simp only [zero, made]
        | ok i =>
          refine .inr ⟨i, i, _, _, ⟨agrees.fresh (.message made), .inr (.message made),
            .inr (.message (zero.trans made)), stored⟩, fun _ => rfl, fun _ => ?_⟩
          simp only [zero, made]
      | some related =>
        rcases agrees.asMessage related with ⟨e, refused, refused'⟩ | ⟨i, i', rfl, rfl⟩
        · refine .inl ⟨e, fun _ => ?_, fun _ => ?_⟩
          · simp only [refused]
          · simp only [refused']
        · exact .inr ⟨i, i', _, _, ⟨related, .inl (Table.mem_values_of_find? found),
            .inl (Table.mem_values_of_find? found'), stored⟩, fun _ => rfl, fun _ => rfl⟩

/-- A write to maps with related values answers alike and leaves them related. -/
theorem write (agrees : Agreement R) (like : Map.Like R m m') {w w' : Write .map}
    (given : Write.Like R w w') : OutcomeLike R (Map.Like R) (w.run m) (w'.run m') := by
  cases given with
  | @setEntry k x x' related =>
    have face := agrees.face related
    have kinds : m'.schema.misfit? m'.value = m.schema.misfit? m.value := by
      rw [like.schema_eq, like.value_eq]
    refine OutcomeLike.of_answered_done ?_ ?_ <;>
      simp only [Map.set, like.keyMisfit?_eq, ← Value.isNull_of_face face, kinds,
        ← Schema.misfit?_of_face face]
    · split
      · rfl
      · split
        · rfl
        · split <;> rfl
    · split
      · exact like
      · split
        · exact like
        · split
          · exact like
          · exact like.insert k related
  | same plain =>
    cases w with
    | setEntry k x => simp [Write.arguments] at plain
    | removeEntry k =>
      refine ⟨.ok (.values ?_), like.erase k⟩
      have related := like.entries k
      generalize m.entries.find? k = o at related
      generalize m'.entries.find? k = o' at related
      cases related with
      | none => exact .nil
      | some related => exact .cons related .nil
    | openEntry k => exact (like.inPlace_edit agrees k).look like

end Map.Like

end Related

/-! ## Values up to hidden rows at every depth -/

/-- Values that differ in hidden rows of messages only, at any depth. -/
inductive Alike : Value → Value → Prop where
  | null : Alike .null .null
  | scalar (x : Scalar) : Alike (.scalar x) (.scalar x)
  | message {m m' : Message} (like : Message.Like Alike m m') : Alike (.message m) (.message m')
  | vector {v v' : Vector} (like : Vector.Like Alike v v') : Alike (.vector v) (.vector v')
  | map {m m' : Map} (like : Map.Like Alike m m') : Alike (.map m) (.map m')

theorem Vector.Like.isEmpty_eq {R : Value → Value → Prop} {v v' : Vector}
    (like : Vector.Like R v v') : v'.items.isEmpty = v.items.isEmpty := by
  have related := like.items
  generalize v.items = items at related
  generalize v'.items = items' at related
  cases related <;> rfl

/-- A table is empty exactly when no key is found. -/
theorem Table.isEmpty_rows_iff {κ α : Type} [DecidableEq κ] (t : Table κ α) :
    t.rows.isEmpty = true ↔ ∀ k, t.find? k = none := by
  obtain ⟨rows⟩ := t
  cases rows with
  | nil => simp [Table.find?, Table.findRow]
  | cons row rows =>
    simp only [List.isEmpty_cons, Bool.false_eq_true, false_iff]
    intro absent
    have := absent row.1
    simp [Table.find?, Table.findRow] at this

theorem Map.Like.isEmpty_eq {R : Value → Value → Prop} {m m' : Map} (like : Map.Like R m m') :
    m'.entries.rows.isEmpty = m.entries.rows.isEmpty := by
  rw [Bool.eq_iff_iff, Table.isEmpty_rows_iff, Table.isEmpty_rows_iff]
  apply forall_congr'
  intro k
  have related := like.entries k
  generalize m.entries.find? k = o at related
  generalize m'.entries.find? k = o' at related
  cases related <;> simp

/-- Values that are alike agree in what the calls need. -/
theorem Agreement.alike : Agreement Alike where
  null := .null
  face alike := by
    cases alike with
    | null => rfl
    | scalar => rfl
    | message like =>
      simp only [Value.face, Composite.header, like.schema_eq, like.index_eq, Value.isPopulated]
    | vector like =>
      simp only [Value.face, Composite.header, like.schema_eq, like.kind_eq, Value.isPopulated,
        like.isEmpty_eq]
    | map like =>
      simp only [Value.face, Composite.header, like.schema_eq, like.key_eq, like.value_eq,
        Value.isPopulated, like.isEmpty_eq]
  fresh fresh := by
    cases fresh with
    | message made =>
      obtain ⟨t, _, rfl⟩ := Message.zero_eq_ok made
      exact .message (.intro fun n => .absent)
    | vector => exact .vector (.intro .nil)
    | map => exact .map (.intro fun k => .none)

/-- Every value is alike to itself. -/
theorem Alike.refl {P : Composite → Prop} {v : Value} (held : Everywhere P v) : Alike v v := by
  induction held with
  | null => exact .null
  | scalar x => exact .scalar x
  | @composite c _ _ ih =>
    cases c with
    | message m =>
      refine .message (.of_eq rfl rfl rfl rfl fun n => ?_)
      cases found : m.fields.find? n with
      | none => exact .absent
      | some v => exact .both (ih v (Table.mem_values_of_find? found))
    | vector v =>
      obtain ⟨schema, kind, items⟩ := v
      exact .vector (.intro (List.forall₂_same.2 ih))
    | map m =>
      obtain ⟨schema, key, value, entries⟩ := m
      refine .map (.intro fun k => ?_)
      cases found : entries.find? k with
      | none => exact .none
      | some x => exact .some (ih x (Table.mem_values_of_find? found))

end DynamicMessage
