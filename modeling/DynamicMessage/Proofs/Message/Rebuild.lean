/-
# Proofs.Message.Rebuild -- a message is what its reads show

`Message.rebuild` makes a message anew: it registers extensions, sets fields and stores unrecognised
records in the orders it is given, and ends with the first call that is refused.  Given what the
reads of a message show, in any orders, it refuses nothing and makes the message without its hidden
rows (`Message.shown`).

Each phase is a fold of calls whose invariant says what is left to do: the extensions that are left
are free, the rows that are left suit a message with all extensions and displace no row that was
set, and the runs that are left belong to their numbers.  That the order does not matter is a fact
about tables: rows with different keys make one table, however they are put in
(`Table.Ascending.insertAll_perm`).
-/
import DynamicMessage.Proofs.HiddenRows.Reads
import DynamicMessage.Proofs.Message.Oneof
import DynamicMessage.Proofs.Unknown.Calls

namespace DynamicMessage

set_option autoImplicit false

/-! ## Tables from rows -/

namespace Table

variable {κ α : Type} [Ord κ]

/-- Sets the values of rows, one row after another. -/
def insertAll (t : Table κ α) (rows : List (κ × α)) : Table κ α :=
  rows.foldl (fun t row => t.insert row.1 row.2) t

variable [Std.TransOrd κ]

/-- A row above all others goes behind them. -/
theorem insertRow_of_above {k : κ} (v : α) {rows : List (κ × α)}
    (above : ∀ row ∈ rows, compare row.1 k = .lt) : insertRow k v rows = rows ++ [(k, v)] := by
  induction rows with
  | nil => rfl
  | cons row rows ih =>
    have gt : compare k row.1 = .gt := Std.OrientedCmp.gt_of_lt (above row (by simp))
    rw [insertRow, gt, ih fun other later => above other (List.mem_cons_of_mem _ later)]
    rfl

/-- Ascending rows go behind each other.  By induction on the rows that are left. -/
theorem insertAll_rows (done : List (κ × α)) {rows : List (κ × α)}
    (ascending : (done ++ rows).Pairwise fun a b => compare a.1 b.1 = .lt) :
    insertAll ⟨done⟩ rows = ⟨done ++ rows⟩ := by
  induction rows generalizing done with
  | nil => rw [List.append_nil]; rfl
  | cons row rows ih =>
    have above : ∀ other ∈ done, compare other.1 row.1 = .lt := by
      intro other member
      exact (List.pairwise_append.1 ascending).2.2 other member row (by simp)
    show insertAll (insert ⟨done⟩ row.1 row.2) rows = _
    rw [insert, insertRow_of_above row.2 above, ih _ (by simpa using ascending)]
    simp

variable [DecidableEq κ]

/-- Different rows that are the ones found in a table are the rows of the table. -/
theorem Ascending.perm_rows {t : Table κ α} (ascending : t.Ascending) {rows : List (κ × α)}
    (distinct : rows.Nodup) (same : ∀ k v, (k, v) ∈ rows ↔ t.find? k = some v) :
    rows.Perm t.rows := by
  apply (List.perm_ext_iff_of_nodup distinct ascending.nodup_rows).2
  intro row
  rw [same row.1 row.2, ascending.mem_rows_iff]

variable [Std.LawfulEqOrd κ]

/-- The rows of a table make it again, in any order. -/
theorem Ascending.insertAll_perm {t : Table κ α} (ascending : t.Ascending) {rows : List (κ × α)}
    (perm : rows.Perm t.rows) : (∅ : Table κ α).insertAll rows = t := by
  -- Two rows of one table have different keys or are the same row.
  have comm : ∀ a ∈ rows, ∀ b ∈ rows, ∀ z : Table κ α,
      (z.insert a.1 a.2).insert b.1 b.2 = (z.insert b.1 b.2).insert a.1 a.2 := by
    intro a first b second z
    by_cases differ : a.1 = b.1
    · have found := (ascending.mem_rows_iff a.1 a.2).1 (perm.mem_iff.1 first)
      have found' := (ascending.mem_rows_iff b.1 b.2).1 (perm.mem_iff.1 second)
      rw [differ, found', Option.some.injEq] at found
      rw [differ, found]
    · exact z.insert_comm a.2 b.2 differ
  have sorted : (∅ : Table κ α).insertAll rows = (∅ : Table κ α).insertAll t.rows :=
    perm.foldl_eq' comm ∅
  rw [sorted]
  exact insertAll_rows [] ascending

end Table

/-! ## Folds of calls -/

/-- What an accepted call leaves. -/
def Outcome.next {σ α : Type} (o : Outcome σ α) : Except Error σ := o.result.map fun _ => o.state

@[simp] theorem Outcome.next_done {σ α : Type} (a : α) (s : σ) : (done a s).next = .ok s := rfl

/-- Steps that succeed while an invariant of what is left holds are a fold without refusals. -/
theorem foldlM_eq_ok_foldl {σ α : Type} {call : σ → α → Except Error σ} {step : σ → α → σ}
    (Left : List α → σ → Prop)
    (accepted : ∀ a rest s, Left (a :: rest) s → call s a = .ok (step s a) ∧ Left rest (step s a))
    {todo : List α} {s : σ} (left : Left todo s) :
    todo.foldlM call s = .ok (todo.foldl step s) := by
  induction todo generalizing s with
  | nil => rfl
  | cons a rest ih =>
    obtain ⟨success, left⟩ := accepted a rest s left
    rw [List.foldlM_cons, success]
    exact ih left

/-- A visitor that only collects sees all rows. -/
theorem visit_collect_none {α : Type} (seen rows : List α) :
    visit (collect none) seen rows = seen ++ rows := by
  induction rows generalizing seen with
  | nil => simp [visit]
  | cons a rows ih =>
    simp only [visit, collect, reduceCtorEq, ↓reduceIte]
    rw [ih, List.append_assoc, List.singleton_append]

namespace Message

/-- Makes a message anew, of the type at a position, with extensions, fields and unrecognised
records in the given orders.  Fails with the first refusal. -/
def rebuild (s : Schema) (index : MessageIndex) (es : List Extension)
    (rows : List (FieldNumber × Value)) (runs : List (FieldNumber × Wire.Run)) :
    Except Error Message := do
  let bare ← Message.new s index
  let extended ← es.foldlM (fun m e => (m.register e).next) bare
  let filled ← rows.foldlM (fun m row => (m.set row.1 row.2).next) extended
  runs.foldlM (fun m row => (m.setUnknown row.1 row.2).next) filled

/-- A message is rebuilt when none of the three phases refuses a call. -/
theorem rebuild_eq_ok {s : Schema} {index : MessageIndex} {es : List Extension}
    {rows : List (FieldNumber × Value)} {runs : List (FieldNumber × Wire.Run)}
    {bare extended filled made : Message} (new : Message.new s index = .ok bare)
    (registered : es.foldlM (fun x e => (x.register e).next) bare = .ok extended)
    (set : rows.foldlM (fun x row => (x.set row.1 row.2).next) extended = .ok filled)
    (stored : runs.foldlM (fun x row => (x.setUnknown row.1 row.2).next) filled = .ok made) :
    rebuild s index es rows runs = .ok made := by
  rw [rebuild, new]
  show (es.foldlM (fun x e => (x.register e).next) bare >>= _) = _
  rw [registered]
  show (rows.foldlM (fun x row => (x.set row.1 row.2).next) extended >>= _) = _
  rw [set]
  exact stored

/-- The message without its hidden rows. -/
def shown (m : Message) : Message := { m with fields := ⟨m.populated⟩ }

/-! ## What readers see could be set again -/

/-- What readers see of a field is what setting the field would keep. -/
def Kept (m : Message) (t : MessageType) : Prop :=
  ∀ n f v, m.fields.find? n = some v → m.field? t n = some f → v.isPopulated = true →
    isKept f v = true

/-- A composite that holds something is kept. -/
theorem isKept_of_composite {s : Schema} {f : Field} {v : Value} (holds : f.Holds s v)
    (composite : f.isComposite = true) (populated : v.isPopulated = true) :
    isKept f v = true := by
  obtain ⟨c, rfl⟩ := holds.exists_composite composite
  simp [isKept, Value.isZero, populated]

theorem invariant_kept : Invariant (Composite.OnMessage Kept) := by
  apply Invariant.onMessage
  · intro s index t _ _ n f v found
    simp [blank] at found
  · intro brought m m' t sound kept change
    cases change with
    | unset n =>
      intro k f v found field populated
      exact kept k f v (Table.find?_erase_eq_some_iff.1 found).2 field populated
    | @put m t' n f v type field holds stays =>
      obtain rfl := sound.type_eq type
      intro k g w found after populated
      have before : m.field? t' k = some g := by
        rw [← m.field?_unsetSiblings t' n f]
        exact after
      rcases Table.find?_insert_eq_some_iff.1 found with ⟨rfl, rfl⟩ | ⟨-, found⟩
      · rw [field, Option.some.injEq] at before
        subst before
        rcases stays with stays | composite
        · exact stays
        · exact isKept_of_composite holds composite populated
      · exact kept k g w (find?_of_unsetSiblings found) before populated
    | @register m t' e type free =>
      obtain rfl := sound.type_eq type
      intro n f v found field populated
      obtain ⟨g, before, -⟩ := sound.stored n v found
      rw [field?_add free before, Option.some.injEq] at field
      subst field
      exact kept n g v found before populated
    | @remove m e =>
      intro n f v found field populated
      obtain ⟨differ, found⟩ := Table.find?_erase_eq_some_iff.1 found
      rw [m.field?_drop t e.name differ] at field
      exact kept n f v found field populated
    | setUnknown => exact kept
    | appendUnknown => exact kept

/-! ## The extensions -/

/-- Extensions of `m` that are left to be registered on `x`: each is free, and they do not take each
other's numbers or names. -/
structure LeftToRegister (m : Message) (es : List Extension) (x : Message) : Prop where
  schema : x.schema = m.schema
  index : x.index = m.index
  registered : ∀ e ∈ es, m.extensions.byNumber.find? e.number = some e
  free : ∀ e ∈ es, x.extensions.byNumber.find? e.number = none ∧
    x.extensions.byName.find? e.name = none
  apart : es.Pairwise fun e e' => e.number ≠ e'.number ∧ e.name ≠ e'.name

variable {m x : Message} {t : MessageType}

/-- Messages of one schema and index have one type. -/
theorem type_of_same (type : m.type = .ok t) (schema : x.schema = m.schema)
    (index : x.index = m.index) : x.type = .ok t := by
  rwa [Message.type, schema, index]

theorem LeftToRegister.step (sound : m.Sound t) (extended : m.Extended t) {e : Extension}
    {es : List Extension} (left : m.LeftToRegister (e :: es) x) :
    (x.register e).next = .ok { x with extensions := x.extensions.add e } ∧
      m.LeftToRegister es { x with extensions := x.extensions.add e } := by
  have registered := left.registered e (by simp)
  obtain ⟨freeNumber, freeName⟩ := left.free e (by simp)
  obtain ⟨apart, rest⟩ := List.pairwise_cons.1 left.apart
  constructor
  · have type := type_of_same sound.type left.schema left.index
    have free : x.conflict? t e = none :=
      (x.conflict?_eq_none_iff t e).2 ⟨extended.admitted _ e registered, freeNumber, freeName⟩
    have faultless : Schema.fieldFault? x.schema.size t e.field = none := by
      rw [left.schema]
      exact (sound.registered _ e registered).2.2
    simp only [Message.register, type, free, faultless, Outcome.next_done]
  · refine ⟨left.schema, left.index, ?_, ?_, rest⟩
    · intro e' member
      exact left.registered e' (List.mem_cons_of_mem _ member)
    · intro e' member
      obtain ⟨number, name⟩ := apart e' member
      simp only [Registry.add, Table.find?_insert, if_neg number.symm, if_neg name.symm]
      exact left.free e' (List.mem_cons_of_mem _ member)

/-- Extensions added one after another fill the two tables side by side. -/
theorem foldl_add (r : Registry) (es : List Extension) :
    es.foldl Registry.add r =
      { byNumber := r.byNumber.insertAll (es.map fun e => (e.number, e))
        byName := r.byName.insertAll (es.map fun e => (e.name, e.number)) } := by
  induction es generalizing r with
  | nil => rfl
  | cons e es ih => exact ih (r.add e)

theorem foldl_with_add (x : Message) (es : List Extension) :
    es.foldl (fun x e => { x with extensions := x.extensions.add e }) x =
      { x with extensions := es.foldl Registry.add x.extensions } := by
  induction es generalizing x with
  | nil => cases x; rfl
  | cons e es ih => exact ih { x with extensions := x.extensions.add e }

/-- The listed extensions make the registry again, in any order. -/
theorem Extended.foldl_add_perm (extended : m.Extended t) {es : List Extension}
    (perm : es.Perm m.extensions.list) : es.foldl Registry.add .empty = m.extensions := by
  have agrees := extended.agrees
  have apart := (perm.pairwise_iff fun differ => ⟨differ.1.symm, differ.2.symm⟩).2 agrees.apart
  have listed : ∀ e, e ∈ es ↔ m.extensions.byNumber.find? e.number = some e := by
    intro e
    rw [perm.mem_iff, agrees.mem_list_iff]
  have numbers : (es.map fun e => (e.number, e)).Perm m.extensions.byNumber.rows := by
    apply agrees.byNumber.perm_rows
    · exact List.pairwise_map.2 (apart.imp fun differ same => differ.1 (congrArg (·.1) same))
    · intro n e
      constructor
      · intro member
        obtain ⟨e', chosen, same⟩ := List.mem_map.1 member
        cases same
        exact (listed e).1 chosen
      · intro found
        have number := (agrees.named n e found).1
        rw [← number] at found ⊢
        exact List.mem_map.2 ⟨e, (listed e).2 found, rfl⟩
  have names : (es.map fun e => (e.name, e.number)).Perm m.extensions.byName.rows := by
    apply agrees.byName.perm_rows
    · exact List.pairwise_map.2 (apart.imp fun differ same => differ.1 (congrArg (·.2) same))
    · intro name n
      constructor
      · intro member
        obtain ⟨e, chosen, same⟩ := List.mem_map.1 member
        cases same
        exact (agrees.named _ e ((listed e).1 chosen)).2
      · intro found
        obtain ⟨e, registered, rfl⟩ := agrees.numbered name n found
        have number := (agrees.named n e registered).1
        rw [← number] at registered ⊢
        exact List.mem_map.2 ⟨e, (listed e).2 registered, rfl⟩
  rw [foldl_add]
  show Registry.mk (Table.insertAll ∅ _) (Table.insertAll ∅ _) = _
  rw [agrees.byNumber.insertAll_perm numbers, agrees.byName.insertAll_perm names]

/-- All extensions of a message are accepted by a message of its type without extensions, in any
order. -/
theorem Extended.registerAll (extended : m.Extended t) (sound : m.Sound t) {es : List Extension}
    (perm : es.Perm m.extensions.list) (schema : x.schema = m.schema) (index : x.index = m.index)
    (none : x.extensions = .empty) :
    es.foldlM (fun x e => (x.register e).next) x = .ok { x with extensions := m.extensions } := by
  have left : m.LeftToRegister es x := by
    refine ⟨schema, index, ?_, ?_, ?_⟩
    · intro e member
      exact (extended.agrees.mem_list_iff e).1 (perm.mem_iff.1 member)
    · intro e _
      rw [none]
      exact ⟨rfl, rfl⟩
    · have apart := extended.agrees.apart
      exact (perm.pairwise_iff fun differ => ⟨differ.1.symm, differ.2.symm⟩).2 apart
  rw [foldlM_eq_ok_foldl m.LeftToRegister (fun _ _ _ left => left.step sound extended) left]
  rw [foldl_with_add, none, extended.foldl_add_perm perm]

/-! ## The fields -/

/-- Rows of `m` that are left to be set on `x`: `x` has the extensions of `m`, and rows only where
`m` has. -/
structure LeftToSet (m : Message) (rows : List (FieldNumber × Value)) (x : Message) : Prop where
  schema : x.schema = m.schema
  index : x.index = m.index
  extensions : x.extensions = m.extensions
  fewer : ∀ n, x.fields.contains n = true → m.fields.contains n = true
  populated : ∀ row ∈ rows, row ∈ m.populated

/-- Siblings without rows have nothing to drop. -/
theorem unsetSiblings_eq_self {n : FieldNumber} {f : Field}
    (absent : ∀ k ∈ siblings t n f, x.fields.find? k = none) : x.unsetSiblings t n f = x := by
  unfold unsetSiblings
  generalize siblings t n f = ns at absent
  induction ns with
  | nil => rfl
  | cons k ns ih =>
    rw [List.foldl_cons, unset_of_absent (absent k (by simp))]
    exact ih fun other later => absent other (List.mem_cons_of_mem _ later)

/-- The siblings of a stored field of `m`, declared or registered, have no rows. -/
theorem Exclusive.absent_siblings (exclusive : m.Exclusive t) (sound : m.Sound t)
    (extended : m.Extended t) {n k : FieldNumber} {f : Field} (field : m.field? t n = some f)
    (stored : m.fields.contains n = true) (sibling : k ∈ siblings t n f) :
    m.fields.find? k = none := by
  cases declared : t.field? n with
  | some g =>
    have same : g = f := by
      rw [Message.field?, declared] at field
      exact Option.some.inj field
    exact exclusive.find?_of_mem_siblings sound declared stored (by rwa [same])
  | none =>
    have ungrouped := extended.ungrouped declared field
    simp [siblings, ungrouped] at sibling

theorem foldl_put (x : Message) (rows : List (FieldNumber × Value)) :
    rows.foldl (fun x row => x.put row.1 row.2) x =
      { x with fields := x.fields.insertAll rows } := by
  induction rows generalizing x with
  | nil => cases x; rfl
  | cons row rows ih => exact ih (x.put row.1 row.2)

theorem LeftToSet.step (sound : m.Sound t) (extended : m.Extended t) (exclusive : m.Exclusive t)
    (kept : m.Kept t) {row : FieldNumber × Value} {rows : List (FieldNumber × Value)}
    (left : m.LeftToSet (row :: rows) x) :
    (x.set row.1 row.2).next = .ok (x.put row.1 row.2) ∧
      m.LeftToSet rows (x.put row.1 row.2) := by
  obtain ⟨n, v⟩ := row
  obtain ⟨row_stored, populated⟩ := List.mem_filter.1 (left.populated (n, v) (by simp))
  have stored : m.fields.find? n = some v := (sound.ascending.mem_rows_iff n v).1 row_stored
  have contained : m.fields.contains n = true := by
    rw [Table.contains, stored]
    rfl
  obtain ⟨f, field, holds⟩ := sound.stored n v stored
  constructor
  · have type := type_of_same sound.type left.schema left.index
    have field' : x.field? t n = some f := by
      rw [Message.field?, left.extensions]
      exact field
    have absent : ∀ k ∈ siblings t n f, x.fields.find? k = none := by
      intro k sibling
      have none := exclusive.absent_siblings sound extended field contained sibling
      by_contra found
      have more := left.fewer k (by rwa [Table.contains, Option.isSome_iff_ne_none])
      rw [Table.contains, none] at more
      simp at more
    rw [set_of_kept type field' (by rwa [left.schema]) (kept n f v stored field populated),
      unsetSiblings_eq_self absent]
    rfl
  · refine ⟨left.schema, left.index, left.extensions, ?_, ?_⟩
    · intro k found
      by_cases same : k = n
      · rwa [same]
      · rw [Table.contains, find?_put, if_neg same] at found
        exact left.fewer k found
    · intro row member
      exact left.populated row (List.mem_cons_of_mem _ member)

/-- All populated rows of a message are accepted by a message of its type and extensions without
rows, in any order. -/
theorem Sound.setAll (sound : m.Sound t) (extended : m.Extended t) (exclusive : m.Exclusive t)
    (kept : m.Kept t) {rows : List (FieldNumber × Value)} (perm : rows.Perm m.populated)
    (schema : x.schema = m.schema) (index : x.index = m.index)
    (extensions : x.extensions = m.extensions) (none : x.fields = ∅) :
    rows.foldlM (fun x row => (x.set row.1 row.2).next) x =
      .ok { x with fields := m.shown.fields } := by
  have left : m.LeftToSet rows x := by
    refine ⟨schema, index, extensions, ?_, ?_⟩
    · intro n found
      rw [none] at found
      simp [Table.contains] at found
    · intro row member
      exact perm.mem_iff.1 member
  rw [foldlM_eq_ok_foldl m.LeftToSet (fun _ _ _ left => left.step sound extended exclusive kept)
    left]
  have ascending : m.shown.fields.Ascending := sound.ascending.filter _
  rw [foldl_put, none, ascending.insertAll_perm perm]

/-! ## The unrecognised records -/

/-- Runs that are left to be stored on `x`, which keeps records, belong to their numbers. -/
structure LeftToFile (runs : List (FieldNumber × Wire.Run)) (x : Message) : Prop where
  supported : x.unknown.isSupported = true
  belongs : ∀ row ∈ runs, row.2.Belongs row.1

/-- Stores a run under a number. -/
def file (x : Message) (n : FieldNumber) (run : Wire.Run) : Message :=
  { x with unknown := { x.unknown with runs := x.unknown.runs.insert n run } }

theorem foldl_file (x : Message) (runs : List (FieldNumber × Wire.Run)) :
    runs.foldl (fun x row => x.file row.1 row.2) x =
      { x with unknown := { x.unknown with runs := x.unknown.runs.insertAll runs } } := by
  induction runs generalizing x with
  | nil => cases x; rfl
  | cons row runs ih => exact ih (x.file row.1 row.2)

theorem LeftToFile.step {row : FieldNumber × Wire.Run} {runs : List (FieldNumber × Wire.Run)}
    (left : LeftToFile (row :: runs) x) :
    (x.setUnknown row.1 row.2).next = .ok (x.file row.1 row.2) ∧
      LeftToFile runs (x.file row.1 row.2) := by
  obtain ⟨n, run⟩ := row
  obtain ⟨nonempty, free⟩ := (Wire.Run.belongs_iff run n).1 (left.belongs (n, run) (by simp))
  constructor
  · have accepted : x.unknown.set n run = _ :=
      UnknownStore.Call.apply_of_nonempty left.supported (.set n run) nonempty
    have free : (UnknownStore.Call.set n run).given.scan.fault? n = none := free
    simp only [UnknownStore.Call.number, free] at accepted
    rw [Message.setUnknown, accepted]
    rfl
  · refine ⟨left.supported, ?_⟩
    intro other member
    exact left.belongs other (List.mem_cons_of_mem _ member)

/-- All runs of a sound store are accepted by a message with a store of its kind without runs, in
any order. -/
theorem setUnknownAll {u : UnknownStore} (sound : u.Sound) {runs : List (FieldNumber × Wire.Run)}
    (perm : runs.Perm u.runs.rows) (none : x.unknown = { isSupported := u.isSupported }) :
    runs.foldlM (fun x row => (x.setUnknown row.1 row.2).next) x =
      .ok { x with unknown := u } := by
  by_cases supported : u.isSupported = true
  · have left : LeftToFile runs x := by
      refine ⟨by rw [none, supported], ?_⟩
      rintro ⟨n, run⟩ member
      exact sound.stored n run ((sound.ascending.mem_rows_iff n run).1 (perm.mem_iff.1 member))
    rw [foldlM_eq_ok_foldl LeftToFile (fun _ _ _ left => left.step) left]
    rw [foldl_file, none, sound.ascending.insertAll_perm perm]
  · have nothing : u.runs = ∅ := sound.ignored (by simpa using supported)
    have empty : runs = [] := by
      rw [nothing] at perm
      exact perm.eq_nil
    have same : x.unknown = u := by
      rw [none, ← nothing]
    rw [empty, ← same]
    cases x
    rfl

/-! ## What is shown -/

theorem populated_shown (m : Message) : m.shown.populated = m.populated := by
  simp [populated, shown]

/-- The message without its hidden rows differs in hidden rows only. -/
theorem Sound.like_shown (sound : m.Sound t) : Message.Like Eq m m.shown := by
  refine .of_eq rfl rfl rfl rfl ?_
  intro n
  have seen : m.shown.fields.find? n = m.view n := findRow_populated sound.ascending n
  rw [seen, view]
  cases m.fields.find? n with
  | none => exact .absent
  | some v =>
    cases populated : v.isPopulated with
    | false =>
      simp only [Option.filter, populated]
      exact .first populated
    | true =>
      simp only [Option.filter, populated]
      exact .both rfl

/-- Every read answers the same without the hidden rows. -/
theorem Sound.answer_shown (sound : m.Sound t) (r : Read .message) :
    r.answer m.shown = r.answer m := by
  have ascending : m.shown.fields.Ascending := sound.ascending.filter _
  exact (sound.like_shown.read .eq sound.ascending ascending r).eq

/-- A message with the type of a sound one can be made. -/
theorem Sound.new (sound : m.Sound t) :
    Message.new m.schema m.index = .ok (Message.blank m.schema m.index t) := by
  simp only [Message.new, Message.zero, sound.type?, Schema.typeAt_of_type? sound.type?]
  rfl

end Message

/-- Every message that a run leads to can be made anew from what its reads show: its extensions, its
populated fields and its unrecognised records, each in any order.  No call is refused, and what is
made is the message without its hidden rows, which every read answers as the message does. -/
theorem reachable_rebuilt {m : Message} (reachable : Reachable (.message m)) {es : List Extension}
    {rows : List (FieldNumber × Value)} {runs : List (FieldNumber × Wire.Run)}
    (extensions : es.Perm m.extensions.list) (fields : rows.Perm (m.range (collect none) []))
    (records : runs.Perm (m.unknown.range (collect none) [])) :
    Message.rebuild m.schema m.index es rows runs = .ok m.shown ∧
      m.shown.populated = m.populated ∧ m.shown.extensions = m.extensions ∧
        m.shown.unknown = m.unknown ∧ ∀ r : Read .message, r.answer m.shown = r.answer m := by
  obtain ⟨t, sound⟩ := reachable.sound.here
  have extended := reachable.onMessage Message.invariant_extended sound.type
  have exclusive := reachable.onMessage Message.invariant_exclusive sound.type
  have kept := reachable.onMessage Message.invariant_kept sound.type
  obtain ⟨filed, supported⟩ :=
    (reachable.onMessage Message.invariant_leftByCalls sound.type).sound
  rw [Message.range, visit_collect_none, List.nil_append] at fields
  rw [UnknownStore.range, visit_collect_none, List.nil_append] at records
  refine ⟨?_, m.populated_shown, rfl, rfl, sound.answer_shown⟩
  let bare := Message.blank m.schema m.index t
  let withExtensions : Message := { bare with extensions := m.extensions }
  let withFields : Message := { withExtensions with fields := m.shown.fields }
  have registered : es.foldlM (fun x e => (x.register e).next) bare = .ok withExtensions :=
    extended.registerAll sound extensions rfl rfl rfl
  have filled : rows.foldlM (fun x row => (x.set row.1 row.2).next) withExtensions =
      .ok withFields :=
    sound.setAll extended exclusive kept fields rfl rfl rfl rfl
  have stored : runs.foldlM (fun x row => (x.setUnknown row.1 row.2).next) withFields =
      .ok { withFields with unknown := m.unknown } :=
    Message.setUnknownAll filed records (by rw [supported]; rfl)
  exact Message.rebuild_eq_ok sound.new registered filled stored

/-- The card with its unrecognised records is made anew from its fields in descending order, without
the row of the friends that it hides. -/
theorem AddressBook.filed_rebuilt :
    Reachable (.message filed) ∧ filed.fields.keys = [4, 5, 6, 8, 100] ∧
      filed.unknown.list = [200] ∧
      Message.rebuild filed.schema filed.index filed.extensions.list
          (filed.range (collect none) []).reverse (filed.unknown.range (collect none) []) =
        .ok filed.shown ∧
      filed.shown.fields.keys = [4, 5, 8, 100] := by
  have rebuilt := reachable_rebuilt reachable_filed (List.Perm.refl _) (List.reverse_perm _)
    (List.Perm.refl _)
  exact ⟨reachable_filed, by decide +kernel, by decide +kernel, rebuilt.1, by decide +kernel⟩

end DynamicMessage
