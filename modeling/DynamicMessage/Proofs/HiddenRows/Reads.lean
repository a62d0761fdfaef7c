/-
# Proofs.HiddenRows.Reads -- readers do not see hidden rows

Readers see a field through `Message.view`, which passes populated values only.  Messages that are
alike up to hidden rows have related views, so, their rows being ascending, they list related rows
in the same order (`Message.Like.populated`), and every read answers alike.
-/
import DynamicMessage.Proofs.HiddenRows.Like

namespace DynamicMessage

set_option autoImplicit false

/-! ## Ascending tables with related views -/

/-- Rows of one key with related values. -/
def RowLike {κ α : Type} (R : α → α → Prop) (row row' : κ × α) : Prop :=
  row.1 = row'.1 ∧ R row.2 row'.2

/-- Rows with equal values are equal rows. -/
theorem rowLike_eq (κ α : Type) : RowLike (Eq : α → α → Prop) = (Eq : κ × α → κ × α → Prop) := by
  funext row row'
  simp [RowLike, Prod.ext_iff]

namespace Table

variable {κ α : Type} [Ord κ] [DecidableEq κ] [Std.LawfulEqOrd κ]

/-- A key below all keys has no row. -/
theorem findRow_eq_none_of_lt {k : κ} {rows : List (κ × α)}
    (below : ∀ row ∈ rows, compare k row.1 = .lt) : findRow k rows = none := by
  induction rows with
  | nil => rfl
  | cons row rows ih =>
    have differ : k ≠ row.1 := by
      rintro rfl
      have := below row (by simp)
      simp at this
    rw [findRow, if_neg differ]
    exact ih fun other later => below other (List.mem_cons_of_mem _ later)

/-- In ascending rows the first key is not found again. -/
theorem findRow_tail_self {row : κ × α} {rows : List (κ × α)}
    (ascending : (row :: rows).Pairwise fun a b => compare a.1 b.1 = .lt) :
    findRow row.1 rows = none :=
  findRow_eq_none_of_lt (List.pairwise_cons.1 ascending).1

/-- In ascending rows, filtering the values filters what is found. -/
theorem findRow_filter {rows : List (κ × α)} (p : α → Bool)
    (ascending : rows.Pairwise fun a b => compare a.1 b.1 = .lt) (k : κ) :
    findRow k (rows.filter fun row => p row.2) = (findRow k rows).filter p := by
  induction rows with
  | nil => rfl
  | cons row rows ih =>
    rw [List.filter_cons]
    by_cases first : k = row.1
    · subst first
      have later := ih ascending.of_cons
      rw [findRow_tail_self ascending] at later
      split
      · rename_i passes
        simp [findRow, Option.filter, passes]
      · rename_i fails
        simp [findRow, Option.filter, fails, later]
    · split
      · rw [findRow, if_neg first, findRow, if_neg first, ih ascending.of_cons]
      · rw [findRow, if_neg first, ih ascending.of_cons]

variable [Std.TransOrd κ]

/-- A key below the first key has no row in ascending rows. -/
theorem findRow_eq_none_of_lt_first {k : κ} {row : κ × α} {rows : List (κ × α)}
    (ascending : (row :: rows).Pairwise fun a b => compare a.1 b.1 = .lt)
    (below : compare k row.1 = .lt) : findRow k (row :: rows) = none := by
  apply findRow_eq_none_of_lt
  intro other member
  rcases List.mem_cons.1 member with rfl | later
  · exact below
  · exact Std.TransCmp.lt_trans below ((List.pairwise_cons.1 ascending).1 other later)

/-- Ascending rows with related views are related row by row. -/
theorem forall₂_rows {R : α → α → Prop} {rows rows' : List (κ × α)}
    (ascending : rows.Pairwise fun a b => compare a.1 b.1 = .lt)
    (ascending' : rows'.Pairwise fun a b => compare a.1 b.1 = .lt)
    (related : ∀ k, Option.Rel R (findRow k rows) (findRow k rows')) :
    List.Forall₂ (RowLike R) rows rows' := by
  induction rows generalizing rows' with
  | nil =>
    cases rows' with
    | nil => exact .nil
    | cons row' rows' =>
      have := related row'.1
      simp only [findRow, ↓reduceIte] at this
      cases this
  | cons row rows ih =>
    cases rows' with
    | nil =>
      have := related row.1
      simp only [findRow, ↓reduceIte] at this
      cases this
    | cons row' rows' =>
      have same : row.1 = row'.1 := by
        cases order : compare row.1 row'.1 with
        | lt =>
          have := related row.1
          rw [findRow_eq_none_of_lt_first ascending' order, findRow, if_pos rfl] at this
          cases this
        | eq => exact Std.compare_eq_iff_eq.1 order
        | gt =>
          have := related row'.1
          rw [findRow_eq_none_of_lt_first ascending (Std.OrientedCmp.lt_of_gt order), findRow,
            if_pos rfl] at this
          cases this
      refine .cons ⟨same, ?_⟩ (ih ascending.of_cons ascending'.of_cons fun k => ?_)
      · have := related row.1
        rw [findRow, if_pos rfl, findRow, if_pos same] at this
        cases this with
        | some related => exact related
      · by_cases first : k = row.1
        · subst first
          rw [findRow_tail_self ascending, same, findRow_tail_self ascending']
          exact .none
        · have := related k
          rwa [findRow, if_neg first, findRow, if_neg (same ▸ first)] at this

end Table

/-! ## What readers see -/

namespace Message

/-- What readers see of a field. -/
def view (m : Message) (n : FieldNumber) : Option Value := (m.fields.find? n).filter (·.isPopulated)

theorem has_eq_isSome_view (m : Message) (n : FieldNumber) : m.has n = (m.view n).isSome := by
  unfold has view
  cases m.fields.find? n with
  | none => rfl
  | some v => cases populated : v.isPopulated <;> simp [Option.filter, populated]

theorem get_eq_getD_view (m : Message) (n : FieldNumber) : m.get n = (m.view n).getD .null := by
  unfold get view
  cases m.fields.find? n with
  | none => rfl
  | some v => cases populated : v.isPopulated <;> simp [Option.filter, populated]

/-- A populated row is what readers see of its field. -/
theorem findRow_populated {m : Message} (ascending : m.fields.Ascending) (n : FieldNumber) :
    Table.findRow n m.populated = m.view n :=
  Table.findRow_filter Value.isPopulated ascending n

theorem size_eq_length_populated (m : Message) : m.size = m.populated.length := by
  simp [size, populated, Table.values, List.filter_map, Function.comp_def]

end Message

/-- A slot is seen alike in both messages. -/
theorem SlotLike.rel_filter {R : Value → Value → Prop} (agrees : Agreement R) {o o' : Option Value}
    (like : SlotLike R o o') :
    Option.Rel R (o.filter (·.isPopulated)) (o'.filter (·.isPopulated)) := by
  cases like with
  | absent => exact .none
  | @both v v' related =>
    have same := Value.isPopulated_of_face (agrees.face related)
    cases populated : v.isPopulated with
    | true =>
      simp only [Option.filter, populated, ← same, ↓reduceIte]
      exact .some related
    | false =>
      simp only [Option.filter, populated, ← same, Bool.false_eq_true, ↓reduceIte]
      exact .none
  | first hidden =>
    simp only [Option.filter, hidden, Bool.false_eq_true, ↓reduceIte]
    exact .none
  | second hidden =>
    simp only [Option.filter, hidden, Bool.false_eq_true, ↓reduceIte]
    exact .none

namespace Message.Like

variable {R : Value → Value → Prop} {m m' : Message}

theorem view (agrees : Agreement R) (like : Message.Like R m m') (n : FieldNumber) :
    Option.Rel R (m.view n) (m'.view n) :=
  (like.slots n).rel_filter agrees

theorem has_eq (agrees : Agreement R) (like : Message.Like R m m') (n : FieldNumber) :
    m'.has n = m.has n := by
  have seen := like.view agrees n
  rw [has_eq_isSome_view, has_eq_isSome_view]
  generalize m.view n = o at seen
  generalize m'.view n = o' at seen
  cases seen with
  | none => rfl
  | some => rfl

theorem get (agrees : Agreement R) (like : Message.Like R m m') (n : FieldNumber) :
    R (m.get n) (m'.get n) := by
  have seen := like.view agrees n
  rw [get_eq_getD_view, get_eq_getD_view]
  generalize m.view n = o at seen
  generalize m'.view n = o' at seen
  cases seen with
  | none => exact agrees.null
  | some related => exact related

/-- The populated rows are related in order. -/
theorem populated (agrees : Agreement R) (like : Message.Like R m m')
    (ascending : m.fields.Ascending) (ascending' : m'.fields.Ascending) :
    List.Forall₂ (RowLike R) m.populated m'.populated := by
  refine Table.forall₂_rows (List.Pairwise.filter _ ascending) (List.Pairwise.filter _ ascending')
    fun n => ?_
  rw [findRow_populated ascending, findRow_populated ascending']
  exact like.view agrees n

end Message.Like

/-! ## Related answers -/

/-- Answers that give related values, and are equal apart from that. -/
inductive Answer.Like (R : Value → Value → Prop) : Answer → Answer → Prop where
  | same {a : Answer} (plain : a.parts = []) : Answer.Like R a a
  | values {vs vs' : List Value} (related : List.Forall₂ R vs vs') :
      Answer.Like R (.values vs) (.values vs')
  | fields {rows rows' : List (FieldNumber × Value)}
      (related : List.Forall₂ (RowLike R) rows rows') : Answer.Like R (.fields rows) (.fields rows')
  | entries {rows rows' : List (Key × Value)} (related : List.Forall₂ (RowLike R) rows rows') :
      Answer.Like R (.entries rows) (.entries rows')

/-- The same refusal, or related answers. -/
inductive ResultLike (R : Value → Value → Prop) :
    Except Error Answer → Except Error Answer → Prop where
  | error (e : Error) : ResultLike R (.error e) (.error e)
  | ok {a a' : Answer} (related : Answer.Like R a a') : ResultLike R (.ok a) (.ok a')

/-- Answers with equal values are equal. -/
theorem ResultLike.eq {r r' : Except Error Answer} (like : ResultLike Eq r r') : r' = r := by
  cases like with
  | error => rfl
  | ok related =>
    cases related with
    | same => rfl
    | values related =>
      rw [List.forall₂_eq_eq_eq] at related
      rw [related]
    | fields related =>
      rw [rowLike_eq, List.forall₂_eq_eq_eq] at related
      rw [related]
    | entries related =>
      rw [rowLike_eq, List.forall₂_eq_eq_eq] at related
      rw [related]

/-- Visitors that collect see related rows of related rows. -/
theorem forall₂_visit_collect {α : Type} {S : α → α → Prop} (limit : Option Nat)
    {rows rows' seen seen' : List α} (related : List.Forall₂ S rows rows')
    (before : List.Forall₂ S seen seen') :
    List.Forall₂ S (visit (collect limit) seen rows) (visit (collect limit) seen' rows') := by
  induction related generalizing seen seen' with
  | nil => exact before
  | @cons a a' rows rows' first rest ih =>
    have longer : List.Forall₂ S (seen ++ [a]) (seen' ++ [a']) :=
      List.rel_append before (.cons first .nil)
    simp only [visit, collect, before.length_eq]
    by_cases stop : limit = some (seen'.length + 1)
    · rw [if_pos stop, if_pos stop]
      exact longer
    · rw [if_neg stop, if_neg stop]
      exact ih longer

/-- Every read of a message answers alike. -/
theorem Message.Like.read {R : Value → Value → Prop} {m m' : Message} (agrees : Agreement R)
    (like : Message.Like R m m') (ascending : m.fields.Ascending)
    (ascending' : m'.fields.Ascending) (r : Read .message) :
    ResultLike R (r.answer m) (r.answer m') := by
  have rows := like.populated agrees ascending ascending'
  cases r with
  | list =>
    have numbers : m.list = m'.list := by
      have : List.Forall₂ Eq m.list m'.list :=
        List.rel_map (fun _ _ row => row.1) rows
      rwa [List.forall₂_eq_eq_eq] at this
    simp only [Read.answer, numbers]
    exact .ok (.same rfl)
  | size =>
    simp only [Read.answer, size_eq_length_populated, rows.length_eq]
    exact .ok (.same rfl)
  | has n =>
    simp only [Read.answer, like.has_eq agrees n]
    exact .ok (.same rfl)
  | get n => exact .ok (.values (.cons (like.get agrees n) .nil))
  | range limit => exact .ok (.fields (forall₂_visit_collect limit rows .nil))
  | extensions =>
    simp only [Read.answer, like.extensions_eq]
    exact .ok (.same rfl)

end DynamicMessage
