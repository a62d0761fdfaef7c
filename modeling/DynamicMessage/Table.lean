/-
# Table -- finite maps as ascending rows

Fields, map entries, stored runs and extensions sit in maps whose order is unspecified: nothing may
rest on the order in which they are listed or visited, and what is said of listings and visits is
meant up to order.  A `Table` settles for one order, that of its keys, so that equal maps are equal
as data: `insert` puts a row in its place, `erase` drops it.

`find?` is the view.  `find?_insert` and `find?_erase` say what each write does to it.  Rows that
ascend stay ascending (`Ascending.insert`, `Ascending.erase`), so no key is listed twice, and then
a row is stored exactly when it is found (`Ascending.mem_rows_iff`).  Two inserts at different keys
commute as data (`insert_comm`), not only through the view.
-/
namespace DynamicMessage

set_option autoImplicit false

/-- A finite map from `κ` to `α`. -/
structure Table (κ α : Type) where
  rows : List (κ × α)
deriving DecidableEq

namespace Table

variable {κ α : Type}

/-- The table without rows. -/
def empty : Table κ α := ⟨[]⟩

instance : EmptyCollection (Table κ α) := ⟨empty⟩

instance : Inhabited (Table κ α) := ⟨empty⟩

/-- The number of rows. -/
def size (t : Table κ α) : Nat := t.rows.length

/-- The keys, in order. -/
def keys (t : Table κ α) : List κ := t.rows.map (·.1)

/-- The values, in order of their keys. -/
def values (t : Table κ α) : List α := t.rows.map (·.2)

/-- The value of the first row with a key. -/
def findRow [DecidableEq κ] (k : κ) : List (κ × α) → Option α
  | [] => none
  | row :: rows => if k = row.1 then some row.2 else findRow k rows

/-- The value at a key. -/
def find? [DecidableEq κ] (t : Table κ α) (k : κ) : Option α := findRow k t.rows

/-- Whether a key has a row. -/
def contains [DecidableEq κ] (t : Table κ α) (k : κ) : Bool := (t.find? k).isSome

/-- Puts a row in its place and drops the row the key had. -/
def insertRow [Ord κ] (k : κ) (v : α) : List (κ × α) → List (κ × α)
  | [] => [(k, v)]
  | row :: rows =>
    match compare k row.1 with
    | .lt => (k, v) :: row :: rows
    | .eq => (k, v) :: rows
    | .gt => row :: insertRow k v rows

/-- Sets the value at a key. -/
def insert [Ord κ] (t : Table κ α) (k : κ) (v : α) : Table κ α := ⟨insertRow k v t.rows⟩

/-- Drops the row of a key. -/
def erase [DecidableEq κ] (t : Table κ α) (k : κ) : Table κ α :=
  ⟨t.rows.filter fun row => row.1 ≠ k⟩

/-- Each key is below all later ones. -/
def Ascending [Ord κ] (t : Table κ α) : Prop :=
  t.rows.Pairwise fun a b => compare a.1 b.1 = .lt

/-! ## What the writes do to the view -/

@[simp] theorem find?_empty [DecidableEq κ] (k : κ) : (∅ : Table κ α).find? k = none := rfl

theorem findRow_filter_ne [DecidableEq κ] (k k' : κ) (rows : List (κ × α)) :
    findRow k' (rows.filter fun row => row.1 ≠ k) = if k' = k then none else findRow k' rows := by
  induction rows with
  | nil => simp [findRow]
  | cons row rows ih =>
    simp only [List.filter_cons, decide_eq_true_eq]
    split <;> simp only [findRow, ih] <;> grind

theorem find?_erase [DecidableEq κ] (t : Table κ α) (k k' : κ) :
    (t.erase k).find? k' = if k' = k then none else t.find? k' :=
  findRow_filter_ne k k' t.rows

/-- What is found after a key was dropped was found before, at another key. -/
theorem find?_erase_eq_some_iff [DecidableEq κ] {t : Table κ α} {k k' : κ} {v : α} :
    (t.erase k).find? k' = some v ↔ k' ≠ k ∧ t.find? k' = some v := by
  rw [find?_erase]
  split <;> simp [*]

/-- A key without a row has nothing to drop. -/
theorem erase_of_find?_eq_none [DecidableEq κ] (t : Table κ α) (k : κ) (h : t.find? k = none) :
    t.erase k = t := by
  obtain ⟨rows⟩ := t
  simp only [find?, erase, mk.injEq] at h ⊢
  induction rows with
  | nil => rfl
  | cons row rows ih =>
    simp only [findRow] at h
    split at h
    · simp at h
    · rename_i differ
      rw [List.filter_cons, if_pos (by simpa using Ne.symm differ), ih h]

/-- A value that is found is one of the values. -/
theorem mem_values_of_find? [DecidableEq κ] {t : Table κ α} {k : κ} {v : α}
    (found : t.find? k = some v) : v ∈ t.values := by
  obtain ⟨rows⟩ := t
  simp only [find?, values] at found ⊢
  induction rows with
  | nil => simp [findRow] at found
  | cons row rows ih =>
    simp only [findRow] at found
    split at found
    · simp only [Option.some.injEq] at found
      simp [found]
    · exact List.mem_cons_of_mem _ (ih found)

theorem mem_values_of_mem_erase [DecidableEq κ] {t : Table κ α} {k : κ} {v : α}
    (member : v ∈ (t.erase k).values) : v ∈ t.values := by
  obtain ⟨row, kept, rfl⟩ := List.mem_map.1 member
  exact List.mem_map.2 ⟨row, (List.mem_filter.1 kept).1, rfl⟩

/-- The keys that are dropped are not found, and all others are as before. -/
theorem find?_foldl_erase [DecidableEq κ] (t : Table κ α) (ks : List κ) (k : κ) :
    (ks.foldl erase t).find? k = if k ∈ ks then none else t.find? k := by
  induction ks generalizing t with
  | nil => simp
  | cons first ks ih =>
    rw [List.foldl_cons, ih, find?_erase]
    grind

variable [Ord κ]

theorem findRow_insertRow [DecidableEq κ] [Std.LawfulEqOrd κ] (k k' : κ) (v : α) (rows : List (κ × α)) :
    findRow k' (insertRow k v rows) = if k' = k then some v else findRow k' rows := by
  induction rows with
  | nil => simp [insertRow, findRow]
  | cons row rows ih =>
    simp only [insertRow]
    split
    · rfl
    · rename_i eq
      rw [Std.compare_eq_iff_eq] at eq
      simp only [findRow, ← eq]
      split <;> rfl
    · rename_i gt
      have differ : k ≠ row.1 := by
        rintro rfl
        simp at gt
      simp only [findRow, ih]
      grind

theorem find?_insert [DecidableEq κ] [Std.LawfulEqOrd κ] (t : Table κ α) (k k' : κ) (v : α) :
    (t.insert k v).find? k' = if k' = k then some v else t.find? k' :=
  findRow_insertRow k k' v t.rows

/-- What is found after a value was set is that value, or was found before at another key. -/
theorem find?_insert_eq_some_iff [DecidableEq κ] [Std.LawfulEqOrd κ] {t : Table κ α} {k k' : κ}
    {v w : α} :
    (t.insert k v).find? k' = some w ↔ k' = k ∧ v = w ∨ k' ≠ k ∧ t.find? k' = some w := by
  rw [find?_insert]
  split <;> simp [*]

theorem mem_insertRow {k : κ} {v : α} {rows : List (κ × α)} {row : κ × α}
    (h : row ∈ insertRow k v rows) : row = (k, v) ∨ row ∈ rows := by
  induction rows with
  | nil => simpa [insertRow] using h
  | cons first rows ih =>
    simp only [insertRow] at h
    split at h
    · simpa using h
    · grind
    · grind

theorem mem_values_of_mem_insert {t : Table κ α} {k : κ} {v w : α}
    (member : w ∈ (t.insert k v).values) : w = v ∨ w ∈ t.values := by
  obtain ⟨row, inserted, rfl⟩ := List.mem_map.1 member
  rcases mem_insertRow inserted with rfl | stored
  · exact .inl rfl
  · exact .inr (List.mem_map.2 ⟨row, stored, rfl⟩)

/-- Of two values set at one key the second stays. -/
theorem insert_insert [Std.ReflOrd κ] (t : Table κ α) (k : κ) (v w : α) :
    (t.insert k v).insert k w = t.insert k w := by
  simp only [insert, mk.injEq]
  induction t.rows with
  | nil => simp [insertRow]
  | cons row rows ih =>
    cases order : compare k row.1 <;> simp [insertRow, order, ih]

/-- Of a value set at a key nothing is left when the key is dropped. -/
theorem erase_insert [DecidableEq κ] [Std.LawfulEqOrd κ] (t : Table κ α) (k : κ) (v : α) :
    (t.insert k v).erase k = t.erase k := by
  simp only [insert, erase, mk.injEq]
  induction t.rows with
  | nil => simp [insertRow]
  | cons row rows ih =>
    cases order : compare k row.1 with
    | lt => simp [insertRow, order]
    | eq =>
      have same : row.1 = k := (Std.compare_eq_iff_eq.1 order).symm
      simp [insertRow, same]
    | gt => simp only [insertRow, order, List.filter_cons, ih]

theorem Ascending.empty : (∅ : Table κ α).Ascending := List.Pairwise.nil

theorem Ascending.erase [DecidableEq κ] {t : Table κ α} (h : t.Ascending) (k : κ) :
    (t.erase k).Ascending :=
  List.Pairwise.filter _ h

theorem Ascending.foldl_erase [DecidableEq κ] {t : Table κ α} (h : t.Ascending) (ks : List κ) :
    (ks.foldl Table.erase t).Ascending := by
  induction ks generalizing t with
  | nil => exact h
  | cons k ks ih => exact ih (h.erase k)

section Order

variable [Std.TransOrd κ]

/-- Two inserts at different keys give the same rows in either order. -/
theorem insertRow_comm [Std.LawfulEqOrd κ] {k k' : κ} (v v' : α) (differ : k ≠ k')
    (rows : List (κ × α)) :
    insertRow k v (insertRow k' v' rows) = insertRow k' v' (insertRow k v rows) := by
  have apart : compare k k' ≠ .eq := by simpa using differ
  have swap : compare k' k = (compare k k').swap := Std.OrientedOrd.eq_swap
  induction rows with
  | nil =>
    simp only [insertRow, swap]
    cases h : compare k k' <;> simp_all
  | cons row rows ih =>
    cases h : compare k k' <;> cases h₁ : compare k row.1 <;> cases h₂ : compare k' row.1 <;>
      simp_all [insertRow]
    · simp [Std.TransCmp.lt_trans h h₂] at h₁
    · simp [Std.TransCmp.lt_trans swap h₁] at h₂

theorem insert_comm [Std.LawfulEqOrd κ] {k k' : κ} (t : Table κ α) (v v' : α) (differ : k ≠ k') :
    (t.insert k v).insert k' v' = (t.insert k' v').insert k v := by
  simp only [insert, insertRow_comm v' v differ.symm]

theorem Ascending.insert [Std.LawfulEqOrd κ] {t : Table κ α} (h : t.Ascending) (k : κ) (v : α) :
    (t.insert k v).Ascending := by
  obtain ⟨rows⟩ := t
  simp only [Ascending, Table.insert] at h ⊢
  induction rows with
  | nil => simp [insertRow]
  | cons row rows ih =>
    rw [List.pairwise_cons] at h
    simp only [insertRow]
    split
    · rename_i lt
      refine List.pairwise_cons.2 ⟨fun other mem => ?_, List.pairwise_cons.2 h⟩
      rcases List.mem_cons.1 mem with rfl | mem
      · exact lt
      · exact Std.TransCmp.lt_trans lt (h.1 other mem)
    · rename_i eq
      rw [Std.compare_eq_iff_eq] at eq
      exact List.pairwise_cons.2 ⟨fun other mem => eq ▸ h.1 other mem, h.2⟩
    · rename_i gt
      refine List.pairwise_cons.2 ⟨fun other mem => ?_, ih h.2⟩
      rcases mem_insertRow mem with rfl | mem
      · exact Std.OrientedCmp.lt_of_gt gt
      · exact h.1 other mem

/-- No key is listed twice. -/
theorem Ascending.nodup_keys {t : Table κ α} (h : t.Ascending) : t.keys.Nodup := by
  refine List.pairwise_map.2 (List.Pairwise.imp (fun lt => ?_) h)
  intro same
  simp [same] at lt

/-- No row is listed twice. -/
theorem Ascending.nodup_rows {t : Table κ α} (h : t.Ascending) : t.rows.Nodup := by
  refine List.Pairwise.imp (fun lt => ?_) h
  rintro rfl
  simp at lt

/-- A row is stored exactly when it is found. -/
theorem Ascending.mem_rows_iff [DecidableEq κ] {t : Table κ α} (h : t.Ascending) (k : κ) (v : α) :
    (k, v) ∈ t.rows ↔ t.find? k = some v := by
  obtain ⟨rows⟩ := t
  simp only [Ascending, find?] at h ⊢
  induction rows with
  | nil => simp [findRow]
  | cons row rows ih =>
    obtain ⟨first, rest⟩ := List.pairwise_cons.1 h
    simp only [findRow, List.mem_cons]
    split
    · rename_i same
      constructor
      · rintro (eq | mem)
        · simp [← eq]
        · have := first _ mem
          simp [same] at this
      · intro eq
        simp only [Option.some.injEq] at eq
        exact .inl (by rw [same, ← eq])
    · rename_i differ
      rw [← ih rest]
      constructor
      · rintro (eq | mem)
        · exact absurd (by rw [← eq]) differ
        · exact mem
      · exact .inr

theorem Ascending.mem_keys_iff [DecidableEq κ] {t : Table κ α} (h : t.Ascending) (k : κ) :
    k ∈ t.keys ↔ t.contains k = true := by
  simp [keys, contains, Option.isSome_iff_exists, h.mem_rows_iff]

/-- Ascending tables with the same view are the same. -/
theorem Ascending.ext [DecidableEq κ] [Std.LawfulEqOrd κ] {s t : Table κ α} (hs : s.Ascending)
    (ht : t.Ascending) (same : ∀ k, s.find? k = t.find? k) : s = t := by
  have mem : ∀ row, row ∈ s.rows ↔ row ∈ t.rows := fun ⟨k, v⟩ => by
    rw [hs.mem_rows_iff, ht.mem_rows_iff, same]
  have perm : s.rows.Perm t.rows := (List.perm_ext_iff_of_nodup hs.nodup_rows ht.nodup_rows).2 mem
  obtain ⟨rows⟩ := s
  obtain ⟨rows'⟩ := t
  simp only [Ascending] at hs ht
  rw [perm.eq_of_pairwise (fun a b _ _ lt lt' => ?_) hs ht]
  have again := Std.TransCmp.lt_trans lt lt'
  simp at again

end Order

end Table

end DynamicMessage
