/-
# Proofs.Views -- all ways to look at a container agree

The fields of a message, its unrecognised records and the entries of a map can be listed, counted,
looked up and gone through.  Each of these reads filters in its own way: fields that are stored may
be hidden, runs may be empty, and values may be null.  They agree (`ViewsAgree`) because of what is
stored: a lookup finds something exactly where there is a row to show (`ViewsAgree.of_rows`).

Extensions are found by number and by name, and the two tables list the same ones
(`Registry.ViewsAgree`).
-/
import DynamicMessage.Proofs.HiddenRows.Reads
import DynamicMessage.Proofs.Message.Registry
import DynamicMessage.Proofs.Unknown.Calls
import DynamicMessage.Proofs.Visits

namespace DynamicMessage

set_option autoImplicit false

/-- What `list`, `size`, `isEmpty` and `range` show of a container is what is present under the keys
when they are looked up. -/
structure ViewsAgree {κ α : Type} (present : α → Prop) (list : List κ) (size : Nat)
    (isEmpty : Bool) (get : κ → α) (range : Tour (κ × α)) : Prop where
  nodup : list.Nodup
  size_eq : size = list.length
  isEmpty_iff : isEmpty = true ↔ list = []
  mem_list_iff : ∀ k, k ∈ list ↔ present (get k)
  /-- Each listed key is visited once, with what is found under it. -/
  visits : range.Visits (list.map fun k => (k, get k))

/-- Containers that show rows, one for each key under which something is present, have views that
agree. -/
theorem ViewsAgree.of_rows {κ α : Type} {present : α → Prop} {get : κ → α} {range : Tour (κ × α)}
    {rows : List (κ × α)} (nodup : (rows.map (·.1)).Nodup)
    (mem : ∀ k v, (k, v) ∈ rows ↔ get k = v ∧ present v)
    (visits : ∀ {σ : Type} (visitor : κ × α → σ → ForInStep σ) (s : σ),
      range visitor s = visit visitor s rows) :
    ViewsAgree present (rows.map (·.1)) rows.length rows.isEmpty get range where
  nodup := nodup
  size_eq := by rw [List.length_map]
  isEmpty_iff := by rw [List.isEmpty_iff, List.map_eq_nil_iff]
  mem_list_iff k := by
    constructor
    · intro listed
      obtain ⟨row, shown, rfl⟩ := List.mem_map.1 listed
      obtain ⟨found, there⟩ := (mem row.1 row.2).1 shown
      rwa [found]
    · intro there
      exact List.mem_map.2 ⟨(k, get k), (mem k (get k)).2 ⟨rfl, there⟩, rfl⟩
  visits := by
    have again : (rows.map (·.1)).map (fun k => (k, get k)) = rows := by
      rw [List.map_map]
      refine (List.map_congr_left fun row shown => ?_).trans (List.map_id rows)
      obtain ⟨found, -⟩ := (mem row.1 row.2).1 shown
      simp [found]
    rw [again]
    exact Tour.visits_of_eq_visit (.refl rows) visits

/-! ## Fields -/

/-- The ways to look at the fields of a message agree. -/
structure Message.FieldsAgree (m : Message) : Prop where
  views : DynamicMessage.ViewsAgree (· ≠ .null) m.list m.size m.isEmpty m.get
    fun visitor s => m.range visitor s
  has_iff : ∀ n, m.has n = true ↔ m.get n ≠ .null

/-- A message shows a field exactly where a value other than null is found. -/
theorem Message.mem_populated_iff {m : Message} (ascending : m.fields.Ascending) (n : FieldNumber)
    (v : Value) : (n, v) ∈ m.populated ↔ m.get n = v ∧ v ≠ .null := by
  rw [populated, List.mem_filter, ascending.mem_rows_iff]
  constructor
  · rintro ⟨found, populated⟩
    refine ⟨by simp [get, found, populated], ?_⟩
    rintro rfl
    cases populated
  · rintro ⟨rfl, there⟩
    unfold get at there ⊢
    split at there
    · rename_i w found
      split at there
      · rename_i populated
        simp [found, populated]
      · exact absurd rfl there
    · exact absurd rfl there

theorem Message.Sound.fieldsAgree {m : Message} {t : MessageType} (sound : m.Sound t) :
    m.FieldsAgree where
  views := by
    have nodup : (m.populated.map (·.1)).Nodup := by
      refine List.pairwise_map.2 ((List.Pairwise.filter _ sound.ascending).imp fun below same => ?_)
      simp [same] at below
    have views : DynamicMessage.ViewsAgree (· ≠ .null) m.list m.populated.length
        m.populated.isEmpty m.get fun visitor s => m.range visitor s :=
      .of_rows nodup (mem_populated_iff sound.ascending) fun visitor s => rfl
    have isEmpty : m.isEmpty = m.populated.isEmpty := by
      rw [Message.isEmpty, size_eq_length_populated]
      cases m.populated <;> simp
    rwa [← size_eq_length_populated, ← isEmpty] at views
  has_iff := m.has_iff_get_ne_null

/-! ## Unrecognised records -/

/-- The ways to look at unrecognised records agree; a number without any has an empty run. -/
def UnknownStore.ViewsAgree (u : UnknownStore) : Prop :=
  DynamicMessage.ViewsAgree (fun run => run.isEmpty = false) u.list u.size u.isEmpty u.get
    fun visitor s => u.range visitor s

theorem UnknownStore.Sound.viewsAgree {u : UnknownStore} (sound : u.Sound) : u.ViewsAgree := by
  refine .of_rows sound.ascending.nodup_keys (fun n run => ?_) fun visitor s => rfl
  rw [sound.ascending.mem_rows_iff, get]
  constructor
  · intro found
    exact ⟨by rw [found]; rfl, (sound.stored n run found).nonempty⟩
  · rintro ⟨rfl, nonempty⟩
    cases found : u.runs.find? n with
    | none =>
      rw [found] at nonempty
      cases nonempty
    | some run => rfl

/-! ## Entries -/

/-- The ways to look at the entries of a map agree. -/
def Map.ViewsAgree (m : Map) : Prop :=
  DynamicMessage.ViewsAgree (· ≠ .null) m.list m.size m.isEmpty m.get
    fun visitor s => m.range visitor s

theorem Map.viewsAgree_of_ascending {m : Map} (ascending : m.entries.Ascending)
    (notNull : ∀ k x, m.entries.find? k = some x → x ≠ .null) : m.ViewsAgree := by
  refine .of_rows ascending.nodup_keys (fun k x => ?_) fun visitor s => rfl
  rw [ascending.mem_rows_iff, get]
  constructor
  · intro found
    exact ⟨by rw [found]; rfl, notNull k x found⟩
  · rintro ⟨rfl, there⟩
    cases found : m.entries.find? k with
    | none =>
      rw [found] at there
      exact absurd rfl there
    | some x => rfl

theorem Map.Sound.viewsAgree {m : Map} (sound : m.Sound) : m.ViewsAgree := by
  refine viewsAgree_of_ascending sound.ascending fun k x found => ?_
  rintro rfl
  cases (sound.entries k .null found).2.not_null

/-! ## Extensions -/

/-- The ways to look at extensions agree: what is listed is what is found by its number, and what is
found by its name. -/
structure Registry.ViewsAgree (r : Registry) : Prop where
  nodup : r.list.Nodup
  size_eq : r.size = r.list.length
  isEmpty_iff : r.isEmpty = true ↔ r.list = []
  byNumber : ∀ n e, r.findByNumber? n = some e ↔ e ∈ r.list ∧ e.number = n
  byName : ∀ name e, r.findByName? name = some e ↔ e ∈ r.list ∧ e.name = name
  visits : Tour.Visits (fun visitor s => r.range visitor s) r.list

theorem Registry.Agrees.viewsAgree {r : Registry} (agrees : r.Agrees) : r.ViewsAgree where
  nodup := agrees.nodup_list
  size_eq := size_eq r
  isEmpty_iff := by rw [Registry.isEmpty, List.isEmpty_iff, Registry.list, Table.values,
    List.map_eq_nil_iff]
  byNumber := agrees.findByNumber?_eq_some_iff
  byName := agrees.findByName?_eq_some_iff
  visits := Tour.visits_of_eq_visit (.refl r.list) fun visitor s => rfl

/-! ## Reachable values -/

/-- All ways to look at a message or a map agree. -/
def Composite.ViewsAgree : Composite → Prop
  | .message m => m.FieldsAgree ∧ m.unknown.ViewsAgree ∧ m.extensions.ViewsAgree
  | .map m => m.ViewsAgree
  | .vector _ => True

/-- Whatever a program does, all ways to look at what it holds agree, at every depth. -/
theorem reachable_views_agree {v : Value} (reachable : Reachable v) :
    Everywhere Composite.ViewsAgree v := by
  have messages := Message.invariant_extended.and Message.invariant_leftByCalls
  refine (messages.everywhere reachable).imp fun c held => ?_
  obtain ⟨sound, extended, left⟩ := held
  cases c with
  | message m =>
    obtain ⟨t, sound⟩ := sound
    exact ⟨sound.fieldsAgree, (left t sound.type).sound.1.viewsAgree,
      (extended t sound.type).agrees.viewsAgree⟩
  | vector v => trivial
  | map m => exact Map.Sound.viewsAgree sound

/-- The visitor that collects up to a limit stops when it has seen so many. -/
theorem stopsAt_collect {α : Type} (k : Nat) (seen : List α) :
    StopsAt (collect (some (seen.length + (k + 1)))) (k + 1) seen := by
  induction k generalizing seen with
  | zero =>
    intro a
    exact ⟨seen ++ [a], by simp [collect]⟩
  | succ k ih =>
    intro a
    refine ⟨seen ++ [a], by simp [collect], ?_⟩
    have later := ih (seen ++ [a])
    rw [List.length_append, List.length_singleton, Nat.add_assoc, Nat.add_comm 1] at later
    exact later

namespace AddressBook

/-- The filed card stores five fields and shows four of them, and its records: the friends that were
opened are hidden.  A visitor that stops at its second visit sees two of the four, and no visitor
sees the friends. -/
theorem filed_views_agree :
    Reachable (.message filed) ∧ filed.fields.keys = [4, 5, 6, 8, 100] ∧
      filed.list = [4, 5, 8, 100] ∧ filed.unknown.list = [200] ∧
      StopsAt (collect (some 2)) 2 ([] : List (FieldNumber × Value)) ∧
      (Tour.shown (fun visitor s => filed.range visitor s) (collect (some 2)) []).length = 2 ∧
      filed.get 6 = .null ∧ (filed.unknown.get 200).isEmpty = false ∧
      ∃ e, filed.extensions.findByNumber? 100 = some e ∧
        filed.extensions.findByName? "tutorial.nickname" = some e := by
  obtain ⟨fields, records, extensions⟩ := (reachable_views_agree reachable_filed).here
  have shown : filed.list = [4, 5, 8, 100] := by decide +kernel
  have filed_records : filed.unknown.list = [200] := by decide +kernel
  have stops : StopsAt (collect (some 2)) 2 ([] : List (FieldNumber × Value)) :=
    stopsAt_collect 1 []
  have visits := fields.views.visits.stopped (collect (some 2)) [] 2 stops
  rw [List.length_map, shown] at visits
  have hidden : ¬filed.get 6 ≠ .null := by
    rw [← fields.views.mem_list_iff, shown]
    decide
  have nickname : (filed.extensions.findByNumber? 100).map (·.name) = some "tutorial.nickname" := by
    decide +kernel
  obtain ⟨e, found, named⟩ := Option.map_eq_some_iff.1 nickname
  obtain ⟨listed, -⟩ := (extensions.byNumber 100 e).1 found
  exact ⟨reachable_filed, by decide +kernel, shown, filed_records, stops, visits,
    not_not.1 hidden, (records.mem_list_iff 200).1 (by simp [filed_records]), e, found,
    (extensions.byName "tutorial.nickname" e).2 ⟨listed, named⟩⟩

end AddressBook

end DynamicMessage
