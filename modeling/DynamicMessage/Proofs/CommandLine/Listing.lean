/-
# Proofs.CommandLine.Listing -- what `wire` prints is what the scan finds

`wire` takes down the items of a run in a loop of its own, and from what that loop leaves it says
whether the run is valid and where it breaks.  The loop is followed item by item (`Draft.Lists`), so
the listing says what the scan does (`Listing.Reports`): the records in order, and the break exactly
where the last one ends.

The two forms of a listing are read back, each in its own way.  The lines of the table are split
into cells (`TableShows`), which works because no cell has a tab or a line feed in it (`IsCell`).
The JSON form is read by the rules of JSON, whichever writer it comes from, and the members are
looked up by their names (`FormShows`); this works because a text is JSON text of one value only.
Both show the same rows and the same offset.
-/
import DynamicMessage.CommandLine.Run
import DynamicMessage.Proofs.Json.Indented
import DynamicMessage.Proofs.Wire.Tiling
import Mathlib.Data.List.Forall2

namespace DynamicMessage.CommandLine

set_option autoImplicit false

open Wire (Record Run Scan Walk WireType)

/-! ## Records taken down -/

/-- How many bytes rows cover. -/
def covered : List RecordRow → Nat
  | [] => 0
  | row :: rest => row.length + covered rest

/-- What wire types are called. -/
def wireTypeNames : List (WireType × String) :=
  [(.varint, "varint"), (.fixed64, "fixed64"), (.bytes, "bytes"), (.startGroup, "start_group"),
    (.endGroup, "end_group"), (.fixed32, "fixed32")]

/-- A row says of the record at an index where it stands, how long it is and what its tag is. -/
structure RecordRow.Describes (row : RecordRow) (index : Nat) (record : Record) : Prop where
  index : row.index = index
  offset : row.offset = record.offset
  length : row.length = record.length
  number : row.number = record.number
  wireType : (record.wireType, row.wireType) ∈ wireTypeNames

/-- A listing says of a run what its scan finds: as many bytes, the records that are handed out one
by one, each with its position, whether the run is valid, and if it is not, that it breaks behind
all records. -/
structure Listing.Reports (listing : Listing) (run : Run) : Prop where
  bytes : listing.bytes = run.bytes.length
  records : ∀ index row, listing.records[index]? = some row ↔
    ∃ record, (Walk.start run).item index = some (.ok record) ∧ row.Describes index record
  valid : listing.valid = run.isValid
  errorOffset : listing.errorOffset = if listing.valid then none else some (covered listing.records)

/-- A draft has taken down records and no error. -/
structure Draft.Lists (draft : Draft) (records : List Record) : Prop where
  records : draft.records = records.mapIdx RecordRow.of
  errorOffset : draft.errorOffset = none

theorem Draft.lists_empty : ({} : Draft).Lists [] := ⟨rfl, rfl⟩

theorem Draft.Lists.add {draft : Draft} {records : List Record} (listed : draft.Lists records)
    (record : Record) : (draft.add records.length (.ok record)).Lists (records ++ [record]) where
  records := by
    rw [Draft.add, listed.records, List.mapIdx_concat]
  errorOffset := listed.errorOffset

/-- However many records are behind the ones that are taken down, the loop takes them down too and
comes to the items behind them. -/
theorem Draft.Lists.addAll {draft : Draft} {records : List Record} (listed : draft.Lists records)
    (more : List Record) (items : List (Except Error Record)) :
    ∃ later : Draft, later.Lists (records ++ more) ∧
      draft.addAll records.length (more.map .ok ++ items) =
        later.addAll (records ++ more).length items := by
  induction more generalizing draft records with
  | nil => exact ⟨draft, by rwa [List.append_nil], by rw [List.append_nil]; rfl⟩
  | cons record more ih =>
    obtain ⟨later, taken, same⟩ := ih (listed.add record)
    rw [List.append_assoc, List.singleton_append] at taken same
    refine ⟨later, taken, ?_⟩
    rw [← same, List.length_append]
    rfl

theorem covered_mapIdx (records : List Record) (f : Nat → Nat) :
    covered (records.mapIdx fun index record => RecordRow.of (f index) record) =
      Wire.coverage records := by
  induction records generalizing f with
  | nil => rfl
  | cons record records ih =>
    rw [List.mapIdx_cons, covered, Wire.coverage, ih fun index => f (index + 1)]
    rfl

/-- The items of a scan that are records. -/
theorem items_eq_ok_iff (scan : Scan) (index : Nat) (record : Record) :
    scan.items[index]? = some (.ok record) ↔ scan.records[index]? = some record := by
  rw [Scan.items]
  by_cases within : index < scan.records.length
  · rw [List.getElem?_append_left (by rwa [List.length_map]), List.getElem?_map]
    simp
  · have behind : scan.records.length ≤ index := by omega
    rw [List.getElem?_append_right (by rwa [List.length_map]), List.getElem?_eq_none behind]
    constructor
    · intro found
      have member := List.mem_of_getElem? found
      cases broken : scan.brokenAt <;> simp [broken] at member
    · intro found
      cases found

/-- What the loop leaves: the rows of the records, and the offset at which the scan breaks. -/
theorem Listing.of_eq (run : Run) : Listing.of run =
    { bytes := run.length, valid := run.isValid,
      records := run.scan.records.mapIdx RecordRow.of, errorOffset := run.scan.brokenAt } := by
  obtain ⟨later, taken, same⟩ := Draft.lists_empty.addAll run.scan.records
    (run.scan.brokenAt.map fun offset => .error (.malformedWire 0 offset)).toList
  have left : ({} : Draft).addAll 0 run.scan.items = later.addAll _ _ := same
  rw [Listing.of, left, Run.isValid, Scan.isComplete]
  rw [List.nil_append] at taken
  cases broken : run.scan.brokenAt with
  | none => simp [Draft.addAll, taken.records, taken.errorOffset]
  | some offset => simp [Draft.addAll, Draft.add, taken.records]

theorem mem_wireTypeNames_iff (w : WireType) (name : String) :
    (w, name) ∈ wireTypeNames ↔ name = w.label := by
  cases w <;> simp [wireTypeNames, WireType.label]

/-- A record is described by one row. -/
theorem RecordRow.describes_iff (row : RecordRow) (index : Nat) (record : Record) :
    row.Describes index record ↔ row = .of index record := by
  constructor
  · rintro ⟨index, offset, length, number, wireType⟩
    rw [mem_wireTypeNames_iff] at wireType
    cases row
    simp_all [RecordRow.of]
  · rintro rfl
    exact ⟨rfl, rfl, rfl, rfl, (mem_wireTypeNames_iff _ _).2 rfl⟩

theorem Listing.reports_of (run : Run) : (Listing.of run).Reports run := by
  rw [of_eq]
  refine ⟨rfl, fun index row => ?_, rfl, ?_⟩
  · rw [List.getElem?_mapIdx, Option.map_eq_some_iff]
    simp only [Walk.item_start, items_eq_ok_iff]
    refine exists_congr fun record => and_congr_right' ?_
    rw [row.describes_iff, eq_comm]
  · have ends := Scan.brokenAt_cases 0 run.bytes
    rw [Nat.zero_add] at ends
    have rows : covered (run.scan.records.mapIdx RecordRow.of) = Wire.coverage run.scan.records :=
      covered_mapIdx run.scan.records id
    show run.scan.brokenAt = if run.scan.brokenAt.isNone then none else some (covered _)
    rw [rows]
    rcases ends with ⟨unbroken, -⟩ | ⟨broken, -⟩
    · rw [Run.scan, unbroken]
      rfl
    · rw [Run.scan, broken]
      rfl

/-- A run has one listing that reports it. -/
theorem Listing.Reports.unique {listing other : Listing} {run : Run}
    (reports : listing.Reports run) (reports' : other.Reports run) : listing = other := by
  have records : listing.records = other.records := by
    refine List.ext_getElem? fun index => Option.ext fun row => ?_
    rw [reports.records, reports'.records]
  have bytes := reports.bytes.trans reports'.bytes.symm
  have valid := reports.valid.trans reports'.valid.symm
  have errorOffset := reports.errorOffset
  rw [valid, records, ← reports'.errorOffset] at errorOffset
  cases listing
  cases other
  simp_all

/-! ## The table, read back -/

/-- The cells of a row. -/
def RecordRow.cells (r : RecordRow) : List String :=
  [toString r.index, toString r.offset, toString r.length, toString r.number, r.wireType]

/-- The lines of a listing, each as its cells. -/
def Listing.lines (l : Listing) : List (List String) :=
  [["bytes: " ++ toString l.bytes], ["valid: " ++ toString l.valid],
    ["records: " ++ toString l.records.length], ["idx", "offset", "len", "number", "wire_type"]] ++
    l.records.map RecordRow.cells ++
    (l.errorOffset.map fun offset => ["error_offset: " ++ toString offset]).toList

/-- Text split into lines, and each line into cells. -/
def grid (text : String) : List (List String) :=
  (text.toList.splitOn '\n').map fun line => (line.splitOn '\t').map String.ofList

/-- Text shows a listing as a table: its lines are those of the listing, each one ended. -/
def TableShows (text : String) (listing : Listing) : Prop := grid text = listing.lines ++ [[""]]

/-- Text that fits into a cell. -/
def IsCell (text : String) : Prop := '\t' ∉ text.toList ∧ '\n' ∉ text.toList

instance (text : String) : Decidable (IsCell text) := inferInstanceAs (Decidable (_ ∧ _))

theorem IsCell.append {a b : String} (first : IsCell a) (second : IsCell b) : IsCell (a ++ b) := by
  simp [IsCell, first.1, first.2, second.1, second.2]

theorem isCell_toString (n : Nat) : IsCell (toString n) := by
  have digits : ∀ c ∈ (toString n).toList, c.isDigit = true := by
    intro c member
    rw [show (toString n).toList = Nat.toDigits 10 n from Nat.toList_repr] at member
    exact Nat.isDigit_of_mem_toDigits (by decide) (Nat.le_refl 10) member
  exact ⟨fun tab => absurd (digits _ tab) (by decide),
    fun lineFeed => absurd (digits _ lineFeed) (by decide)⟩

theorem toString_inj {n k : Nat} (same : toString n = toString k) : n = k := by
  refine Json.toDigits_inj ?_
  rw [← Nat.toList_repr, ← Nat.toList_repr]
  exact congrArg String.toList same

theorem isCell_label (w : Wire.WireType) : IsCell w.label := by
  cases w <;> decide

theorem not_mem_intercalate {c d : Char} (ne : c ≠ d) {parts : List (List Char)}
    (absent : ∀ part ∈ parts, c ∉ part) : c ∉ [d].intercalate parts := by
  induction parts with
  | nil => simp
  | cons part parts ih =>
    have first := absent part List.mem_cons_self
    have later := ih fun other member => absent other (List.mem_cons_of_mem _ member)
    cases parts with
    | nil => simpa using first
    | cons next parts =>
      rw [List.intercalate_cons_cons]
      simp [first, later, ne]

/-- A line that is written cell by cell is split into these cells. -/
theorem grid_row {fields : List String} (nonempty : fields ≠ [])
    (cells : ∀ field ∈ fields, IsCell field) (rest : String) :
    grid (row fields ++ rest) = fields :: grid rest := by
  have text : (row fields ++ rest).toList =
      ['\t'].intercalate (fields.map String.toList) ++ '\n' :: rest.toList := by
    simp [row, String.toList_intercalate]
  have noLineFeed : '\n' ∉ ['\t'].intercalate (fields.map String.toList) := by
    refine not_mem_intercalate (by decide) ?_
    simpa using fun field member => (cells field member).2
  have split : (['\t'].intercalate (fields.map String.toList)).splitOn '\t' =
      fields.map String.toList := by
    refine List.splitOn_intercalate _ ?_ (by simpa using nonempty)
    simpa using fun field member => (cells field member).1
  rw [grid, text, List.splitOn_append_cons_self_of_not_mem noLineFeed, List.map_cons, split,
    List.map_map]
  simp [grid, Function.comp_def]

theorem grid_rows {lines : List (List String)}
    (cells : ∀ fields ∈ lines, fields ≠ [] ∧ ∀ field ∈ fields, IsCell field) :
    grid (String.join (lines.map row)) = lines ++ [[""]] := by
  induction lines with
  | nil => simp [grid]
  | cons fields lines ih =>
    obtain ⟨⟨nonempty, first⟩, later⟩ := List.forall_mem_cons.1 cells
    rw [List.map_cons, String.join_cons, grid_row nonempty first, ih later, List.cons_append]

theorem row_singleton (text : String) : row [text] = text ++ "\n" := by
  rw [row, String.intercalate_singleton]

theorem RecordRow.cells_inj {r r' : RecordRow} (same : r.cells = r'.cells) : r = r' := by
  simp only [cells, List.cons.injEq, and_true] at same
  obtain ⟨index, offset, length, number, wireType⟩ := same
  have index := toString_inj index
  have offset := toString_inj offset
  have length := toString_inj length
  have number := UInt32.toNat_inj.1 (toString_inj number)
  cases r
  cases r'
  simp_all

namespace Listing

/-- A table is its lines, written one by one. -/
theorem table_eq (l : Listing) : l.table = String.join (l.lines.map row) := by
  have bytes : s!"bytes: {l.bytes}\n" = row ["bytes: " ++ toString l.bytes] :=
    (row_singleton _).symm
  have valid : s!"valid: {l.valid}\n" = row ["valid: " ++ toString l.valid] :=
    (row_singleton _).symm
  have count : s!"records: {l.records.length}\n" =
      row ["records: " ++ toString l.records.length] := (row_singleton _).symm
  unfold table
  simp only [bytes, valid, count]
  rw [lines, List.map_append, List.map_append, String.join_append, String.join_append,
    List.map_map]
  refine congrArg₂ _ (congrArg₂ _ ?_ rfl) ?_
  · simp only [List.map_cons, List.map_nil, String.join_cons, String.join_nil,
      String.append_empty, String.append_assoc]
  · cases l.errorOffset with
    | none => rfl
    | some offset =>
      show _ = String.join [row ["error_offset: " ++ toString offset]]
      rw [row_singleton, String.join_cons, String.join_nil, String.append_empty]
      rfl

theorem cells_of_lines {l : Listing} (labels : ∀ r ∈ l.records, IsCell r.wireType) :
    ∀ fields ∈ l.lines, fields ≠ [] ∧ ∀ field ∈ fields, IsCell field := by
  have single : ∀ {text}, IsCell text → [text] ≠ [] ∧ ∀ field ∈ [text], IsCell field :=
    fun cell => ⟨List.cons_ne_nil _ _, List.forall_mem_singleton.2 cell⟩
  have valid : IsCell (toString l.valid) := by
    cases l.valid <;> decide
  intro fields member
  simp only [lines, List.mem_append, List.mem_cons, List.not_mem_nil, or_false, List.mem_map,
    Option.mem_toList, Option.map_eq_some_iff] at member
  rcases member with ((rfl | rfl | rfl | rfl) | ⟨r, listed, rfl⟩) | ⟨offset, -, rfl⟩
  · exact single (IsCell.append (by decide) (isCell_toString _))
  · exact single (IsCell.append (by decide) valid)
  · exact single (IsCell.append (by decide) (isCell_toString _))
  · decide
  · refine ⟨List.cons_ne_nil _ _, ?_⟩
    simp only [RecordRow.cells, List.forall_mem_cons]
    exact ⟨isCell_toString _, isCell_toString _, isCell_toString _, isCell_toString _,
      labels r listed, List.forall_mem_nil _⟩
  · exact single (IsCell.append (by decide) (isCell_toString _))

/-- The rows of records are told from the line of the offset by the number of their cells. -/
theorem rows_inj {rows rows' : List RecordRow} {offset offset' : Option Nat}
    (same : rows.map RecordRow.cells ++
        (offset.map fun offset => ["error_offset: " ++ toString offset]).toList =
      rows'.map RecordRow.cells ++
        (offset'.map fun offset => ["error_offset: " ++ toString offset]).toList) :
    rows = rows' ∧ offset = offset' := by
  induction rows generalizing rows' with
  | nil =>
    cases rows' with
    | nil =>
      refine ⟨rfl, ?_⟩
      cases offset with
      | none =>
        cases offset' with
        | none => rfl
        | some offset' => simp at same
      | some offset =>
        cases offset' with
        | none => simp at same
        | some offset' =>
          simp only [List.map_nil, List.nil_append, Option.map_some, Option.toList_some,
            List.cons.injEq, and_true, String.append_right_inj] at same
          rw [toString_inj same]
    | cons r' rows' => cases offset <;> simp [RecordRow.cells] at same
  | cons r rows ih =>
    cases rows' with
    | nil => cases offset' <;> simp [RecordRow.cells] at same
    | cons r' rows' =>
      obtain ⟨first, later⟩ := List.cons.inj same
      obtain ⟨rfl, rfl⟩ := ih later
      exact ⟨by rw [RecordRow.cells_inj first], rfl⟩

theorem lines_inj {l l' : Listing} (same : l.lines = l'.lines) : l = l' := by
  simp only [lines, List.cons_append, List.nil_append, List.cons.injEq, and_true,
    String.append_right_inj] at same
  obtain ⟨bytes, valid, -, -, rest⟩ := same
  obtain ⟨records, offset⟩ := rows_inj rest
  have bytes := toString_inj bytes
  have told : ∀ a b : Bool, toString a = toString b → a = b := by decide
  have valid := told _ _ valid
  cases l
  cases l'
  simp_all

theorem tableShows_iff {l : Listing} (labels : ∀ r ∈ l.records, IsCell r.wireType)
    (shown : Listing) : TableShows l.table shown ↔ shown = l := by
  rw [TableShows, table_eq, grid_rows (cells_of_lines labels)]
  constructor
  · intro same
    exact (lines_inj (List.append_cancel_right same)).symm
  · rintro rfl
    rfl

end Listing

/-! ## The JSON form, read back -/

/-- The member of an object under a name. -/
def member? (name : String) : Json → Option Json
  | .object members => (members.find? fun member => member.1 = name).map (·.2)
  | _ => none

/-- A JSON value shows a row. -/
structure ItemShows (item : Json) (r : RecordRow) : Prop where
  index : member? "index" item = some (.nat r.index)
  offset : member? "offset" item = some (.nat r.offset)
  length : member? "len" item = some (.nat r.length)
  number : member? "number" item = some (.nat r.number.toNat)
  wireType : member? "wire_type" item = some (.string r.wireType)

/-- A JSON value shows a listing. -/
structure ValueShows (v : Json) (listing : Listing) : Prop where
  bytes : member? "bytes" v = some (.nat listing.bytes)
  valid : member? "valid" v = some (.bool listing.valid)
  records : ∃ items, member? "records" v = some (.array items) ∧
    List.Forall₂ ItemShows items listing.records
  errorOffset : member? "error_offset" v = some (listing.errorOffset.elim .null .nat)

/-- Text shows a listing in JSON form: it is JSON text of a value that shows it. -/
def FormShows (text : String) (listing : Listing) : Prop :=
  ∃ v, Json.Item v text.toList ∧ ValueShows v listing

theorem ItemShows.unique {item : Json} {r r' : RecordRow} (first : ItemShows item r)
    (second : ItemShows item r') : r = r' := by
  have index := first.index.symm.trans second.index
  have offset := first.offset.symm.trans second.offset
  have length := first.length.symm.trans second.length
  have number := first.number.symm.trans second.number
  have wireType := first.wireType.symm.trans second.wireType
  simp only [Option.some.injEq, Json.nat.injEq, Json.string.injEq, UInt32.toNat_inj] at *
  cases r
  cases r'
  simp_all

theorem ValueShows.unique {v : Json} {l l' : Listing} (first : ValueShows v l)
    (second : ValueShows v l') : l = l' := by
  obtain ⟨items, found, rows⟩ := first.records
  obtain ⟨items', found', rows'⟩ := second.records
  have same : items = items' := by simpa using found.symm.trans found'
  subst items'
  have once : Relator.RightUnique ItemShows := fun _ _ _ => ItemShows.unique
  have records := once.forall₂ rows rows'
  have bytes := first.bytes.symm.trans second.bytes
  have valid := first.valid.symm.trans second.valid
  have errorOffset : l.errorOffset = l'.errorOffset := by
    have offset := first.errorOffset.symm.trans second.errorOffset
    cases before : l.errorOffset <;> cases after : l'.errorOffset <;>
      simp [before, after] at offset ⊢
    exact offset
  simp only [Option.some.injEq, Json.nat.injEq, Json.bool.injEq] at bytes valid
  cases l
  cases l'
  simp_all

theorem valueShows_json (l : Listing) : ValueShows l.json l where
  bytes := rfl
  valid := rfl
  records := by
    refine ⟨_, rfl, List.forall₂_map_left_iff.2 (List.forall₂_same.2 fun r _ => ?_)⟩
    exact ⟨rfl, rfl, rfl, rfl, rfl⟩
  errorOffset := by
    cases broken : l.errorOffset <;> simp [Listing.json, broken, member?]

theorem formShows_iff {l : Listing} {text : String} (item : Json.Item l.json text.toList)
    (shown : Listing) : FormShows text shown ↔ shown = l := by
  constructor
  · rintro ⟨v, item', other⟩
    obtain rfl := item.unique item'
    exact other.unique (valueShows_json l)
  · rintro rfl
    exact ⟨shown.json, item, valueShows_json shown⟩

/-! ## The command -/

/-- What is printed in JSON form is JSON text of the value, and nothing goes elsewhere. -/
theorem emit_eq {write : Json.Writer} (writes : Json.Writes write) (payload : Json) :
    ∃ form, emit write payload = { stdout := form } ∧ Json.Item payload form.toList := by
  obtain ⟨text, written, item⟩ := writes payload
  refine ⟨text ++ "\n", by rw [emit, written], ?_⟩
  have lineFeed : Json.Blank "\n".toList := Json.blank_singleton (by decide)
  rw [String.toList_append]
  exact item.append_blank lineFeed

/-- What `wire` prints is what the scan finds, whatever the text is and whichever writer the JSON
form comes from.  If the text is not read as bytes, the command fails with it and with nothing else;
else it answers, also where the bytes break, and what it prints is a listing that reports the scan
of these bytes.  The table and the JSON form show this listing and no other one. -/
theorem wire_reports_scan {write : Json.Writer} (writes : Json.Writes write) (text : String) :
    (∀ json, (Command.wire text json).report write = .error (.invalidHex text) ↔
      ∃ e, Hex.parse text = .error e) ∧
    ∀ bytes, Hex.parse text = .ok bytes →
      ∃ listing table form,
        (Command.wire text false).report write = .ok { stdout := table } ∧
        (Command.wire text true).report write = .ok { stdout := form } ∧
        Listing.Reports listing ⟨bytes⟩ ∧
        ∀ shown, (TableShows table shown ↔ shown = listing) ∧
          (FormShows form shown ↔ shown = listing) := by
  constructor
  · intro json
    cases read : Hex.parse text with
    | error e =>
      rw [Hex.eq_of_parse_eq_error read] at read
      simp [Command.report, read]
    | ok bytes => simp [Command.report, read]
  · intro bytes read
    have labels : ∀ r ∈ (Listing.of ⟨bytes⟩).records, IsCell r.wireType := by
      intro r listed
      rw [Listing.of_eq, List.mem_mapIdx] at listed
      obtain ⟨index, within, rfl⟩ := listed
      exact isCell_label _
    obtain ⟨form, emitted, item⟩ := emit_eq writes (Listing.of ⟨bytes⟩).json
    refine ⟨.of ⟨bytes⟩, (Listing.of ⟨bytes⟩).table, form, ?_, ?_, Listing.reports_of _, ?_⟩
    · simp [Command.report, read]
    · simp [Command.report, read, emitted]
    · intro shown
      exact ⟨Listing.tableShows_iff labels shown, formShows_iff item shown⟩

/-- Two records, one of them a group, and a group that does not end: both forms show one listing,
and it says that the bytes break behind the records. -/
theorem unended_group_listed :
    Json.Writes Json.indented ∧ ∃ listing table form,
      (Command.wire "0x089601 1B08011C 0B0801" false).report Json.indented =
        .ok { stdout := table } ∧ TableShows table listing ∧
      (Command.wire "0x089601 1B08011C 0B0801" true).report Json.indented =
        .ok { stdout := form } ∧ FormShows form listing ∧
      listing.records = [⟨0, 0, 3, 1, "varint"⟩, ⟨1, 3, 4, 3, "start_group"⟩] ∧
      listing.valid = false ∧ listing.errorOffset = some 7 := by
  have read : Hex.parse "0x089601 1B08011C 0B0801" =
      .ok [0x08, 0x96, 0x01, 0x1B, 0x08, 0x01, 0x1C, 0x0B, 0x08, 0x01] := by decide +kernel
  obtain ⟨listing, table, form, printed, printed', reports, shows⟩ :=
    (wire_reports_scan Json.indented_writes "0x089601 1B08011C 0B0801").2 _ read
  refine ⟨Json.indented_writes, listing, table, form, printed, (shows listing).1.2 rfl, printed',
    (shows listing).2.2 rfl, ?_⟩
  rw [reports.unique (Listing.reports_of _)]
  decide +kernel

end DynamicMessage.CommandLine
