/-
# CommandLine.Report -- what the commands print

`names` prints one row an identifier with its three spellings.  `wire` lists the records of a run
and says whether it is valid; a run that breaks is reported with the offset of the break, and is no
error of the command.  Each report is a table separated by tabs or JSON.
-/
import DynamicMessage.Casing
import DynamicMessage.Json
import DynamicMessage.Wire.Run

namespace DynamicMessage.CommandLine

set_option autoImplicit false

/-- Fields separated by tabs, and the end of the line. -/
def row (fields : List String) : String := "\t".intercalate fields ++ "\n"

/-! ## Spellings -/

/-- An identifier and its spellings. -/
structure Spellings where
  input : String
  camel : String
  pascal : String
  snake : String
deriving DecidableEq, Repr

/-- The spellings of an identifier. -/
def Spellings.of (ident : String) : Spellings :=
  { input := ident, camel := Casing.camel ident, pascal := Casing.pascal ident,
    snake := Casing.snake ident }

/-- The spellings as a table. -/
def namesTable (idents : List String) : String :=
  row ["input", "camel", "pascal", "snake"] ++
    String.join ((idents.map Spellings.of).map fun r => row [r.input, r.camel, r.pascal, r.snake])

/-- The spellings as JSON. -/
def namesJson (idents : List String) : Json :=
  .object [("names", .array ((idents.map Spellings.of).map fun r =>
    .object [("input", .string r.input), ("camel", .string r.camel),
      ("pascal", .string r.pascal), ("snake", .string r.snake)]))]

/-! ## Records -/

/-- A record as it is listed. -/
structure RecordRow where
  index : Nat
  offset : Nat
  length : Nat
  number : FieldNumber
  wireType : String
deriving DecidableEq, Repr

/-- The row of the record at a position. -/
def RecordRow.of (index : Nat) (record : Wire.Record) : RecordRow :=
  { index, offset := record.offset, length := record.length, number := record.number,
    wireType := record.wireType.label }

/-- What there is to say about a run. -/
structure Listing where
  bytes : Nat
  valid : Bool
  records : List RecordRow
  errorOffset : Option Nat
deriving DecidableEq, Repr

/-- A listing in progress. -/
structure Draft where
  records : List RecordRow := []
  /-- Where the last record ends. -/
  next : Nat := 0
  errorOffset : Option Nat := none

/-- Takes down the item at a position.  An error that names no offset counts where the last record
ends. -/
def Draft.add (draft : Draft) (index : Nat) : Except Error Wire.Record → Draft
  | .ok record =>
    { draft with
      records := draft.records ++ [.of index record], next := record.offset + record.length }
  | .error (.malformedWire _ offset) => { draft with errorOffset := some offset }
  | .error _ => { draft with errorOffset := some draft.next }

/-- Takes down items, the first one at a position. -/
def Draft.addAll (draft : Draft) (index : Nat) : List (Except Error Wire.Record) → Draft
  | [] => draft
  | item :: items => (draft.add index item).addAll (index + 1) items

/-- Scans a run. -/
def Listing.of (run : Wire.Run) : Listing :=
  let draft := ({} : Draft).addAll 0 run.scan.items
  { bytes := run.length, valid := draft.errorOffset.isNone, records := draft.records,
    errorOffset := draft.errorOffset }

/-- The listing as a table. -/
def Listing.table (l : Listing) : String :=
  s!"bytes: {l.bytes}\n" ++ s!"valid: {l.valid}\n" ++ s!"records: {l.records.length}\n" ++
    row ["idx", "offset", "len", "number", "wire_type"] ++
    String.join (l.records.map fun r =>
      row [toString r.index, toString r.offset, toString r.length, toString r.number,
        r.wireType]) ++
    match l.errorOffset with
    | none => ""
    | some offset => s!"error_offset: {offset}\n"

/-- The listing as JSON: an object with a member for each field, in the order of the fields. -/
def Listing.json (l : Listing) : Json :=
  .object [("bytes", .nat l.bytes), ("valid", .bool l.valid),
    ("records", .array (l.records.map fun r =>
      .object [("index", .nat r.index), ("offset", .nat r.offset), ("len", .nat r.length),
        ("number", .nat r.number.toNat), ("wire_type", .string r.wireType)])),
    ("error_offset", match l.errorOffset with | none => .null | some offset => .nat offset)]

end DynamicMessage.CommandLine
