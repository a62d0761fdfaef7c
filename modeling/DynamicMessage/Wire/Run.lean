/-
# Wire.Run -- sequences of records

A `Run` is the bytes of records one after another.  Nothing checks them when they are stored, so a
run may break off; `Run.scan` lists the complete records in order and, where the bytes go on
without making a record, the offset at which they break.  A run is valid when its scan reaches the
end.

The appenders write one record behind the run, with a tag of any number: a number out of range
breaks the run there.  A build with assertions stops where anything but complete records is put
behind a run; described here is the build without them, in which such bytes make the run invalid.
-/
import DynamicMessage.Error
import DynamicMessage.Wire.Record

namespace DynamicMessage.Wire

set_option autoImplicit false

/-- What a scan finds: complete records in order, then the offset at which the bytes break, if
they do. -/
structure Scan where
  records : List Record
  brokenAt : Option Nat
deriving DecidableEq, Repr

namespace Scan

/-- The scan that finds `record` first. -/
def cons (record : Record) (scan : Scan) : Scan :=
  { scan with records := record :: scan.records }

/-- Scans the bytes from `offset` on. -/
def ofBytes (offset : Nat) (bytes : List UInt8) : Scan :=
  match bytes with
  | [] => ⟨[], none⟩
  | b :: tail =>
    match _found : Record.read offset (b :: tail) with
    | none => ⟨[], some offset⟩
    | some (record, rest) => (ofBytes (offset + record.length) rest).cons record
termination_by bytes.length
decreasing_by
  have := Record.read_length _found
  omega

/-- Whether the records reach the end of the bytes. -/
def isComplete (scan : Scan) : Bool := scan.brokenAt.isNone

/-- What a scan hands out, one after another: the records, and then an error where the bytes break.
-/
def items (scan : Scan) : List (Except Error Record) :=
  scan.records.map .ok ++ (scan.brokenAt.map fun offset => .error (.malformedWire 0 offset)).toList

end Scan

/-- The bytes of a sequence of records. -/
structure Run where
  bytes : List UInt8
deriving DecidableEq, Repr

namespace Run

/-- The run without records. -/
def empty : Run := ⟨[]⟩

instance : Inhabited Run := ⟨empty⟩

/-- The number of bytes. -/
def length (run : Run) : Nat := run.bytes.length

/-- Whether there are no bytes. -/
def isEmpty (run : Run) : Bool := run.bytes.isEmpty

/-- The records of a run, and where it breaks. -/
def scan (run : Run) : Scan := Scan.ofBytes 0 run.bytes

/-- Whether the bytes are records from end to end. -/
def isValid (run : Run) : Bool := run.scan.isComplete

/-! ## Writing behind a run -/

/-- Puts bytes behind the run.  They are to be complete records, which only a build with assertions
checks; in a build without, which is this one, all bytes are put there. -/
def append (run : Run) (records : List UInt8) : Run := ⟨run.bytes ++ records⟩

/-- The four bytes of a word, least significant first. -/
def fixed32 (v : UInt32) : List UInt8 :=
  [v.toUInt8, (v >>> 8).toUInt8, (v >>> 16).toUInt8, (v >>> 24).toUInt8]

/-- The eight bytes of a word, least significant first. -/
def fixed64 (v : UInt64) : List UInt8 :=
  [v.toUInt8, (v >>> 8).toUInt8, (v >>> 16).toUInt8, (v >>> 24).toUInt8,
   (v >>> 32).toUInt8, (v >>> 40).toUInt8, (v >>> 48).toUInt8, (v >>> 56).toUInt8]

/-- Appends a varint record. -/
def appendVarint (run : Run) (number : FieldNumber) (v : UInt64) : Run :=
  run.append (Tag.encode ⟨number, .varint⟩ ++ Varint.encode v)

/-- Appends a record of four bytes. -/
def appendFixed32 (run : Run) (number : FieldNumber) (v : UInt32) : Run :=
  run.append (Tag.encode ⟨number, .fixed32⟩ ++ fixed32 v)

/-- Appends a record of eight bytes. -/
def appendFixed64 (run : Run) (number : FieldNumber) (v : UInt64) : Run :=
  run.append (Tag.encode ⟨number, .fixed64⟩ ++ fixed64 v)

/-- Appends a record of counted bytes. -/
def appendBytes (run : Run) (number : FieldNumber) (payload : List UInt8) : Run :=
  run.append
    (Tag.encode ⟨number, .bytes⟩ ++ Varint.encode (UInt64.ofNat payload.length) ++ payload)

/-- Appends a group around another run. -/
def appendGroup (run : Run) (number : FieldNumber) (inner : Run) : Run :=
  run.append (Tag.encode ⟨number, .startGroup⟩ ++ inner.bytes ++ Tag.encode ⟨number, .endGroup⟩)

/-- One record of each wire type for a field, a group with one record among them. -/
def sample (number : FieldNumber) : Run :=
  ((((empty.appendVarint number 150).appendFixed64 number 0x0102030405060708).appendBytes number
    [0x68, 0x69]).appendGroup number (empty.appendVarint 1 7)).appendFixed32 number 0xDEADBEEF

@[simp] theorem bytes_append (run : Run) (records : List UInt8) :
    (run.append records).bytes = run.bytes ++ records := rfl

/-- A run with every wire type scans to its end. -/
example : (sample 9).isValid = true ∧ (sample 9).scan.records.map (·.wireType) =
    [.varint, .fixed64, .bytes, .startGroup, .fixed32] := by decide +kernel

end Run

end DynamicMessage.Wire
