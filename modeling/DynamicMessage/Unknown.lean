/-
# Unknown -- records a schema does not recognise

A message keeps unrecognised records as raw runs, one run for each field number, in the order in
which they arrived.  A run is stored under a number only if it is valid and each of its records
carries that number; `Scan.fault?` is the first reason against it.  A store that keeps nothing
accepts every write and ignores it.
-/
import DynamicMessage.Outcome
import DynamicMessage.Table
import DynamicMessage.Visit
import DynamicMessage.Wire.Run

namespace DynamicMessage

set_option autoImplicit false

open Wire

/-- The first reason why scanned records cannot be stored under a number: a record of another
number, else the place where the bytes break. -/
def Wire.Scan.fault? (scan : Scan) (n : FieldNumber) : Option Error :=
  match scan.records.find? (·.number ≠ n) with
  | some record => some (.wireFieldNumberMismatch n record.number)
  | none => scan.brokenAt.map (.malformedWire n)

/-- The unrecognised records of one message. -/
structure UnknownStore where
  /-- Whether records are kept at all. -/
  isSupported : Bool
  runs : Table FieldNumber Run := ∅
deriving DecidableEq

namespace UnknownStore

/-- The numbers with records, in an order that nothing promises. -/
def list (u : UnknownStore) : List FieldNumber := u.runs.keys

/-- The number of numbers with records. -/
def size (u : UnknownStore) : Nat := u.runs.size

/-- Whether no records are stored. -/
def isEmpty (u : UnknownStore) : Bool := u.runs.rows.isEmpty

/-- The records of a number. -/
def get (u : UnknownStore) (n : FieldNumber) : Run := (u.runs.find? n).getD .empty

/-- Goes through the runs. -/
def range {σ : Type} (u : UnknownStore) (visitor : FieldNumber × Run → σ → ForInStep σ) (s : σ) :
    σ :=
  visit visitor s u.runs.rows

/-- Replaces the records of a number; an empty run drops them. -/
def set (u : UnknownStore) (n : FieldNumber) (run : Run) : Outcome UnknownStore Unit :=
  if !u.isSupported then .done () u
  else if run.isEmpty then .done () { u with runs := u.runs.erase n }
  else
    match run.scan.fault? n with
    | some fault => .fail fault u
    | none => .done () { u with runs := u.runs.insert n run }

/-- Puts records behind those of a number. -/
def append (u : UnknownStore) (n : FieldNumber) (run : Run) : Outcome UnknownStore Unit :=
  if !u.isSupported then .done () u
  else if run.isEmpty then .done () u
  else
    match run.scan.fault? n with
    | some fault => .fail fault u
    | none => .done () { u with runs := u.runs.insert n ((u.get n).append run.bytes) }

end UnknownStore

end DynamicMessage
