/-
# Proofs.Wire.Concatenation -- scanning runs that are put together

Bytes behind a valid run do not change how the run is scanned, and the scan of what stands behind
it does not depend on the run but for its length.  So the scan of two runs put together is the scan
of the first one, followed by the scan of the second one moved by the length of the first
(`Run.scan_append`), with every record of it, and the place where it breaks, if it breaks.
-/
import DynamicMessage.Proofs.Wire.Boundary

namespace DynamicMessage.Wire

set_option autoImplicit false

/-! ## Scans that start later -/

/-- A record with `distance` more bytes in front of it. -/
def Record.later (distance : Nat) (record : Record) : Record :=
  { record with offset := record.offset + distance }

@[simp] theorem Record.number_later (distance : Nat) (record : Record) :
    (record.later distance).number = record.number := rfl

@[simp] theorem Record.length_later (distance : Nat) (record : Record) :
    (record.later distance).length = record.length := rfl

namespace Scan

/-- What a scan finds with `distance` more bytes in front. -/
def later (distance : Nat) (scan : Scan) : Scan :=
  { records := scan.records.map (·.later distance), brokenAt := scan.brokenAt.map (· + distance) }

/-- The scan that finds what `first` finds, and then what `second` finds. -/
def followedBy (first second : Scan) : Scan :=
  { records := first.records ++ second.records, brokenAt := second.brokenAt }

@[simp] theorem later_cons (distance : Nat) (record : Record) (scan : Scan) :
    (scan.cons record).later distance = (scan.later distance).cons (record.later distance) := rfl

@[simp] theorem cons_followedBy (record : Record) (first second : Scan) :
    (first.cons record).followedBy second = (first.followedBy second).cons record := rfl

@[simp] theorem isComplete_later (distance : Nat) (scan : Scan) :
    (scan.later distance).isComplete = scan.isComplete := by
  simp [isComplete, later]

@[simp] theorem isComplete_followedBy (first second : Scan) :
    (first.followedBy second).isComplete = second.isComplete := rfl

end Scan

/-- A record is read alike wherever it starts. -/
theorem Record.read_later (offset distance : Nat) (bytes : List UInt8) :
    read (offset + distance) bytes =
      (read offset bytes).map fun found => (found.1.later distance, found.2) := by
  unfold read
  split
  · rfl
  · split
    · rfl
    · simp only [Option.map_map]
      rfl

namespace Scan

theorem ofBytes_of_read {offset : Nat} {bytes rest : List UInt8} {record : Record}
    (found : Record.read offset bytes = some (record, rest)) :
    ofBytes offset bytes = (ofBytes (offset + record.length) rest).cons record := by
  cases bytes with
  | nil =>
    have covered := Record.read_length found
    simp only [List.length_nil] at covered
    omega
  | cons b tail =>
    rw [ofBytes]
    split
    · simp_all
    · simp_all

theorem ofBytes_of_read_eq_none {offset : Nat} {bytes : List UInt8} (nonempty : bytes ≠ [])
    (broken : Record.read offset bytes = none) : ofBytes offset bytes = ⟨[], some offset⟩ := by
  obtain ⟨b, tail, rfl⟩ := List.exists_cons_of_ne_nil nonempty
  rw [ofBytes]
  split
  · rfl
  · simp_all

/-- A scan finds nothing, or it breaks at once, or it finds a record and goes on behind it. -/
theorem ofBytes_cases (offset : Nat) (bytes : List UInt8) :
    (bytes = [] ∧ ofBytes offset bytes = ⟨[], none⟩) ∨ ofBytes offset bytes = ⟨[], some offset⟩ ∨
      ∃ record rest, Record.read offset bytes = some (record, rest) ∧
        ofBytes offset bytes = (ofBytes (offset + record.length) rest).cons record := by
  by_cases nothing : bytes = []
  · exact .inl ⟨nothing, by rw [nothing, ofBytes]⟩
  · cases found : Record.read offset bytes with
    | none => exact .inr (.inl (ofBytes_of_read_eq_none nothing found))
    | some first => exact .inr (.inr ⟨_, _, rfl, ofBytes_of_read found⟩)

/-- Bytes are scanned alike wherever they start. -/
theorem ofBytes_later (offset distance : Nat) (bytes : List UInt8) :
    ofBytes (offset + distance) bytes = (ofBytes offset bytes).later distance := by
  fun_induction ofBytes offset bytes with
  | case1 => simp [ofBytes, later]
  | case2 offset b tail broken =>
    have broken' : Record.read (offset + distance) (b :: tail) = none := by
      rw [Record.read_later, broken]
      rfl
    rw [ofBytes_of_read_eq_none (List.cons_ne_nil b tail) broken']
    rfl
  | case3 offset b tail record rest found ih =>
    have found' : Record.read (offset + distance) (b :: tail) =
        some (record.later distance, rest) := by
      rw [Record.read_later, found]
      rfl
    have start : offset + distance + record.length = offset + record.length + distance := by omega
    rw [ofBytes_of_read found', Record.length_later, start, ih, later_cons]

/-- Bytes behind records that are complete are scanned as if they stood alone. -/
theorem ofBytes_append {offset : Nat} {bytes : List UInt8}
    (complete : (ofBytes offset bytes).isComplete = true) (more : List UInt8) :
    ofBytes offset (bytes ++ more) =
      (ofBytes offset bytes).followedBy (ofBytes (offset + bytes.length) more) := by
  fun_induction ofBytes offset bytes with
  | case1 => rfl
  | case2 => simp [isComplete] at complete
  | case3 offset b tail record rest found ih =>
    -- The record at the front is the same record with more bytes behind it.
    obtain ⟨piece, isRecord, same, rfl⟩ := Record.read_sound found
    have found' := Record.read_complete isRecord offset (rest ++ more)
    rw [← List.append_assoc, ← same] at found'
    have start : offset + piece.bytes.length + rest.length = offset + (b :: tail).length := by
      rw [same, List.length_append]
      omega
    rw [ofBytes_of_read found', ih complete, cons_followedBy, start]

end Scan

theorem IsTag.inRange {bytes : List UInt8} {tag : Tag} (opens : IsTag bytes tag) :
    tag.number.InRange := by
  obtain ⟨value, _, _, _, range⟩ := opens
  exact (FieldNumber.inRange_iff _).2 range

theorem IsRecord.inRange {piece : Piece} (record : IsRecord piece) : piece.number.InRange := by
  cases record with
  | varint opens => exact opens.inRange
  | fixed64 opens => exact opens.inRange
  | fixed32 opens => exact opens.inRange
  | bytes opens => exact opens.inRange
  | group opens => exact opens.inRange

namespace Scan

/-- A record that a scan finds is read where it stands. -/
theorem read_of_mem_records {offset : Nat} {bytes : List UInt8} {record : Record}
    (member : record ∈ (ofBytes offset bytes).records) :
    offset ≤ record.offset ∧ ∃ rest,
      Record.read record.offset (bytes.drop (record.offset - offset)) = some (record, rest) := by
  fun_induction ofBytes offset bytes with
  | case1 => simp at member
  | case2 => simp at member
  | case3 offset b tail first rest found ih =>
    rcases List.mem_cons.1 member with rfl | later
    · obtain ⟨start, -, -⟩ := Record.read_length found
      refine ⟨Nat.le_of_eq start.symm, rest, ?_⟩
      rw [start, Nat.sub_self, List.drop_zero]
      exact found
    · obtain ⟨piece, -, same, rfl⟩ := Record.read_sound found
      obtain ⟨start, rest', read⟩ := ih later
      have past : piece.bytes.length ≤ record.offset - offset := Nat.le_sub_of_add_le' start
      refine ⟨Nat.le_trans (Nat.le_add_right _ _) start, rest', ?_⟩
      rw [same, List.drop_append, List.drop_of_length_le past, List.nil_append, Nat.sub_sub]
      exact read

/-- The numbers of the records that are found are numbers that fields may have. -/
theorem inRange_of_mem_records {offset : Nat} {bytes : List UInt8} {record : Record}
    (member : record ∈ (ofBytes offset bytes).records) : record.number.InRange := by
  obtain ⟨-, rest, found⟩ := read_of_mem_records member
  obtain ⟨piece, isRecord, -, header⟩ := Record.read_sound found
  rw [header]
  exact isRecord.inRange

end Scan

namespace Run

/-- A run behind a valid one is scanned as if it stood alone, but for where its records start. -/
theorem scan_append {run : Run} (valid : run.isValid = true) (more : Run) :
    (run.append more.bytes).scan = run.scan.followedBy (more.scan.later run.length) := by
  show Scan.ofBytes 0 (run.bytes ++ more.bytes) = _
  rw [Scan.ofBytes_append valid, Scan.ofBytes_later]
  rfl

/-- Valid runs put together are valid. -/
theorem isValid_append {run more : Run} (valid : run.isValid = true) :
    (run.append more.bytes).isValid = more.isValid := by
  unfold isValid
  rw [scan_append valid, Scan.isComplete_followedBy, Scan.isComplete_later]

/-- A valid run that is not empty has a first record. -/
theorem exists_mem_records {run : Run} (valid : run.isValid = true) (nonempty : run.isEmpty = false) :
    ∃ record, record ∈ run.scan.records := by
  rcases Scan.ofBytes_cases 0 run.bytes with ⟨nothing, -⟩ | broken | ⟨record, rest, -, found⟩
  · simp [isEmpty, nothing] at nonempty
  · simp [isValid, scan, broken, Scan.isComplete] at valid
  · refine ⟨record, ?_⟩
    rw [scan, found]
    exact List.mem_cons_self

end Run

end DynamicMessage.Wire
