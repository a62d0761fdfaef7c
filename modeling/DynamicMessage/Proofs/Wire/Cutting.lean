/-
# Proofs.Wire.Cutting -- scanning the parts of a run

A record is found from its own bytes alone, so the records of the first part of some bytes are found
again, unchanged, in front of whatever follows (`Scan.records_prefix_append`).

A valid run may also be cut.  No record starts with a shorter record, so what the cut leaves of a
record is no record: the scan of the first bytes of a valid run keeps the records that end by the
cut, and it breaks where the record that is cut through starts (`Run.scan_take`).  The first bytes
are a valid run exactly when the cut falls between two records.
-/
import DynamicMessage.Proofs.Wire.Concatenation

namespace DynamicMessage.Wire

set_option autoImplicit false

namespace Record

/-- Where the record ends. -/
def stop (record : Record) : Nat := record.offset + record.length

/-- The record starts before `position` and ends behind it. -/
def CutAt (position : Nat) (record : Record) : Prop :=
  record.offset < position ∧ position < record.stop

instance (position : Nat) (record : Record) : Decidable (record.CutAt position) :=
  inferInstanceAs (Decidable (_ ∧ _))

/-- What is left of a record that is cut through starts with no record. -/
theorem read_take_eq_none {piece : Piece} (record : IsRecord piece) {count : Nat}
    (short : count < piece.bytes.length) (offset : Nat) :
    read offset (piece.bytes.take count) = none := by
  cases found : read offset (piece.bytes.take count) with
  | none => rfl
  | some first =>
    obtain ⟨_, rest⟩ := first
    obtain ⟨shorter, isRecord, front, rfl⟩ := read_sound found
    -- Both records stand at the front of the whole piece, where only one can.
    have same : piece.bytes ++ [] = shorter.bytes ++ (rest ++ piece.bytes.drop count) := by
      rw [List.append_nil, ← List.append_assoc, ← front, List.take_append_drop]
    obtain ⟨rfl, -⟩ := record.append_inj isRecord same
    have length := congrArg List.length front
    rw [List.length_take, List.length_append] at length
    omega

end Record

namespace Scan

/-- The records are found between the start and the end of the bytes, and none of them is empty. -/
theorem bounds_of_mem_records {offset : Nat} {bytes : List UInt8} {record : Record}
    (member : record ∈ (ofBytes offset bytes).records) :
    offset ≤ record.offset ∧ record.offset < record.stop ∧ record.stop ≤ offset + bytes.length := by
  obtain ⟨start, rest, found⟩ := read_of_mem_records member
  obtain ⟨-, covered, nonempty⟩ := Record.read_length found
  rw [List.length_drop] at covered
  simp only [Record.stop]
  omega

/-- The records of the first bytes are the first records of the whole. -/
theorem records_prefix_append (offset : Nat) (bytes more : List UInt8) :
    (ofBytes offset bytes).records <+: (ofBytes offset (bytes ++ more)).records := by
  fun_induction ofBytes offset bytes with
  | case1 => exact List.nil_prefix
  | case2 => exact List.nil_prefix
  | case3 offset b tail record rest found ih =>
    obtain ⟨piece, isRecord, same, rfl⟩ := Record.read_sound found
    have found' := Record.read_complete isRecord offset (rest ++ more)
    rw [← List.append_assoc, ← same] at found'
    rw [ofBytes_of_read found']
    exact (List.cons_prefix_cons).2 ⟨rfl, ih⟩

/-- What is left of a scan when the bytes end at `position`: the records that end by then, and a
break at the one that is cut through. -/
def cutAt (position : Nat) (scan : Scan) : Scan :=
  { records := scan.records.filter (·.stop ≤ position)
    brokenAt := (scan.records.find? (·.CutAt position)).map (·.offset) }

/-- A cut behind the first record leaves it as it is. -/
theorem cutAt_cons_of_le {position : Nat} {record : Record} (behind : record.stop ≤ position)
    (scan : Scan) : (scan.cons record).cutAt position = (scan.cutAt position).cons record := by
  have whole : ¬ record.CutAt position := fun cut => Nat.not_lt.2 behind cut.2
  simp [cutAt, cons, behind, whole]

/-- A cut before all records leaves none. -/
theorem cutAt_of_before {position : Nat} {scan : Scan}
    (before : ∀ record ∈ scan.records, position ≤ record.offset ∧ record.offset < record.stop) :
    scan.cutAt position = ⟨[], none⟩ := by
  have gone : scan.records.filter (·.stop ≤ position) = [] := by
    rw [List.filter_eq_nil_iff]
    intro record member
    have := before record member
    simp only [decide_eq_true_eq]
    omega
  have uncut : scan.records.find? (·.CutAt position) = none := by
    rw [List.find?_eq_none]
    intro record member
    have := before record member
    rw [decide_eq_true_eq]
    intro cut
    have := cut.1
    omega
  simp only [cutAt, gone, uncut, Option.map_none]

/-- A cut through the first record leaves nothing before the break. -/
theorem cutAt_cons_of_cut {position : Nat} {record : Record} (cut : record.CutAt position)
    {scan : Scan} (behind : ∀ later ∈ scan.records, position < later.stop) :
    (scan.cons record).cutAt position = ⟨[], some record.offset⟩ := by
  have gone : scan.records.filter (·.stop ≤ position) = [] := by
    rw [List.filter_eq_nil_iff]
    intro later member
    have := behind later member
    simp only [decide_eq_true_eq]
    omega
  have first : ¬ record.stop ≤ position := Nat.not_le.2 cut.2
  simp [cutAt, cons, gone, first, cut]

/-- Bytes that are cut through their first record break at once. -/
theorem ofBytes_take_of_short {piece : Piece} (record : IsRecord piece) {count : Nat}
    (positive : 0 < count) (short : count < piece.bytes.length) (offset : Nat)
    (rest : List UInt8) :
    ofBytes offset ((piece.bytes ++ rest).take count) = ⟨[], some offset⟩ := by
  have left : piece.bytes.take count ≠ [] := by
    rw [← List.length_pos_iff, List.length_take]
    omega
  rw [List.take_append_of_le_length (Nat.le_of_lt short)]
  exact ofBytes_of_read_eq_none left (Record.read_take_eq_none record short offset)

/-- The first bytes of complete records are scanned as the scan of the whole is cut.  By induction
on the records: the cut falls before the first one, through it, or behind it. -/
theorem ofBytes_take {offset : Nat} {bytes : List UInt8}
    (complete : (ofBytes offset bytes).isComplete = true) {count : Nat}
    (within : count ≤ bytes.length) :
    ofBytes offset (bytes.take count) = (ofBytes offset bytes).cutAt (offset + count) := by
  fun_induction ofBytes offset bytes generalizing count with
  | case1 => simp [ofBytes, cutAt]
  | case2 => simp [isComplete] at complete
  | case3 offset b tail record rest found ih =>
    obtain ⟨piece, isRecord, same, rfl⟩ := Record.read_sound found
    have bounds := @bounds_of_mem_records (offset + piece.bytes.length) rest
    have nonempty : 0 < piece.bytes.length := List.length_pos_iff.2 isRecord.ne_nil
    rw [same] at within ⊢
    rw [List.length_append] at within
    by_cases behind : piece.bytes.length ≤ count
    · have kept := Record.read_complete isRecord offset (rest.take (count - piece.bytes.length))
      have stop : offset + piece.bytes.length + (count - piece.bytes.length) = offset + count := by
        omega
      have left : ofBytes (offset + piece.bytes.length) (rest.take (count - piece.bytes.length)) =
          (ofBytes (offset + piece.bytes.length) rest).cutAt (offset + count) := by
        rw [← stop]
        exact ih complete (by omega)
      rw [List.take_append, List.take_of_length_le behind, ofBytes_of_read kept, left,
        cutAt_cons_of_le (by simpa [Record.stop] using behind)]
    · by_cases through : 0 < count
      · have short : count < piece.bytes.length := Nat.not_le.1 behind
        rw [ofBytes_take_of_short isRecord through short, cutAt_cons_of_cut]
        · simp only [Record.CutAt, Record.stop]
          omega
        · intro later member
          have := bounds member
          omega
      · obtain rfl : count = 0 := by omega
        rw [cutAt_of_before]
        · simp [ofBytes]
        · intro record member
          rcases List.mem_cons.1 member with rfl | later
          · simp only [Record.stop]
            omega
          · have := bounds later
            omega

/-- Complete records leave no gap: a position that none of them is cut at is where they start or
where one of them ends. -/
theorem not_cutAt_iff {offset : Nat} {bytes : List UInt8}
    (complete : (ofBytes offset bytes).isComplete = true) {position : Nat}
    (start : offset ≤ position) (within : position ≤ offset + bytes.length) :
    (∀ record ∈ (ofBytes offset bytes).records, ¬ record.CutAt position) ↔
      position = offset ∨ ∃ record ∈ (ofBytes offset bytes).records, record.stop = position := by
  fun_induction ofBytes offset bytes with
  | case1 offset =>
    have : position = offset := Nat.le_antisymm within start
    simp [this]
  | case2 => simp [isComplete] at complete
  | case3 offset b tail record rest found ih =>
    obtain ⟨at_offset, covered, nonempty⟩ := Record.read_length found
    have bounds := @bounds_of_mem_records (offset + record.length) rest
    have stop : record.stop = offset + record.length := by rw [Record.stop, at_offset]
    show (∀ other ∈ record :: _, _) ↔ _ ∨ ∃ other ∈ record :: _, _
    simp only [List.mem_cons, forall_eq_or_imp, exists_eq_or_imp]
    by_cases behind : offset + record.length ≤ position
    · have first : ¬ record.CutAt position := fun cut => by
        have := cut.2
        omega
      have moved : position ≠ offset := by omega
      have last : record.stop = position ↔ position = offset + record.length := by omega
      simp only [first, not_false_eq_true, true_and, moved, false_or, last]
      exact ih complete behind (by omega)
    · have first : record.CutAt position ↔ position ≠ offset := by
        simp only [Record.CutAt]
        omega
      have later : ∀ other ∈ (ofBytes (offset + record.length) rest).records,
          ¬ other.CutAt position ∧ other.stop ≠ position := by
        intro other member
        have := bounds member
        simp only [Record.CutAt]
        omega
      have none : ¬ ∃ other ∈ (ofBytes (offset + record.length) rest).records,
          other.stop = position := by
        rintro ⟨other, member, same⟩
        exact (later other member).2 same
      have ends : record.stop ≠ position := by omega
      simp only [first, Decidable.not_not, ends, none, or_false, and_iff_left_iff_imp]
      exact fun _ other member => (later other member).1

theorem isComplete_cutAt_iff (position : Nat) (scan : Scan) :
    (scan.cutAt position).isComplete = true ↔
      ∀ record ∈ scan.records, ¬ record.CutAt position := by
  simp [isComplete, cutAt]

/-- A scan that breaks where it is cut breaks at a record that is cut through. -/
theorem exists_cutAt {position : Nat} {scan : Scan}
    (broken : (scan.cutAt position).isComplete = false) :
    ∃ cut ∈ scan.records, cut.CutAt position ∧
      scan.cutAt position = ⟨scan.records.filter (·.stop ≤ position), some cut.offset⟩ := by
  cases found : scan.records.find? (·.CutAt position) with
  | none => simp [cutAt, isComplete, found] at broken
  | some cut =>
    refine ⟨cut, List.mem_of_find?_eq_some found, by simpa using List.find?_some found, ?_⟩
    simp only [cutAt, found, Option.map_some]

end Scan

namespace Run

/-- The first bytes of a run. -/
def take (count : Nat) (run : Run) : Run := ⟨run.bytes.take count⟩

/-- The first bytes of a valid run are scanned as the scan of the run is cut. -/
theorem scan_take {run : Run} (valid : run.isValid = true) {count : Nat}
    (within : count ≤ run.length) : (run.take count).scan = run.scan.cutAt count := by
  have cut := Scan.ofBytes_take valid within
  rwa [Nat.zero_add] at cut

/-- Runs are scanned part by part.  The records of any bytes are the first records of those bytes
with anything behind them.  Behind a valid run any bytes are scanned as they are alone, with the
place of every record, and of the break if there is one, moved by the length of the run.  And the
first bytes of a valid run are valid exactly if the cut falls between records; else their scan is
the records that end by the cut and a break where the record that is cut through starts. -/
theorem scanned_part_by_part :
    (∀ run more : Run, run.scan.records <+: (run.append more.bytes).scan.records) ∧
    ∀ run : Run, run.isValid = true →
      (∀ more : Run,
        (run.append more.bytes).scan = run.scan.followedBy (more.scan.later run.length) ∧
          (run.append more.bytes).isValid = more.isValid) ∧
      ∀ count ≤ run.length,
        ((run.take count).isValid = true ↔
          count = 0 ∨ ∃ record ∈ run.scan.records, record.stop = count) ∧
        ((run.take count).isValid = false → ∃ cut ∈ run.scan.records, cut.CutAt count ∧
          (run.take count).scan =
            ⟨run.scan.records.filter (·.stop ≤ count), some cut.offset⟩) := by
  refine ⟨fun run more => Scan.records_prefix_append 0 run.bytes more.bytes, fun run valid =>
    ⟨fun more => ⟨scan_append valid more, isValid_append valid⟩, fun count within => ?_⟩⟩
  have cut := scan_take valid within
  have within' : count ≤ 0 + run.bytes.length := by rwa [Nat.zero_add]
  constructor
  · rw [isValid, cut, Scan.isComplete_cutAt_iff]
    exact Scan.not_cutAt_iff valid (Nat.zero_le count) within'
  · intro broken
    rw [isValid, cut] at broken
    rw [cut]
    exact Scan.exists_cutAt broken

/-- The sample is valid; a stray end of a group behind it breaks the run there, and the first 18
bytes break at its fourth record, a group that is cut through behind the tag of the record inside
it. -/
theorem sample_scanned_in_parts :
    (sample 9).isValid = true ∧ 18 ≤ (sample 9).length ∧
      ((sample 9).append [0x0C]).isValid = false ∧ ((sample 9).take 18).isValid = false ∧
      ((sample 9).append [0x0C]).scan =
        (sample 9).scan.followedBy ((Run.mk [0x0C]).scan.later (sample 9).length) ∧
      ∃ cut ∈ (sample 9).scan.records, cut.CutAt 18 ∧
        ((sample 9).take 18).scan =
          ⟨(sample 9).scan.records.filter (·.stop ≤ 18), some cut.offset⟩ := by
  have valid : (sample 9).isValid = true := by decide +kernel
  have within : 18 ≤ (sample 9).length := by decide +kernel
  have stray : (Run.mk [0x0C]).isValid = false := by decide +kernel
  have broken : ((sample 9).take 18).isValid = false := by decide +kernel
  have parts := scanned_part_by_part.2 (sample 9) valid
  exact ⟨valid, within, (parts.1 ⟨[0x0C]⟩).2.trans stray, broken, (parts.1 ⟨[0x0C]⟩).1,
    (parts.2 18 within).2 broken⟩

end Run

end DynamicMessage.Wire
