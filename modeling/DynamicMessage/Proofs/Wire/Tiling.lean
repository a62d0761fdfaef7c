/-
# Proofs.Wire.Tiling -- the records lie one behind the other

The records of any bytes lie one behind the other from the first byte on (`Tiles`), each at least
two bytes long, so there are at most half as many as bytes.  They reach the end of the bytes exactly
if the bytes are valid; else the scan breaks where the last of them ends, before the end.  Every
record is found again at its own place.

The main statement, `Run.records_tile`, says this of what a `Walk` over the bytes hands out, and
that no position the walk ever stands at is behind their end.
-/
import DynamicMessage.Proofs.Wire.Cursor

namespace DynamicMessage.Wire

set_option autoImplicit false

theorem IsTag.length_pos {bytes : List UInt8} {tag : Tag} (opens : IsTag bytes tag) :
    1 ≤ bytes.length := by
  obtain ⟨_, varint, -⟩ := opens
  exact varint.nonempty

/-- A record has a tag and something behind it. -/
theorem IsRecord.two_le_length {piece : Piece} (record : IsRecord piece) :
    2 ≤ piece.bytes.length := by
  cases record with
  | varint opens varint =>
    have := opens.length_pos
    have := varint.nonempty
    simp only [List.length_append]
    omega
  | fixed64 opens eight =>
    have := opens.length_pos
    simp only [List.length_append]
    omega
  | fixed32 opens four =>
    have := opens.length_pos
    simp only [List.length_append]
    omega
  | bytes opens counted =>
    have := opens.length_pos
    have := counted.nonempty
    simp only [List.length_append]
    omega
  | group opens inner ends =>
    have := opens.length_pos
    have := ends.length_pos
    simp only [List.length_append]
    omega

/-- Records that lie one behind the other, the first one at `offset`. -/
def Tiles : Nat → List Record → Prop
  | _, [] => True
  | offset, record :: rest => record.offset = offset ∧ Tiles (offset + record.length) rest

/-- How many bytes records cover. -/
def coverage : List Record → Nat
  | [] => 0
  | record :: rest => record.length + coverage rest

/-- Records of two bytes or more cover twice as many bytes as there are records. -/
theorem two_mul_length_le_coverage {records : List Record}
    (long : ∀ record ∈ records, 2 ≤ record.length) : 2 * records.length ≤ coverage records := by
  induction records with
  | nil => exact Nat.le_refl 0
  | cons record rest ih =>
    have first := long record (by simp)
    have later := ih fun other member => long other (by simp [member])
    rw [List.length_cons, coverage]
    omega

namespace Scan

theorem two_le_length_of_mem_records {offset : Nat} {bytes : List UInt8} {record : Record}
    (member : record ∈ (ofBytes offset bytes).records) : 2 ≤ record.length := by
  obtain ⟨-, rest, found⟩ := read_of_mem_records member
  obtain ⟨piece, isRecord, -, header⟩ := Record.read_sound found
  rw [header]
  exact isRecord.two_le_length

/-- The records lie one behind the other from where the bytes start. -/
theorem tiles (offset : Nat) (bytes : List UInt8) :
    Tiles offset (ofBytes offset bytes).records := by
  fun_induction ofBytes offset bytes with
  | case1 => trivial
  | case2 => trivial
  | case3 offset b tail first rest found ih => exact ⟨(Record.read_length found).1, ih⟩

/-- The records cover all bytes and nothing breaks, or they cover fewer and the bytes break behind
them. -/
theorem brokenAt_cases (offset : Nat) (bytes : List UInt8) :
    ((ofBytes offset bytes).brokenAt = none ∧
      coverage (ofBytes offset bytes).records = bytes.length) ∨
    ((ofBytes offset bytes).brokenAt = some (offset + coverage (ofBytes offset bytes).records) ∧
      coverage (ofBytes offset bytes).records < bytes.length) := by
  fun_induction ofBytes offset bytes with
  | case1 => exact .inl ⟨rfl, rfl⟩
  | case2 => exact .inr ⟨rfl, by simp [coverage]⟩
  | case3 offset b tail first rest found ih =>
    have covered := (Record.read_length found).2.1
    simp only [cons, coverage]
    rcases ih with ⟨unbroken, all⟩ | ⟨broken, fewer⟩
    · exact .inl ⟨unbroken, by omega⟩
    · exact .inr ⟨by rw [broken, Nat.add_assoc], by omega⟩

/-- A record is found again where it stands. -/
theorem first?_of_mem_records {offset : Nat} {bytes : List UInt8} {record : Record}
    (member : record ∈ (ofBytes offset bytes).records) :
    Record.first? (bytes.drop (record.offset - offset)) = some { record with offset := 0 } := by
  obtain ⟨-, rest, found⟩ := read_of_mem_records member
  obtain ⟨piece, isRecord, same, header⟩ := Record.read_sound found
  rw [Record.first?, same, Record.read_complete isRecord, header]
  rfl

end Scan

namespace Run

/-- The records tile a run, whatever its bytes are.  Asked for its items one by one, the scan hands
out its records, then one error if the bytes break, and then nothing however often it is asked; no
position it stands at is behind the end.  Each record is at least two bytes long, so there are at
most half as many as bytes; it is found again at its own place; and it starts where the one before
it ends, the first one at 0.  If they reach the end of the bytes, nothing breaks and the run is
valid; else it is not, and it breaks where they end, before the end of the bytes. -/
theorem records_tile (run : Run) :
    (∀ count, (Walk.start run).item count = run.scan.items[count]?) ∧
      (∀ count, ∀ position ∈ ((Walk.start run).after count).cursor.positions,
        position ≤ run.length) ∧
      2 * run.scan.records.length ≤ run.length ∧
      (∀ record ∈ run.scan.records, 2 ≤ record.length ∧
        Record.first? (run.bytes.drop record.offset) = some { record with offset := 0 }) ∧
      Tiles 0 run.scan.records ∧
      (coverage run.scan.records = run.length → run.scan.brokenAt = none) ∧
      (coverage run.scan.records ≠ run.length →
        run.scan.brokenAt = some (coverage run.scan.records) ∧
          coverage run.scan.records < run.length) ∧
      (run.isValid = true ↔ coverage run.scan.records = run.length) := by
  have ends := Scan.brokenAt_cases 0 run.bytes
  rw [Nat.zero_add] at ends
  have long : ∀ record ∈ run.scan.records, 2 ≤ record.length :=
    fun _ member => Scan.two_le_length_of_mem_records member
  have half := two_mul_length_le_coverage long
  have covered : coverage run.scan.records ≤ run.length := by
    rcases ends with ⟨-, all⟩ | ⟨-, fewer⟩
    · exact Nat.le_of_eq all
    · exact Nat.le_of_lt fewer
  refine ⟨Walk.item_start run, fun count position stood => ?_, by omega,
    fun record member => ⟨long record member, Scan.first?_of_mem_records member⟩,
    Scan.tiles 0 run.bytes, fun all => ?_, fun fewer => ?_, ?_⟩
  · have started : (Walk.start run).cursor.Within := Cursor.within_start run.bytes
    obtain ⟨within, same⟩ := Walk.within_after started count
    have bound := within position stood
    rwa [same] at bound
  · rcases ends with ⟨unbroken, -⟩ | ⟨-, fewer⟩
    · exact unbroken
    · exact absurd all (Nat.ne_of_lt fewer)
  · rcases ends with ⟨-, all⟩ | ⟨broken, less⟩
    · exact absurd all fewer
    · exact ⟨broken, less⟩
  · show run.scan.brokenAt.isNone = true ↔ _
    rcases ends with ⟨unbroken, all⟩ | ⟨broken, fewer⟩
    · exact ⟨fun _ => all, fun _ => by rw [scan, unbroken]; rfl⟩
    · refine ⟨fun unbroken => ?_, fun all => absurd all (Nat.ne_of_lt fewer)⟩
      rw [scan, broken] at unbroken
      simp at unbroken

/-- A varint, four bytes, and a group that does not end. -/
def unended : Run := ⟨[0x08, 0x01, 0x0D, 0x01, 0x02, 0x03, 0x04, 0x0B, 0x08, 0x01]⟩

/-- The records of the unended run cover seven of its ten bytes, and it breaks behind them: the
third answer is that error, and there is no fourth one. -/
theorem unended_tiled :
    coverage unended.scan.records ≠ unended.length ∧
      unended.scan.brokenAt = some (coverage unended.scan.records) ∧
      (Walk.start unended).item 2 = some (.error (.malformedWire 0 7)) ∧
      (Walk.start unended).item 3 = none ∧
      Record.first? (unended.bytes.drop 2) = some ⟨1, .fixed32, 0, 5⟩ := by
  have records : unended.scan.records = [⟨1, .varint, 0, 2⟩, ⟨1, .fixed32, 2, 5⟩] := by
    decide +kernel
  have breaks : unended.scan.brokenAt = some 7 := by decide +kernel
  have items : unended.scan.items = [.ok ⟨1, .varint, 0, 2⟩, .ok ⟨1, .fixed32, 2, 5⟩,
      .error (.malformedWire 0 7)] := by
    rw [Scan.items, records, breaks]
    rfl
  have fewer : coverage unended.scan.records ≠ unended.length := by
    rw [records]
    decide
  obtain ⟨handed, -, -, found, -, -, broken, -⟩ := records_tile unended
  refine ⟨fewer, (broken fewer).1, by rw [handed, items]; rfl, by rw [handed, items]; rfl, ?_⟩
  exact (found ⟨1, .fixed32, 2, 5⟩ (by rw [records]; simp)).2

end Run

end DynamicMessage.Wire
