/-
# Proofs.Wire.Wrapping -- nothing but complete records makes a group

A group is written around any bytes.  The result is one record exactly if the bytes are a valid run
(`Run.group_wraps_tightly`).

The grammar says that one record around the bytes is a start tag, records, and an end tag, so what
has to be shown is that its records are the bytes, to the last one.  The start is clear, since a tag
is read in one way.  At the end the bytes could lend their own last bytes to the end tag, which may
be written longer than need be.  But they cannot: all bytes of a tag count, so of two varints of one
number that is not zero, none is the end of the other (`IsVarint.eq_nil_of_append`).
-/
import DynamicMessage.Proofs.Wire.Appending

namespace DynamicMessage.Wire

set_option autoImplicit false

/-! ## Varints and tags from behind -/

/-- Bytes in front only add to a number that is spelled least significant first. -/
theorem base128_le_append (front rest : List UInt8) : base128 rest ≤ base128 (front ++ rest) := by
  induction front with
  | nil => exact Nat.le_refl _
  | cons b front ih =>
    rw [List.cons_append, base128]
    omega

/-- A varint of a number that is not zero ends with no other varint of it: one byte more in front
makes the number at least 128 times as large. -/
theorem IsVarint.eq_nil_of_append {front rest : List UInt8} {value : Nat}
    (long : IsVarint (front ++ rest) value) (short : IsVarint rest value) (positive : 0 < value) :
    front = [] := by
  cases front with
  | nil => rfl
  | cons b front =>
    have spelled := long.value_eq
    have inside := base128_le_append front rest
    rw [List.cons_append, base128] at spelled
    rw [short.value_eq] at inside
    omega

/-- A tag ends with no other writing of it. -/
theorem IsTag.eq_nil_of_append {front rest : List UInt8} {tag : Tag}
    (long : IsTag (front ++ rest) tag) (short : IsTag rest tag) : front = [] := by
  obtain ⟨value, varint, high, low, range⟩ := long
  obtain ⟨value', varint', high', low', -⟩ := short
  obtain rfl : value = value' := by omega
  exact varint.eq_nil_of_append varint' (by omega)

/-- Bytes that end with a tag do so in one way. -/
theorem IsTag.append_inj {front front' last last' : List UInt8} {tag : Tag} (ends : IsTag last tag)
    (ends' : IsTag last' tag) (same : front ++ last = front' ++ last') : front = front' := by
  rcases List.append_eq_append_iff.1 same with ⟨more, rfl, rfl⟩ | ⟨more, rfl, rfl⟩
  · rw [ends.eq_nil_of_append ends', List.append_nil]
  · rw [ends'.eq_nil_of_append ends, List.append_nil]

/-! ## Records from the front -/

/-- A record carries the number and the wire type of the tag at its front. -/
theorem Record.tag_of_read {offset : Nat} {bytes payload rest : List UInt8} {tag : Tag}
    {record : Record} (opened : Tag.decode bytes = some (tag, payload))
    (found : read offset bytes = some (record, rest)) :
    record.number = tag.number ∧ record.wireType = tag.wireType := by
  rw [read, opened] at found
  simp only at found
  split at found
  · simp at found
  · obtain ⟨_, -, eq⟩ := Option.map_eq_some_iff.1 found
    simp only [Prod.mk.injEq] at eq
    rw [← eq.1]
    exact ⟨rfl, rfl⟩

/-- A scan finds a record or breaks where there are bytes. -/
theorem Scan.eq_nil_of_ofBytes {offset : Nat} {bytes : List UInt8}
    (nothing : ofBytes offset bytes = ⟨[], none⟩) : bytes = [] := by
  rcases ofBytes_cases offset bytes with ⟨empty, -⟩ | broken | ⟨record, rest, -, found⟩
  · exact empty
  · simp [broken] at nothing
  · simp [found, cons] at nothing

/-- A run of one record is read as that record, to its end. -/
theorem Run.read_of_scan {run : Run} {record : Record} (single : run.scan = ⟨[record], none⟩) :
    Record.read 0 run.bytes = some (record, []) := by
  rw [scan] at single
  rcases Scan.ofBytes_cases 0 run.bytes with ⟨-, empty⟩ | broken | ⟨first, rest, found, split⟩
  · simp [empty] at single
  · simp [broken] at single
  · rw [split] at single
    simp only [Scan.cons, Scan.mk.injEq, List.cons.injEq] at single
    obtain ⟨⟨rfl, behind⟩, unbroken⟩ := single
    have nothing : Scan.ofBytes (0 + first.length) rest = ⟨[], none⟩ := by
      rw [← behind, ← unbroken]
    rw [found, Scan.eq_nil_of_ofBytes nothing]

/-- A record behind a written start tag is a group, and ends with an end tag of its number. -/
theorem IsRecord.records_of_wrapped {number : FieldNumber} {piece : Piece} {behind : List UInt8}
    (range : number.InRange) (record : IsRecord piece)
    (starts : piece.bytes = Tag.encode ⟨number, .startGroup⟩ ++ behind) :
    ∃ body last, IsRecords body ∧ IsTag last ⟨number, .endGroup⟩ ∧ behind = body ++ last := by
  have opened : Tag.decode piece.bytes = some (⟨number, .startGroup⟩, behind) := by
    rw [starts, Tag.decode_encode, if_pos range]
  have read := Record.read_complete record 0 []
  rw [List.append_nil] at read
  have header := Record.tag_of_read opened read
  obtain ⟨n, wireType, bytes⟩ := piece
  obtain ⟨rfl, rfl⟩ : n = number ∧ wireType = .startGroup := header
  cases record with
  | @group _ first last body opens inner ends =>
    rw [opens.decode] at opened
    simp only [Option.some.injEq, Prod.mk.injEq, true_and] at opened
    exact ⟨_, last, ⟨body, inner, rfl⟩, ends, opened.symm⟩

namespace Run

/-- A group is written tightly around its inside: the written bytes are one record, from end to end,
exactly if the inside is a valid run.  The record is then the group's. -/
theorem group_wraps_tightly (number : FieldNumber) (range : number.InRange) (inner : Run) :
    ((∃ record, (empty.appendGroup number inner).scan = ⟨[record], none⟩ ∧ record.offset = 0 ∧
        record.length = (empty.appendGroup number inner).length) ↔ inner.isValid = true) ∧
      (inner.isValid = true → (empty.appendGroup number inner).scan =
        ⟨[⟨number, .startGroup, 0, (empty.appendGroup number inner).length⟩], none⟩) := by
  have written : empty.appendGroup number inner = ⟨(Payload.piece number (.group inner)).bytes⟩ :=
    appendPayload_eq empty number (.group inner)
  have wrapped (valid : inner.isValid = true) : (empty.appendGroup number inner).scan =
      ⟨[⟨number, .startGroup, 0, (empty.appendGroup number inner).length⟩], none⟩ := by
    have sound : (Payload.group inner).Sound := valid
    rw [written]
    exact scan_piece (Payload.isRecord range sound)
  refine ⟨⟨?_, fun valid => ⟨_, wrapped valid, rfl, rfl⟩⟩, wrapped⟩
  rintro ⟨record, single, -, -⟩
  obtain ⟨piece, isRecord, same, -⟩ := Record.read_sound (read_of_scan single)
  rw [List.append_nil, written] at same
  obtain ⟨body, last, records, ends, split⟩ := isRecord.records_of_wrapped range same.symm
  -- The written end tag and the one that is read are at the end of the same bytes.
  obtain rfl := IsTag.append_inj (Tag.isTag_encode range) ends split
  exact (Scan.isComplete_iff 0 inner.bytes).2 records

/-- Around the sample a group is one record.  Around bytes that end the group and start it again it
is not, though every byte of it belongs to a record, and neither is it around a varint whose last
byte lets it go on into the end tag. -/
theorem wrapped_around_samples :
    FieldNumber.InRange 16 ∧ (sample 9).isValid = true ∧
      isValid ⟨[0x84, 0x01, 0x83, 0x01]⟩ = false ∧ isValid ⟨[0x08, 0x80]⟩ = false ∧
      (empty.appendGroup 16 (sample 9)).scan =
        ⟨[⟨16, .startGroup, 0, (empty.appendGroup 16 (sample 9)).length⟩], none⟩ ∧
      (empty.appendGroup 16 ⟨[0x84, 0x01, 0x83, 0x01]⟩).isValid = true ∧
      ∀ inner ∈ [Run.mk [0x84, 0x01, 0x83, 0x01], ⟨[0x08, 0x80]⟩],
        ¬ ∃ record, (empty.appendGroup 16 inner).scan = ⟨[record], none⟩ ∧ record.offset = 0 ∧
          record.length = (empty.appendGroup 16 inner).length := by
  have range : FieldNumber.InRange 16 := by decide
  have valid : (sample 9).isValid = true := by decide +kernel
  have reopened : isValid ⟨[0x84, 0x01, 0x83, 0x01]⟩ = false := by decide +kernel
  have unended : isValid ⟨[0x08, 0x80]⟩ = false := by decide +kernel
  have twice : (empty.appendGroup 16 ⟨[0x84, 0x01, 0x83, 0x01]⟩).isValid = true := by
    decide +kernel
  refine ⟨range, valid, reopened, unended, (group_wraps_tightly 16 range (sample 9)).2 valid, twice,
    List.forall_mem_cons.2 ⟨fun wrapped => ?_, List.forall_mem_singleton.2 fun wrapped => ?_⟩⟩
  · exact Bool.eq_false_iff.1 reopened ((group_wraps_tightly 16 range _).1.1 wrapped)
  · exact Bool.eq_false_iff.1 unended ((group_wraps_tightly 16 range _).1.1 wrapped)

end Run

end DynamicMessage.Wire
