/-
# Proofs.Wire.Delimiting -- a record says itself where it ends

The end of a record is found without a look at what follows it, and no record starts with another
one.  So two runs of bytes that both start with a record, and go on as they like, are the same only
if the records are (`IsRecord.append_inj`): the records are a prefix-free code, whatever stands in
their varints, their payloads and the groups inside them.

`Record.records_delimit_themselves` says it of the reader.  What stands behind the first record may
be replaced or cut off, and the record stays the first one; as soon as a byte of the record itself
is missing there is none.
-/
import DynamicMessage.Proofs.Wire.Cutting

namespace DynamicMessage.Wire

set_option autoImplicit false

/-- No record starts with another one. -/
theorem IsRecord.eq_of_prefix {piece other : Piece} (record : IsRecord piece)
    (record' : IsRecord other) (starts : other.bytes <+: piece.bytes) : other = piece := by
  obtain ⟨more, same⟩ := starts
  rw [← List.append_nil piece.bytes] at same
  exact (record'.append_inj record same).1

namespace Record

/-- A record is the first one of its own bytes with anything behind them. -/
theorem first?_complete {piece : Piece} (record : IsRecord piece) (rest : List UInt8) :
    first? (piece.bytes ++ rest) =
      some ⟨piece.number, piece.wireType, 0, piece.bytes.length⟩ := by
  rw [first?, read_complete record]
  rfl

/-- A record that lacks a byte is none. -/
theorem first?_of_proper_prefix {piece : Piece} (record : IsRecord piece) {front : List UInt8}
    (starts : front <+: piece.bytes) (proper : front ≠ piece.bytes) : first? front = none := by
  have short : front.length < piece.bytes.length := by
    refine Nat.lt_of_le_of_ne starts.length_le fun same => ?_
    exact proper (starts.eq_of_length same)
  rw [List.prefix_iff_eq_take.1 starts, first?, read_take_eq_none record short]
  rfl

/-- A first record covers its own bytes, which make a record. -/
theorem exists_of_first? {bytes : List UInt8} {record : Record}
    (found : first? bytes = some record) :
    ∃ piece, IsRecord piece ∧ piece.bytes = bytes.take record.length ∧
      piece.bytes.length = record.length ∧
      record = ⟨piece.number, piece.wireType, 0, piece.bytes.length⟩ := by
  obtain ⟨start, covered, isRecord⟩ := (first?_eq_some_iff bytes record).1 found
  obtain ⟨number, wireType, offset, length⟩ := record
  obtain rfl : offset = 0 := start
  have all : (bytes.take length).length = length := List.length_take_of_le covered
  exact ⟨_, isRecord, rfl, all, by rw [all]⟩

/-- Records delimit themselves.  The first record of some bytes stays the first one whatever its
bytes are followed by instead, and no proper front of them has a first record.  A record whose bytes
another record starts with is that other record, so of two different records neither starts with the
other one. -/
theorem records_delimit_themselves {bytes : List UInt8} {record : Record}
    (found : first? bytes = some record) :
    record.length ≤ bytes.length ∧
      (∀ suffix, first? (bytes.take record.length ++ suffix) = some record) ∧
      (∀ front, front <+: bytes.take record.length → front ≠ bytes.take record.length →
        first? front = none) ∧
      ∀ bytes' record', first? bytes' = some record' →
        bytes'.take record'.length <+: bytes.take record.length →
          bytes'.take record'.length = bytes.take record.length ∧ record' = record := by
  obtain ⟨piece, isRecord, front, length, header⟩ := exists_of_first? found
  rw [← front]
  refine ⟨((first?_eq_some_iff bytes record).1 found).2.1, fun suffix => ?_, fun front' => ?_,
    fun bytes' record' found' starts => ?_⟩
  · rw [first?_complete isRecord, ← header]
  · exact first?_of_proper_prefix isRecord
  · obtain ⟨piece', isRecord', front', -, header'⟩ := exists_of_first? found'
    rw [← front'] at starts ⊢
    obtain rfl := isRecord.eq_of_prefix isRecord' starts
    exact ⟨rfl, header'.trans header.symm⟩

/-- A group with a varint of ten bytes in it and a group inside, whose counted payload looks like
the ends of both groups; a byte follows that starts a tag. -/
def lookalike : List UInt8 :=
  0x0B :: 0x10 :: List.replicate 9 0xFF ++
    [0x01, 0x13, 0x1A, 0x02, 0x14, 0x0C, 0x14, 0x0C, 0x96]

/-- The group ends at its own end, whatever follows, and not at the end that its payload shows;
cut in the varint or before its last byte it is no record, and it starts with no other one. -/
theorem lookalike_delimits_itself :
    first? lookalike = some ⟨1, .startGroup, 0, 19⟩ ∧
      first? (lookalike.take 19 ++ [0x0C]) = some ⟨1, .startGroup, 0, 19⟩ ∧
      first? (lookalike.take 7) = none ∧ first? (lookalike.take 18) = none ∧
      ∀ bytes record, first? bytes = some record →
        bytes.take record.length <+: lookalike.take 19 → record = ⟨1, .startGroup, 0, 19⟩ := by
  have found : first? lookalike = some ⟨1, .startGroup, 0, 19⟩ := by decide +kernel
  obtain ⟨-, replaced, shorter, unique⟩ := records_delimit_themselves found
  exact ⟨found, replaced [0x0C], shorter _ (by decide) (by decide),
    shorter _ (by decide) (by decide), fun bytes record first starts =>
      (unique bytes record first starts).2⟩

end Record

end DynamicMessage.Wire
