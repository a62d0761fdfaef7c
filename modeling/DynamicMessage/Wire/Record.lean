/-
# Wire.Record -- where one record ends

Only record boundaries are decided here; payloads are opaque.  A record is a tag and its payload,
and a group's payload runs to the tag that closes it, with groups inside closed innermost first.
`skipPayload` follows a payload with the numbers of the open groups at hand, so nesting of any
depth takes one loop; `Record.read` is the whole record.

Every reader here takes the bytes that are left and returns the bytes after what it read, so that
statements about a reader need no positions.
-/
import DynamicMessage.Wire.Tag

namespace DynamicMessage.Wire

set_option autoImplicit false

/-- The bytes after the first `count`, if there are that many. -/
def skip (count : Nat) (bytes : List UInt8) : Option (List UInt8) :=
  if count ≤ bytes.length then some (bytes.drop count) else none

theorem skip_length {count : Nat} {bytes rest : List UInt8} (h : skip count bytes = some rest) :
    rest.length + count = bytes.length := by
  unfold skip at h
  split at h
  · simp only [Option.some.injEq] at h
    rw [← h, List.length_drop]
    omega
  · simp at h

/-- What one tag does to the groups that are open, innermost first, and to the bytes after it: a
scalar payload is passed over, a group is opened, or the innermost group is closed. -/
def Tag.pass (tag : Tag) (groups : List FieldNumber) (bytes : List UInt8) :
    Option (List FieldNumber × List UInt8) :=
  match tag.wireType with
  | .varint => (Varint.decode bytes).map fun (_, rest) => (groups, rest)
  | .fixed64 => (skip 8 bytes).map (groups, ·)
  | .fixed32 => (skip 4 bytes).map (groups, ·)
  | .bytes =>
    match Varint.decode bytes with
    | none => none
    | some (count, rest) => (skip count.toNat rest).map (groups, ·)
  | .startGroup => some (tag.number :: groups, bytes)
  | .endGroup =>
    match groups with
    | [] => none
    | innermost :: outer => if innermost = tag.number then some (outer, bytes) else none

theorem Tag.pass_length {tag : Tag} {groups after : List FieldNumber} {bytes rest : List UInt8}
    (h : tag.pass groups bytes = some (after, rest)) : rest.length ≤ bytes.length := by
  unfold Tag.pass at h
  split at h
  · obtain ⟨⟨_, _⟩, found, eq⟩ := Option.map_eq_some_iff.1 h
    simp only [Prod.mk.injEq] at eq
    have := Varint.decode_length found
    simp only [← eq.2]
    omega
  · obtain ⟨_, found, eq⟩ := Option.map_eq_some_iff.1 h
    simp only [Prod.mk.injEq] at eq
    have := skip_length found
    simp only [← eq.2]
    omega
  · obtain ⟨_, found, eq⟩ := Option.map_eq_some_iff.1 h
    simp only [Prod.mk.injEq] at eq
    have := skip_length found
    simp only [← eq.2]
    omega
  · split at h
    · simp at h
    · rename_i found
      obtain ⟨_, skipped, eq⟩ := Option.map_eq_some_iff.1 h
      simp only [Prod.mk.injEq] at eq
      have := skip_length skipped
      have := Varint.decode_length found
      simp only [← eq.2]
      omega
  · simp only [Option.some.injEq, Prod.mk.injEq] at h
    simp [h.2]
  · split at h
    · simp at h
    · split at h
      · simp only [Option.some.injEq, Prod.mk.injEq] at h
        simp [h.2]
      · simp at h

set_option linter.unusedVariables false in
/-- The bytes after the payload of `tag`, read with `groups` open, up to the end of the outermost
of them. -/
def skipPayload (groups : List FieldNumber) (tag : Tag) (bytes : List UInt8) :
    Option (List UInt8) :=
  match passed : tag.pass groups bytes with
  | none => none
  | some ([], rest) => some rest
  | some (innermost :: outer, rest) =>
    match found : Tag.decode rest with
    | none => none
    | some (next, rest) => skipPayload (innermost :: outer) next rest
termination_by bytes.length
decreasing_by
  have := Tag.pass_length passed
  have := Tag.decode_length found
  omega

theorem skipPayload_length {groups : List FieldNumber} {tag : Tag} {bytes rest : List UInt8}
    (h : skipPayload groups tag bytes = some rest) : rest.length ≤ bytes.length := by
  fun_induction skipPayload groups tag bytes with
  | case1 => simp at h
  | case2 _ _ _ _ passed =>
    simp only [Option.some.injEq] at h
    exact h ▸ Tag.pass_length passed
  | case3 => simp at h
  | case4 _ _ _ _ _ _ passed _ _ found ih =>
    have := ih h
    have := Tag.pass_length passed
    have := Tag.decode_length found
    omega

/-- The header of one complete record. -/
structure Record where
  /-- The field number of the tag. -/
  number : FieldNumber
  /-- The wire type of the tag. -/
  wireType : WireType
  /-- Where the tag starts. -/
  offset : Nat
  /-- The bytes of the tag and the payload, the closing tag of a group included. -/
  length : Nat
deriving DecidableEq, Repr

namespace Record

/-- Reads the record at the front of `bytes`, which start at `offset`, and returns it with the
bytes after it.  A closing tag opens no record. -/
def read (offset : Nat) (bytes : List UInt8) : Option (Record × List UInt8) :=
  match Tag.decode bytes with
  | none => none
  | some (tag, payload) =>
    if tag.wireType = .endGroup then none
    else (skipPayload [] tag payload).map fun rest =>
      (⟨tag.number, tag.wireType, offset, bytes.length - rest.length⟩, rest)

/-- The record at the front of `bytes`. -/
def first? (bytes : List UInt8) : Option Record := (read 0 bytes).map (·.1)

/-- What a record covers and what is left make up the bytes, and the record is not empty. -/
theorem read_length {offset : Nat} {bytes rest : List UInt8} {record : Record}
    (h : read offset bytes = some (record, rest)) :
    record.offset = offset ∧ record.length + rest.length = bytes.length ∧ 0 < record.length := by
  unfold read at h
  split at h
  · simp at h
  · rename_i tag payload found
    split at h
    · simp at h
    · obtain ⟨_, skipped, eq⟩ := Option.map_eq_some_iff.1 h
      simp only [Prod.mk.injEq] at eq
      have := Tag.decode_length found
      have := skipPayload_length skipped
      simp only [← eq.1, ← eq.2, true_and]
      omega

/-- A nested group ends at the tag that closes it. -/
example : first? [0x0B, 0x13, 0x08, 0x01, 0x14, 0x0C, 0xFF] = some ⟨1, .startGroup, 0, 6⟩ := by
  decide +kernel

/-- Groups close innermost first. -/
example : first? [0x0B, 0x13, 0x0C, 0x14] = none := by decide +kernel

end Record

end DynamicMessage.Wire
