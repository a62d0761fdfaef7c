/-
# Wire.Tag -- what opens a record

A tag is one varint, `number * 8 + bits`: the field number above, the wire type in the low three
bits.  Bits 6 and 7 name no wire type, and a number out of range makes no tag.
-/
import DynamicMessage.FieldNumber
import DynamicMessage.Wire.Varint

namespace DynamicMessage.Wire

set_option autoImplicit false

/-- How the payload after a tag is laid out. -/
inductive WireType where
  /-- One varint. -/
  | varint
  /-- Eight bytes, least significant first. -/
  | fixed64
  /-- A varint length and that many bytes. -/
  | bytes
  /-- Records up to the matching end of the group. -/
  | startGroup
  /-- Nothing: closes the innermost open group. -/
  | endGroup
  /-- Four bytes, least significant first. -/
  | fixed32
deriving DecidableEq, Repr

namespace WireType

/-- The three bits of a wire type. -/
def bits : WireType → UInt64
  | .varint => 0
  | .fixed64 => 1
  | .bytes => 2
  | .startGroup => 3
  | .endGroup => 4
  | .fixed32 => 5

/-- The wire type with the given bits. -/
def ofBits? (bits : UInt64) : Option WireType :=
  if bits = 0 then some .varint
  else if bits = 1 then some .fixed64
  else if bits = 2 then some .bytes
  else if bits = 3 then some .startGroup
  else if bits = 4 then some .endGroup
  else if bits = 5 then some .fixed32
  else none

/-- The name of a wire type in listings. -/
def label : WireType → String
  | .varint => "varint"
  | .fixed64 => "fixed64"
  | .bytes => "bytes"
  | .startGroup => "start_group"
  | .endGroup => "end_group"
  | .fixed32 => "fixed32"

theorem ofBits?_eq_some_iff (bits : UInt64) (w : WireType) :
    ofBits? bits = some w ↔ bits = w.bits := by
  constructor
  · intro h
    unfold ofBits? at h
    repeat' split at h
    all_goals first | (simp only [reduceCtorEq] at h) | (cases h; assumption)
  · rintro rfl
    cases w <;> decide

theorem bits_lt (w : WireType) : w.bits.toNat < 8 := by cases w <;> decide

end WireType

/-- A field number and the wire type of its payload. -/
structure Tag where
  number : FieldNumber
  wireType : WireType
deriving DecidableEq, Repr

namespace Tag

/-- The varint of a tag.  Every number is written, also one that no reader accepts. -/
def encode (tag : Tag) : List UInt8 :=
  Varint.encode (tag.number.toUInt64 * 8 + tag.wireType.bits)

/-- Splits the word of a tag. -/
def ofWord? (word : UInt64) : Option Tag :=
  match WireType.ofBits? (word % 8) with
  | none => none
  | some wireType =>
    let number := word / 8
    if FieldNumber.smallest.toUInt64 ≤ number ∧ number ≤ FieldNumber.largest.toUInt64 then
      some ⟨number.toUInt32, wireType⟩
    else none

/-- Reads one tag and returns it with the bytes after it. -/
def decode (bytes : List UInt8) : Option (Tag × List UInt8) :=
  match Varint.decode bytes with
  | none => none
  | some (word, rest) => (ofWord? word).map (·, rest)

/-- Reading a tag consumes at least one byte. -/
theorem decode_length {bytes rest : List UInt8} {tag : Tag}
    (h : decode bytes = some (tag, rest)) : rest.length < bytes.length := by
  unfold decode at h
  split at h
  · simp at h
  · rename_i word rest' found
    obtain ⟨_, _, eq⟩ := Option.map_eq_some_iff.1 h
    simp only [Prod.mk.injEq] at eq
    exact eq.2 ▸ Varint.decode_length found

theorem ofWord?_encode (tag : Tag) :
    ofWord? (tag.number.toUInt64 * 8 + tag.wireType.bits) =
      if tag.number.InRange then some tag else none := by
  have low : (tag.number.toUInt64 * 8 + tag.wireType.bits) % 8 = tag.wireType.bits := by
    have := tag.wireType.bits_lt
    have := tag.number.toNat_lt
    rw [← UInt64.toNat_inj]
    simp [UInt64.toNat_add, UInt64.toNat_mul, UInt64.toNat_mod]
    omega
  have high : (tag.number.toUInt64 * 8 + tag.wireType.bits) / 8 = tag.number.toUInt64 := by
    have := tag.wireType.bits_lt
    have := tag.number.toNat_lt
    rw [← UInt64.toNat_inj]
    simp [UInt64.toNat_add, UInt64.toNat_mul, UInt64.toNat_div]
    omega
  have same : FieldNumber.smallest.toUInt64 ≤ tag.number.toUInt64 ∧
      tag.number.toUInt64 ≤ FieldNumber.largest.toUInt64 ↔ tag.number.InRange := by
    simp [FieldNumber.InRange, UInt64.le_iff_toNat_le, UInt32.le_iff_toNat_le]
  simp only [ofWord?, low, high, (WireType.ofBits?_eq_some_iff _ _).2 rfl, same]
  congr 1
  simp

/-- A written tag reads back exactly when its number is in range. -/
theorem decode_encode (tag : Tag) (rest : List UInt8) :
    decode (tag.encode ++ rest) = if tag.number.InRange then some (tag, rest) else none := by
  rw [decode, encode, Varint.decode_encode]
  simp only [ofWord?_encode]
  split <;> simp

end Tag

end DynamicMessage.Wire
