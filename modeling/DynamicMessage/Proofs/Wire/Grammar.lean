/-
# Proofs.Wire.Grammar -- what varints, tags and records are

The grammar of the wire, stated on bytes and without a reader: which bytes are a varint of a value,
a tag, a record, and a sequence of records.  A group is a start tag, any number of records and the
end tag of the same number, so the grammar recurses where the scanner keeps a list of open groups.

The leaves are decided here.  `Varint.decode_eq_some_iff` and `Tag.decode_eq_some_iff` say that the
readers find exactly the varint and the tag at the front of the bytes, minimal or not.
-/
import DynamicMessage.Wire.Run

namespace DynamicMessage.Wire

set_option autoImplicit false

/-! ## Varints -/

/-- The number that bytes spell in base 128, least significant first, without their top bits. -/
def base128 : List UInt8 → Nat
  | [] => 0
  | b :: rest => b.toNat % 128 + 128 * base128 rest

/-- The bytes are a varint of a value. -/
structure IsVarint (bytes : List UInt8) (value : Nat) : Prop where
  nonempty : 1 ≤ bytes.length
  short : bytes.length ≤ 10
  /-- All bytes but the last have the top bit. -/
  continued : ∀ b ∈ bytes.dropLast, 128 ≤ b
  /-- The last byte has not. -/
  ended : ∀ b ∈ bytes.getLast?, b < 128
  /-- A tenth byte holds one bit. -/
  tenth : ∀ b ∈ bytes[9]?, b ≤ 1
  value_eq : base128 bytes = value

/-- A varint of at most `room + 1` bytes, byte by byte; the last one that fits holds one bit. -/
inductive Varint.Fits : Nat → List UInt8 → Nat → Prop where
  | last {room : Nat} {b : UInt8} (ended : b < 128) (small : room = 0 → b ≤ 1) :
      Fits room [b] b.toNat
  | more {room value : Nat} {b : UInt8} {rest : List UInt8} (continued : 128 ≤ b)
      (fits : Fits room rest value) : Fits (room + 1) (b :: rest) (b.toNat % 128 + 128 * value)

namespace Varint

theorem Fits.ne_nil {room value : Nat} {bytes : List UInt8} (fits : Fits room bytes value) :
    bytes ≠ [] := by
  cases fits <;> simp

theorem Fits.value_eq {room value : Nat} {bytes : List UInt8} (fits : Fits room bytes value) :
    base128 bytes = value := by
  induction fits with
  | last ended _ =>
    have := UInt8.lt_iff_toNat_lt.1 ended
    simp only [base128, UInt8.reduceToNat] at this ⊢
    omega
  | more _ _ ih => rw [base128, ih]

/-- No bit of a varint that fits is lost in the capacity. -/
theorem Fits.lt_capacity {room value : Nat} {bytes : List UInt8}
    (fits : Fits room bytes value) : value < capacity room := by
  induction fits with
  | @last room b ended small =>
    have low := UInt8.lt_iff_toNat_lt.1 ended
    cases room with
    | zero =>
      have := UInt8.le_iff_toNat_le.1 (small rfl)
      simp only [capacity, UInt8.reduceToNat] at this ⊢
      omega
    | succ room =>
      have : 1 ≤ capacity room := by
        clear low ended small
        induction room with
        | zero => simp [capacity]
        | succ room ih => simp only [capacity]; omega
      simp only [capacity, UInt8.reduceToNat] at low ⊢
      omega
  | more _ _ ih =>
    simp only [capacity]
    omega

/-- The byte-by-byte form is the form that counts bytes. -/
theorem fits_iff (room value : Nat) (bytes : List UInt8) :
    Fits room bytes value ↔ 1 ≤ bytes.length ∧ bytes.length ≤ room + 1 ∧
      (∀ b ∈ bytes.dropLast, 128 ≤ b) ∧ (∀ b ∈ bytes.getLast?, b < 128) ∧
      (∀ b ∈ bytes[room]?, b ≤ 1) ∧ base128 bytes = value := by
  constructor
  · intro fits
    have value_eq := fits.value_eq
    induction fits with
    | @last room b ended small => cases room <;> simp_all
    | @more room value b rest continued fits ih =>
      obtain ⟨nonempty, short, inner, ended, small, _⟩ := ih fits.value_eq
      obtain ⟨second, tail, rfl⟩ := List.exists_cons_of_ne_nil fits.ne_nil
      refine ⟨by simp, by simpa using short, ?_, ?_, ?_, value_eq⟩
      · simpa [continued] using inner
      · simpa using ended
      · simpa using small
  · rintro ⟨nonempty, short, inner, ended, small, rfl⟩
    induction bytes generalizing room with
    | nil => simp at nonempty
    | cons b rest ih =>
      cases rest with
      | nil =>
        have low : b < 128 := by simpa using ended
        have same : base128 [b] = b.toNat := by
          have := UInt8.lt_iff_toNat_lt.1 low
          simp only [base128, UInt8.reduceToNat] at this ⊢
          omega
        rw [same]
        refine .last low ?_
        intro zero
        subst zero
        simpa using small
      | cons second tail =>
        cases room with
        | zero => simp at short
        | succ room =>
          simp only [List.dropLast_cons_cons, List.mem_cons, forall_eq_or_imp] at inner
          refine .more inner.1 (ih room (by simp) (by simpa using short) inner.2 ?_ ?_)
          · simpa using ended
          · simpa using small

theorem isVarint_iff (bytes : List UInt8) (value : Nat) :
    IsVarint bytes value ↔ Fits 9 bytes value := by
  rw [fits_iff]
  constructor
  · intro h
    exact ⟨h.nonempty, h.short, h.continued, h.ended, h.tenth, h.value_eq⟩
  · rintro ⟨nonempty, short, continued, ended, tenth, value_eq⟩
    exact ⟨nonempty, short, continued, ended, tenth, value_eq⟩

/-- A byte without the top bit ends a varint that fits, any other one is followed by more. -/
theorem fits_cons_iff (room value : Nat) (b : UInt8) (rest : List UInt8) :
    Fits room (b :: rest) value ↔
      (b < 128 ∧ (room = 0 → b ≤ 1) ∧ rest = [] ∧ value = b.toNat) ∨
      ∃ less high, room = less + 1 ∧ 128 ≤ b ∧ Fits less rest high ∧
        value = b.toNat % 128 + 128 * high := by
  constructor
  · intro fits
    cases fits with
    | last ended small => exact .inl ⟨ended, small, rfl, rfl⟩
    | more continued fits => exact .inr ⟨_, _, rfl, continued, fits, rfl⟩
  · rintro (⟨ended, small, rfl, rfl⟩ | ⟨less, high, rfl, continued, fits, rfl⟩)
    · exact .last ended small
    · exact .more continued fits

/-- Ten bytes hold no more than a word. -/
theorem capacity_le : ∀ room ≤ 8, 128 * capacity room ≤ 18446744073709551616 := by decide

/-- A byte with its top bit and a value that leaves room for seven bits make no overflow. -/
theorem toNat_add_shift {room : Nat} (within : room ≤ 8) (b : UInt8) {high : UInt64}
    (small : high.toNat < capacity room) :
    ((b % 128).toUInt64 + 128 * high).toNat = b.toNat % 128 + 128 * high.toNat := by
  have bound := capacity_le room within
  simp only [UInt64.toNat_add, UInt64.toNat_mul, UInt8.toNat_toUInt64, UInt8.toNat_mod,
    UInt8.reduceToNat, UInt64.reduceToNat]
  omega

/-- Reading within a room finds exactly the varints that fit it. -/
theorem decodeWithin_eq_some_iff (room : Nat) (within : room ≤ 9) (bytes rest : List UInt8)
    (v : UInt64) :
    decodeWithin (room + 1) bytes = some (v, rest) ↔
      ∃ front, bytes = front ++ rest ∧ Fits room front v.toNat := by
  induction bytes generalizing room v with
  | nil =>
    simp only [decodeWithin, reduceCtorEq, false_iff]
    rintro ⟨front, eq, fits⟩
    exact fits.ne_nil (List.append_eq_nil_iff.1 eq.symm).1
  | cons b tail ih =>
    -- The first byte of a front is the first byte read.
    have split : (∃ front, b :: tail = front ++ rest ∧ Fits room front v.toNat) ↔
        ∃ front, tail = front ++ rest ∧ Fits room (b :: front) v.toNat := by
      constructor
      · rintro ⟨front, eq, fits⟩
        obtain ⟨first, front, rfl⟩ := List.exists_cons_of_ne_nil fits.ne_nil
        obtain ⟨rfl, same⟩ := List.cons.inj eq
        exact ⟨front, same, fits⟩
      · rintro ⟨front, rfl, fits⟩
        exact ⟨b :: front, rfl, fits⟩
    simp only [split, fits_cons_iff]
    rw [decodeWithin]
    by_cases low : b < 128
    · have ends : ¬ 128 ≤ b := UInt8.not_le.2 low
      by_cases excess : room = 0 ∧ 1 < b
      · have big : ¬ b ≤ 1 := UInt8.not_le.2 excess.2
        simp [excess, big]
      · have small : room = 0 → b ≤ 1 := fun zero => UInt8.not_lt.1 fun big => excess ⟨zero, big⟩
        simp only [excess, low, ends, ↓reduceIte, Option.some.injEq, Prod.mk.injEq, true_and,
          false_and, and_false, exists_false, or_false]
        rw [← UInt64.toNat_inj, UInt8.toNat_toUInt64]
        constructor
        · rintro ⟨same, rfl⟩
          exact ⟨[], rfl, small, rfl, same.symm⟩
        · rintro ⟨front, rfl, _, rfl, same⟩
          exact ⟨same.symm, rfl⟩
    · have continued : 128 ≤ b := UInt8.not_lt.1 low
      cases room with
      | zero =>
        have big : 1 < b := by
          rw [UInt8.lt_iff_toNat_lt]
          have := UInt8.le_iff_toNat_le.1 continued
          simp only [UInt8.reduceToNat] at this ⊢
          omega
        simp [low, big]
      | succ room =>
        have within' : room ≤ 8 := by omega
        simp only [low, Nat.add_eq_zero_iff, Nat.succ_ne_self, and_false, false_and, ↓reduceIte,
          false_or, Option.map_eq_some_iff, Prod.mk.injEq, Prod.exists]
        constructor
        · rintro ⟨high, rest', found, rfl, rfl⟩
          obtain ⟨front, eq, fits⟩ := (ih room (by omega) high).1 found
          exact ⟨front, eq, room, high.toNat, rfl, continued, fits,
            toNat_add_shift within' b fits.lt_capacity⟩
        · rintro ⟨front, eq, less, high, same, _, fits, value⟩
          obtain rfl : room = less := by omega
          have room_for : high < 18446744073709551616 := by
            have := fits.lt_capacity
            have := capacity_le room within'
            omega
          have word : (UInt64.ofNat high).toNat = high := UInt64.toNat_ofNat_of_lt room_for
          refine ⟨UInt64.ofNat high, rest, (ih room (by omega) _).2 ⟨front, eq, ?_⟩, ?_, rfl⟩
          · rw [word]
            exact fits
          · have small : (UInt64.ofNat high).toNat < capacity room := by
              rw [word]
              exact fits.lt_capacity
            rw [← UInt64.toNat_inj, toNat_add_shift within' b small, word, value]

/-- A varint is read exactly where one stands at the front of the bytes. -/
theorem decode_eq_some_iff (bytes rest : List UInt8) (v : UInt64) :
    decode bytes = some (v, rest) ↔ ∃ front, bytes = front ++ rest ∧ IsVarint front v.toNat := by
  simp only [isVarint_iff]
  exact decodeWithin_eq_some_iff 9 (by decide) bytes rest v

/-- What is written is a varint of the word. -/
theorem isVarint_encode (v : UInt64) : IsVarint (encode v) v.toNat := by
  obtain ⟨front, same, varint⟩ := (decode_eq_some_iff _ _ _).1 (decode_encode v [])
  rw [List.append_nil, List.append_nil] at same
  exact same ▸ varint

end Varint

/-! ## Tags -/

/-- The number of a wire type in a tag. -/
def WireType.code : WireType → Nat
  | .varint => 0
  | .fixed64 => 1
  | .bytes => 2
  | .startGroup => 3
  | .endGroup => 4
  | .fixed32 => 5

theorem WireType.toNat_bits (w : WireType) : w.bits.toNat = w.code := by cases w <;> rfl

/-- The bytes are a tag: a varint, minimal or not, of the number times eight and the wire type. -/
def IsTag (bytes : List UInt8) (tag : Tag) : Prop :=
  ∃ value, IsVarint bytes value ∧ value / 8 = tag.number.toNat ∧
    value % 8 = tag.wireType.code ∧ 1 ≤ tag.number.toNat ∧ tag.number.toNat ≤ 536870911

namespace Tag

theorem ofWord?_eq_some_iff (word : UInt64) (tag : Tag) :
    ofWord? word = some tag ↔ word.toNat / 8 = tag.number.toNat ∧
      word.toNat % 8 = tag.wireType.code ∧ 1 ≤ tag.number.toNat ∧
        tag.number.toNat ≤ 536870911 := by
  rw [← WireType.toNat_bits]
  have joined : word.toNat / 8 = tag.number.toNat ∧ word.toNat % 8 = tag.wireType.bits.toNat ↔
      word = tag.number.toUInt64 * 8 + tag.wireType.bits := by
    have := tag.wireType.bits_lt
    have := tag.number.toNat_lt
    rw [← UInt64.toNat_inj, UInt64.toNat_add, UInt64.toNat_mul, UInt32.toNat_toUInt64]
    simp only [UInt64.reduceToNat]
    omega
  rw [← and_assoc, joined, ← FieldNumber.inRange_iff]
  constructor
  · intro found
    have same : word = tag.number.toUInt64 * 8 + tag.wireType.bits := by
      unfold ofWord? at found
      split at found
      · simp at found
      · rename_i w bits
        rw [WireType.ofBits?_eq_some_iff] at bits
        simp only at found
        split at found
        · rename_i range
          simp only [Option.some.injEq] at found
          have high := UInt64.le_iff_toNat_le.1 range.2
          rw [← joined, ← found]
          have low := congrArg UInt64.toNat bits
          simp only [UInt64.toNat_mod, UInt64.toNat_div, UInt64.reduceToNat,
            FieldNumber.largest, UInt32.toNat_toUInt64, UInt32.reduceToNat,
            UInt64.toNat_toUInt32] at low high ⊢
          omega
        · simp at found
    rw [same, ofWord?_encode] at found
    split at found
    · rename_i range
      exact ⟨same, range⟩
    · simp at found
  · rintro ⟨rfl, range⟩
    rw [ofWord?_encode, if_pos range]

/-- A tag is read exactly where one stands at the front of the bytes. -/
theorem decode_eq_some_iff (bytes rest : List UInt8) (tag : Tag) :
    decode bytes = some (tag, rest) ↔ ∃ front, bytes = front ++ rest ∧ IsTag front tag := by
  constructor
  · intro found
    unfold decode at found
    split at found
    · simp at found
    · rename_i word rest' read
      obtain ⟨_, split, eq⟩ := Option.map_eq_some_iff.1 found
      simp only [Prod.mk.injEq] at eq
      obtain ⟨rfl, rfl⟩ := eq
      obtain ⟨front, same, varint⟩ := (Varint.decode_eq_some_iff _ _ _).1 read
      exact ⟨front, same, word.toNat, varint, (ofWord?_eq_some_iff _ _).1 split⟩
  · rintro ⟨front, rfl, value, varint, parts⟩
    have small : value < 18446744073709551616 := by
      obtain ⟨high, -, -, largest⟩ := parts
      omega
    have word : (UInt64.ofNat value).toNat = value := UInt64.toNat_ofNat_of_lt small
    have read := (Varint.decode_eq_some_iff (front ++ rest) rest (UInt64.ofNat value)).2
      ⟨front, rfl, word.symm ▸ varint⟩
    rw [decode, read]
    simp only
    rw [(ofWord?_eq_some_iff (UInt64.ofNat value) tag).2 (word.symm ▸ parts)]
    rfl

/-- What is written with a number in range is the tag. -/
theorem encode_ne_nil (tag : Tag) : tag.encode ≠ [] :=
  List.length_pos_iff.1 (Varint.isVarint_encode _).nonempty

theorem isTag_encode {tag : Tag} (range : tag.number.InRange) : IsTag tag.encode tag := by
  have found := decode_encode tag []
  rw [if_pos range] at found
  obtain ⟨front, same, opens⟩ := (decode_eq_some_iff _ _ _).1 found
  rw [List.append_nil, List.append_nil] at same
  exact same ▸ opens

end Tag

/-! ## Records -/

/-- The bytes of one record, with the number and the wire type of its tag. -/
structure Piece where
  number : FieldNumber
  wireType : WireType
  bytes : List UInt8

/-- The piece is a record. -/
inductive IsRecord : Piece → Prop where
  | varint {n : FieldNumber} {tag payload : List UInt8} {value : Nat}
      (opens : IsTag tag ⟨n, .varint⟩) (varint : IsVarint payload value) :
      IsRecord ⟨n, .varint, tag ++ payload⟩
  | fixed64 {n : FieldNumber} {tag payload : List UInt8}
      (opens : IsTag tag ⟨n, .fixed64⟩) (eight : payload.length = 8) :
      IsRecord ⟨n, .fixed64, tag ++ payload⟩
  | fixed32 {n : FieldNumber} {tag payload : List UInt8}
      (opens : IsTag tag ⟨n, .fixed32⟩) (four : payload.length = 4) :
      IsRecord ⟨n, .fixed32, tag ++ payload⟩
  | bytes {n : FieldNumber} {tag count payload : List UInt8}
      (opens : IsTag tag ⟨n, .bytes⟩) (counted : IsVarint count payload.length) :
      IsRecord ⟨n, .bytes, tag ++ (count ++ payload)⟩
  | group {n : FieldNumber} {first last : List UInt8} {body : List Piece}
      (opens : IsTag first ⟨n, .startGroup⟩) (inner : ∀ piece ∈ body, IsRecord piece)
      (closes : IsTag last ⟨n, .endGroup⟩) :
      IsRecord ⟨n, .startGroup, first ++ (body.flatMap (·.bytes) ++ last)⟩

/-- The bytes are records one after another, possibly none. -/
def IsRecords (bytes : List UInt8) : Prop :=
  ∃ pieces : List Piece, (∀ piece ∈ pieces, IsRecord piece) ∧ bytes = pieces.flatMap (·.bytes)

theorem IsRecords.nil : IsRecords [] := ⟨[], by simp, rfl⟩

theorem IsRecords.cons {piece : Piece} {bytes : List UInt8} (first : IsRecord piece)
    (records : IsRecords bytes) : IsRecords (piece.bytes ++ bytes) := by
  obtain ⟨pieces, each, rfl⟩ := records
  refine ⟨piece :: pieces, ?_, rfl⟩
  intro other member
  rcases List.mem_cons.1 member with rfl | member
  · exact first
  · exact each other member

end DynamicMessage.Wire
