/-
# Wire.Varint -- base-128 integers

A varint writes a 64-bit word in groups of seven bits, least significant first, with the top bit
set on every byte but the last.  `encode` writes the shortest form; `decode` reads any form of at
most ten bytes, and the tenth byte holds bit 63 alone, so it is at most 1.

`decode_encode` says that a written word reads back, whatever follows it, and `decode_length` that
reading always moves forward, which is what bounds the scanner's loops.
-/
namespace DynamicMessage.Wire.Varint

set_option autoImplicit false

/-- The most bytes a varint may take. -/
def maxLength : Nat := 10

/-- The shortest varint of a word. -/
def encode (v : UInt64) : List UInt8 :=
  if v < 128 then [v.toUInt8]
  else (v % 128 + 128).toUInt8 :: encode (v / 128)
termination_by v.toNat
decreasing_by
  have : 128 ≤ v.toNat := by
    rename_i h
    simpa [UInt64.lt_iff_toNat_lt] using h
  rw [UInt64.toNat_div]
  exact Nat.div_lt_self (by omega) (by decide)

/-- Reads a varint of at most `room` bytes, the last of which may only be 0 or 1. -/
def decodeWithin : Nat → List UInt8 → Option (UInt64 × List UInt8)
  | _, [] => none
  | 0, _ :: _ => none
  | room + 1, b :: rest =>
    if room = 0 ∧ 1 < b then none
    else if b < 128 then some (b.toUInt64, rest)
    else (decodeWithin room rest).map fun (high, rest) =>
      ((b % 128).toUInt64 + 128 * high, rest)

/-- Reads one varint and returns its value and the bytes after it. -/
def decode (bytes : List UInt8) : Option (UInt64 × List UInt8) := decodeWithin maxLength bytes

theorem decodeWithin_length {room : Nat} {bytes rest : List UInt8} {v : UInt64}
    (h : decodeWithin room bytes = some (v, rest)) : rest.length < bytes.length := by
  fun_induction decodeWithin room bytes generalizing v rest with
  | case1 => simp at h
  | case2 => simp at h
  | case3 => simp at h
  | case4 _ b tail => simp only [Option.some.injEq, Prod.mk.injEq] at h; simp [← h.2]
  | case5 _ b tail _ _ ih =>
    obtain ⟨⟨high, rest'⟩, found, eq⟩ := Option.map_eq_some_iff.1 h
    have := ih found
    simp only [Prod.mk.injEq] at eq
    simp only [← eq.2, List.length_cons]
    omega

/-- Reading a varint consumes at least one byte. -/
theorem decode_length {bytes rest : List UInt8} {v : UInt64}
    (h : decode bytes = some (v, rest)) : rest.length < bytes.length :=
  decodeWithin_length h

/-- How many words can be written in `room + 1` bytes, the last of which is 0 or 1. -/
def capacity : Nat → Nat
  | 0 => 2
  | room + 1 => 128 * capacity room

/-- A word within the capacity of `room + 1` bytes reads back from its varint, whatever follows. -/
theorem decodeWithin_encode (room : Nat) (v : UInt64) (rest : List UInt8)
    (fits : v.toNat < capacity room) :
    decodeWithin (room + 1) (encode v ++ rest) = some (v, rest) := by
  induction room generalizing v with
  | zero =>
    simp only [capacity] at fits
    have small : v < 128 := by rw [UInt64.lt_iff_toNat_lt]; simp; omega
    have low : ¬ 1 < v.toUInt8 := by rw [UInt8.lt_iff_toNat_lt]; simp; omega
    have low' : v.toUInt8 < 128 := by rw [UInt8.lt_iff_toNat_lt]; simp; omega
    rw [encode, if_pos small]
    simp only [List.singleton_append, decodeWithin, low, low', and_false, ↓reduceIte,
      Option.some.injEq, Prod.mk.injEq, and_true]
    rw [← UInt64.toNat_inj]; simp; omega
  | succ room ih =>
    by_cases small : v < 128
    · have low : v.toUInt8 < 128 := by
        rw [UInt64.lt_iff_toNat_lt] at small; rw [UInt8.lt_iff_toNat_lt]; simp at small ⊢; omega
      rw [encode, if_pos small]
      simp only [List.singleton_append, decodeWithin, Nat.add_eq_zero_iff, Nat.succ_ne_self,
        and_false, false_and, low, ↓reduceIte, Option.some.injEq, Prod.mk.injEq, and_true]
      rw [UInt64.lt_iff_toNat_lt] at small
      rw [← UInt64.toNat_inj]; simp at small ⊢; omega
    · have big : 128 ≤ v.toNat := by
        rw [UInt64.lt_iff_toNat_lt] at small; simpa using small
      have high : ¬ (v % 128 + 128).toUInt8 < 128 := by
        rw [UInt8.lt_iff_toNat_lt]
        simp only [UInt64.toNat_toUInt8, UInt64.toNat_add, UInt64.toNat_mod, UInt64.reduceToNat,
          UInt8.reduceToNat]
        omega
      have quotient : (v / 128).toNat < capacity room := by
        rw [UInt64.toNat_div]
        exact Nat.div_lt_of_lt_mul fits
      rw [encode, if_neg small]
      simp only [List.cons_append, decodeWithin, Nat.add_eq_zero_iff, Nat.succ_ne_self,
        and_false, false_and, high, ↓reduceIte, ih _ quotient, Option.map_some,
        Option.some.injEq, Prod.mk.injEq, and_true]
      rw [← UInt64.toNat_inj]
      have := v.toNat_lt
      simp [UInt64.toNat_add, UInt64.toNat_mul, UInt64.toNat_div, UInt64.toNat_mod]
      omega

/-- Reading gives back a written word and leaves what follows it. -/
theorem decode_encode (v : UInt64) (rest : List UInt8) :
    decode (encode v ++ rest) = some (v, rest) :=
  decodeWithin_encode 9 v rest v.toNat_lt

/-- A longer form of a word is read as that word; the shortest form is what is written. -/
example : decode [0x96, 0x01] = some (150, []) ∧ decode [0x96, 0x81, 0x00] = some (150, []) ∧
    encode 150 = [0x96, 0x01] := by
  refine ⟨by decide, by decide, by decide +kernel⟩

/-- The tenth byte holds one bit. -/
example : decode (List.replicate 9 0xFF ++ [0x01]) = some (18446744073709551615, []) ∧
    decode (List.replicate 9 0xFF ++ [0x02]) = none := by decide

end DynamicMessage.Wire.Varint
