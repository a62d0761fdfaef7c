/-
# Proofs.Wire.Codec -- varints and the words they stand for

`encode` and `decode` calculate with remainders and quotients.  Here varints meet bits and sums:

* `scatter` and `gather` write and read with masks and shifts on 64-bit words, and do what `encode`
  and `decode` do (`scatter_eq`, `gather_zero`), so no group is ever shifted out of the word;
* `groupSum` adds the groups at their places without any bound, and a varint that is read has that
  sum (`groupSum_eq`);
* a word fits in `count` bytes as soon as `128 ^ count` is above it (`length_encode_le_iff`), which
  gives the length of what is written and makes it the shortest varint of its word;
* `Fits.eq_of_length`: two varints of one word and one length are the same bytes.
-/
import DynamicMessage.Proofs.Wire.Boundary
import Mathlib.Algebra.BigOperators.Fin
import Mathlib.Algebra.Order.Floor.Div
import Mathlib.Data.Nat.Size
import Mathlib.Tactic.Ring

namespace DynamicMessage.Wire.Varint

set_option autoImplicit false

/-! ## Words by shifts -/

/-- Reads a varint with shifts: the low seven bits of byte `index` go to bit `7 * index` of the
word that the bytes before it have left. -/
def gather (index : Nat) (word : UInt64) : List UInt8 → Option (UInt64 × List UInt8)
  | [] => none
  | b :: rest =>
    if maxLength ≤ index then none
    else if index + 1 = maxLength ∧ 1 < b then none
    else
      let word := word ||| (b &&& 0x7F).toUInt64 <<< (7 * index).toUInt64
      if b &&& 0x80 = 0 then some (word, rest) else gather (index + 1) word rest

/-- Writes a varint with shifts: the low seven bits go first, under a top bit while more follow. -/
def scatter (v : UInt64) : List UInt8 :=
  if v < 0x80 then [v.toUInt8] else (v.toUInt8 &&& 0x7F ||| 0x80) :: scatter (v >>> 7)
termination_by v.toNat
decreasing_by
  rename_i large
  have : 128 ≤ v.toNat := by simpa [UInt64.lt_iff_toNat_lt] using large
  rw [UInt64.toNat_shiftRight, Nat.shiftRight_eq_div_pow]
  exact Nat.div_lt_self (by omega) (by decide)

theorem shiftRight_seven (v : UInt64) : v >>> 7 = v / 128 := by
  rw [← UInt64.toNat_inj, UInt64.toNat_shiftRight, UInt64.toNat_div, Nat.shiftRight_eq_div_pow]
  rfl

theorem and_low (b : UInt8) : b &&& 0x7F = b % 128 := by
  rw [← UInt8.toNat_inj, UInt8.toNat_and, UInt8.toNat_mod]
  exact Nat.and_two_pow_sub_one_eq_mod b.toNat 7

theorem and_top_eq_zero_iff (b : UInt8) : b &&& 0x80 = 0 ↔ b < 128 := by
  have all : ∀ n < 256, n.toUInt8 &&& 0x80 = 0 ↔ n.toUInt8 < 128 := by decide +kernel
  have := all b.toNat b.toNat_lt
  rwa [Nat.toUInt8, UInt8.ofNat_toNat] at this

theorem scatter_eq (v : UInt64) : scatter v = encode v := by
  fun_induction encode v with
  | case1 v small => rw [scatter, if_pos small]
  | case2 v large ih =>
    have byte : v.toUInt8 &&& 0x7F ||| 0x80 = (v % 128 + 128).toUInt8 := by
      have low : v.toNat % 128 < 2 ^ 7 := Nat.mod_lt _ (by decide)
      have top : 128 + v.toNat % 128 = 128 ||| v.toNat % 128 :=
        Nat.two_pow_add_eq_or_of_lt low 1
      rw [← UInt8.toNat_inj, UInt8.toNat_or, and_low, UInt8.toNat_mod, UInt64.toNat_toUInt8,
        UInt64.toNat_toUInt8, UInt64.toNat_add, UInt64.toNat_mod]
      show v.toNat % 256 % 128 ||| 128 = (v.toNat % 128 + 128) % 18446744073709551616 % 256
      rw [Nat.mod_mod_of_dvd _ (by decide), Nat.or_comm]
      omega
    rw [scatter, if_neg large, byte, shiftRight_seven, ih]

/-- The low seven bits and those above them do not meet, so adding them is putting them together,
also where the sum would leave the word. -/
theorem add_eq_or (b : UInt8) (high : UInt64) :
    (b % 128).toUInt64 + (128 : UInt64) * high =
      (b % 128).toUInt64 ||| high <<< (7 : UInt64) := by
  have low : b.toNat % 128 < 2 ^ 7 := Nat.mod_lt _ (by decide)
  have shifted : high.toNat <<< 7 % 2 ^ 64 = 2 ^ 7 * (high.toNat % 2 ^ 57) := by
    rw [Nat.shiftLeft_eq]
    omega
  rw [← UInt64.toNat_inj, UInt64.toNat_or, UInt64.toNat_shiftLeft, UInt64.toNat_add,
    UInt64.toNat_mul, UInt8.toNat_toUInt64, UInt8.toNat_mod]
  show (b.toNat % 128 + 128 * high.toNat % 2 ^ 64) % 2 ^ 64 =
    b.toNat % 128 ||| high.toNat <<< 7 % 2 ^ 64
  rw [shifted, Nat.or_comm, ← Nat.two_pow_add_eq_or_of_lt low]
  omega

/-- The place of a group is seven bits above the place before, as long as it is in the word. -/
theorem shiftLeft_next (high : UInt64) {index : Nat} (within : index < 9) :
    high <<< (7 * (index + 1)).toUInt64 = high <<< (7 : UInt64) <<< (7 * index).toUInt64 := by
  have place : (7 * index).toUInt64.toNat = 7 * index :=
    Nat.mod_eq_of_lt (show 7 * index < 18446744073709551616 by omega)
  have sum : ((7 : UInt64) + (7 * index).toUInt64).toNat = 7 + 7 * index := by
    rw [UInt64.toNat_add, place]
    exact Nat.mod_eq_of_lt (show 7 + 7 * index < 18446744073709551616 by omega)
  have next : (7 * (index + 1)).toUInt64 = (7 : UInt64) + (7 * index).toUInt64 := by
    rw [← UInt64.toNat_inj, sum, Nat.mul_add, Nat.add_comm 7]
    exact Nat.mod_eq_of_lt (show 7 * index + 7 < 18446744073709551616 by omega)
  rw [next, UInt64.shiftLeft_add (by decide)]
  · rw [UInt64.lt_iff_toNat_lt, place]
    show 7 * index < 64
    omega
  · rw [UInt64.lt_iff_toNat_lt, sum]
    show 7 + 7 * index < 64
    omega

/-- From byte `index` on, what is left of the varint is read and put above the word so far. -/
theorem gather_eq (index room : Nat) (word : UInt64) (bytes : List UInt8)
    (counted : index + room = maxLength) :
    gather index word bytes = (decodeWithin room bytes).map fun read =>
      (word ||| read.1 <<< (7 * index).toUInt64, read.2) := by
  induction bytes generalizing index room word with
  | nil => rw [gather, decodeWithin, Option.map_none]
  | cons b rest ih =>
    rw [maxLength] at counted
    cases room with
    | zero => rw [gather, if_pos (by rw [maxLength]; omega), decodeWithin, Option.map_none]
    | succ room =>
      have last : index + 1 = maxLength ↔ room = 0 := by
        rw [maxLength]
        omega
      rw [gather, if_neg (by rw [maxLength]; omega), decodeWithin]
      simp only [last, and_top_eq_zero_iff]
      split
      · rfl
      split
      · rename_i low
        have same : b % 128 = b := by
          rw [← UInt8.toNat_inj, UInt8.toNat_mod]
          exact Nat.mod_eq_of_lt low
        rw [and_low, same]
        rfl
      · rename_i excess continued
        -- A tenth byte with its top bit would be above 1, so another byte has its place.
        have within : index < 9 := by
          by_contra
          refine excess ⟨by omega, ?_⟩
          have top := UInt8.le_iff_toNat_le.1 (UInt8.not_lt.1 continued)
          exact UInt8.lt_iff_toNat_lt.2 (Nat.lt_of_lt_of_le (by decide) top)
        rw [ih (index + 1) room _ (by rw [maxLength]; omega), Option.map_map]
        congr 1
        funext read
        simp only [Function.comp_apply, add_eq_or, shiftLeft_next _ within, and_low,
          UInt64.or_assoc, UInt64.shiftLeft_or]

theorem gather_zero (bytes : List UInt8) : gather 0 0 bytes = decode bytes := by
  have unmoved : (fun read : UInt64 × List UInt8 =>
      ((0 : UInt64) ||| read.1 <<< (7 * 0).toUInt64, read.2)) = id := by
    funext read
    have : read.1 <<< (7 * 0).toUInt64 = read.1 := UInt64.shiftLeft_zero
    rw [this, UInt64.zero_or, id]
  rw [gather_eq 0 maxLength 0 bytes (Nat.zero_add _), unmoved, Option.map_id, id, decode]

/-! ## Sums of groups -/

/-- The low seven bits of each byte, byte `i` counted from bit `7 * i` on, added up. -/
def groupSum (bytes : List UInt8) : Nat :=
  ∑ i : Fin bytes.length, bytes[i].toNat % 128 * 2 ^ (7 * i.val)

theorem groupSum_eq (bytes : List UInt8) : groupSum bytes = base128 bytes := by
  induction bytes with
  | nil => rfl
  | cons b rest ih =>
    have first : (b :: rest)[(0 : Fin (rest.length + 1))].toNat % 128 * 2 ^ (7 * 0) =
        b.toNat % 128 := Nat.mul_one _
    have shifted (i : Fin rest.length) :
        rest[i].toNat % 128 * 2 ^ (7 * (i.val + 1)) =
          128 * (rest[i].toNat % 128 * 2 ^ (7 * i.val)) := by
      rw [Nat.mul_add, pow_add]
      ring
    calc groupSum (b :: rest)
      _ = b.toNat % 128 + ∑ i : Fin rest.length, rest[i].toNat % 128 * 2 ^ (7 * (i.val + 1)) := by
        rw [← first]
        exact Fin.sum_univ_succ _
      _ = b.toNat % 128 + 128 * groupSum rest := by
        rw [groupSum, Finset.mul_sum, Finset.sum_congr rfl fun i _ => shifted i]
      _ = base128 (b :: rest) := by rw [ih, base128]

theorem base128_lt (bytes : List UInt8) : base128 bytes < 128 ^ bytes.length := by
  induction bytes with
  | nil => exact Nat.one_pos
  | cons b rest ih =>
    rw [base128, List.length_cons, pow_succ]
    have low : b.toNat % 128 < 128 := Nat.mod_lt _ (by decide)
    omega

/-! ## The shortest varint -/

theorem length_encode_le_iff (v : UInt64) (count : Nat) :
    (encode v).length ≤ count ↔ 1 ≤ count ∧ v.toNat < 128 ^ count := by
  fun_induction encode v generalizing count with
  | case1 v small =>
    have low : v.toNat < 128 := small
    constructor
    · intro enough
      exact ⟨enough, Nat.lt_of_lt_of_le low (Nat.le_self_pow (Nat.ne_of_gt enough) 128)⟩
    · exact fun fits => fits.1
  | case2 v large ih =>
    have high : 128 ≤ v.toNat := UInt64.not_lt.1 large
    cases count with
    | zero => simp
    | succ count =>
      rw [List.length_cons, Nat.add_le_add_iff_right, ih, UInt64.toNat_div, pow_succ]
      show 1 ≤ count ∧ v.toNat / 128 < 128 ^ count ↔ 1 ≤ count + 1 ∧ v.toNat < 128 ^ count * 128
      rw [Nat.div_lt_iff_lt_mul (by decide)]
      constructor
      · exact fun fits => ⟨by omega, fits.2⟩
      · rintro ⟨-, fits⟩
        refine ⟨?_, fits⟩
        cases count with
        | zero => omega
        | succ count => omega

theorem length_encode (v : UInt64) : (encode v).length = max 1 (v.toNat.size ⌈/⌉ 7) := by
  refine eq_of_forall_ge_iff fun count => ?_
  rw [length_encode_le_iff, max_le_iff, ceilDiv_le_iff_le_mul (by decide), Nat.size_le, pow_mul]
  rfl

/-- The bytes of a varint follow from its word and its length. -/
theorem Fits.eq_of_length {room others value same : Nat} {bytes further : List UInt8}
    (fits : Fits room bytes value) (furtherFits : Fits others further same)
    (values : value = same) (lengths : bytes.length = further.length) : bytes = further := by
  induction fits generalizing others further same with
  | last ended small =>
    cases furtherFits with
    | last ended small => rw [UInt8.toNat_inj.1 values]
    | more continued fits => exact absurd (by simpa using lengths) fits.ne_nil
  | @more _ _ b _ continued fits ih =>
    cases furtherFits with
    | last ended small => exact absurd (by simpa using lengths) fits.ne_nil
    | @more _ _ c _ continues furtherFits =>
      have top : 128 ≤ b.toNat := continued
      have top' : 128 ≤ c.toNat := continues
      have bound := b.toNat_lt
      have bound' := c.toNat_lt
      have first : b = c := by
        rw [← UInt8.toNat_inj]
        omega
      rw [first, ih furtherFits (by omega) (by simpa using lengths)]

/-- A word that is written reads back, whatever follows it, and takes a byte for every seven bits of
it, at least one and at most ten; shifts and masks write and read the same.  What is read is the sum
of its groups, no bit of which leaves the word, and is never shorter than what is written for its
word: it is that, byte for byte, exactly if it is as short. -/
theorem words_read_back_exactly (v : UInt64) (suffix : List UInt8) :
    decode (encode v ++ suffix) = some (v, suffix) ∧
      (encode v).length = max 1 (v.toNat.size ⌈/⌉ 7) ∧ (encode v).length ≤ 10 ∧
      scatter v = encode v ∧ (∀ bytes, gather 0 0 bytes = decode bytes) ∧
      ∀ bytes rest word, decode bytes = some (word, rest) →
        ∃ front : List UInt8, bytes = front ++ rest ∧ word.toNat = groupSum front ∧
          groupSum front < 2 ^ 64 ∧ (encode word).length ≤ front.length ∧
          (encode word = front ↔ (encode word).length = front.length) := by
  have ten : (encode v).length ≤ 10 :=
    (length_encode_le_iff v 10).2 ⟨by decide, Nat.lt_trans v.toNat_lt (by decide)⟩
  refine ⟨decode_encode v suffix, length_encode v, ten, scatter_eq v, gather_zero, ?_⟩
  intro bytes rest word found
  obtain ⟨front, split, varint⟩ := (decode_eq_some_iff bytes rest word).1 found
  have value : word.toNat = groupSum front := by rw [groupSum_eq, varint.value_eq]
  have fits := (isVarint_iff _ _).1 varint
  have written := (isVarint_iff _ _).1 (isVarint_encode word)
  have shortest : (encode word).length ≤ front.length := by
    refine (length_encode_le_iff _ _).2 ⟨varint.nonempty, ?_⟩
    rw [← varint.value_eq]
    exact base128_lt front
  exact ⟨front, split, value, value ▸ word.toNat_lt, shortest, congrArg List.length,
    written.eq_of_length fits rfl⟩

/-- Three bytes read as 150, which takes two, so they are not what is written for it. -/
theorem padded_word_read_back :
    decode [0x96, 0x81, 0x00, 0x07] = some (150, [0x07]) ∧
      ∃ front : List UInt8, [0x96, 0x81, 0x00, 0x07] = front ++ [0x07] ∧
        groupSum front = 150 ∧ (encode 150).length < front.length := by
  have read : decode [0x96, 0x81, 0x00, 0x07] = some (150, [0x07]) := by decide
  obtain ⟨front, split, value, -, -, -⟩ :=
    (words_read_back_exactly 150 [0x07]).2.2.2.2.2 _ _ _ read
  refine ⟨read, front, split, value.symm, ?_⟩
  have three : [0x96, 0x81, 0x00] = front := List.append_inj_left' split rfl
  have two : encode 150 = [0x96, 0x01] := by decide +kernel
  rw [← three, two]
  decide

end DynamicMessage.Wire.Varint
