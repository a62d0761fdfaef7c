/-
# Proofs.Wire.Boundary -- the scanner accepts the grammar

`skipPayload` follows a payload with the numbers of the open groups at hand; the grammar nests.
`Closes` joins the two: it says which bytes close a list of open groups, innermost first, by
records and end tags.

* `skipPayload_sound`: what is passed over is the payload and then bytes that close every group it
  left open;
* `resume_record`: with a group open, a record of the grammar is passed over and leaves the open
  groups as they were, at any depth;
* `Record.read_eq_some_iff`: so a record is read exactly where the grammar has one, with its number,
  its wire type and its length, whatever follows it;
* and so, at the end, for the first record of the bytes, for its absence, and for whole runs.
-/
import DynamicMessage.Proofs.Wire.Grammar

namespace DynamicMessage.Wire

set_option autoImplicit false

theorem skip_eq_some_iff (count : Nat) (bytes rest : List UInt8) :
    skip count bytes = some rest ↔ ∃ front, bytes = front ++ rest ∧ front.length = count := by
  unfold skip
  constructor
  · intro skipped
    split at skipped
    · rename_i enough
      simp only [Option.some.injEq] at skipped
      subst skipped
      exact ⟨bytes.take count, (List.take_append_drop count bytes).symm, List.length_take_of_le enough⟩
    · simp at skipped
  · rintro ⟨front, rfl, rfl⟩
    simp

/-- What a tag does to the open groups, and the bytes it does it with: a payload that is passed
over, or nothing for the start and the end of a group. -/
inductive Tag.Passes (tag : Tag) (groups : List FieldNumber) :
    List FieldNumber → List UInt8 → Prop where
  | varint {payload : List UInt8} {value : Nat} (type : tag.wireType = .varint)
      (varint : IsVarint payload value) : Passes tag groups groups payload
  | fixed64 {payload : List UInt8} (type : tag.wireType = .fixed64)
      (eight : payload.length = 8) : Passes tag groups groups payload
  | fixed32 {payload : List UInt8} (type : tag.wireType = .fixed32)
      (four : payload.length = 4) : Passes tag groups groups payload
  | bytes {count payload : List UInt8} (type : tag.wireType = .bytes)
      (counted : IsVarint count payload.length) : Passes tag groups groups (count ++ payload)
  | opens (type : tag.wireType = .startGroup) : Passes tag groups (tag.number :: groups) []
  | closes {outer : List FieldNumber} (type : tag.wireType = .endGroup)
      (innermost : groups = tag.number :: outer) : Passes tag groups outer []

theorem IsVarint.lt {bytes : List UInt8} {value : Nat} (varint : IsVarint bytes value) :
    value < 18446744073709551616 :=
  ((Varint.isVarint_iff bytes value).1 varint).lt_capacity

/-- A varint at the front is read, whatever follows it. -/
theorem IsVarint.decode {front : List UInt8} {value : Nat} (varint : IsVarint front value)
    (rest : List UInt8) : Varint.decode (front ++ rest) = some (UInt64.ofNat value, rest) := by
  have word : (UInt64.ofNat value).toNat = value := UInt64.toNat_ofNat_of_lt varint.lt
  exact (Varint.decode_eq_some_iff _ _ _).2 ⟨front, rfl, word.symm ▸ varint⟩

/-- `Tag.pass` is the one way to do what a tag does. -/
theorem Tag.pass_eq_some_iff (tag : Tag) (groups after : List FieldNumber)
    (bytes rest : List UInt8) :
    tag.pass groups bytes = some (after, rest) ↔
      ∃ front, bytes = front ++ rest ∧ tag.Passes groups after front := by
  constructor
  · intro passed
    unfold Tag.pass at passed
    split at passed
    · rename_i type
      obtain ⟨⟨value, _⟩, found, eq⟩ := Option.map_eq_some_iff.1 passed
      simp only [Prod.mk.injEq] at eq
      obtain ⟨rfl, rfl⟩ := eq
      obtain ⟨front, same, varint⟩ := (Varint.decode_eq_some_iff _ _ _).1 found
      exact ⟨front, same, .varint type varint⟩
    · rename_i type
      obtain ⟨_, found, eq⟩ := Option.map_eq_some_iff.1 passed
      simp only [Prod.mk.injEq] at eq
      obtain ⟨rfl, rfl⟩ := eq
      obtain ⟨front, same, eight⟩ := (skip_eq_some_iff _ _ _).1 found
      exact ⟨front, same, .fixed64 type eight⟩
    · rename_i type
      obtain ⟨_, found, eq⟩ := Option.map_eq_some_iff.1 passed
      simp only [Prod.mk.injEq] at eq
      obtain ⟨rfl, rfl⟩ := eq
      obtain ⟨front, same, four⟩ := (skip_eq_some_iff _ _ _).1 found
      exact ⟨front, same, .fixed32 type four⟩
    · rename_i type
      split at passed
      · simp at passed
      · rename_i count middle found
        obtain ⟨_, skipped, eq⟩ := Option.map_eq_some_iff.1 passed
        simp only [Prod.mk.injEq] at eq
        obtain ⟨rfl, rfl⟩ := eq
        obtain ⟨front, rfl, varint⟩ := (Varint.decode_eq_some_iff _ _ _).1 found
        obtain ⟨payload, rfl, length⟩ := (skip_eq_some_iff _ _ _).1 skipped
        refine ⟨front ++ payload, by simp, .bytes type ?_⟩
        rw [length]
        exact varint
    · rename_i type
      simp only [Option.some.injEq, Prod.mk.injEq] at passed
      obtain ⟨rfl, rfl⟩ := passed
      exact ⟨[], rfl, .opens type⟩
    · rename_i type
      split at passed
      · simp at passed
      · split at passed
        · rename_i same
          simp only [Option.some.injEq, Prod.mk.injEq] at passed
          obtain ⟨rfl, rfl⟩ := passed
          exact ⟨[], rfl, .closes type (by rw [same])⟩
        · simp at passed
  · rintro ⟨front, rfl, passes⟩
    cases passes with
    | varint type varint =>
      simp [Tag.pass, type, varint.decode]
    | fixed64 type eight =>
      simp [Tag.pass, type, (skip_eq_some_iff 8 (front ++ rest) rest).2 ⟨front, rfl, eight⟩]
    | fixed32 type four =>
      simp [Tag.pass, type, (skip_eq_some_iff 4 (front ++ rest) rest).2 ⟨front, rfl, four⟩]
    | @bytes count payload type counted =>
      have word : (UInt64.ofNat payload.length).toNat = payload.length :=
        UInt64.toNat_ofNat_of_lt counted.lt
      have skipped := (skip_eq_some_iff payload.length (payload ++ rest) rest).2 ⟨payload, rfl, rfl⟩
      simp only [Tag.pass, type, List.append_assoc, counted.decode, word, skipped, Option.map_some]
    | opens type =>
      simp [Tag.pass, type]
    | closes type innermost =>
      simp [Tag.pass, type, innermost]

/-! ## Open groups -/

/-- The bytes close the open groups, innermost first: records up to the end tag of each. -/
def Closes : List FieldNumber → List UInt8 → Prop
  | [], bytes => bytes = []
  | innermost :: outer, bytes =>
    ∃ body last more, IsRecords body ∧ IsTag last ⟨innermost, .endGroup⟩ ∧ Closes outer more ∧
      bytes = body ++ last ++ more

/-- A record before bytes that close the open groups. -/
theorem Closes.cons {innermost : FieldNumber} {outer : List FieldNumber} {piece : Piece}
    {bytes : List UInt8} (record : IsRecord piece) (closes : Closes (innermost :: outer) bytes) :
    Closes (innermost :: outer) (piece.bytes ++ bytes) := by
  obtain ⟨body, last, more, records, ends, rest, rfl⟩ := closes
  exact ⟨piece.bytes ++ body, last, more, records.cons record, ends, rest, by simp⟩

/-- A tag before bytes that close the groups it leaves open: it heads a record of the innermost
group, it starts a group inside it, or it ends it. -/
theorem Closes.step {innermost : FieldNumber} {outer after : List FieldNumber} {tag : Tag}
    {head front more : List UInt8} (opens : IsTag head tag)
    (passes : tag.Passes (innermost :: outer) after front) (closes : Closes after more) :
    Closes (innermost :: outer) (head ++ (front ++ more)) := by
  obtain ⟨number, wireType⟩ := tag
  cases passes with
  | varint type varint =>
    obtain rfl : wireType = .varint := type
    simpa using closes.cons (.varint opens varint)
  | fixed64 type eight =>
    obtain rfl : wireType = .fixed64 := type
    simpa using closes.cons (.fixed64 opens eight)
  | fixed32 type four =>
    obtain rfl : wireType = .fixed32 := type
    simpa using closes.cons (.fixed32 opens four)
  | bytes type counted =>
    obtain rfl : wireType = .bytes := type
    simpa using closes.cons (.bytes opens counted)
  | opens type =>
    obtain rfl : wireType = .startGroup := type
    obtain ⟨_, last, more, ⟨pieces, each, rfl⟩, ends, rest, rfl⟩ := closes
    simpa using rest.cons (.group opens each ends)
  | closes type same =>
    obtain rfl : wireType = .endGroup := type
    obtain ⟨rfl, rfl⟩ := List.cons.inj same
    exact ⟨[], head, more, .nil, opens, closes, by simp⟩

/-- What is passed over is what the tag passes, and then bytes that close the groups it leaves
open. -/
theorem skipPayload_sound {groups : List FieldNumber} {tag : Tag} {bytes rest : List UInt8}
    (skipped : skipPayload groups tag bytes = some rest) :
    ∃ after front more, bytes = front ++ more ++ rest ∧ tag.Passes groups after front ∧
      Closes after more := by
  fun_induction skipPayload groups tag bytes with
  | case1 => simp at skipped
  | case2 groups tag bytes rest' passed =>
    simp only [Option.some.injEq] at skipped
    subst skipped
    obtain ⟨front, rfl, passes⟩ := (Tag.pass_eq_some_iff _ _ _ _ _).1 passed
    exact ⟨[], front, [], by simp, passes, rfl⟩
  | case3 => simp at skipped
  | case4 groups tag bytes innermost outer middle passed next tail found ih =>
    obtain ⟨front, rfl, passes⟩ := (Tag.pass_eq_some_iff _ _ _ _ _).1 passed
    obtain ⟨head, rfl, opens⟩ := (Tag.decode_eq_some_iff _ _ _).1 found
    obtain ⟨after, inner, more, rfl, innerPasses, closes⟩ := ih skipped
    exact ⟨innermost :: outer, front, head ++ (inner ++ more), by simp, passes,
      closes.step opens innerPasses⟩

/-- With no group open, a tag heads a record; an end tag heads none. -/
theorem isRecord_of_passes {after : List FieldNumber} {tag : Tag} {head front more : List UInt8}
    (opens : IsTag head tag) (passes : tag.Passes [] after front) (closes : Closes after more) :
    IsRecord ⟨tag.number, tag.wireType, head ++ (front ++ more)⟩ := by
  obtain ⟨number, wireType⟩ := tag
  cases passes with
  | varint type varint =>
    obtain rfl : wireType = .varint := type
    obtain rfl : more = [] := closes
    simpa using IsRecord.varint opens varint
  | fixed64 type eight =>
    obtain rfl : wireType = .fixed64 := type
    obtain rfl : more = [] := closes
    simpa using IsRecord.fixed64 opens eight
  | fixed32 type four =>
    obtain rfl : wireType = .fixed32 := type
    obtain rfl : more = [] := closes
    simpa using IsRecord.fixed32 opens four
  | bytes type counted =>
    obtain rfl : wireType = .bytes := type
    obtain rfl : more = [] := closes
    simpa using IsRecord.bytes opens counted
  | opens type =>
    obtain rfl : wireType = .startGroup := type
    obtain ⟨_, last, _, ⟨pieces, each, rfl⟩, ends, rfl, rfl⟩ := closes
    simpa using IsRecord.group opens each ends
  | closes _ same => simp at same

/-- Reading on with groups open: at once when there are none, else with the next tag. -/
def resume : List FieldNumber → List UInt8 → Option (List UInt8)
  | [], bytes => some bytes
  | innermost :: outer, bytes =>
    match Tag.decode bytes with
    | none => none
    | some (next, rest) => skipPayload (innermost :: outer) next rest

/-- A payload goes on behind what its tag passes. -/
theorem skipPayload_of_pass {groups after : List FieldNumber} {tag : Tag}
    {bytes rest : List UInt8} (passed : tag.pass groups bytes = some (after, rest)) :
    skipPayload groups tag bytes = resume after rest := by
  rw [skipPayload]
  cases after with
  | nil =>
    split
    · simp_all
    · simp_all [resume]
    · simp_all
  | cons innermost outer =>
    split
    · simp_all
    · simp_all
    · rename_i same
      obtain ⟨⟨rfl, rfl⟩, rfl⟩ := by simpa [passed] using same
      rw [resume]
      split <;> simp_all

/-- A payload breaks off where its tag does not pass. -/
theorem skipPayload_of_pass_eq_none {groups : List FieldNumber} {tag : Tag} {bytes : List UInt8}
    (stuck : tag.pass groups bytes = none) : skipPayload groups tag bytes = none := by
  rw [skipPayload]
  split <;> simp_all

/-- A payload whose tag passes its front goes on behind it. -/
theorem skipPayload_of_passes {groups after : List FieldNumber} {tag : Tag} {front : List UInt8}
    (passes : tag.Passes groups after front) (rest : List UInt8) :
    skipPayload groups tag (front ++ rest) = resume after rest :=
  skipPayload_of_pass ((Tag.pass_eq_some_iff _ _ _ _ _).2 ⟨front, rfl, passes⟩)

/-- A tag at the front is read, whatever follows it. -/
theorem IsTag.decode {front : List UInt8} {tag : Tag} (opens : IsTag front tag)
    (rest : List UInt8) : Tag.decode (front ++ rest) = some (tag, rest) :=
  (Tag.decode_eq_some_iff _ _ _).2 ⟨front, rfl, opens⟩

/-- With a group open, a tag goes on behind what it passes. -/
theorem resume_tag {innermost : FieldNumber} {outer after : List FieldNumber} {tag : Tag}
    {head front : List UInt8} (opens : IsTag head tag)
    (passes : tag.Passes (innermost :: outer) after front) (rest : List UInt8) :
    resume (innermost :: outer) (head ++ (front ++ rest)) = resume after rest := by
  rw [resume, opens.decode]
  exact skipPayload_of_passes passes rest

/-- With a group open, records that are each passed over are passed over one after another. -/
theorem resume_flatMap {groups : List FieldNumber} (body : List Piece) (rest : List UInt8)
    (each : ∀ piece ∈ body, ∀ rest, resume groups (piece.bytes ++ rest) = resume groups rest) :
    resume groups (body.flatMap (·.bytes) ++ rest) = resume groups rest := by
  induction body with
  | nil => rfl
  | cons piece body ih =>
    rw [List.flatMap_cons, List.append_assoc, each piece (by simp)]
    exact ih fun other member => each other (by simp [member])

/-- The inside of a group and its end tag leave the groups around it. -/
theorem resume_group {n : FieldNumber} {outer : List FieldNumber} {last : List UInt8}
    {body : List Piece}
    (each : ∀ piece ∈ body, ∀ rest,
      resume (n :: outer) (piece.bytes ++ rest) = resume (n :: outer) rest)
    (ends : IsTag last ⟨n, .endGroup⟩) (rest : List UInt8) :
    resume (n :: outer) (body.flatMap (·.bytes) ++ (last ++ rest)) = resume outer rest := by
  rw [resume_flatMap body _ each]
  exact resume_tag ends (.closes rfl rfl) rest

/-- With a group open, a record is passed over and the open groups stay as they were. -/
theorem resume_record {piece : Piece} (record : IsRecord piece) (innermost : FieldNumber)
    (outer : List FieldNumber) (rest : List UInt8) :
    resume (innermost :: outer) (piece.bytes ++ rest) = resume (innermost :: outer) rest := by
  induction record generalizing innermost outer rest with
  | varint opens varint =>
    rw [List.append_assoc]
    exact resume_tag opens (.varint rfl varint) rest
  | fixed64 opens eight =>
    rw [List.append_assoc]
    exact resume_tag opens (.fixed64 rfl eight) rest
  | fixed32 opens four =>
    rw [List.append_assoc]
    exact resume_tag opens (.fixed32 rfl four) rest
  | bytes opens counted =>
    rw [List.append_assoc]
    exact resume_tag opens (.bytes rfl counted) rest
  | @group n first last body opens inner ends ih =>
    have starts : Tag.Passes ⟨n, .startGroup⟩ (innermost :: outer) (n :: innermost :: outer) [] :=
      .opens rfl
    have entered := resume_tag opens starts (body.flatMap (·.bytes) ++ (last ++ rest))
    rw [List.append_assoc, List.append_assoc]
    refine entered.trans ?_
    exact resume_group (fun piece member rest => ih piece member n _ rest) ends rest

/-! ## Whole records -/

namespace Record

/-- A record stands at the front of the bytes that are read, and nothing else is read as one. -/
theorem read_sound {offset : Nat} {bytes rest : List UInt8} {record : Record}
    (found : read offset bytes = some (record, rest)) :
    ∃ piece, IsRecord piece ∧ bytes = piece.bytes ++ rest ∧
      record = ⟨piece.number, piece.wireType, offset, piece.bytes.length⟩ := by
  unfold read at found
  split at found
  · simp at found
  · rename_i tag payload opened
    split at found
    · simp at found
    · rename_i start
      obtain ⟨_, skipped, eq⟩ := Option.map_eq_some_iff.1 found
      simp only [Prod.mk.injEq] at eq
      obtain ⟨rfl, rfl⟩ := eq
      obtain ⟨head, rfl, opens⟩ := (Tag.decode_eq_some_iff _ _ _).1 opened
      obtain ⟨after, front, more, rfl, passes, closes⟩ := skipPayload_sound skipped
      refine ⟨_, isRecord_of_passes opens passes closes, by simp, ?_⟩
      simp only [List.length_append, mk.injEq, true_and]
      omega

theorem read_of_tag {n : FieldNumber} {wireType : WireType} {head payload rest : List UInt8}
    (opens : IsTag head ⟨n, wireType⟩) (start : wireType ≠ .endGroup)
    (skipped : skipPayload [] ⟨n, wireType⟩ (payload ++ rest) = some rest) (offset : Nat) :
    read offset (head ++ payload ++ rest) =
      some (⟨n, wireType, offset, (head ++ payload).length⟩, rest) := by
  rw [List.append_assoc, read, opens.decode]
  simp only [start, ↓reduceIte, skipped, Option.map_some, List.length_append, Option.some.injEq,
    Prod.mk.injEq, mk.injEq, true_and, and_true]
  omega

/-- A record at the front of the bytes is read, whatever follows it. -/
theorem read_complete {piece : Piece} (record : IsRecord piece) (offset : Nat)
    (rest : List UInt8) :
    read offset (piece.bytes ++ rest) =
      some (⟨piece.number, piece.wireType, offset, piece.bytes.length⟩, rest) := by
  cases record with
  | varint opens varint =>
    exact read_of_tag opens (by decide) (skipPayload_of_passes (.varint rfl varint) rest) offset
  | fixed64 opens eight =>
    exact read_of_tag opens (by decide) (skipPayload_of_passes (.fixed64 rfl eight) rest) offset
  | fixed32 opens four =>
    exact read_of_tag opens (by decide) (skipPayload_of_passes (.fixed32 rfl four) rest) offset
  | bytes opens counted =>
    exact read_of_tag opens (by decide) (skipPayload_of_passes (.bytes rfl counted) rest) offset
  | @group n first last body opens inner ends =>
    refine read_of_tag opens (by decide) ?_ offset
    have starts : Tag.Passes ⟨n, .startGroup⟩ [] [n] [] := .opens rfl
    have entered := skipPayload_of_passes starts (body.flatMap (·.bytes) ++ (last ++ rest))
    rw [List.append_assoc]
    refine entered.trans ?_
    exact resume_group (fun piece member rest => resume_record (inner piece member) n [] rest)
      ends rest

/-- A record is read exactly where one stands at the front of the bytes. -/
theorem read_eq_some_iff (offset : Nat) (bytes rest : List UInt8) (record : Record) :
    read offset bytes = some (record, rest) ↔
      ∃ piece, IsRecord piece ∧ bytes = piece.bytes ++ rest ∧
        record = ⟨piece.number, piece.wireType, offset, piece.bytes.length⟩ := by
  constructor
  · exact read_sound
  · rintro ⟨piece, isRecord, rfl, rfl⟩
    exact read_complete isRecord offset rest

/-- The first record covers the bytes of a record, with its number and its wire type. -/
theorem first?_eq_some_iff (bytes : List UInt8) (record : Record) :
    first? bytes = some record ↔
      record.offset = 0 ∧ record.length ≤ bytes.length ∧
        IsRecord ⟨record.number, record.wireType, bytes.take record.length⟩ := by
  simp only [first?, Option.map_eq_some_iff, Prod.exists, exists_and_right, exists_eq_right,
    read_eq_some_iff]
  constructor
  · rintro ⟨rest, piece, isRecord, rfl, rfl⟩
    simpa using isRecord
  · rintro ⟨start, covered, isRecord⟩
    refine ⟨bytes.drop record.length, _, isRecord, (List.take_append_drop _ bytes).symm, ?_⟩
    obtain ⟨number, wireType, offset, length⟩ := record
    obtain rfl : offset = 0 := start
    rw [List.length_take_of_le covered]

/-- There is no first record exactly when no prefix of the bytes is a record. -/
theorem first?_eq_none_iff (bytes : List UInt8) :
    first? bytes = none ↔ ∀ piece, IsRecord piece → ¬ piece.bytes <+: bytes := by
  constructor
  · rintro none piece isRecord ⟨rest, rfl⟩
    simp [first?, read_complete isRecord] at none
  · intro never
    cases found : first? bytes with
    | none => rfl
    | some record =>
      obtain ⟨_, _, isRecord⟩ := (first?_eq_some_iff bytes record).1 found
      exact absurd (List.take_prefix _ bytes) (never _ isRecord)

end Record

/-! ## Runs -/

/-- Bytes that start with a record start with that record only, and go on behind it in one way. -/
theorem IsRecord.append_inj {piece other : Piece} (record : IsRecord piece)
    (record' : IsRecord other) {rest rest' : List UInt8}
    (same : piece.bytes ++ rest = other.bytes ++ rest') : piece = other ∧ rest = rest' := by
  have first := Record.read_complete record 0 rest
  rw [same, Record.read_complete record'] at first
  simp only [Option.some.injEq, Prod.mk.injEq, Record.mk.injEq, true_and] at first
  obtain ⟨⟨number, wireType, length⟩, -⟩ := first
  obtain ⟨bytes, rests⟩ := List.append_inj same length.symm
  obtain ⟨n, w, front⟩ := piece
  obtain ⟨n', w', front'⟩ := other
  simp only [Piece.mk.injEq]
  exact ⟨⟨number.symm, wireType.symm, bytes⟩, rests⟩

theorem IsRecord.ne_nil {piece : Piece} (record : IsRecord piece) : piece.bytes ≠ [] := by
  intro empty
  have read := Record.read_complete record 0 []
  have := (Record.read_length read).2.2
  simp [empty] at this

/-- A scan reaches the end of the bytes exactly when they are records one after another. -/
theorem Scan.isComplete_iff (offset : Nat) (bytes : List UInt8) :
    (Scan.ofBytes offset bytes).isComplete = true ↔ IsRecords bytes := by
  fun_induction Scan.ofBytes offset bytes with
  | case1 => simp [isComplete, IsRecords.nil]
  | case2 offset b tail none =>
    simp only [isComplete, Option.isNone_some, Bool.false_eq_true, false_iff]
    rintro ⟨pieces, each, same⟩
    cases pieces with
    | nil => simp at same
    | cons piece pieces =>
      rw [same, List.flatMap_cons, Record.read_complete (each piece (by simp))] at none
      simp at none
  | case3 offset b tail record rest found ih =>
    obtain ⟨piece, isRecord, same, rfl⟩ := Record.read_sound found
    change (Scan.ofBytes _ rest).isComplete = true ↔ _
    rw [ih, same]
    constructor
    · exact fun records => records.cons isRecord
    · rintro ⟨pieces, each, split⟩
      cases pieces with
      | nil => exact absurd (List.append_eq_nil_iff.1 split).1 isRecord.ne_nil
      | cons first pieces =>
        obtain ⟨-, rests⟩ := isRecord.append_inj (each first (by simp)) split
        exact ⟨pieces, fun other member => each other (by simp [member]), rests⟩

/-- **The scanner accepts exactly the grammar.**  The first record of any bytes is the record that
stands at their front, there is none exactly when no prefix is a record, and a run is valid exactly
when it is records one after another. -/
theorem scanner_accepts_grammar (bytes : List UInt8) :
    (∀ record, Record.first? bytes = some record ↔
      record.offset = 0 ∧ record.length ≤ bytes.length ∧
        IsRecord ⟨record.number, record.wireType, bytes.take record.length⟩) ∧
    (Record.first? bytes = none ↔ ∀ piece, IsRecord piece → ¬ piece.bytes <+: bytes) ∧
    (Run.isValid ⟨bytes⟩ = true ↔ IsRecords bytes) :=
  ⟨Record.first?_eq_some_iff bytes, Record.first?_eq_none_iff bytes, Scan.isComplete_iff 0 bytes⟩

end DynamicMessage.Wire
