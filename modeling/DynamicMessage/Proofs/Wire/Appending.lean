/-
# Proofs.Wire.Appending -- what the appenders write, the scanner finds

An appender writes a tag and a payload behind a run, without a look at either.  With a number in
range and, for a group, with complete records inside, the two are a record of the grammar
(`Payload.isRecord`), so behind a valid run a scan finds one record more, where the run ended and as
long as the run has grown (`Run.scan_append_piece`), and tag and payload read back from there.  With
any other number the tag is no tag, and the scan breaks where the run ended.

Appends in a row, with groups that were appended to in the same way inside, are a tree of entries
(`Entry`).  By induction on the tree they leave a valid run, which lists them in order.
-/
import DynamicMessage.Proofs.Wire.Concatenation

namespace DynamicMessage.Wire

set_option autoImplicit false

/-! ## One record -/

/-- What is appended under a number: a value of one of the five wire types that open a record. -/
inductive Payload where
  | varint (value : UInt64)
  | fixed64 (value : UInt64)
  | bytes (data : List UInt8)
  | group (inner : Run)
  | fixed32 (value : UInt32)

/-- Appends a payload with its own appender. -/
def Run.appendPayload (run : Run) (number : FieldNumber) : Payload → Run
  | .varint value => run.appendVarint number value
  | .fixed64 value => run.appendFixed64 number value
  | .bytes data => run.appendBytes number data
  | .group inner => run.appendGroup number inner
  | .fixed32 value => run.appendFixed32 number value

/-- The number that bytes spell in base 256, least significant first. -/
def base256 : List UInt8 → Nat
  | [] => 0
  | b :: rest => b.toNat + 256 * base256 rest

namespace Payload

/-- The wire type of the payload's record. -/
def wireType : Payload → WireType
  | .varint _ => .varint
  | .fixed64 _ => .fixed64
  | .bytes _ => .bytes
  | .group _ => .startGroup
  | .fixed32 _ => .fixed32

/-- What is written behind the tag. -/
def encode (number : FieldNumber) : Payload → List UInt8
  | .varint value => Varint.encode value
  | .fixed64 value => Run.fixed64 value
  | .bytes data => Varint.encode (UInt64.ofNat data.length) ++ data
  | .group inner => inner.bytes ++ Tag.encode ⟨number, .endGroup⟩
  | .fixed32 value => Run.fixed32 value

/-- The record that is written under a number. -/
def piece (number : FieldNumber) (payload : Payload) : Piece :=
  ⟨number, payload.wireType, Tag.encode ⟨number, payload.wireType⟩ ++ payload.encode number⟩

/-- The payload can be a record's: the length of data is a word, as that of all bytes in memory, and
a group has complete records inside. -/
def Sound : Payload → Prop
  | .bytes data => data.length < UInt64.size
  | .group inner => inner.isValid = true
  | _ => True

/-- The bytes behind a tag of `number`, to the end, read back as the payload: a varint of the value,
the value's bytes in order, the length and then the data, or the inner run and then the end of the
group. -/
def ReadsBack (number : FieldNumber) (bytes : List UInt8) : Payload → Prop
  | .varint value => Varint.decode bytes = some (value, [])
  | .fixed64 value => bytes.length = 8 ∧ base256 bytes = value.toNat
  | .bytes data => ∃ count, Varint.decode bytes = some (count, data) ∧ count.toNat = data.length
  | .group inner => ∃ last, bytes = inner.bytes ++ last ∧
      Tag.decode last = some (⟨number, .endGroup⟩, [])
  | .fixed32 value => bytes.length = 4 ∧ base256 bytes = value.toNat

end Payload

theorem base256_fixed32 (value : UInt32) : base256 (Run.fixed32 value) = value.toNat := by
  have := value.toNat_lt
  simp only [Run.fixed32, base256, UInt32.toNat_toUInt8, UInt32.toNat_shiftRight,
    UInt32.reduceToNat, Nat.reduceMod, Nat.shiftRight_eq_div_pow, Nat.reducePow]
  omega

theorem base256_fixed64 (value : UInt64) : base256 (Run.fixed64 value) = value.toNat := by
  have := value.toNat_lt
  simp only [Run.fixed64, base256, UInt64.toNat_toUInt8, UInt64.toNat_shiftRight,
    UInt64.reduceToNat, Nat.reduceMod, Nat.shiftRight_eq_div_pow, Nat.reducePow]
  omega

namespace Payload

/-- With a number in range, what is written is a record of the grammar. -/
theorem isRecord {number : FieldNumber} (range : number.InRange) {payload : Payload}
    (sound : payload.Sound) : IsRecord (payload.piece number) := by
  have opens : ∀ wireType, IsTag (Tag.encode ⟨number, wireType⟩) ⟨number, wireType⟩ :=
    fun _ => Tag.isTag_encode range
  cases payload with
  | varint value => exact .varint (opens _) (Varint.isVarint_encode value)
  | fixed64 value => exact .fixed64 (opens _) rfl
  | fixed32 value => exact .fixed32 (opens _) rfl
  | bytes data =>
    have counted := Varint.isVarint_encode (UInt64.ofNat data.length)
    rw [UInt64.toNat_ofNat_of_lt' sound] at counted
    exact .bytes (opens _) counted
  | group inner =>
    obtain ⟨body, each, same⟩ := (Scan.isComplete_iff 0 inner.bytes).1 sound
    simp only [piece, wireType, encode, same]
    exact .group (opens _) each (opens _)

/-- What is written reads back. -/
theorem readsBack {number : FieldNumber} (range : number.InRange) {payload : Payload}
    (sound : payload.Sound) : payload.ReadsBack number (payload.encode number) := by
  cases payload with
  | varint value =>
    have found := Varint.decode_encode value []
    rwa [List.append_nil] at found
  | fixed64 value => exact ⟨rfl, base256_fixed64 value⟩
  | fixed32 value => exact ⟨rfl, base256_fixed32 value⟩
  | bytes data => exact ⟨_, Varint.decode_encode _ data, UInt64.toNat_ofNat_of_lt' sound⟩
  | group inner =>
    have found := Tag.decode_encode ⟨number, .endGroup⟩ []
    rw [if_pos range, List.append_nil] at found
    exact ⟨_, rfl, found⟩

end Payload

namespace Run

/-- An appender puts a tag and the payload behind the run. -/
theorem appendPayload_eq (run : Run) (number : FieldNumber) (payload : Payload) :
    run.appendPayload number payload = run.append (payload.piece number).bytes := by
  cases payload <;> simp [appendPayload, Payload.piece, Payload.encode, Payload.wireType,
    appendVarint, appendFixed64, appendBytes, appendGroup, appendFixed32]

@[simp] theorem length_append (run : Run) (records : List UInt8) :
    (run.append records).length = run.length + records.length := List.length_append

/-- A record alone is a run of one record. -/
theorem scan_piece {piece : Piece} (record : IsRecord piece) :
    scan ⟨piece.bytes⟩ = ⟨[⟨piece.number, piece.wireType, 0, piece.bytes.length⟩], none⟩ := by
  have found := Record.read_complete record 0 []
  rw [List.append_nil] at found
  rw [scan, Scan.ofBytes_of_read found, Scan.ofBytes]
  rfl

/-- Behind a valid run a record is found where the run ended. -/
theorem scan_append_piece {run : Run} (valid : run.isValid = true) {piece : Piece}
    (record : IsRecord piece) :
    (run.append piece.bytes).scan = ⟨run.scan.records ++
      [⟨piece.number, piece.wireType, run.length, piece.bytes.length⟩], none⟩ := by
  rw [scan_append valid ⟨piece.bytes⟩, scan_piece record]
  simp [Scan.followedBy, Scan.later, Record.later]

/-- A tag whose number is out of range breaks a run at its start. -/
theorem scan_of_not_inRange {tag : Tag} (outside : ¬ tag.number.InRange) (more : List UInt8) :
    scan ⟨tag.encode ++ more⟩ = ⟨[], some 0⟩ := by
  have unread : Tag.decode (tag.encode ++ more) = none := by
    rw [Tag.decode_encode, if_neg outside]
  have broken : Record.read 0 (tag.encode ++ more) = none := by
    rw [Record.read, unread]
  have nonempty := List.append_ne_nil_of_left_ne_nil tag.encode_ne_nil more
  exact Scan.ofBytes_of_read_eq_none nonempty broken

/-- Behind a valid run a tag whose number is out of range breaks the run where it ended. -/
theorem scan_append_of_not_inRange {run : Run} (valid : run.isValid = true) {tag : Tag}
    (outside : ¬ tag.number.InRange) (more : List UInt8) :
    (run.append (tag.encode ++ more)).scan = ⟨run.scan.records, some run.length⟩ := by
  rw [scan_append valid ⟨tag.encode ++ more⟩, scan_of_not_inRange outside]
  simp [Scan.followedBy, Scan.later]

end Run

/-! ## Appends in a row -/

/-- A record to append: a payload, or a group of records that are appended one after another. -/
inductive Entry where
  | single (number : FieldNumber) (payload : Payload)
  | group (number : FieldNumber) (inner : List Entry)

mutual

/-- Appends an entry, for a group after its own entries were appended to a new run. -/
def Run.appendEntry (run : Run) : Entry → Run
  | .single number payload => run.appendPayload number payload
  | .group number inner => run.appendGroup number (Run.appendEntries .empty inner)

/-- Appends entries one after another. -/
def Run.appendEntries (run : Run) : List Entry → Run
  | [] => run
  | entry :: rest => Run.appendEntries (Run.appendEntry run entry) rest

end

namespace Entry

/-- The number the entry is appended under. -/
def number : Entry → FieldNumber
  | .single number _ | .group number _ => number

/-- What is appended under the number. -/
def payload : Entry → Payload
  | .single _ payload => payload
  | .group _ inner => .group (Run.appendEntries .empty inner)

/-- The entry's number and the numbers of all entries inside it are in range, and each payload can
be a record's. -/
inductive InRange : Entry → Prop where
  | single {n : FieldNumber} {payload : Payload} (range : n.InRange) (sound : payload.Sound) :
      InRange (.single n payload)
  | group {n : FieldNumber} {entries : List Entry} (range : n.InRange)
      (inner : ∀ entry ∈ entries, InRange entry) : InRange (.group n entries)

/-- The header of the entry's record where it starts at `offset`. -/
def record (offset : Nat) (entry : Entry) : Record :=
  ⟨entry.number, entry.payload.wireType, offset, (Run.empty.appendEntry entry).length⟩

/-- The headers of entries that are appended from `offset` on: one for each, in order, and each
where the one before it ends. -/
def listing : Nat → List Entry → List Record
  | _, [] => []
  | offset, entry :: rest =>
    entry.record offset :: listing (offset + (entry.record offset).length) rest

end Entry

namespace Run

theorem appendEntry_eq (run : Run) (entry : Entry) :
    run.appendEntry entry = run.append (entry.payload.piece entry.number).bytes := by
  rw [← appendPayload_eq]
  cases entry <;> simp only [appendEntry, appendPayload, Entry.payload, Entry.number]

theorem length_appendEntry (run : Run) (entry : Entry) (offset : Nat) :
    (run.appendEntry entry).length = run.length + (entry.record offset).length := by
  simp [Entry.record, appendEntry_eq, empty, length]

/-- Behind a valid run an entry is found where the run ended. -/
theorem scan_appendEntry {run : Run} (valid : run.isValid = true) {entry : Entry}
    (range : entry.number.InRange) (sound : entry.payload.Sound) :
    (run.appendEntry entry).scan =
      ⟨run.scan.records ++ [entry.record run.length], none⟩ := by
  rw [appendEntry_eq, scan_append_piece valid (Payload.isRecord range sound)]
  simp [Entry.record, appendEntry_eq, empty, length, Payload.piece]

/-- Behind a valid run entries are found in order. -/
theorem scan_appendEntries {run : Run} (valid : run.isValid = true) {entries : List Entry}
    (each : ∀ entry ∈ entries, entry.number.InRange ∧ entry.payload.Sound) :
    (run.appendEntries entries).scan =
      ⟨run.scan.records ++ Entry.listing run.length entries, none⟩ := by
  induction entries generalizing run with
  | nil =>
    have complete : run.scan.brokenAt = none := by simpa [isValid, Scan.isComplete] using valid
    simp [appendEntries, Entry.listing, ← complete]
  | cons entry rest ih =>
    obtain ⟨range, sound⟩ := each entry (by simp)
    have found := scan_appendEntry valid range sound
    have valid' : (run.appendEntry entry).isValid = true := by
      rw [isValid, found]
      rfl
    have later := ih valid' fun other member => each other (by simp [member])
    rw [appendEntries, later, found, length_appendEntry run entry run.length, Entry.listing]
    simp

end Run

/-- Each entry in range is a record of the grammar.  By induction on the tree: the entries of a
group are found one after another, so that the group has complete records inside. -/
theorem Entry.InRange.sound {entry : Entry} (range : entry.InRange) :
    entry.number.InRange ∧ entry.payload.Sound := by
  induction range with
  | single range sound => exact ⟨range, sound⟩
  | @group n entries range inner ih =>
    refine ⟨range, ?_⟩
    have empty : Run.empty.isValid = true := by decide +kernel
    have found := Run.scan_appendEntries empty ih
    show (Run.appendEntries .empty entries).isValid = true
    rw [Run.isValid, found]
    rfl

namespace Run

/-- What is appended is found.  Behind a valid run, with a number in range, the records of the run
are followed by one more, of the number and the payload's wire type, which starts where the run
ended and is as long as the run has grown; from there the tag and the payload read back.  A number
out of range breaks the run where it ended.  So appends in a row with numbers in range, nested in
groups as deep as may be, leave a valid run that lists them in order. -/
theorem appended_records_found (run : Run) (valid : run.isValid = true) :
    (∀ (number : FieldNumber) (payload : Payload),
      (number.InRange → payload.Sound → ∃ record behind,
        (run.appendPayload number payload).scan = ⟨run.scan.records ++ [record], none⟩ ∧
        record.number = number ∧ record.wireType = payload.wireType ∧
        record.offset = run.length ∧
        run.length + record.length = (run.appendPayload number payload).length ∧
        Tag.decode ((run.appendPayload number payload).bytes.drop record.offset) =
          some (⟨number, payload.wireType⟩, behind) ∧
        payload.ReadsBack number behind) ∧
      (¬ number.InRange →
        (run.appendPayload number payload).scan = ⟨run.scan.records, some run.length⟩)) ∧
    ∀ entries : List Entry, (∀ entry ∈ entries, entry.InRange) →
      (run.appendEntries entries).isValid = true ∧
        (run.appendEntries entries).scan.records =
          run.scan.records ++ Entry.listing run.length entries := by
  refine ⟨fun number payload => ⟨fun range sound => ?_, fun outside => ?_⟩, fun entries each => ?_⟩
  · have written := appendPayload_eq run number payload
    have found := scan_append_piece valid (Payload.isRecord range sound)
    have opened : Tag.decode ((run.append (payload.piece number).bytes).bytes.drop run.length) =
        some (⟨number, payload.wireType⟩, payload.encode number) := by
      rw [bytes_append, length, List.drop_left, Payload.piece, Tag.decode_encode, if_pos range]
    rw [written]
    exact ⟨_, payload.encode number, found, rfl, rfl, rfl, (length_append _ _).symm, opened,
      Payload.readsBack range sound⟩
  · have untagged : ¬ (Tag.mk number payload.wireType).number.InRange := outside
    rw [appendPayload_eq]
    exact scan_append_of_not_inRange valid untagged _
  · have found := scan_appendEntries valid fun entry member => (each entry member).sound
    rw [isValid, found]
    exact ⟨rfl, rfl⟩

/-- Behind one sample, another one in a group of the largest number is found and reads back; a group
of the next number breaks the run, and entries with two groups inside each other are listed in
order. -/
theorem appended_to_sample :
    (sample 9).isValid = true ∧ FieldNumber.largest.InRange ∧ (sample 7).isValid = true ∧
      (∃ record behind,
        ((sample 9).appendGroup FieldNumber.largest (sample 7)).scan =
          ⟨(sample 9).scan.records ++ [record], none⟩ ∧ record.offset = (sample 9).length ∧
        Payload.ReadsBack FieldNumber.largest behind (.group (sample 7))) ∧
      ((sample 9).appendGroup (FieldNumber.largest + 1) (sample 7)).scan =
        ⟨(sample 9).scan.records, some (sample 9).length⟩ ∧
      ((sample 9).appendEntries [.group 3 [.single 1 (.varint 300),
        .group 2 [.single 4 (.bytes [0x0C])]], .single 5 (.fixed32 7)]).isValid = true := by
  have valid : (sample 9).isValid = true := by decide +kernel
  have inner : (sample 7).isValid = true := by decide +kernel
  have largest : FieldNumber.largest.InRange := by decide
  have found := appended_records_found (sample 9) valid
  obtain ⟨record, behind, listed, -, -, start, -, -, readsBack⟩ :=
    (found.1 FieldNumber.largest (.group (sample 7))).1 largest inner
  have outside : ¬ (FieldNumber.largest + 1).InRange := by decide
  have short : [(0x0C : UInt8)].length < UInt64.size := by decide
  have inside : Entry.InRange (.group 2 [.single 4 (.bytes [0x0C])]) :=
    .group (by decide) (List.forall_mem_singleton.2 (.single (by decide) short))
  have around :
      Entry.InRange (.group 3 [.single 1 (.varint 300), .group 2 [.single 4 (.bytes [0x0C])]]) :=
    .group (by decide)
      (List.forall_mem_cons.2 ⟨.single (by decide) trivial, List.forall_mem_singleton.2 inside⟩)
  have last : Entry.InRange (.single 5 (.fixed32 7)) := .single (by decide) trivial
  have entries := List.forall_mem_cons.2 ⟨around, List.forall_mem_singleton.2 last⟩
  exact ⟨valid, largest, inner, ⟨record, behind, listed, start, readsBack⟩,
    (found.1 (FieldNumber.largest + 1) (.group (sample 7))).2 outside, (found.2 _ entries).1⟩

end Run

end DynamicMessage.Wire
