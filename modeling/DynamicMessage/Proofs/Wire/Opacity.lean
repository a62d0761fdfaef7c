/-
# Proofs.Wire.Opacity -- payloads are not looked into

A scan goes through bytes in strides (`Stride`): it reads a tag and passes over what the tag says,
with the open groups at hand.  A payload of four bytes, of eight, or of a counted length is passed
over without a look at it; all that matters is whether there are enough bytes.  `unreadAt` computes
the positions of such payloads, in records and in the groups inside them, also where the bytes break
off later.

Bytes of one length that differ at most at those positions are `Alike`.  A stride over the one is
the same stride over the other and leaves bytes that are alike again (`Alike.exists_read`), so
records are read alike and whole runs are scanned alike.  What stands in a payload (tags, ends of
groups, bytes that want another byte) never shows (`Run.payloads_opaque`): not in a record, not in
the place of a break, and not in what a store says to the bytes.
-/
import DynamicMessage.Proofs.Unknown.Acceptance
import DynamicMessage.Proofs.Wire.Cursor

namespace DynamicMessage.Wire

set_option autoImplicit false

/-! ## Strides -/

/-- How many of the bytes that a tag passes over it does not look at, the last ones of them. -/
def Tag.unread (tag : Tag) (payload : List UInt8) : Nat :=
  match tag.wireType with
  | .fixed64 => 8
  | .fixed32 => 4
  | .bytes =>
    match Varint.decode payload with
    | none => 0
    | some (count, _) => count.toNat
  | .varint | .startGroup | .endGroup => 0

/-- A step of a scan: one tag, and what it does to the open groups and to the bytes behind it. -/
structure Stride where
  tag : Tag
  /-- The groups that are open behind it, innermost first. -/
  groups : List FieldNumber
  /-- How many of the bytes it ends with were not looked at. -/
  unread : Nat
  /-- The bytes behind it. -/
  rest : List UInt8

/-- The stride at the front of the bytes, with groups open. -/
def Stride.read (groups : List FieldNumber) (bytes : List UInt8) : Option Stride :=
  match Tag.decode bytes with
  | none => none
  | some (tag, payload) =>
    (tag.pass groups payload).map fun (after, rest) => ⟨tag, after, tag.unread payload, rest⟩

/-- A stride moves forward. -/
theorem Stride.read_length {groups : List FieldNumber} {bytes : List UInt8} {stride : Stride}
    (found : read groups bytes = some stride) : stride.rest.length < bytes.length := by
  unfold read at found
  split at found
  · simp at found
  · rename_i opened
    obtain ⟨⟨after, rest⟩, passed, rfl⟩ := Option.map_eq_some_iff.1 found
    have := Tag.decode_length opened
    have := Tag.pass_length passed
    show rest.length < bytes.length
    omega

/-- Whether a scan with groups open passes over the byte at a position without a look at it. -/
def unreadAt (groups : List FieldNumber) (bytes : List UInt8) (position : Nat) : Bool :=
  match _found : Stride.read groups bytes with
  | none => false
  | some stride =>
    let passed := bytes.length - stride.rest.length
    if position < passed then passed ≤ position + stride.unread
    else unreadAt stride.groups stride.rest (position - passed)
termination_by bytes.length
decreasing_by exact Stride.read_length _found

section

variable {groups after : List FieldNumber} {bytes other : List UInt8} {stride : Stride}

/-- What a tag passes over ends with what it does not look at, and other bytes in their place are
passed over as well. -/
theorem Tag.Passes.split {tag : Tag} {front : List UInt8} (passes : tag.Passes groups after front) :
    ∃ seen unseen, front = seen ++ unseen ∧ ∀ other : List UInt8, other.length = unseen.length →
      tag.Passes groups after (seen ++ other) ∧
        ∀ rest, tag.unread (seen ++ other ++ rest) = unseen.length := by
  cases passes with
  | varint type varint =>
    refine ⟨front, [], by simp, fun other none => ?_⟩
    obtain rfl := List.length_eq_zero_iff.1 none
    exact ⟨by simpa using .varint type varint, fun rest => by simp [unread, type]⟩
  | fixed64 type eight =>
    refine ⟨[], front, rfl, fun other same => ⟨.fixed64 type (same.trans eight), fun rest => ?_⟩⟩
    simp [unread, type, eight]
  | fixed32 type four =>
    refine ⟨[], front, rfl, fun other same => ⟨.fixed32 type (same.trans four), fun rest => ?_⟩⟩
    simp [unread, type, four]
  | @bytes count payload type counted =>
    refine ⟨count, payload, rfl, fun other same => ⟨.bytes type (same ▸ counted), fun rest => ?_⟩⟩
    have word : (UInt64.ofNat payload.length).toNat = payload.length :=
      UInt64.toNat_ofNat_of_lt counted.lt
    simp only [unread, type, List.append_assoc, counted.decode, word]
  | opens type =>
    refine ⟨[], [], rfl, fun other none => ?_⟩
    obtain rfl := List.length_eq_zero_iff.1 none
    exact ⟨.opens type, fun rest => by simp [unread, type]⟩
  | closes type innermost =>
    refine ⟨[], [], rfl, fun other none => ?_⟩
    obtain rfl := List.length_eq_zero_iff.1 none
    exact ⟨.closes type innermost, fun rest => by simp [unread, type]⟩

/-- A stride looks at the bytes in front of those it does not look at, and is the same whatever
stands in their place and behind them. -/
theorem Stride.read_split (found : read groups bytes = some stride) :
    ∃ seen unseen, bytes = seen ++ unseen ++ stride.rest ∧ unseen.length = stride.unread ∧
      ∀ other rest, other.length = stride.unread →
        read groups (seen ++ other ++ rest) = some { stride with rest } := by
  unfold read at found
  split at found
  · simp at found
  · rename_i tag payload opened
    obtain ⟨⟨after, rest⟩, passed, rfl⟩ := Option.map_eq_some_iff.1 found
    obtain ⟨head, rfl, opens⟩ := (Tag.decode_eq_some_iff _ _ _).1 opened
    obtain ⟨front, rfl, passes⟩ := (Tag.pass_eq_some_iff _ _ _ _ _).1 passed
    obtain ⟨seen, unseen, rfl, exchanged⟩ := passes.split
    have count : tag.unread (seen ++ unseen ++ rest) = unseen.length :=
      (exchanged unseen rfl).2 rest
    refine ⟨head ++ seen, unseen, by simp, count.symm, fun other rest' same => ?_⟩
    obtain ⟨passes', count'⟩ := exchanged other (same.trans count)
    have passed' : tag.pass groups (seen ++ other ++ rest') = some (after, rest') :=
      (Tag.pass_eq_some_iff _ _ _ _ _).2 ⟨_, rfl, passes'⟩
    have split : head ++ seen ++ other ++ rest' = head ++ (seen ++ other ++ rest') := by simp
    rw [read, split, opens.decode]
    simp only [passed', Option.map_some, count', count]

theorem unreadAt_of_read (found : Stride.read groups bytes = some stride) (position : Nat) :
    unreadAt groups bytes position =
      if position < bytes.length - stride.rest.length then
        decide (bytes.length - stride.rest.length ≤ position + stride.unread)
      else unreadAt stride.groups stride.rest (position - (bytes.length - stride.rest.length)) := by
  rw [unreadAt]
  split <;> simp_all

theorem unreadAt_of_stuck (stuck : Stride.read groups bytes = none) (position : Nat) :
    unreadAt groups bytes position = false := by
  rw [unreadAt]
  split <;> simp_all

/-! ## Bytes that are read alike -/

/-- Bytes of one length that differ at most where a scan of the first ones does not look. -/
structure Alike (groups : List FieldNumber) (bytes other : List UInt8) : Prop where
  length_eq : other.length = bytes.length
  agree : ∀ position, unreadAt groups bytes position = false → other[position]? = bytes[position]?

/-- Where a scan finds no stride it has looked at everything. -/
theorem Alike.eq_of_stuck (alike : Alike groups bytes other)
    (stuck : Stride.read groups bytes = none) : other = bytes :=
  List.ext_getElem? fun position => alike.agree position (unreadAt_of_stuck stuck position)

/-- A stride over bytes that are alike is the same and leaves bytes that are alike. -/
theorem Alike.exists_read (alike : Alike groups bytes other)
    (found : Stride.read groups bytes = some stride) :
    ∃ rest, Stride.read groups other = some { stride with rest } ∧
      Alike stride.groups stride.rest rest := by
  obtain ⟨seen, unseen, same, count, exchanged⟩ := Stride.read_split found
  have total : bytes.length = seen.length + stride.unread + stride.rest.length := by
    rw [same, List.length_append, List.length_append, count]
  have passed : bytes.length - stride.rest.length = seen.length + stride.unread := by omega
  have looked := unreadAt_of_read found
  rw [passed] at looked
  -- What is looked at stands at the front of both.
  have front : other.take seen.length = seen := by
    apply List.ext_getElem?
    intro position
    by_cases inside : position < seen.length
    · have shown : unreadAt groups bytes position = false := by
        rw [looked, if_pos (by omega), decide_eq_false_iff_not]
        omega
      rw [List.getElem?_take_of_lt inside, alike.agree position shown, same, List.append_assoc,
        List.getElem?_append_left inside]
    · rw [List.getElem?_eq_none (by rw [List.length_take]; omega),
        List.getElem?_eq_none (Nat.not_lt.1 inside)]
  obtain ⟨behind, rfl⟩ := List.prefix_iff_eq_take.2 front.symm
  have length := alike.length_eq
  rw [List.length_append] at length
  refine ⟨behind.drop stride.unread, ?_, ?_, ?_⟩
  · have read := exchanged (behind.take stride.unread) (behind.drop stride.unread)
      (List.length_take_of_le (by omega))
    rwa [List.append_assoc, List.take_append_drop] at read
  · rw [List.length_drop]
    omega
  · intro position shown
    have far : unreadAt groups bytes (seen.length + stride.unread + position) = false := by
      rw [looked, if_neg (by omega), Nat.add_sub_cancel_left]
      exact shown
    have agree := alike.agree _ far
    rw [same, ← count, ← List.length_append, List.getElem?_append_right (Nat.le_add_right _ _),
      Nat.add_sub_cancel_left, List.length_append, Nat.add_assoc,
      List.getElem?_append_right (Nat.le_add_right _ _), Nat.add_sub_cancel_left, count] at agree
    rw [List.getElem?_drop]
    exact agree

end

/-! ## The scan goes in strides -/

/-- A payload goes on behind what its tag passes over, if it passes. -/
theorem skipPayload_eq (groups : List FieldNumber) (tag : Tag) (payload : List UInt8) :
    skipPayload groups tag payload =
      (tag.pass groups payload).bind fun (after, rest) => resume after rest := by
  cases passed : tag.pass groups payload with
  | none => exact skipPayload_of_pass_eq_none passed
  | some behind => exact skipPayload_of_pass passed

/-- With a group open, reading goes on in strides. -/
theorem resume_cons (innermost : FieldNumber) (outer : List FieldNumber) (bytes : List UInt8) :
    resume (innermost :: outer) bytes = (Stride.read (innermost :: outer) bytes).bind fun stride =>
      resume stride.groups stride.rest := by
  rw [resume, Stride.read]
  cases Tag.decode bytes with
  | none => rfl
  | some opened =>
    simp only [skipPayload_eq, Option.bind_map]
    rfl

/-- A record is a stride with no group open, and then strides until none is. -/
theorem Record.read_eq (offset : Nat) (bytes : List UInt8) :
    read offset bytes = (Stride.read [] bytes).bind fun stride =>
      (resume stride.groups stride.rest).map fun rest =>
        (⟨stride.tag.number, stride.tag.wireType, offset, bytes.length - rest.length⟩, rest) := by
  rw [read, Stride.read]
  cases Tag.decode bytes with
  | none => rfl
  | some opened =>
    obtain ⟨tag, payload⟩ := opened
    by_cases ends : tag.wireType = .endGroup
    · have stuck : tag.pass [] payload = none := by simp [Tag.pass, ends]
      simp [ends, stuck]
    · simp only [ends, ↓reduceIte, skipPayload_eq, Option.map_bind, Option.bind_map]
      rfl

/-! ## Whole scans -/

/-- Bytes that are alike are read on alike: neither closes the open groups, or both do and leave
bytes that are alike. -/
theorem Alike.resume {groups : List FieldNumber} {bytes other : List UInt8}
    (alike : Alike groups bytes other) :
    (resume groups bytes = none ∧ resume groups other = none) ∨
      ∃ rest rest', resume groups bytes = some rest ∧ resume groups other = some rest' ∧
        Alike [] rest rest' := by
  cases groups with
  | nil => exact .inr ⟨bytes, other, rfl, rfl, alike⟩
  | cons innermost outer =>
    rw [resume_cons, resume_cons]
    cases found : Stride.read (innermost :: outer) bytes with
    | none =>
      rw [alike.eq_of_stuck found, found]
      exact .inl ⟨rfl, rfl⟩
    | some stride =>
      obtain ⟨rest, found', behind⟩ := alike.exists_read found
      rw [found']
      exact Alike.resume behind
termination_by bytes.length
decreasing_by exact Stride.read_length found

/-- The same records are read at the front of bytes that are alike. -/
theorem Alike.read {bytes other : List UInt8} (alike : Alike [] bytes other) (offset : Nat) :
    (Record.read offset bytes = none ∧ Record.read offset other = none) ∨
      ∃ record rest rest', Record.read offset bytes = some (record, rest) ∧
        Record.read offset other = some (record, rest') ∧ Alike [] rest rest' := by
  rw [Record.read_eq, Record.read_eq, alike.length_eq]
  cases found : Stride.read [] bytes with
  | none =>
    rw [alike.eq_of_stuck found, found]
    exact .inl ⟨rfl, rfl⟩
  | some stride =>
    obtain ⟨rest, found', behind⟩ := alike.exists_read found
    rw [found']
    rcases behind.resume with ⟨unended, unended'⟩ | ⟨left, left', ended, ended', alike⟩
    · exact .inl ⟨by simp [unended], by simp [unended']⟩
    · refine .inr ⟨⟨stride.tag.number, stride.tag.wireType, offset, bytes.length - left.length⟩,
        left, left', by simp [ended], ?_, alike⟩
      simp [ended', alike.length_eq]

/-- Bytes that are alike are scanned alike. -/
theorem Alike.scan {bytes other : List UInt8} (alike : Alike [] bytes other) (offset : Nat) :
    Scan.ofBytes offset other = Scan.ofBytes offset bytes := by
  fun_induction Scan.ofBytes offset bytes generalizing other with
  | case1 offset =>
    obtain rfl := List.length_eq_zero_iff.1 alike.length_eq
    rw [Scan.ofBytes]
  | case2 offset b tail broken =>
    rcases alike.read offset with ⟨-, broken'⟩ | ⟨record, rest, rest', found, -, -⟩
    · have nonempty : other ≠ [] := by
        rintro rfl
        simpa using alike.length_eq
      exact Scan.ofBytes_of_read_eq_none nonempty broken'
    · rw [broken] at found
      simp at found
  | case3 offset b tail record rest found ih =>
    rcases alike.read offset with ⟨broken, -⟩ | ⟨record', rest₁, rest', found₁, found', behind⟩
    · rw [found] at broken
      simp at broken
    · rw [found] at found₁
      simp only [Option.some.injEq, Prod.mk.injEq] at found₁
      obtain ⟨rfl, rfl⟩ := found₁
      rw [Scan.ofBytes_of_read found', ih behind]

/-- What is not looked at in bytes is not looked at in bytes that are alike, and the other way
round. -/
theorem Alike.unreadAt_eq {groups : List FieldNumber} {bytes other : List UInt8}
    (alike : Alike groups bytes other) (position : Nat) :
    unreadAt groups other position = unreadAt groups bytes position := by
  cases found : Stride.read groups bytes with
  | none => rw [alike.eq_of_stuck found]
  | some stride =>
    obtain ⟨rest, found', behind⟩ := alike.exists_read found
    rw [unreadAt_of_read found, unreadAt_of_read found', alike.length_eq, behind.length_eq,
      Alike.unreadAt_eq behind]
termination_by bytes.length
decreasing_by exact Stride.read_length found

namespace Run

/-- Payloads are opaque.  Take any bytes, and others of the same length that differ from them at
most where their scan passes over a payload of four bytes, of eight, or of a counted length, in
groups of any depth and also in front of a break.  Then the same records are found in both, with the
same numbers, wire types, offsets and lengths, and the same break, item by item; both are valid or
neither is; a store answers the same to both under any number; and what is not looked at in the one
is not looked at in the other. -/
theorem payloads_opaque {run other : Run} (sameLength : other.length = run.length)
    (differ : ∀ position, unreadAt [] run.bytes position = false →
      other.bytes[position]? = run.bytes[position]?) :
    other.scan = run.scan ∧
      (∀ count, (Walk.start other).item count = (Walk.start run).item count) ∧
      other.isValid = run.isValid ∧
      (∀ (u : UnknownStore) (n : FieldNumber), (u.set n other).result = (u.set n run).result ∧
        (u.append n other).result = (u.append n run).result) ∧
      ∀ position, unreadAt [] other.bytes position = unreadAt [] run.bytes position := by
  have alike : Alike [] run.bytes other.bytes := ⟨sameLength, differ⟩
  have same : other.scan = run.scan := alike.scan 0
  refine ⟨same, fun count => ?_, ?_, fun u n => ⟨?_, ?_⟩, alike.unreadAt_eq⟩
  · rw [Walk.item_start, Walk.item_start, same]
  · rw [isValid, isValid, same]
  · exact UnknownStore.Call.result_eq_of_scan (.set n run) (.set n other) rfl same u
  · exact UnknownStore.Call.result_eq_of_scan (.append n run) (.append n other) rfl same u

/-- A group with a counted payload, four bytes, and a group with eight bytes inside; then a group
that breaks off in a tag behind a counted payload. -/
def plain : Run :=
  ⟨[0x0B, 0x12, 0x03, 0x61, 0x62, 0x63, 0x0D, 0x01, 0x02, 0x03, 0x04,
    0x13, 0x09, 0x01, 0x02, 0x03, 0x04, 0x05, 0x06, 0x07, 0x08, 0x14, 0x0C,
    0x0B, 0x12, 0x02, 0x68, 0x69, 0x80]⟩

/-- The plain run with ends of groups, tags and unended varints in its payloads. -/
def disguised : Run :=
  ⟨[0x0B, 0x12, 0x03, 0x0C, 0x0C, 0x80, 0x0D, 0x0C, 0xFF, 0xFF, 0xFF,
    0x13, 0x09, 0x14, 0x14, 0x0C, 0x0B, 0x80, 0x80, 0x80, 0x80, 0x14, 0x0C,
    0x0B, 0x12, 0x02, 0x0C, 0x0C, 0x80]⟩

/-- The runs differ in the four payloads only.  Both have one record and break behind it, and a
store refuses both for that. -/
theorem disguised_scanned_as_plain :
    (List.range 29).filter (unreadAt [] plain.bytes) =
        [3, 4, 5, 7, 8, 9, 10, 13, 14, 15, 16, 17, 18, 19, 20, 26, 27] ∧
      disguised.length = plain.length ∧
      (∀ position, unreadAt [] plain.bytes position = false →
        disguised.bytes[position]? = plain.bytes[position]?) ∧
      disguised.bytes ≠ plain.bytes ∧
      disguised.scan = ⟨[⟨1, .startGroup, 0, 23⟩], some 23⟩ ∧
      (Walk.start disguised).item 1 = (Walk.start plain).item 1 ∧
      (UnknownStore.set { isSupported := true } 1 disguised).result =
        .error (.malformedWire 1 23) := by
  have differ : ∀ position, unreadAt [] plain.bytes position = false →
      disguised.bytes[position]? = plain.bytes[position]? := by
    intro position shown
    by_cases inside : position < 29
    · have within : ∀ position < 29, unreadAt [] plain.bytes position = false →
          disguised.bytes[position]? = plain.bytes[position]? := by decide +kernel
      exact within position inside shown
    · have outside : 29 ≤ position := Nat.not_lt.1 inside
      rw [List.getElem?_eq_none outside, List.getElem?_eq_none outside]
  have found : plain.scan = ⟨[⟨1, .startGroup, 0, 23⟩], some 23⟩ := by decide +kernel
  have same : disguised.length = plain.length := rfl
  obtain ⟨scan, items, -, answers, -⟩ := payloads_opaque same differ
  refine ⟨by decide +kernel, same, differ, by decide, scan.trans found, items 1,
    (answers _ 1).1.trans ?_⟩
  simp only [UnknownStore.set, found]
  rfl

end Run

end DynamicMessage.Wire
