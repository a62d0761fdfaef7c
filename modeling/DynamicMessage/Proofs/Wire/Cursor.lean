/-
# Proofs.Wire.Cursor -- the scanner by positions

The readers of `Wire.Varint`, `Wire.Tag` and `Wire.Record` take the bytes that are left, so they
have no position that could run past the end.  A `Cursor` reads the same bytes by position: it takes
a byte where there is one, it skips bytes where there are enough, and it stops where a reader fails.
It keeps the positions it has left, so that a statement can be about all of them.

`Follows` says what each of its readers has to do with the reader of the bytes that are left: they
find the same, they leave the same bytes, and no position is behind the end, on success and on
failure.  A `Walk` asks for the records one by one, and `Walk.item_start` says that it hands out the
scan of the run, item after item, and then nothing any more.
-/
import DynamicMessage.Error
import DynamicMessage.Proofs.Wire.Concatenation

namespace DynamicMessage.Wire

set_option autoImplicit false

/-- A position in some bytes, and the positions that were left on the way to it, the last one
first. -/
structure Cursor where
  bytes : List UInt8
  position : Nat
  trail : List Nat

namespace Cursor

/-- The cursor before all bytes. -/
def start (bytes : List UInt8) : Cursor := ⟨bytes, 0, []⟩

/-- The bytes that are left. -/
def rest (c : Cursor) : List UInt8 := c.bytes.drop c.position

/-- The number of bytes that are left. -/
def remaining (c : Cursor) : Nat := c.bytes.length - c.position

/-- Every position the cursor has stood at. -/
def positions (c : Cursor) : List Nat := c.position :: c.trail

/-- No position is behind the end of the bytes. -/
def Within (c : Cursor) : Prop := ∀ position ∈ c.positions, position ≤ c.bytes.length

/-- The cursor `count` bytes further on. -/
def advance (count : Nat) (c : Cursor) : Cursor :=
  { c with position := c.position + count, trail := c.positions }

/-- Goes on with what was found, from where it was found. -/
def andThen {α β : Type} (got : Option α × Cursor) (next : α → Cursor → Option β × Cursor) :
    Option β × Cursor :=
  match got with
  | (none, c) => (none, c)
  | (some a, c) => next a c

/-- Takes a byte. -/
def byte (c : Cursor) : Option UInt8 × Cursor :=
  match c.bytes[c.position]? with
  | none => (none, c)
  | some b => (some b, c.advance 1)

/-- Skips bytes. -/
def skip (count : Nat) (c : Cursor) : Option Unit × Cursor :=
  if count ≤ c.remaining then (some (), c.advance count) else (none, c)

/-- Reads a varint of at most `room` bytes, the last of which may only be 0 or 1. -/
def varintWithin : Nat → Cursor → Option UInt64 × Cursor
  | 0, c => (none, c)
  | room + 1, c =>
    andThen c.byte fun b c =>
      if room = 0 ∧ 1 < b then (none, c)
      else if b < 128 then (some b.toUInt64, c)
      else andThen (varintWithin room c) fun high c => (some ((b % 128).toUInt64 + 128 * high), c)

/-- Reads a varint. -/
def varint (c : Cursor) : Option UInt64 × Cursor := varintWithin Varint.maxLength c

/-- Reads a tag. -/
def tag (c : Cursor) : Option Tag × Cursor :=
  andThen c.varint fun word c => (Tag.ofWord? word, c)

/-- Passes over what stands behind a tag, and returns the groups that are open then. -/
def pass (tag : Tag) (groups : List FieldNumber) (c : Cursor) :
    Option (List FieldNumber) × Cursor :=
  match tag.wireType with
  | .varint => andThen c.varint fun _ c => (some groups, c)
  | .fixed64 => andThen (c.skip 8) fun _ c => (some groups, c)
  | .fixed32 => andThen (c.skip 4) fun _ c => (some groups, c)
  | .bytes =>
    andThen c.varint fun count c => andThen (c.skip count.toNat) fun _ c => (some groups, c)
  | .startGroup => (some (tag.number :: groups), c)
  | .endGroup =>
    match groups with
    | [] => (none, c)
    | innermost :: outer => (if innermost = tag.number then some outer else none, c)

/-! ## Reading by position and reading what is left -/

/-- A reading by position, from `c` to where it stopped, follows a reading of what is left. -/
structure Follows {α : Type} (c : Cursor) (got : Option α × Cursor)
    (expected : Option (α × List UInt8)) : Prop where
  /-- The same is found and the same bytes are left behind it. -/
  found : expected = got.1.map (·, got.2.rest)
  bytes_eq : got.2.bytes = c.bytes
  within : c.Within → got.2.Within

theorem within_start (bytes : List UInt8) : (start bytes).Within := by
  simp [Within, start, positions]

theorem Within.position_le {c : Cursor} (within : c.Within) : c.position ≤ c.bytes.length :=
  within c.position List.mem_cons_self

theorem length_rest (c : Cursor) : c.rest.length = c.remaining := List.length_drop

@[simp] theorem rest_advance (count : Nat) (c : Cursor) :
    (c.advance count).rest = c.rest.drop count := by
  simp [rest, advance, Nat.add_comm]

theorem Within.advance {c : Cursor} (within : c.Within) {count : Nat}
    (enough : count ≤ c.remaining) : (c.advance count).Within := by
  have := within.position_le
  refine List.forall_mem_cons.2 ⟨?_, within⟩
  simp only [remaining] at enough
  show c.position + count ≤ c.bytes.length
  omega

namespace Follows

variable {α β : Type} {c : Cursor}

theorem of_found (a : Option α) (c : Cursor) : Follows c (a, c) (a.map (·, c.rest)) :=
  ⟨rfl, rfl, id⟩

theorem eq_some {a : α} {after : Cursor} {expected : Option (α × List UInt8)}
    (follows : Follows c (some a, after) expected) : expected = some (a, after.rest) :=
  follows.found

theorem eq_none {after : Cursor} {expected : Option (α × List UInt8)}
    (follows : Follows c (none, after) expected) : expected = none := follows.found

/-- What follows a reading from where another one stopped follows it from the start. -/
theorem from_start {got : Option α × Cursor} {expected : Option (α × List UInt8)}
    (first : Follows c got expected) {next : Option β × Cursor}
    {whole : Option (β × List UInt8)} (second : Follows got.2 next whole) : Follows c next whole :=
  ⟨second.found, second.bytes_eq.trans first.bytes_eq, fun start =>
    second.within (first.within start)⟩

/-- One reading after another follows one reading of what is left after another. -/
theorem andThen {got : Option α × Cursor} {expected : Option (α × List UInt8)}
    (first : Follows c got expected) {next : α → Cursor → Option β × Cursor}
    {whole : Option (β × List UInt8)} (failed : expected = none → whole = none)
    (second : ∀ a after, Follows c (some a, after) expected → Follows after (next a after) whole) :
    Follows c (Cursor.andThen got next) whole := by
  obtain ⟨a, after⟩ := got
  cases a with
  | none => exact ⟨failed first.eq_none, first.bytes_eq, first.within⟩
  | some a => exact first.from_start (second a after first)

end Follows

theorem follows_byte (c : Cursor) :
    Follows c c.byte (c.rest.head?.map (·, c.rest.tail)) := by
  have head : c.rest.head? = c.bytes[c.position]? := by simp [rest]
  unfold byte
  rw [head]
  split
  · rename_i ended
    rw [ended]
    exact .of_found none c
  · rename_i b taken
    have enough : 1 ≤ c.remaining := by
      obtain ⟨inside, -⟩ := List.getElem?_eq_some_iff.1 taken
      simp only [remaining]
      omega
    rw [taken]
    exact ⟨by simp, rfl, fun within => within.advance enough⟩

theorem follows_skip (count : Nat) (c : Cursor) :
    Follows c (c.skip count) ((Wire.skip count c.rest).map ((), ·)) := by
  unfold skip Wire.skip
  rw [length_rest]
  split
  · rename_i enough
    exact ⟨by simp, rfl, fun within => within.advance enough⟩
  · exact .of_found none c

theorem follows_varintWithin (room : Nat) (c : Cursor) :
    Follows c (varintWithin room c) (Varint.decodeWithin room c.rest) := by
  induction room generalizing c with
  | zero =>
    have unread : Varint.decodeWithin 0 c.rest = none := by
      cases c.rest <;> rfl
    rw [unread]
    exact .of_found none c
  | succ room ih =>
    refine (follows_byte c).andThen (fun ended => ?_) fun b after taken => ?_
    · have none : c.rest = [] := by simpa using ended
      rw [none, Varint.decodeWithin]
    · have found := taken.eq_some
      have split : c.rest = b :: after.rest := by
        cases left : c.rest <;> simp_all
      rw [split, Varint.decodeWithin]
      by_cases excess : room = 0 ∧ 1 < b
      · simp only [excess, and_self, ↓reduceIte]
        exact .of_found none after
      · by_cases last : b < 128
        · simp only [excess, last, ↓reduceIte]
          exact .of_found (some _) after
        · simp only [excess, last, ↓reduceIte]
          refine (ih after).andThen (fun failed => by rw [failed]; rfl) fun high behind found => ?_
          rw [found.eq_some]
          exact .of_found (some _) behind

theorem follows_varint (c : Cursor) : Follows c c.varint (Varint.decode c.rest) :=
  follows_varintWithin Varint.maxLength c

theorem follows_tag (c : Cursor) : Follows c c.tag (Tag.decode c.rest) := by
  refine (follows_varint c).andThen (fun failed => ?_) fun word behind found => ?_
  · rw [Tag.decode, failed]
  · rw [Tag.decode, found.eq_some]
    exact .of_found (Tag.ofWord? word) behind

/-- Skipping that leaves the open groups follows skipping that leaves them. -/
theorem follows_skip_groups (count : Nat) (groups : List FieldNumber) (c : Cursor) :
    Follows c (andThen (c.skip count) fun _ c => (some groups, c))
      ((Wire.skip count c.rest).map (groups, ·)) := by
  refine (follows_skip count c).andThen (fun failed => ?_) fun _ behind found => ?_
  · simpa using failed
  · have skipped : Wire.skip count c.rest = some behind.rest := by simpa using found.eq_some
    rw [skipped]
    exact .of_found (some groups) behind

theorem follows_pass (tag : Tag) (groups : List FieldNumber) (c : Cursor) :
    Follows c (c.pass tag groups) (tag.pass groups c.rest) := by
  obtain ⟨number, wireType⟩ := tag
  cases wireType with
  | varint =>
    refine (follows_varint c).andThen (fun failed => ?_) fun _ behind found => ?_
    · simp only [Tag.pass, failed, Option.map_none]
    · simp only [Tag.pass, found.eq_some, Option.map_some]
      exact .of_found (some groups) behind
  | fixed64 => exact follows_skip_groups 8 groups c
  | fixed32 => exact follows_skip_groups 4 groups c
  | bytes =>
    refine (follows_varint c).andThen (fun failed => ?_) fun count behind found => ?_
    · simp only [Tag.pass, failed]
    · simp only [Tag.pass, found.eq_some]
      exact follows_skip_groups count.toNat groups behind
  | startGroup => exact .of_found (some (number :: groups)) c
  | endGroup =>
    cases groups with
    | nil => exact .of_found none c
    | cons innermost outer =>
      by_cases same : innermost = number
      · simp only [pass, Tag.pass, same, ↓reduceIte]
        exact .of_found (some outer) c
      · simp only [pass, Tag.pass, same, ↓reduceIte]
        exact .of_found none c

/-- Passes over a payload, up to the end of the outermost open group. -/
def skipPayload (groups : List FieldNumber) (tag : Tag) (c : Cursor) : Option Unit × Cursor :=
  match _passed : c.pass tag groups with
  | (none, stopped) => (none, stopped)
  | (some [], behind) => (some (), behind)
  | (some (innermost :: outer), behind) =>
    match _found : behind.tag with
    | (none, stopped) => (none, stopped)
    | (some next, payload) => skipPayload (innermost :: outer) next payload
termination_by c.rest.length
decreasing_by
  have first := follows_pass tag groups c
  have second := follows_tag behind
  rw [_passed] at first
  rw [_found] at second
  have := Tag.pass_length first.eq_some
  have := Tag.decode_length second.eq_some
  omega

theorem follows_skipPayload (groups : List FieldNumber) (tag : Tag) (c : Cursor) :
    Follows c (c.skipPayload groups tag) ((Wire.skipPayload groups tag c.rest).map ((), ·)) := by
  fun_induction skipPayload groups tag c with
  | case1 groups tag c stopped passed =>
    have first := passed ▸ follows_pass tag groups c
    rw [skipPayload_of_pass_eq_none first.eq_none]
    exact first.from_start (.of_found none stopped)
  | case2 groups tag c behind passed =>
    have first := passed ▸ follows_pass tag groups c
    rw [skipPayload_of_pass first.eq_some]
    exact first.from_start (.of_found (some ()) behind)
  | case3 groups tag c innermost outer behind passed stopped found =>
    have first := passed ▸ follows_pass tag groups c
    have second := found ▸ follows_tag behind
    rw [skipPayload_of_pass first.eq_some, resume, second.eq_none]
    exact first.from_start (second.from_start (.of_found none stopped))
  | case4 groups tag c innermost outer behind passed next payload found ih =>
    have first := passed ▸ follows_pass tag groups c
    have second := found ▸ follows_tag behind
    rw [skipPayload_of_pass first.eq_some, resume, second.eq_some]
    exact first.from_start (second.from_start ih)

/-- Reads a record. -/
def record (c : Cursor) : Option Record × Cursor :=
  andThen c.tag fun tag payload =>
    if tag.wireType = .endGroup then (none, payload)
    else andThen (payload.skipPayload [] tag) fun _ behind =>
      (some ⟨tag.number, tag.wireType, c.position, behind.position - c.position⟩, behind)

/-- A cursor that has moved within its bytes stands as far behind as there are fewer bytes left. -/
theorem length_sub_rest {c behind : Cursor} (same : behind.bytes = c.bytes)
    (within : behind.Within) :
    c.rest.length - behind.rest.length = behind.position - c.position := by
  have := within.position_le
  rw [length_rest, length_rest, remaining, remaining, same]
  rw [same] at this
  omega

theorem follows_record {c : Cursor} (within : c.Within) :
    Follows c c.record (Record.read c.position c.rest) := by
  refine (follows_tag c).andThen (fun failed => ?_) fun tag payload opened => ?_
  · rw [Record.read, failed]
  · rw [Record.read, opened.eq_some]
    by_cases ends : tag.wireType = .endGroup
    · simp only [ends, ↓reduceIte]
      exact .of_found none payload
    · simp only [ends, ↓reduceIte]
      refine (follows_skipPayload [] tag payload).andThen (fun failed => ?_)
        fun _ behind passed => ?_
      · simpa using failed
      · have skipped : Wire.skipPayload [] tag payload.rest = some behind.rest := by
          simpa using passed.eq_some
        have length := length_sub_rest (passed.bytes_eq.trans opened.bytes_eq)
          (passed.within (opened.within within))
        rw [skipped, Option.map_some, length]
        exact .of_found (some _) behind

end Cursor

/-! ## Asking for records one by one -/

/-- A scan in progress: where it stands, and whether it has met a break. -/
structure Walk where
  cursor : Cursor
  failed : Bool

namespace Walk

/-- The walk before all records of a run. -/
def start (run : Run) : Walk := ⟨.start run.bytes, false⟩

/-- Asks for the next item.  There is none at the end of the bytes and behind a break. -/
def next (walk : Walk) : Option (Except Error Record) × Walk :=
  if walk.failed = true ∨ walk.cursor.remaining = 0 then (none, walk)
  else
    match walk.cursor.record with
    | (some record, c) => (some (.ok record), ⟨c, false⟩)
    | (none, c) => (some (.error (.malformedWire 0 walk.cursor.position)), ⟨c, true⟩)

/-- The walk after a number of questions. -/
def after : Nat → Walk → Walk
  | 0, walk => walk
  | count + 1, walk => after count walk.next.2

/-- The answer to the question that comes after a number of questions. -/
def item (count : Nat) (walk : Walk) : Option (Except Error Record) := (walk.after count).next.1

theorem item_zero (walk : Walk) : walk.item 0 = walk.next.1 := rfl

theorem item_succ (count : Nat) (walk : Walk) : walk.item (count + 1) = walk.next.2.item count :=
  rfl

/-- A walk that has nothing to hand out stays where it is. -/
theorem item_of_next {walk : Walk} (ended : walk.next = (none, walk)) (count : Nat) :
    walk.item count = none := by
  induction count with
  | zero => rw [item_zero, ended]
  | succ count ih => rw [item_succ, ended, ih]

/-- Whatever is asked, a walk keeps within the bytes it started with. -/
theorem within_after {walk : Walk} (within : walk.cursor.Within) (count : Nat) :
    (walk.after count).cursor.Within ∧ (walk.after count).cursor.bytes = walk.cursor.bytes := by
  induction count generalizing walk with
  | zero => exact ⟨within, rfl⟩
  | succ count ih =>
    have stepped : walk.next.2.cursor.Within ∧ walk.next.2.cursor.bytes = walk.cursor.bytes := by
      have read := Cursor.follows_record within
      unfold next
      split
      · exact ⟨within, rfl⟩
      · split <;> (rename_i got; rw [got] at read; exact ⟨read.within within, read.bytes_eq⟩)
    have later := ih stepped.1
    exact ⟨later.1, later.2.trans stepped.2⟩

/-- What a walk that has met no break answers, beside what a scan of the bytes that are left finds:
nothing at their end, else the first record, or the break. -/
theorem next_cases {walk : Walk} (within : walk.cursor.Within) (unbroken : walk.failed = false) :
    (walk.next = (none, walk) ∧ Scan.ofBytes walk.cursor.position walk.cursor.rest = ⟨[], none⟩) ∨
    (∃ record c, walk.next = (some (.ok record), ⟨c, false⟩) ∧ c.Within ∧
      Scan.ofBytes walk.cursor.position walk.cursor.rest =
        (Scan.ofBytes c.position c.rest).cons record) ∨
    (∃ c, walk.next = (some (.error (.malformedWire 0 walk.cursor.position)), ⟨c, true⟩) ∧
      Scan.ofBytes walk.cursor.position walk.cursor.rest = ⟨[], some walk.cursor.position⟩) := by
  have read := Cursor.follows_record within
  by_cases ended : walk.cursor.remaining = 0
  · have none : walk.cursor.rest = [] := by
      rw [← List.length_eq_zero_iff, walk.cursor.length_rest, ended]
    exact .inl ⟨by simp [next, ended], by rw [none, Scan.ofBytes]⟩
  · rcases got : walk.cursor.record with ⟨found, c⟩
    rw [got] at read
    cases found with
    | some record =>
      have first := read.eq_some
      have same : c.bytes = walk.cursor.bytes := read.bytes_eq
      have kept : c.Within := read.within within
      have behind : walk.cursor.position + record.length = c.position := by
        obtain ⟨-, covered, nonempty⟩ := Record.read_length first
        have moved := Cursor.length_sub_rest same kept
        omega
      refine .inr (.inl ⟨record, c, by simp [next, unbroken, ended, got], kept, ?_⟩)
      rw [Scan.ofBytes_of_read first, behind]
    | none =>
      have failed := read.eq_none
      refine .inr (.inr ⟨c, by simp [next, unbroken, ended, got], ?_⟩)
      have left : walk.cursor.rest ≠ [] := fun none => ended <| by
        rw [← walk.cursor.length_rest, none, List.length_nil]
      exact Scan.ofBytes_of_read_eq_none left failed

/-- A walk that has met no break hands out the scan of the bytes that are left. -/
theorem item_eq {walk : Walk} (within : walk.cursor.Within) (unbroken : walk.failed = false)
    (count : Nat) :
    walk.item count = (Scan.ofBytes walk.cursor.position walk.cursor.rest).items[count]? := by
  induction count generalizing walk with
  | zero =>
    rw [item_zero]
    rcases next_cases within unbroken with ⟨ended, same⟩ | ⟨record, c, found, -, same⟩ |
      ⟨c, broken, same⟩
    · rw [ended, same]
      rfl
    · rw [found, same]
      rfl
    · rw [broken, same]
      rfl
  | succ count ih =>
    rw [item_succ]
    rcases next_cases within unbroken with ⟨ended, same⟩ | ⟨record, c, found, kept, same⟩ |
      ⟨c, broken, same⟩
    · rw [ended, same]
      exact item_of_next ended count
    · rw [found, same, ih kept rfl]
      rfl
    · rw [broken, same]
      exact item_of_next (by simp [next]) count

/-- A walk over a run hands out the run's scan, and then nothing any more. -/
theorem item_start (run : Run) (count : Nat) : (start run).item count = run.scan.items[count]? :=
  item_eq (Cursor.within_start run.bytes) rfl count

end Walk

end DynamicMessage.Wire
