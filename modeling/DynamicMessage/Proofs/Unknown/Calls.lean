/-
# Proofs.Unknown.Calls -- what a run of calls leaves of unrecognised records

A store of unrecognised records changes by two calls, and `UnknownStore.replay` runs any sequence of
them, with any numbers and any bytes.  What is stored under a number is never empty, is valid, and
consists of records of that number (`Wire.Run.Belongs`): a call checks the bytes it is given, and
checked bytes behind checked bytes need no new check (`Wire.Run.Belongs.append`).

The store of a message is what some run of calls leaves of a new store of its type
(`Message.LeftByCalls`), because no other call on a message reaches it.
-/
import DynamicMessage.Proofs.Message.Invariant
import DynamicMessage.Proofs.Wire.Concatenation

namespace DynamicMessage

set_option autoImplicit false

open Wire

/-! ## Runs of one number -/

/-- The run may be stored under a number. -/
structure Wire.Run.Belongs (run : Run) (n : FieldNumber) : Prop where
  nonempty : run.isEmpty = false
  valid : run.isValid = true
  numbered : ∀ record ∈ run.scan.records, record.number = n

/-- There is no reason against records when none has another number and the bytes do not break. -/
theorem Wire.Scan.fault?_eq_none_iff (scan : Scan) (n : FieldNumber) :
    scan.fault? n = none ↔ scan.isComplete = true ∧ ∀ record ∈ scan.records, record.number = n := by
  unfold Scan.fault? Scan.isComplete
  split
  · rename_i record other
    have differ : record.number ≠ n := by simpa using List.find?_some other
    simp only [reduceCtorEq, false_iff]
    intro ⟨_, numbered⟩
    exact differ (numbered record (List.mem_of_find?_eq_some other))
  · rename_i none
    have numbered : ∀ record ∈ scan.records, record.number = n := by
      simpa using none
    simp only [Option.map_eq_none_iff, Option.isNone_iff_eq_none, iff_self_and]
    exact fun _ => numbered

namespace Wire.Run

variable {run more : Run} {n : FieldNumber}

/-- A run belongs to a number when it is not empty and there is no reason against it. -/
theorem belongs_iff (run : Run) (n : FieldNumber) :
    run.Belongs n ↔ run.isEmpty = false ∧ run.scan.fault? n = none := by
  rw [Scan.fault?_eq_none_iff]
  constructor
  · intro belongs
    exact ⟨belongs.nonempty, belongs.valid, belongs.numbered⟩
  · rintro ⟨nonempty, valid, numbered⟩
    exact ⟨nonempty, valid, numbered⟩

/-- Only numbers that fields may have have runs. -/
theorem Belongs.inRange (belongs : run.Belongs n) : n.InRange := by
  obtain ⟨record, member⟩ := exists_mem_records belongs.valid belongs.nonempty
  rw [← belongs.numbered record member]
  exact Scan.inRange_of_mem_records member

/-- The run without bytes is the empty run. -/
theorem isEmpty_iff (run : Run) : run.isEmpty = true ↔ run = empty := by
  obtain ⟨bytes⟩ := run
  simp [isEmpty, empty]

theorem isEmpty_append (nonempty : run.isEmpty = false) (bytes : List UInt8) :
    (run.append bytes).isEmpty = false := by
  simp only [isEmpty, List.isEmpty_eq_false_iff] at nonempty
  simp [isEmpty, nonempty]

/-- Runs of one number put together are a run of that number. -/
theorem Belongs.append (belongs : run.Belongs n) (later : more.Belongs n) :
    (run.append more.bytes).Belongs n where
  nonempty := isEmpty_append belongs.nonempty more.bytes
  valid := by
    rw [isValid_append belongs.valid]
    exact later.valid
  numbered := by
    intro record member
    rw [scan_append belongs.valid] at member
    rcases List.mem_append.1 member with first | second
    · exact belongs.numbered record first
    · obtain ⟨original, stored, rfl⟩ := List.mem_map.1 second
      exact later.numbered original stored

theorem append_of_isEmpty (none : more.isEmpty = true) : run.append more.bytes = run := by
  rw [(isEmpty_iff more).1 none]
  simp [append, empty]

end Wire.Run

/-! ## Calls -/

namespace UnknownStore

/-- A call that may change a store. -/
inductive Call where
  /-- Replaces the records of a number. -/
  | set (n : FieldNumber) (run : Run)
  /-- Puts records behind those of a number. -/
  | append (n : FieldNumber) (run : Run)
deriving DecidableEq

namespace Call

/-- The number a call is about. -/
def number : Call → FieldNumber
  | .set n _ | .append n _ => n

/-- The bytes a call is given. -/
def given : Call → Run
  | .set _ run | .append _ run => run

/-- What a call answers and leaves. -/
def apply : Call → UnknownStore → Outcome UnknownStore Unit
  | .set n run, u => u.set n run
  | .append n run, u => u.append n run

/-- What an accepted call leaves under its number. -/
def result : Call → UnknownStore → Run
  | .set _ run, _ => run
  | .append n run, u => (u.get n).append run.bytes

end Call

/-- A run of calls: the calls in order with what they answered, and the store they leave. -/
structure Replay where
  entries : List (Call × Except Error Unit)
  store : UnknownStore

/-- Runs calls one after another; a refused call is noted, and the run goes on. -/
def replay : UnknownStore → List Call → Replay
  | u, [] => ⟨[], u⟩
  | u, call :: calls =>
    let rest := replay (call.apply u).state calls
    ⟨(call, (call.apply u).result) :: rest.entries, rest.store⟩

theorem replay_append (u : UnknownStore) (calls more : List Call) :
    replay u (calls ++ more) =
      ⟨(replay u calls).entries ++ (replay (replay u calls).store more).entries,
        (replay (replay u calls).store more).store⟩ := by
  induction calls generalizing u with
  | nil => rfl
  | cons call calls ih =>
    simp only [List.cons_append, replay, ih]

/-! ## What one call does -/

/-- A store that keeps nothing accepts every call and stays as it is. -/
theorem Call.apply_of_unsupported {u : UnknownStore} (unsupported : u.isSupported = false)
    (call : Call) : call.apply u = .done () u := by
  cases call <;> simp [Call.apply, UnknownStore.set, UnknownStore.append, unsupported]

theorem set_of_isEmpty {u : UnknownStore} (supported : u.isSupported = true) (n : FieldNumber)
    {run : Run} (none : run.isEmpty = true) :
    u.set n run = .done () { u with runs := u.runs.erase n } := by
  simp [UnknownStore.set, supported, none]

theorem append_of_isEmpty (u : UnknownStore) (n : FieldNumber) {run : Run}
    (none : run.isEmpty = true) : u.append n run = .done () u := by
  simp [UnknownStore.append, none]

/-- A call with bytes is refused for the reason there is against them, and is accepted when there is
none. -/
theorem Call.apply_of_nonempty {u : UnknownStore} (supported : u.isSupported = true) (call : Call)
    (nonempty : call.given.isEmpty = false) :
    call.apply u =
      match call.given.scan.fault? call.number with
      | some fault => .fail fault u
      | none => .done () { u with runs := u.runs.insert call.number (call.result u) } := by
  cases call with
  | set n run =>
    have nonempty : run.isEmpty = false := nonempty
    rw [Call.apply, UnknownStore.set, supported, nonempty]
    rfl
  | append n run =>
    have nonempty : run.isEmpty = false := nonempty
    rw [Call.apply, UnknownStore.append, supported, nonempty]
    rfl

theorem append_of_nonempty {u : UnknownStore} (supported : u.isSupported = true) (n : FieldNumber)
    {run : Run} (nonempty : run.isEmpty = false) :
    u.append n run =
      match run.scan.fault? n with
      | some fault => .fail fault u
      | none => .done () { u with runs := u.runs.insert n ((u.get n).append run.bytes) } :=
  (Call.append n run).apply_of_nonempty supported nonempty

/-- The call is refused, or it is accepted and leaves `Call.result` under its number and everything
else as it was. -/
theorem Call.apply_cases {u : UnknownStore} (supported : u.isSupported = true) (call : Call) :
    (∃ fault, call.apply u = .fail fault u) ∨
      ∃ u', call.apply u = .done () u' ∧ u'.isSupported = true ∧
        ∀ k, u'.get k = if k = call.number then call.result u else u.get k := by
  by_cases nonempty : call.given.isEmpty = false
  · rw [call.apply_of_nonempty supported nonempty]
    split
    · exact .inl ⟨_, rfl⟩
    · refine .inr ⟨_, rfl, supported, ?_⟩
      intro k
      simp only [get, Table.find?_insert]
      split <;> rfl
  · have none : call.given.isEmpty = true := by simpa using nonempty
    right
    cases call with
    | set n run =>
      refine ⟨_, set_of_isEmpty supported n none, supported, ?_⟩
      intro k
      have nothing : run = Run.empty := (Run.isEmpty_iff run).1 none
      simp only [get, Table.find?_erase, Call.number, Call.result, nothing]
      split <;> rfl
    | append n run =>
      have none : run.isEmpty = true := none
      refine ⟨_, append_of_isEmpty u n none, supported, ?_⟩
      intro k
      simp only [Call.number, Call.result, Run.append_of_isEmpty none]
      split
      · rename_i same
        rw [same]
      · rfl

/-- No call turns keeping records on or off. -/
theorem Call.isSupported_apply (call : Call) (u : UnknownStore) :
    (call.apply u).state.isSupported = u.isSupported := by
  by_cases supported : u.isSupported = true
  · rcases call.apply_cases supported with ⟨fault, refused⟩ | ⟨u', accepted, supported', -⟩
    · rw [refused]
      rfl
    · rw [accepted, supported]
      exact supported'
  · rw [call.apply_of_unsupported (by simpa using supported)]
    rfl

theorem isSupported_replay (u : UnknownStore) (calls : List Call) :
    (replay u calls).store.isSupported = u.isSupported := by
  induction calls generalizing u with
  | nil => rfl
  | cons call calls ih => exact (ih _).trans (call.isSupported_apply u)

/-! ## What every store keeps -/

/-- The rows of a store ascend, each holds a run of its number, and a store that keeps nothing has
none. -/
structure Sound (u : UnknownStore) : Prop where
  ascending : u.runs.Ascending
  stored : ∀ n run, u.runs.find? n = some run → run.Belongs n
  ignored : u.isSupported = false → u.runs = ∅

namespace Sound

variable {u : UnknownStore}

theorem new (keeps : Bool) : Sound { isSupported := keeps } where
  ascending := Table.Ascending.empty
  stored n run found := by simp at found
  ignored _ := rfl

/-- Storing a run of a number keeps a store sound. -/
theorem insert (sound : u.Sound) (supported : u.isSupported = true) {n : FieldNumber} {run : Run}
    (belongs : run.Belongs n) : Sound { u with runs := u.runs.insert n run } where
  ascending := sound.ascending.insert n run
  stored k other found := by
    rcases Table.find?_insert_eq_some_iff.1 found with ⟨rfl, rfl⟩ | ⟨-, found⟩
    · exact belongs
    · exact sound.stored k other found
  ignored unsupported := by
    have unsupported : u.isSupported = false := unsupported
    simp [supported] at unsupported

/-- Dropping the records of a number keeps a store sound. -/
theorem erase (sound : u.Sound) (n : FieldNumber) : Sound { u with runs := u.runs.erase n } where
  ascending := sound.ascending.erase n
  stored k run found := sound.stored k run (Table.find?_erase_eq_some_iff.1 found).2
  ignored unsupported := by
    have nothing : u.runs = ∅ := sound.ignored unsupported
    simp only [nothing]
    rfl

/-- Bytes that were checked, behind what is stored already, belong to the number again. -/
theorem belongs_result (sound : u.Sound) {call : Call}
    (nonempty : call.given.isEmpty = false) (checked : call.given.scan.fault? call.number = none) :
    (call.result u).Belongs call.number := by
  have belongs : call.given.Belongs call.number :=
    (Run.belongs_iff _ _).2 ⟨nonempty, checked⟩
  cases call with
  | set n run => exact belongs
  | append n run =>
    show ((u.get n).append run.bytes).Belongs n
    unfold get
    cases found : u.runs.find? n with
    | none => exact belongs
    | some stored => exact (sound.stored n stored found).append belongs

/-- A call leaves a sound store. -/
theorem apply (sound : u.Sound) (call : Call) : (call.apply u).state.Sound := by
  by_cases supported : u.isSupported = true
  · by_cases nonempty : call.given.isEmpty = false
    · rw [call.apply_of_nonempty supported nonempty]
      split
      · exact sound
      · rename_i checked
        exact sound.insert supported (sound.belongs_result nonempty checked)
    · have none : call.given.isEmpty = true := by simpa using nonempty
      cases call with
      | set n run =>
        have none : run.isEmpty = true := none
        rw [Call.apply, set_of_isEmpty supported n none]
        exact sound.erase n
      | append n run =>
        have none : run.isEmpty = true := none
        rw [Call.apply, append_of_isEmpty u n none]
        exact sound
  · rw [call.apply_of_unsupported (by simpa using supported)]
    exact sound

/-- A run of calls leaves a sound store.  By induction on the calls. -/
theorem replay (sound : u.Sound) (calls : List Call) : (u.replay calls).store.Sound := by
  induction calls generalizing u with
  | nil => exact sound
  | cons call calls ih => exact ih (sound.apply call)

end Sound

/-- A store that keeps nothing accepts every call of a run and stays as it is. -/
theorem replay_of_unsupported {u : UnknownStore} (unsupported : u.isSupported = false)
    (calls : List Call) :
    (u.replay calls).store = u ∧ ∀ entry ∈ (u.replay calls).entries, entry.2 = .ok () := by
  induction calls with
  | nil => simp [replay]
  | cons call calls ih =>
    simp only [replay, call.apply_of_unsupported unsupported, Outcome.state_done,
      Outcome.result_done, List.mem_cons, forall_eq_or_imp, true_and]
    exact ih

end UnknownStore

/-! ## The stores of messages -/

/-- The unrecognised records of a message are what some calls leave of a new store of its type. -/
def Message.LeftByCalls (m : Message) (t : MessageType) : Prop :=
  ∃ calls, m.unknown = (UnknownStore.replay { isSupported := t.keepsUnknown } calls).store

/-- One call more leaves what a longer run of calls leaves. -/
theorem Message.LeftByCalls.apply {m : Message} {t : MessageType} (left : m.LeftByCalls t)
    (call : UnknownStore.Call) :
    Message.LeftByCalls { m with unknown := (call.apply m.unknown).state } t := by
  obtain ⟨calls, same⟩ := left
  refine ⟨calls ++ [call], ?_⟩
  rw [UnknownStore.replay_append, ← same]
  rfl

theorem Message.invariant_leftByCalls : Invariant (Composite.OnMessage Message.LeftByCalls) := by
  apply Invariant.onMessage
  · intro s index t _ _
    exact ⟨[], rfl⟩
  · intro brought m m' t sound left change
    cases change with
    | unset => exact left
    | put =>
      rw [unsetSiblings_eq]
      exact left
    | register => exact left
    | remove => exact left
    | setUnknown n run => exact left.apply (.set n run)
    | appendUnknown n run => exact left.apply (.append n run)

/-- What calls leave is sound, and keeps records exactly when the type does. -/
theorem Message.LeftByCalls.sound {m : Message} {t : MessageType} (left : m.LeftByCalls t) :
    m.unknown.Sound ∧ m.unknown.isSupported = t.keepsUnknown := by
  obtain ⟨calls, same⟩ := left
  rw [same]
  exact ⟨(UnknownStore.Sound.new _).replay calls, UnknownStore.isSupported_replay _ calls⟩

/-! ## Rows -/

/-- Every row holds bytes, and they are records of the number of the row from end to end. -/
def UnknownStore.RowsValid (u : UnknownStore) : Prop :=
  ∀ n run, (n, run) ∈ u.runs.rows →
    run.isEmpty = false ∧ run.isValid = true ∧ (∀ record ∈ run.scan.records, record.number = n) ∧
      1 ≤ n.toNat ∧ n.toNat ≤ 536870911

theorem UnknownStore.Sound.rowsValid {u : UnknownStore} (sound : u.Sound) : u.RowsValid := by
  intro n run row
  have belongs := sound.stored n run ((sound.ascending.mem_rows_iff n run).1 row)
  have range := (FieldNumber.inRange_iff n).1 belongs.inRange
  exact ⟨belongs.nonempty, belongs.valid, belongs.numbered, range⟩

/-- Whatever calls are made on the store of a message, with any numbers and any bytes, its rows are
valid.  Where the type of the message keeps nothing the store is empty and refuses nothing.  This
holds at every depth of every value that a run can lead to. -/
theorem unknown_rows_valid {v : Value} (reachable : Reachable v) :
    Everywhere (Composite.OnMessage fun m t => ∀ calls : List UnknownStore.Call,
      (m.unknown.replay calls).store.RowsValid ∧
        (t.keepsUnknown = false →
          (m.unknown.replay calls).store.runs.rows = [] ∧
            ∀ entry ∈ (m.unknown.replay calls).entries, entry.2 = .ok ())) v := by
  refine (reachable.everywhere_onMessage Message.invariant_leftByCalls).imp fun c left => ?_
  cases c with
  | vector => exact trivial
  | map => exact trivial
  | message m =>
    intro t type calls
    obtain ⟨sound, supported⟩ := (left t type).sound
    refine ⟨(sound.replay calls).rowsValid, fun ignores => ?_⟩
    rw [ignores] at supported
    obtain ⟨same, accepted⟩ := UnknownStore.replay_of_unsupported supported calls
    rw [same, sound.ignored supported]
    exact ⟨rfl, accepted⟩

namespace AddressBook

/-- The card with a run of every wire type under a number that the type does not declare. -/
def filed : Message := ((Write.appendUnknown 200 (Run.sample 200)).run card).state

theorem reachable_filed : Reachable (.message filed) :=
  .run (σ := .message) (.write (.appendUnknown 200 (Run.sample 200))) reachable_card (by
    simp [Program.arguments, Write.arguments])

/-- A type that keeps no unrecognised records. -/
def noteType : MessageType := { name := "tutorial.Note", fields := [], keepsUnknown := false }

/-- The schema of notes. -/
def notes : Schema := { id := 1, types := [noteType], indexes := ⟨[(noteType.name, 0)]⟩ }

/-- A note without fields. -/
def note : Message := .blank notes 0 noteType

theorem reachable_note : Reachable (.message note) := by
  have declared : Schema.declare 1 [noteType] = .ok notes := rfl
  have made : Message.new notes 0 = .ok note := rfl
  exact .newMessage ⟨1, [noteType], declared⟩ made

/-- Records of another number, and bytes that break off. -/
def misfiled : List UnknownStore.Call := [.set 7 (Run.sample 200), .append 200 ⟨[0xC0, 0x0C]⟩]

/-- The card refuses what is misfiled and keeps what it has; the note ignores it. -/
theorem misfiled_rows_valid :
    Reachable (.message filed) ∧ Reachable (.message note) ∧
      (filed.unknown.replay misfiled).store.list = [200] ∧
      (filed.unknown.replay misfiled).store.RowsValid ∧
      (note.unknown.replay misfiled).store.runs.rows = [] ∧
      ∀ entry ∈ (note.unknown.replay misfiled).entries, entry.2 = .ok () := by
  obtain ⟨t, type⟩ := reachable_filed.sound.here
  have filed_valid := ((unknown_rows_valid reachable_filed).here t type.type misfiled).1
  have note_ignores := ((unknown_rows_valid reachable_note).here noteType rfl misfiled).2 rfl
  exact ⟨reachable_filed, reachable_note, by decide +kernel, filed_valid, note_ignores⟩

end AddressBook

end DynamicMessage
