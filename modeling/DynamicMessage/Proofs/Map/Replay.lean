/-
# Proofs.Map.Replay -- a map is the finite map that its calls make

A run of calls on a map is replayed on a finite map (`Map.Contents`): the calls that succeed
overwrite an entry, drop one, or edit one that they add where there is none (`Call.onContents`), and
those that fail are left out.  Each call is one step: it is done on the entries, or it leaves the
map as it was (`Map.Editable.apply_of_accepts`, `Map.Editable.apply_of_refuses`).  Whether it is
done depends on the call and the kinds of the map alone (`Call.Accepts`), and why it is not is known
from them too (`Call.Refuses`).

Keys are told apart by their members as well, so the number 1 of one member never meets the number 1
of another; a key of another member than the map's is in no entry at all.
-/
import DynamicMessage.Proofs.Vector.Replay
import DynamicMessage.Proofs.Views
import Mathlib.Data.Finmap

namespace DynamicMessage

set_option autoImplicit false

/-! ## Tables as finite maps -/

namespace Table

variable {κ α : Type} [DecidableEq κ]

/-- A table as a finite map. -/
def toFinmap (t : Table κ α) : Finmap fun _ : κ => α :=
  (t.rows.map fun row => (⟨row.1, row.2⟩ : Sigma fun _ : κ => α)).toFinmap

@[simp] theorem lookup_toFinmap (t : Table κ α) (k : κ) : t.toFinmap.lookup k = t.find? k := by
  obtain ⟨rows⟩ := t
  rw [toFinmap, Finmap.dlookup_list_toFinmap, find?]
  induction rows with
  | nil => rfl
  | cons row rows ih =>
    simp only [List.map_cons, findRow]
    by_cases same : k = row.1
    · subst same
      rw [if_pos rfl, List.dlookup_cons_eq]
    · rw [if_neg same, List.dlookup_cons_ne _ _ same, ih]

theorem toFinmap_empty : (∅ : Table κ α).toFinmap = ∅ :=
  Finmap.ext_lookup fun k => by rw [lookup_toFinmap, Finmap.lookup_empty, find?_empty]

theorem toFinmap_erase (t : Table κ α) (k : κ) : (t.erase k).toFinmap = t.toFinmap.erase k := by
  refine Finmap.ext_lookup fun k' => ?_
  rw [lookup_toFinmap, find?_erase]
  split
  · rename_i same
    rw [same, Finmap.lookup_erase]
  · rename_i differ
    rw [Finmap.lookup_erase_ne differ, lookup_toFinmap]

theorem toFinmap_insert [Ord κ] [Std.LawfulEqOrd κ] (t : Table κ α) (k : κ) (v : α) :
    (t.insert k v).toFinmap = t.toFinmap.insert k v := by
  refine Finmap.ext_lookup fun k' => ?_
  rw [lookup_toFinmap, find?_insert]
  split
  · rename_i same
    rw [same, Finmap.lookup_insert]
  · rename_i differ
    rw [Finmap.lookup_insert_of_ne _ differ, lookup_toFinmap]

end Table

/-- What suits a kind is not null. -/
theorem Kind.Holds.ne_null {s : Schema} {kind : Kind} {x : Value} (holds : kind.Holds s x) :
    x ≠ .null := by
  rintro rfl
  cases holds.not_null

/-! ## Calls -/

namespace Map

/-- The finite maps from keys to values. -/
abbrev Contents : Type := Finmap fun _ : Key => Value

/-- The entries of a map. -/
def contents (m : Map) : Contents := m.entries.toFinmap

/-- A call that may change a map.  What is done with a message that is opened is a function. -/
inductive Call where
  | set (k : Key) (x : Value)
  | remove (k : Key)
  | edit (k : Key) (change : Message → Message)

namespace Call

/-- What a call answers and leaves.  Only removing has something to answer. -/
def apply (m : Map) : Call → Outcome Map (Option Value)
  | .set k x => (m.set k x).answered fun _ => none
  | .remove k => m.remove k
  | .edit k change => m.edit k fun message => .done none (change message)

/-- The values a call is given. -/
def arguments : Call → List Value
  | .set _ x => [x]
  | _ => []

/-- What a call does to a finite map. -/
def onContents (s : Schema) (value : Kind) : Call → Contents → Contents
  | .set k x, entries => entries.insert k x
  | .remove k, entries => entries.erase k
  | .edit k change, entries =>
    entries.insert k (((entries.lookup k).getD (value.newElement s)).editMessage change)

/-- What a call that succeeds on a map with such entries answers. -/
def answer (entries : Contents) : Call → Option Value
  | .remove k => entries.lookup k
  | _ => none

/-- When a call succeeds on a map of such kinds. -/
inductive Accepts (s : Schema) (key value : Kind) : Call → Prop where
  | set {k : Key} {x : Value} (keyed : key.member = k.member) (holds : value.Holds s x) :
      Accepts s key value (.set k x)
  | remove {k : Key} : Accepts s key value (.remove k)
  | edit {k : Key} {change : Message → Message} (keyed : key.member = k.member)
      (message : value.IsMessage) : Accepts s key value (.edit k change)

/-- Why a call fails on a map of such kinds: the key first, null next, and what does not suit
last. -/
inductive Refuses (s : Schema) (key value : Kind) : Call → Error → Prop where
  | setKey {k : Key} {x : Value} (other : key.member ≠ k.member) :
      Refuses s key value (.set k x) (.typeMismatch (.member key.member) k.member)
  | setNull {k : Key} (keyed : key.member = k.member) :
      Refuses s key value (.set k .null) (.nullRejected .mapSet)
  | setUnfit {k : Key} {x : Value} {e : Error} (keyed : key.member = k.member)
      (unfit : value.Refuses s x e) : Refuses s key value (.set k x) e
  | editKey {k : Key} {change : Message → Message} (other : key.member ≠ k.member) :
      Refuses s key value (.edit k change) (.typeMismatch (.member key.member) k.member)
  | editScalar {k : Key} {change : Message → Message} (keyed : key.member = k.member)
      (scalar : ¬value.IsMessage) :
      Refuses s key value (.edit k change) (.typeMismatch (.member .message) value.member)

end Call

/-- What a run of calls leaves. -/
def run (m : Map) (calls : List Call) : Map :=
  calls.foldl (fun m call => (call.apply m).state) m

/-- The calls of a run that succeed. -/
def accepted (m : Map) : List Call → List Call
  | [] => []
  | call :: calls =>
    let rest := accepted (call.apply m).state calls
    if (call.apply m).result.isOk then call :: rest else rest

/-- What calls make of a finite map. -/
def replay (s : Schema) (value : Kind) (calls : List Call) (entries : Contents) : Contents :=
  calls.foldl (fun entries call => call.onContents s value entries) entries

/-! ## One call -/

/-- What the calls rely on when values are edited. -/
structure Editable (m : Map) : Prop where
  names : m.schema.Names m.value
  ascending : m.entries.Ascending
  keyed : ∀ k x, m.entries.find? k = some x → m.key.member = k.member
  notNull : ∀ k x, m.entries.find? k = some x → x ≠ .null
  messages : m.value.IsMessage → ∀ k x, m.entries.find? k = some x → ∃ message, x = .message message

variable {m : Map} {call : Call}

theorem Sound.editable (sound : m.Sound) : m.Editable where
  names := sound.names
  ascending := sound.ascending
  keyed k x found := (sound.entries k x found).1
  notNull k x found := (sound.entries k x found).2.ne_null
  messages message k x found := by
    obtain ⟨index, named⟩ := m.value.isMessage_iff.1 message
    obtain ⟨inner, same, -⟩ := (sound.entries k x found).2.exists_message named
    exact ⟨inner, same⟩

theorem keyMisfit?_of_other {k : Key} (other : m.key.member ≠ k.member) :
    m.keyMisfit? k = some (.typeMismatch (.member m.key.member) k.member) := by
  rw [keyMisfit?, if_neg other]

namespace Editable

/-- An entry that suits the map leaves it editable. -/
theorem insert (editable : m.Editable) {k : Key} {x : Value} (keyed : m.key.member = k.member)
    (notNull : x ≠ .null) (message : m.value.IsMessage → ∃ message, x = .message message) :
    Editable { m with entries := m.entries.insert k x } where
  names := editable.names
  ascending := editable.ascending.insert k x
  keyed k' y found := by
    rcases Table.find?_insert_eq_some_iff.1 found with ⟨rfl, -⟩ | ⟨-, found⟩
    · exact keyed
    · exact editable.keyed k' y found
  notNull k' y found := by
    rcases Table.find?_insert_eq_some_iff.1 found with ⟨-, rfl⟩ | ⟨-, found⟩
    · exact notNull
    · exact editable.notNull k' y found
  messages kind k' y found := by
    rcases Table.find?_insert_eq_some_iff.1 found with ⟨-, rfl⟩ | ⟨-, found⟩
    · exact message kind
    · exact editable.messages kind k' y found

theorem erase (editable : m.Editable) (k : Key) :
    Editable { m with entries := m.entries.erase k } where
  names := editable.names
  ascending := editable.ascending.erase k
  keyed k' y found := editable.keyed k' y (Table.find?_erase_eq_some_iff.1 found).2
  notNull k' y found := editable.notNull k' y (Table.find?_erase_eq_some_iff.1 found).2
  messages kind k' y found := editable.messages kind k' y (Table.find?_erase_eq_some_iff.1 found).2

/-- Editing a value edits the message that is stored, or a new one, and stores it. -/
theorem edit_eq (editable : m.Editable) {k : Key} (keyed : m.key.member = k.member)
    (message : m.value.IsMessage) (change : Message → Message) :
    ∃ inner, (m.contents.lookup k).getD (m.value.newElement m.schema) = .message inner ∧
      (m.edit k fun inner => .done (none : Option Value) (change inner)) =
        .done none { m with entries := m.entries.insert k (.message (change inner)) } := by
  obtain ⟨index, zero, named, made, new⟩ := editable.names.newElement message
  have fits := (m.keyMisfit?_eq_none_iff k).2 keyed
  cases found : m.entries.find? k with
  | none =>
    refine ⟨zero, by rw [contents, Table.lookup_toFinmap, found]; exact new, ?_⟩
    simp only [edit, fits, named, found, made, Outcome.within, Outcome.done]
  | some stored =>
    obtain ⟨inner, rfl⟩ := editable.messages message k stored found
    refine ⟨inner, by rw [contents, Table.lookup_toFinmap, found]; rfl, ?_⟩
    simp only [edit, fits, named, found, Value.asMessage, Outcome.within, Outcome.done]

/-- A call that is accepted is done on the entries, and the map can be edited again. -/
theorem apply_of_accepts (editable : m.Editable) (accepts : call.Accepts m.schema m.key m.value) :
    ∃ entries : Table Key Value,
      call.apply m = .done (call.answer m.contents) { m with entries } ∧
        entries.toFinmap = call.onContents m.schema m.value m.contents ∧
        Editable { m with entries } := by
  cases accepts with
  | @set k x keyed holds =>
    refine ⟨m.entries.insert k x, ?_, m.entries.toFinmap_insert k x,
      editable.insert keyed holds.ne_null fun message => ?_⟩
    · have fits := (m.keyMisfit?_eq_none_iff k).2 keyed
      have suits := (m.schema.misfit?_eq_none_iff m.value x).2 holds
      simp only [Call.apply, set, fits, holds.not_null, suits]
      rfl
    · obtain ⟨index, named⟩ := m.value.isMessage_iff.1 message
      obtain ⟨inner, same, -⟩ := holds.exists_message named
      exact ⟨inner, same⟩
  | @remove k =>
    refine ⟨m.entries.erase k, ?_, m.entries.toFinmap_erase k, editable.erase k⟩
    simp only [Call.apply, remove, Call.answer, contents, Table.lookup_toFinmap]
  | @edit k change keyed message =>
    obtain ⟨inner, opened, edited⟩ := editable.edit_eq keyed message change
    refine ⟨m.entries.insert k (.message (change inner)), edited, ?_,
      editable.insert keyed (by simp) fun _ => ⟨_, rfl⟩⟩
    rw [Table.toFinmap_insert, Call.onContents, opened]
    rfl

/-- A call that is refused leaves the map as it was. -/
theorem apply_of_refuses {e : Error} (refuses : call.Refuses m.schema m.key m.value e) :
    call.apply m = .fail e m := by
  cases refuses with
  | setKey other =>
    simp only [Call.apply, set, keyMisfit?_of_other other]
    rfl
  | setNull keyed =>
    simp only [Call.apply, set, (m.keyMisfit?_eq_none_iff _).2 keyed]
    rfl
  | setUnfit keyed unfit =>
    obtain ⟨notNull, misfit⟩ := unfit.misfit?
    simp only [Call.apply, set, (m.keyMisfit?_eq_none_iff _).2 keyed,
      Value.isNull_of_ne_null notNull, misfit]
    rfl
  | editKey other => simp only [Call.apply, edit, keyMisfit?_of_other other]
  | editScalar keyed scalar =>
    simp only [Call.apply, edit, (m.keyMisfit?_eq_none_iff _).2 keyed,
      m.value.not_isMessage_iff.1 scalar]

/-- A call is accepted or refused, if the values it is given know their types. -/
theorem accepts_or_refuses (editable : m.Editable) (call : Call)
    (typed : ∀ x ∈ call.arguments, x.HasType) :
    call.Accepts m.schema m.key m.value ∨ ∃ e, call.Refuses m.schema m.key m.value e := by
  cases call with
  | set k x =>
    by_cases keyed : m.key.member = k.member
    · rcases Kind.null_or_holds_or_refuses editable.names (typed x (by simp [Call.arguments])) with
        rfl | holds | ⟨e, unfit⟩
      · exact .inr ⟨_, .setNull keyed⟩
      · exact .inl (.set keyed holds)
      · exact .inr ⟨e, .setUnfit keyed unfit⟩
    · exact .inr ⟨_, .setKey keyed⟩
  | remove k => exact .inl .remove
  | edit k change =>
    by_cases keyed : m.key.member = k.member
    · by_cases message : m.value.IsMessage
      · exact .inl (.edit keyed message)
      · exact .inr ⟨_, .editScalar keyed message⟩
    · exact .inr ⟨_, .editKey keyed⟩

/-- A call that is not accepted leaves the map as it was, whatever it is given. -/
theorem apply_of_not_accepts (editable : m.Editable)
    (unaccepted : ¬call.Accepts m.schema m.key m.value) : ∃ e, call.apply m = .fail e m := by
  have decided (untyped : call.arguments = []) : ∃ e, call.apply m = .fail e m := by
    rcases editable.accepts_or_refuses call (by simp [untyped]) with accepts | ⟨e, refuses⟩
    · exact absurd accepts unaccepted
    · exact ⟨e, apply_of_refuses refuses⟩
  cases call with
  | set k x =>
    by_cases keyed : m.key.member = k.member
    · by_cases null : x = .null
      · subst null
        exact ⟨_, apply_of_refuses (.setNull keyed)⟩
      · cases misfit : m.schema.misfit? m.value x with
        | none =>
          have holds := (m.schema.misfit?_eq_none_iff m.value x).1 misfit
          exact absurd (.set keyed holds) unaccepted
        | some e =>
          refine ⟨e, ?_⟩
          simp only [Call.apply, set, (m.keyMisfit?_eq_none_iff k).2 keyed,
            Value.isNull_of_ne_null null, misfit]
          rfl
    · exact ⟨_, apply_of_refuses (.setKey keyed)⟩
  | _ => exact decided rfl

/-- A run leaves the kinds of the map and the entries that its successful calls make.  By induction
on the calls. -/
theorem run_eq (editable : m.Editable) (calls : List Call) :
    ∃ entries : Table Key Value, m.run calls = { m with entries } ∧
      entries.toFinmap = replay m.schema m.value (m.accepted calls) m.contents ∧
      (m.run calls).Editable := by
  induction calls generalizing m with
  | nil => exact ⟨m.entries, by cases m; rfl, rfl, editable⟩
  | cons call calls ih =>
    rw [run, List.foldl_cons, ← run, accepted]
    by_cases accepts : call.Accepts m.schema m.key m.value
    · obtain ⟨entries, done, made, editable'⟩ := editable.apply_of_accepts accepts
      rw [done]
      obtain ⟨entries', left, replayed, editable''⟩ := ih editable'
      refine ⟨entries', left, replayed.trans ?_, editable''⟩
      simp only [Outcome.result_done, isOk_ok, ↓reduceIte, replay, List.foldl_cons, contents]
      rw [made]
      rfl
    · obtain ⟨e, refused⟩ := editable.apply_of_not_accepts accepts
      rw [refused]
      exact ih editable

end Editable

/-! ## What a map shows -/

/-- All that can be read of the map is in the finite map `entries`. -/
structure Shows (m : Map) (entries : Contents) : Prop where
  get : ∀ k, m.get k = (entries.lookup k).getD .null
  listed : ∀ k, k ∈ m.list ↔ k ∈ entries
  size : m.size = entries.keys.card
  /-- No key is listed twice, and the entries are gone through one by one. -/
  views : m.ViewsAgree

/-- The map from keys of a kind to values of a kind in a schema is the finite map `entries`, for
what it shows and for the calls that come. -/
structure Refines (m : Map) (s : Schema) (key value : Kind) (entries : Contents) : Prop where
  schema_eq : m.schema = s
  key_eq : m.key = key
  value_eq : m.value = value
  shows : m.Shows entries
  accepts : ∀ call : Call, (call.apply m).result.isOk = true ↔ call.Accepts s key value
  answers : ∀ (call : Call) a, (call.apply m).result = .ok a → a = call.answer entries
  refuses : ∀ call : Call, (∀ x ∈ call.arguments, Reachable x) → ∀ e,
    (call.apply m).result = .error e ↔ call.Refuses s key value e
  unchanged : ∀ (call : Call) e, (call.apply m).result = .error e → (call.apply m).state = m
  /-- Removing gives what was shown, and nothing where null was. -/
  removes : ∀ k, (m.remove k).result = .ok (if (m.get k).isNull then none else some (m.get k))
  /-- A key of another member is in no entry. -/
  others : ∀ k : Key, key.member ≠ k.member →
    k ∉ m.list ∧ m.get k = .null ∧ (m.remove k).result = .ok none

namespace Editable

theorem shows (editable : m.Editable) : m.Shows m.contents := by
  have views := viewsAgree_of_ascending editable.ascending editable.notNull
  have listed (k : Key) : k ∈ m.list ↔ k ∈ m.contents := by
    rw [← Finmap.lookup_isSome, contents, Table.lookup_toFinmap]
    exact editable.ascending.mem_keys_iff k
  refine ⟨fun k => by rw [contents, Table.lookup_toFinmap]; rfl, listed, ?_, views⟩
  have same : m.list.toFinset = m.contents.keys := by
    ext k
    rw [List.mem_toFinset, Finmap.mem_keys, listed]
  rw [views.size_eq, ← List.toFinset_card_of_nodup views.nodup, same]

theorem removes (editable : m.Editable) (k : Key) :
    (m.remove k).result = .ok (if (m.get k).isNull then none else some (m.get k)) := by
  rw [remove, Outcome.result_done, get]
  cases found : m.entries.find? k with
  | none => rfl
  | some x => simp [Value.isNull_of_ne_null (editable.notNull k x found)]

theorem find?_of_other (editable : m.Editable) {k : Key} (other : m.key.member ≠ k.member) :
    m.entries.find? k = none := by
  cases found : m.entries.find? k with
  | none => rfl
  | some x => exact absurd (editable.keyed k x found) other

theorem refines (editable : m.Editable) :
    m.Refines m.schema m.key m.value m.contents where
  schema_eq := rfl
  key_eq := rfl
  value_eq := rfl
  shows := editable.shows
  accepts call := by
    refine ⟨fun accepted => ?_, fun accepts => ?_⟩
    · by_contra unaccepted
      obtain ⟨e, refused⟩ := editable.apply_of_not_accepts unaccepted
      simp [refused] at accepted
    · obtain ⟨entries, done, -⟩ := editable.apply_of_accepts accepts
      rw [done]
      rfl
  answers call a answered := by
    by_cases accepts : call.Accepts m.schema m.key m.value
    · obtain ⟨entries, done, -⟩ := editable.apply_of_accepts accepts
      rw [done] at answered
      exact (Except.ok.inj answered).symm
    · obtain ⟨e, refused⟩ := editable.apply_of_not_accepts accepts
      simp [refused] at answered
  refuses call given e := by
    refine ⟨fun refused => ?_, fun refuses => by rw [apply_of_refuses refuses]; rfl⟩
    rcases editable.accepts_or_refuses call (fun x member => (given x member).sound.hasType) with
      accepts | ⟨e', refuses⟩
    · obtain ⟨entries, done, -⟩ := editable.apply_of_accepts accepts
      simp [done] at refused
    · rw [apply_of_refuses refuses] at refused
      rwa [← Except.error.inj refused]
  unchanged call e refused := by
    by_cases accepts : call.Accepts m.schema m.key m.value
    · obtain ⟨entries, done, -⟩ := editable.apply_of_accepts accepts
      simp [done] at refused
    · obtain ⟨e', same⟩ := editable.apply_of_not_accepts accepts
      rw [same, Outcome.state_fail]
  removes := editable.removes
  others k other := by
    have absent := editable.find?_of_other other
    have unlisted : k ∉ m.list := by
      rw [editable.shows.listed, ← Finmap.lookup_eq_none, contents, Table.lookup_toFinmap, absent]
    exact ⟨unlisted, by rw [get, absent]; rfl, by rw [remove, absent]; rfl⟩

end Editable

end Map

/-! ## Maps of fields -/

namespace Message

/-- The entries that a field shows: those of its map, if it holds one. -/
def contents (m : Message) (n : FieldNumber) : Map.Contents :=
  match m.get n with
  | .map x => x.contents
  | _ => ∅

/-- The message after a run of calls on the map of a field, in place. -/
def runMap (m : Message) (n : FieldNumber) (calls : List Map.Call) : Message :=
  (m.edit n (Edit.map fun x => .done () (x.run calls)).onComposite).state

/-- A field whose row is a map shows its entries, also where it is hidden. -/
theorem contents_of_find? {m : Message} {n : FieldNumber} {x : Map}
    (found : m.fields.find? n = some (.map x)) : m.contents n = x.contents := by
  by_cases populated : (Value.map x).isPopulated = true
  · simp only [contents, get, found, populated, ↓reduceIte]
  · have hidden : x.entries = ∅ := by
      have none : x.entries.rows = [] := by simpa [Value.isPopulated] using populated
      cases entries : x.entries
      rw [entries] at none
      exact congrArg Table.mk none
    rw [Map.contents, hidden, Table.toFinmap_empty]
    simp only [contents, get, found, populated, Bool.false_eq_true, ↓reduceIte]

end Message

namespace Map

/-- The map is what opening the field `n` of a message gives. -/
structure OpenedIn (x : Map) (m : Message) (n : FieldNumber) : Prop where
  reachable : Reachable (.message m)
  answer : ((Write.openField n).run m).result = .ok (.values [.map x])

/-- The map is made, or opened in a field, and its entries are `entries`. -/
inductive Starts : Map → Contents → Prop where
  | new {s : Schema} {key value : Kind} {x : Map} (declared : s.Declared)
      (made : Map.new s key value = .ok x) : Starts x ∅
  | field {x : Map} {m : Message} {n : FieldNumber} (opened : x.OpenedIn m n) :
      Starts x (m.contents n)

/-- A new map has no entries. -/
theorem contents_of_fresh {x : Map} {s : Schema} (fresh : Composite.Fresh s (.map x)) :
    x.contents = ∅ := by
  cases fresh with
  | map => exact Table.toFinmap_empty

namespace OpenedIn

variable {x : Map} {m : Message} {n : FieldNumber}

theorem contents_eq (opened : x.OpenedIn m n) : x.contents = m.contents n := by
  obtain ⟨t, f, sound, opens⟩ := opened.reachable.opens_of_answer opened.answer
  rcases opens.part with stored | ⟨absent, initial⟩
  · exact (Message.contents_of_find? stored).symm
  · rw [Message.contents, Message.get, absent]
    exact contents_of_fresh (sound.fresh_of_initial opens.field initial)

/-- After a run in place the field shows what the run leaves. -/
theorem contents_runMap (opened : x.OpenedIn m n) (calls : List Call) :
    (m.runMap n calls).contents n = (x.run calls).contents := by
  obtain ⟨t, f, -, opens⟩ := opened.reachable.opens_of_answer opened.answer
  rw [Message.runMap, opens.edit_eq]
  exact Message.contents_of_find? ((Message.find?_put _ n n _).trans (if_pos rfl))

end OpenedIn

theorem Starts.editable {x : Map} {entries : Contents} (starts : x.Starts entries) :
    x.Editable ∧ x.contents = entries := by
  cases starts with
  | new declared made =>
    have fresh := fresh_of_new made
    exact ⟨Sound.editable (fresh.sound declared), contents_of_fresh fresh⟩
  | field opened =>
    have reachable := opened.reachable.of_openField opened.answer
    exact ⟨Sound.editable reachable.sound.here, opened.contents_eq⟩

end Map

/-- Whatever calls were made on a map, it is the finite map that the successful ones make, and the
next call is decided by the kinds of the map and answered by what it shows.  A map that was opened
in a field is edited in place: the field shows the finite map. -/
theorem map_refines_finmap {x : Map} {entries : Map.Contents} (starts : x.Starts entries)
    (calls : List Map.Call) :
    (x.run calls).Refines x.schema x.key x.value
        (Map.replay x.schema x.value (x.accepted calls) entries) ∧
      ∀ m n, x.OpenedIn m n →
        (m.runMap n calls).contents n =
          Map.replay x.schema x.value (x.accepted calls) entries := by
  obtain ⟨editable, rfl⟩ := starts.editable
  obtain ⟨table, left, made, editable'⟩ := editable.run_eq calls
  have contents : (x.run calls).contents =
      Map.replay x.schema x.value (x.accepted calls) x.contents := by
    rw [left]
    exact made
  have refines := editable'.refines
  refine ⟨?_, fun m n opened => ?_⟩
  · rw [contents] at refines
    rwa [left] at refines ⊢
  · rw [opened.contents_runMap calls, contents]

namespace AddressBook

/-- Phone numbers by speed-dial key, before any is added. -/
def speedDial : Map := .empty schema (.scalar .int32) (.message phoneNumber)

theorem new_speedDial :
    Map.new schema (.scalar .int32) (.message phoneNumber) = .ok speedDial := by
  have found : (schema.type? phoneNumber).isSome = true := by decide +kernel
  obtain ⟨t, found⟩ := Option.isSome_iff_exists.1 found
  simp [Map.new, Kind.isKey, ScalarKind.isKey, Kind.messageIndex?, found, speedDial]

/-- Two numbers are added, the second is edited again, and the first is removed; keys of other
members that look alike are refused, and removing one of them removes nothing. -/
def speedDialCalls : List Map.Call :=
  [.edit (.i32 1) (dial "555"), .edit (.i32 2) (dial "556"), .edit (.u64 1) (dial "557"),
   .edit (.i32 2) (dial "558"), .set (.string "1") .null, .set (.i32 3) .null,
   .remove (.string "2"), .remove (.i32 1)]

/-- One number is left of the calls.  The key is looked at before null is, and null is refused under
a key that suits; under the key that looks alike nothing is found.  The card opens its attributes,
and what is set there in place is what the field shows. -/
theorem speedDial_refines_finmap :
    speedDial.Starts ∅ ∧ (speedDial.accepted speedDialCalls).length = 5 ∧
      (speedDial.run speedDialCalls).Refines schema (.scalar .int32) (.message phoneNumber)
        (Map.replay schema (.message phoneNumber) (speedDial.accepted speedDialCalls) ∅) ∧
      (Map.replay schema (.message phoneNumber) (speedDial.accepted speedDialCalls) ∅).keys.card =
        1 ∧
      (Map.Call.apply (speedDial.run speedDialCalls) (.set (.u64 2) .null)).result =
        .error (.typeMismatch (.member .i32) .u64) ∧
      (Map.Call.apply (speedDial.run speedDialCalls) (.set (.i32 2) .null)).result =
        .error (.nullRejected .mapSet) ∧
      ((speedDial.run speedDialCalls).remove (.u64 2)).result = .ok none ∧
      ∃ x : Map, x.OpenedIn card 5 ∧ x.Starts (card.contents 5) ∧
        (card.runMap 5 [.set (.string "mood") (.scalar (.string "low"))]).contents 5 =
          Map.replay x.schema x.value
            (x.accepted [.set (.string "mood") (.scalar (.string "low"))]) (card.contents 5) := by
  have starts : speedDial.Starts ∅ := .new ⟨0, types, declare_types⟩ new_speedDial
  have refines : (speedDial.run speedDialCalls).Refines schema (.scalar .int32)
      (.message phoneNumber)
      (Map.replay schema (.message phoneNumber) (speedDial.accepted speedDialCalls) ∅) :=
    (map_refines_finmap starts speedDialCalls).1
  refine ⟨starts, by decide +kernel, refines, ?_, ?_, ?_, ?_, ?_⟩
  · rw [← refines.shows.size]
    decide +kernel
  · exact (refines.refuses (.set (.u64 2) .null) (by simp [Map.Call.arguments, Reachable.null]) _).2
      (.setKey (by decide))
  · exact (refines.refuses (.set (.i32 2) .null) (by simp [Map.Call.arguments, Reachable.null]) _).2
      (.setNull (by decide))
  · exact (refines.others (.u64 2) (by decide)).2.2
  · obtain ⟨t, sound⟩ := reachable_card.sound.here
    have has := hasField_card (f := attributes) (by decide)
    obtain ⟨c, holds, answer⟩ := sound.openField_of_hasParts has (.inl rfl)
    cases holds with
    | @map x =>
      have opened : x.OpenedIn card 5 := ⟨reachable_card, answer⟩
      have starts := Map.Starts.field opened
      exact ⟨x, opened, starts, (map_refines_finmap starts _).2 card 5 opened⟩
    | vector list => cases list
    | singular unkeyed => cases unkeyed

end AddressBook

end DynamicMessage
