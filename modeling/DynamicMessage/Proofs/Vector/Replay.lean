/-
# Proofs.Vector.Replay -- a vector is the list that its calls make

A run of calls on a vector is replayed on a list: the calls that succeed are operations of the list
(`Vector.Call.onList`), and those that fail are left out.  Each call is one step: it is done on the
elements, or it leaves the vector as it was (`Vector.Editable.step`).  So what can be read of the
vector after the run is what is in the list (`Vector.Shows`), and whether the next call succeeds,
and why it fails, can be told from the list (`Call.Accepts`, `Call.Refuses`).

An edit of an element may leave any message there.  The calls rely on less than that the elements
suit the vector, only on their being messages where they are edited (`Vector.Editable`).
-/
import DynamicMessage.Proofs.Message.Acceptance
import DynamicMessage.Proofs.Message.Filling

namespace DynamicMessage

set_option autoImplicit false

/-! ## Calls -/

/-- An edit of a message, on values. -/
def Value.editMessage (change : Message → Message) : Value → Value
  | .message m => .message (change m)
  | x => x

/-- The message without fields that is added to messages of a kind to be edited. -/
def Kind.newElement (s : Schema) (kind : Kind) : Value :=
  match kind.messageIndex? with
  | none => .null
  | some index =>
    match Message.zero s index with
    | .error _ => .null
    | .ok m => .message m

/-- A kind of messages that the schema has can be opened with a message without fields. -/
theorem Schema.Names.newElement {s : Schema} {kind : Kind} (names : s.Names kind)
    (message : kind.IsMessage) :
    ∃ index m, kind.messageIndex? = some index ∧ Message.zero s index = .ok m ∧
      kind.newElement s = .message m := by
  obtain ⟨index, named⟩ := kind.isMessage_iff.1 message
  obtain ⟨m, made⟩ := names.exists_zero named
  exact ⟨index, m, named, made, by simp [Kind.newElement, named, made]⟩

namespace Vector

/-- A call that may change a vector.  What is done with a message that is opened is a function. -/
inductive Call where
  | set (i : Nat) (x : Value)
  | append (x : Value)
  | edit (i : Nat) (change : Message → Message)
  | editNew (change : Message → Message)
  | truncate (n : Nat)

namespace Call

/-- What a call answers and leaves. -/
def apply (v : Vector) : Call → Outcome Vector Unit
  | .set i x => v.set i x
  | .append x => v.append x
  | .edit i change => v.edit i fun m => .done () (change m)
  | .editNew change => v.editNew fun m => .done () (change m)
  | .truncate n => v.truncate n

/-- The values a call is given. -/
def arguments : Call → List Value
  | .set _ x => [x]
  | .append x => [x]
  | _ => []

/-- What a call does to a list. -/
def onList (s : Schema) (kind : Kind) : Call → List Value → List Value
  | .set i x, xs => xs.set i x
  | .append x, xs => xs ++ [x]
  | .edit i change, xs => xs.modify i (Value.editMessage change)
  | .editNew change, xs => xs ++ [(kind.newElement s).editMessage change]
  | .truncate n, xs => xs.take n

/-- When a call succeeds on a vector that shows `xs`. -/
inductive Accepts (s : Schema) (kind : Kind) (xs : List Value) : Call → Prop where
  | set {i : Nat} {x : Value} (holds : kind.Holds s x) (within : i < xs.length) :
      Accepts s kind xs (.set i x)
  | append {x : Value} (holds : kind.Holds s x) : Accepts s kind xs (.append x)
  | edit {i : Nat} {change : Message → Message} (message : kind.IsMessage)
      (within : i < xs.length) : Accepts s kind xs (.edit i change)
  | editNew {change : Message → Message} (message : kind.IsMessage) :
      Accepts s kind xs (.editNew change)
  | truncate {n : Nat} (within : n ≤ xs.length) : Accepts s kind xs (.truncate n)

/-- Why a call fails on a vector that shows `xs`: null first, then what does not suit, and the
position last. -/
inductive Refuses (s : Schema) (kind : Kind) (xs : List Value) : Call → Error → Prop where
  | setNull {i : Nat} : Refuses s kind xs (.set i .null) (.nullRejected .vectorSet)
  | setUnfit {i : Nat} {x : Value} {e : Error} (unfit : kind.Refuses s x e) :
      Refuses s kind xs (.set i x) e
  | setPast {i : Nat} {x : Value} (holds : kind.Holds s x) (past : xs.length ≤ i) :
      Refuses s kind xs (.set i x) (.indexOutOfRange i xs.length)
  | appendNull : Refuses s kind xs (.append .null) (.nullRejected .vectorAppend)
  | appendUnfit {x : Value} {e : Error} (unfit : kind.Refuses s x e) :
      Refuses s kind xs (.append x) e
  | editScalar {i : Nat} {change : Message → Message} (scalar : ¬kind.IsMessage) :
      Refuses s kind xs (.edit i change) (.typeMismatch (.member .message) kind.member)
  | editPast {i : Nat} {change : Message → Message} (message : kind.IsMessage)
      (past : xs.length ≤ i) : Refuses s kind xs (.edit i change) (.indexOutOfRange i xs.length)
  | editNewScalar {change : Message → Message} (scalar : ¬kind.IsMessage) :
      Refuses s kind xs (.editNew change) (.typeMismatch (.member .message) kind.member)
  | truncatePast {n : Nat} (past : xs.length < n) :
      Refuses s kind xs (.truncate n) (.indexOutOfRange n xs.length)

end Call

/-- What a run of calls leaves. -/
def run (v : Vector) (calls : List Call) : Vector :=
  calls.foldl (fun v call => (call.apply v).state) v

/-- The calls of a run that succeed. -/
def accepted (v : Vector) : List Call → List Call
  | [] => []
  | call :: calls =>
    let rest := accepted (call.apply v).state calls
    if (call.apply v).result.isOk then call :: rest else rest

/-- What calls make of a list. -/
def replay (s : Schema) (kind : Kind) (calls : List Call) (xs : List Value) : List Value :=
  calls.foldl (fun xs call => call.onList s kind xs) xs

/-! ## One call -/

/-- What the calls rely on when the elements are edited. -/
structure Editable (v : Vector) : Prop where
  names : v.schema.Names v.kind
  messages : v.kind.IsMessage → ∀ x ∈ v.items, ∃ m, x = .message m

variable {v : Vector} {call : Call}

theorem Sound.editable (sound : v.Sound) : v.Editable where
  names := sound.names
  messages message x member := by
    obtain ⟨index, named⟩ := v.kind.isMessage_iff.1 message
    obtain ⟨m, same, -⟩ := (sound.items x member).exists_message named
    exact ⟨m, same⟩

/-- An edit of one message among the elements replaces that element. -/
theorem set_eq_modify {xs : List Value} {i : Nat} {m : Message} (found : xs[i]? = some (.message m))
    (change : Message → Message) :
    xs.set i (.message (change m)) = xs.modify i (Value.editMessage change) := by
  refine List.ext_getElem? fun j => ?_
  rw [List.getElem?_set, List.getElem?_modify]
  obtain ⟨within, stored⟩ := List.getElem?_eq_some_iff.1 found
  by_cases same : i = j
  · subst same
    simp [within, stored, Value.editMessage]
  · simp [same]

namespace Editable

theorem elementIndex (editable : v.Editable) (message : v.kind.IsMessage) :
    ∃ index m, v.elementIndex = .ok index ∧ Message.zero v.schema index = .ok m ∧
      v.kind.newElement v.schema = .message m := by
  obtain ⟨index, m, named, made, new⟩ := editable.names.newElement message
  exact ⟨index, m, by simp [Vector.elementIndex, named], made, new⟩

/-- A call that is accepted is done on the elements. -/
theorem apply_of_accepts (editable : v.Editable) (accepts : call.Accepts v.schema v.kind v.items) :
    call.apply v = .done () { v with items := call.onList v.schema v.kind v.items } := by
  cases accepts with
  | set holds within =>
    have fits := (v.misfit?_eq_none_iff .vectorSet _).2 holds
    simp only [Call.apply, Vector.set, fits, length, within, ↓reduceIte, Call.onList]
  | append holds =>
    have fits := (v.misfit?_eq_none_iff .vectorAppend _).2 holds
    simp only [Call.apply, Vector.append, fits, Call.onList]
  | @edit i change message within =>
    obtain ⟨index, -, element, -⟩ := editable.elementIndex message
    obtain ⟨m, stored⟩ := editable.messages message _ (List.getElem_mem within)
    have found : v.items[i]? = some (.message m) := by
      rw [List.getElem?_eq_getElem within, stored]
    simp only [Call.apply, Vector.edit, element, found, Value.asMessage, Outcome.within,
      Outcome.done, Call.onList, set_eq_modify found]
  | editNew message =>
    obtain ⟨index, m, element, made, new⟩ := editable.elementIndex message
    simp only [Call.apply, Vector.editNew, element, made, Outcome.within, Outcome.done,
      Call.onList, new, Value.editMessage]
  | truncate within =>
    simp only [Call.apply, Vector.truncate, length, Nat.not_lt.2 within, ↓reduceIte, Call.onList]

/-- A call that is refused leaves the vector as it was. -/
theorem apply_of_refuses {e : Error} (refuses : call.Refuses v.schema v.kind v.items e) :
    call.apply v = .fail e v := by
  cases refuses with
  | setNull => rfl
  | setUnfit unfit =>
    obtain ⟨notNull, misfit⟩ := unfit.misfit?
    simp [Call.apply, Vector.set, Vector.misfit?, Value.isNull_of_ne_null notNull, misfit]
  | setPast holds past =>
    have fits := (v.misfit?_eq_none_iff .vectorSet _).2 holds
    simp only [Call.apply, Vector.set, fits, length, Nat.not_lt.2 past, ↓reduceIte]
  | appendNull => rfl
  | appendUnfit unfit =>
    obtain ⟨notNull, misfit⟩ := unfit.misfit?
    simp [Call.apply, Vector.append, Vector.misfit?, Value.isNull_of_ne_null notNull, misfit]
  | editScalar scalar =>
    simp only [Call.apply, Vector.edit, Vector.elementIndex, v.kind.not_isMessage_iff.1 scalar]
  | editPast message past =>
    obtain ⟨index, named⟩ := v.kind.isMessage_iff.1 message
    simp only [Call.apply, Vector.edit, Vector.elementIndex, named, length,
      List.getElem?_eq_none past]
  | editNewScalar scalar =>
    simp only [Call.apply, Vector.editNew, Vector.elementIndex, v.kind.not_isMessage_iff.1 scalar]
  | truncatePast past => simp only [Call.apply, Vector.truncate, length, past, ↓reduceIte]

/-- A call is accepted or refused, if the values it is given know their types. -/
theorem accepts_or_refuses (editable : v.Editable) (call : Call)
    (typed : ∀ x ∈ call.arguments, x.HasType) :
    call.Accepts v.schema v.kind v.items ∨ ∃ e, call.Refuses v.schema v.kind v.items e := by
  cases call with
  | set i x =>
    rcases Kind.null_or_holds_or_refuses editable.names (typed x (by simp [Call.arguments])) with
      rfl | holds | ⟨e, unfit⟩
    · exact .inr ⟨_, .setNull⟩
    · rcases Nat.lt_or_ge i v.items.length with within | past
      · exact .inl (.set holds within)
      · exact .inr ⟨_, .setPast holds past⟩
    · exact .inr ⟨e, .setUnfit unfit⟩
  | append x =>
    rcases Kind.null_or_holds_or_refuses editable.names (typed x (by simp [Call.arguments])) with
      rfl | holds | ⟨e, unfit⟩
    · exact .inr ⟨_, .appendNull⟩
    · exact .inl (.append holds)
    · exact .inr ⟨e, .appendUnfit unfit⟩
  | edit i change =>
    by_cases message : v.kind.IsMessage
    · rcases Nat.lt_or_ge i v.items.length with within | past
      · exact .inl (.edit message within)
      · exact .inr ⟨_, .editPast message past⟩
    · exact .inr ⟨_, .editScalar message⟩
  | editNew change =>
    by_cases message : v.kind.IsMessage
    · exact .inl (.editNew message)
    · exact .inr ⟨_, .editNewScalar message⟩
  | truncate n =>
    rcases Nat.lt_or_ge v.items.length n with past | within
    · exact .inr ⟨_, .truncatePast past⟩
    · exact .inl (.truncate within)

/-- A call that is not accepted leaves the vector as it was, whatever it is given. -/
theorem apply_of_not_accepts (editable : v.Editable)
    (unaccepted : ¬call.Accepts v.schema v.kind v.items) : ∃ e, call.apply v = .fail e v := by
  have decided (untyped : call.arguments = []) : ∃ e, call.apply v = .fail e v := by
    rcases editable.accepts_or_refuses call (by simp [untyped]) with accepts | ⟨e, refuses⟩
    · exact absurd accepts unaccepted
    · exact ⟨e, apply_of_refuses refuses⟩
  cases call with
  | set i x =>
    cases misfit : v.misfit? .vectorSet x with
    | some e => exact ⟨e, by simp only [Call.apply, Vector.set, misfit]⟩
    | none =>
      have holds := (v.misfit?_eq_none_iff .vectorSet x).1 misfit
      have past : ¬i < v.items.length := fun within => unaccepted (.set holds within)
      exact ⟨_, apply_of_refuses (.setPast holds (Nat.le_of_not_lt past))⟩
  | append x =>
    cases misfit : v.misfit? .vectorAppend x with
    | some e => exact ⟨e, by simp only [Call.apply, Vector.append, misfit]⟩
    | none => exact absurd (.append ((v.misfit?_eq_none_iff .vectorAppend x).1 misfit)) unaccepted
  | _ => exact decided rfl

/-- After a call that is accepted the vector can be edited again, whatever an edit left. -/
theorem step (editable : v.Editable) (accepts : call.Accepts v.schema v.kind v.items) :
    Editable { v with items := call.onList v.schema v.kind v.items } where
  names := editable.names
  messages message x member := by
    have fitting {y : Value} (holds : v.kind.Holds v.schema y) : ∃ m, y = .message m := by
      obtain ⟨index, named⟩ := v.kind.isMessage_iff.1 message
      obtain ⟨m, same, -⟩ := holds.exists_message named
      exact ⟨m, same⟩
    have before := editable.messages message
    cases accepts with
    | set holds within =>
      rcases List.mem_or_eq_of_mem_set member with stored | rfl
      · exact before x stored
      · exact fitting holds
    | append holds =>
      rcases List.mem_append.1 member with stored | new
      · exact before x stored
      · exact fitting (List.mem_singleton.1 new ▸ holds)
    | @edit i change _ within =>
      obtain ⟨m, stored⟩ := before _ (List.getElem_mem within)
      have found : v.items[i]? = some (.message m) := by
        rw [List.getElem?_eq_getElem within, stored]
      simp only [Call.onList, ← set_eq_modify found] at member
      rcases List.mem_or_eq_of_mem_set member with stored | rfl
      · exact before x stored
      · exact ⟨_, rfl⟩
    | editNew =>
      rcases List.mem_append.1 member with stored | new
      · exact before x stored
      · obtain ⟨index, m, -, -, zero⟩ := editable.elementIndex message
        rw [List.mem_singleton.1 new, zero]
        exact ⟨_, rfl⟩
    | truncate => exact before x (List.mem_of_mem_take member)

/-- A run leaves what the list that its successful calls make has. -/
theorem run_eq (editable : v.Editable) (calls : List Call) :
    v.run calls = { v with items := replay v.schema v.kind (v.accepted calls) v.items } ∧
      (v.run calls).Editable := by
  induction calls generalizing v with
  | nil => exact ⟨by cases v; rfl, editable⟩
  | cons call calls ih =>
    rw [run, List.foldl_cons, ← run, accepted]
    by_cases accepts : call.Accepts v.schema v.kind v.items
    · rw [editable.apply_of_accepts accepts]
      exact ih (editable.step accepts)
    · obtain ⟨e, refused⟩ := editable.apply_of_not_accepts accepts
      rw [refused]
      exact ih editable

end Editable

/-! ## What a vector shows -/

/-- All that can be read of the vector is in the list `xs`. -/
structure Shows (v : Vector) (xs : List Value) : Prop where
  length : v.length = xs.length
  isEmpty : v.isEmpty = xs.isEmpty
  get : ∀ i, v.get i =
    match xs[i]? with
    | some x => .ok x
    | none => .error (.indexOutOfRange i xs.length)
  items : Read.items.answer v = .ok (.values xs)

theorem shows_items (v : Vector) : v.Shows v.items := ⟨rfl, rfl, fun _ => rfl, rfl⟩

/-- The vector of elements of a kind in a schema is the list `xs`, for what it shows and for the
calls that come. -/
structure Refines (v : Vector) (s : Schema) (kind : Kind) (xs : List Value) : Prop where
  schema_eq : v.schema = s
  kind_eq : v.kind = kind
  shows : v.Shows xs
  accepts : ∀ call : Call, (call.apply v).result = .ok () ↔ call.Accepts s kind xs
  refuses : ∀ call : Call, (∀ x ∈ call.arguments, Reachable x) → ∀ e,
    (call.apply v).result = .error e ↔ call.Refuses s kind xs e
  unchanged : ∀ (call : Call) e, (call.apply v).result = .error e → (call.apply v).state = v

theorem Editable.refines (editable : v.Editable) : v.Refines v.schema v.kind v.items where
  schema_eq := rfl
  kind_eq := rfl
  shows := v.shows_items
  accepts call := by
    refine ⟨fun accepted => ?_, fun accepts => by rw [editable.apply_of_accepts accepts]; rfl⟩
    by_contra unaccepted
    obtain ⟨e, refused⟩ := editable.apply_of_not_accepts unaccepted
    simp [refused] at accepted
  refuses call given e := by
    refine ⟨fun refused => ?_, fun refuses => by rw [apply_of_refuses refuses]; rfl⟩
    rcases editable.accepts_or_refuses call (fun x member => (given x member).sound.hasType) with
      accepts | ⟨e', refuses⟩
    · simp [editable.apply_of_accepts accepts] at refused
    · rw [apply_of_refuses refuses] at refused
      rwa [← Except.error.inj refused]
  unchanged call e refused := by
    by_cases accepts : call.Accepts v.schema v.kind v.items
    · simp [editable.apply_of_accepts accepts] at refused
    · obtain ⟨e', same⟩ := editable.apply_of_not_accepts accepts
      rw [same, Outcome.state_fail]

end Vector

/-! ## Vectors of fields -/

namespace Message

/-- The elements that a field shows: those of its vector, if it holds one. -/
def elements (m : Message) (n : FieldNumber) : List Value :=
  match m.get n with
  | .vector v => v.items
  | _ => []

/-- The message after a run of calls on the vector of a field, in place. -/
def runVector (m : Message) (n : FieldNumber) (calls : List Vector.Call) : Message :=
  (m.edit n (Edit.vector fun v => .done () (v.run calls)).onComposite).state

/-- A field whose row is a vector shows its elements, also where it is hidden. -/
theorem elements_of_find? {m : Message} {n : FieldNumber} {v : Vector}
    (found : m.fields.find? n = some (.vector v)) : m.elements n = v.items := by
  cases items : v.items <;> simp [elements, get, found, Value.isPopulated, items]

end Message

namespace Vector

/-- The vector is what opening the field `n` of a message gives. -/
structure OpenedIn (v : Vector) (m : Message) (n : FieldNumber) : Prop where
  reachable : Reachable (.message m)
  answer : ((Write.openField n).run m).result = .ok (.values [.vector v])

/-- The vector is made, or opened in a field, and its elements are `xs`. -/
inductive Starts : Vector → List Value → Prop where
  | new {s : Schema} {kind : Kind} {v : Vector} (declared : s.Declared)
      (made : Vector.new s kind = .ok v) : Starts v []
  | field {v : Vector} {m : Message} {n : FieldNumber} (opened : v.OpenedIn m n) :
      Starts v (m.elements n)

namespace OpenedIn

variable {v : Vector} {m : Message} {n : FieldNumber}

theorem opens (opened : v.OpenedIn m n) :
    ∃ t f, m.Sound t ∧ m.Opens t n f (.vector v) :=
  opened.reachable.opens_of_answer opened.answer

/-- A vector that is opened is known. -/
theorem reachable_vector (opened : v.OpenedIn m n) : Reachable (.vector v) :=
  opened.reachable.of_openField opened.answer

theorem items_eq (opened : v.OpenedIn m n) : v.items = m.elements n := by
  obtain ⟨t, f, sound, opens⟩ := opened.opens
  rcases opens.part with stored | ⟨absent, initial⟩
  · exact (Message.elements_of_find? stored).symm
  · have fresh := (sound.fresh_of_initial opens.field initial).parts_eq_nil
    rw [Message.elements, Message.get, absent]
    exact fresh

/-- After a run in place the field shows what the run leaves. -/
theorem elements_runVector (opened : v.OpenedIn m n) (calls : List Call) :
    (m.runVector n calls).elements n = (v.run calls).items := by
  obtain ⟨t, f, -, opens⟩ := opened.opens
  rw [Message.runVector, opens.edit_eq]
  exact Message.elements_of_find? ((Message.find?_put _ n n _).trans (if_pos rfl))

end OpenedIn

theorem Starts.editable {v : Vector} {xs : List Value} (starts : v.Starts xs) :
    v.Editable ∧ v.items = xs := by
  cases starts with
  | new declared made =>
    have fresh := fresh_of_new made
    exact ⟨Sound.editable (fresh.sound declared), fresh.parts_eq_nil⟩
  | field opened => exact ⟨Sound.editable opened.reachable_vector.sound.here, opened.items_eq⟩

end Vector

/-- Whatever calls were made on a vector, it is the list that the successful ones make, and the next
call is decided by that list.  A vector that was opened in a field is edited in place: the field
shows the list. -/
theorem vector_refines_list {v : Vector} {xs : List Value} (starts : v.Starts xs)
    (calls : List Vector.Call) :
    (v.run calls).Refines v.schema v.kind
        (Vector.replay v.schema v.kind (v.accepted calls) xs) ∧
      ∀ m n, v.OpenedIn m n →
        (m.runVector n calls).elements n =
          Vector.replay v.schema v.kind (v.accepted calls) xs := by
  obtain ⟨editable, rfl⟩ := starts.editable
  obtain ⟨same, editable'⟩ := editable.run_eq calls
  have refines := editable'.refines
  refine ⟨?_, fun m n opened => ?_⟩
  · rwa [same] at refines ⊢
  · rw [opened.elements_runVector calls, same]

namespace AddressBook

/-- Phone numbers, before any is added. -/
def phones : Vector := .empty schema (.message phoneNumber)

theorem new_phones : Vector.new schema (.message phoneNumber) = .ok phones := by
  have found : (schema.type? phoneNumber).isSome = true := by decide +kernel
  obtain ⟨t, found⟩ := Option.isSome_iff_exists.1 found
  simp [Vector.new, Kind.messageIndex?, found, phones]

/-- Sets the digits of a phone number. -/
def dial (digits : String) (m : Message) : Message := (m.set 1 (.scalar (.string digits))).state

/-- Two numbers are added and the second is edited, and it is dropped again; a text, null, and two
positions past the end are refused. -/
def phoneCalls : List Vector.Call :=
  [.append (.scalar (.string "555")), .editNew (dial "555"), .editNew (dial "556"), .set 0 .null,
   .edit 1 (dial "557"), .edit 2 (dial "558"), .truncate 3, .truncate 1]

/-- One number is left of the calls.  A null is refused before its position is, and a position past
the end is.  The card opens its phones, and in place nothing is left of them either. -/
theorem phones_refine_list :
    phones.Starts [] ∧ (phones.accepted phoneCalls).length = 4 ∧
      (phones.run phoneCalls).Refines schema (.message phoneNumber)
        (Vector.replay schema (.message phoneNumber) (phones.accepted phoneCalls) []) ∧
      (Vector.Call.apply (phones.run phoneCalls) (.set 1 .null)).result =
        .error (.nullRejected .vectorSet) ∧
      (Vector.Call.apply (phones.run phoneCalls) (.edit 1 id)).result =
        .error (.indexOutOfRange 1 1) ∧
      ∃ v : Vector, v.OpenedIn card 4 ∧ v.Starts (card.elements 4) ∧ (card.elements 4).length = 1 ∧
        (card.runVector 4 [.truncate 0]).elements 4 =
          Vector.replay v.schema v.kind (v.accepted [.truncate 0]) (card.elements 4) := by
  have starts : phones.Starts [] := .new ⟨0, types, declare_types⟩ new_phones
  have refines : (phones.run phoneCalls).Refines schema (.message phoneNumber)
      (Vector.replay schema (.message phoneNumber) (phones.accepted phoneCalls) []) :=
    (vector_refines_list starts phoneCalls).1
  have one : (Vector.replay schema (.message phoneNumber) (phones.accepted phoneCalls) []).length =
      1 := by
    rw [← refines.shows.length]
    decide +kernel
  have message : (Kind.message phoneNumber).IsMessage := ⟨phoneNumber, .inl rfl⟩
  refine ⟨starts, by decide +kernel, refines, ?_, ?_, ?_⟩
  · exact (refines.refuses (.set 1 .null) (by simp [Vector.Call.arguments, Reachable.null]) _).2
      .setNull
  · have past : Vector.Call.Refuses schema (.message phoneNumber)
        (Vector.replay schema (.message phoneNumber) (phones.accepted phoneCalls) []) (.edit 1 id)
        (.indexOutOfRange 1 _) := .editPast message (Nat.le_of_eq one)
    rw [one] at past
    exact (refines.refuses (.edit 1 id) (by simp [Vector.Call.arguments]) _).2 past
  · obtain ⟨t, sound⟩ := reachable_card.sound.here
    have has := hasField_card
      (f := .repeated { number := 4, name := "phones", kind := .message phoneNumber }) (by decide)
    obtain ⟨c, holds, answer⟩ := sound.openField_of_hasParts has (.inr (.inl rfl))
    cases holds with
    | @vector v =>
      have opened : v.OpenedIn card 4 := ⟨reachable_card, answer⟩
      have starts := Vector.Starts.field opened
      exact ⟨v, opened, starts, by decide +kernel, (vector_refines_list starts _).2 card 4 opened⟩
    | map keyed => cases keyed
    | singular _ single => cases single

end AddressBook

end DynamicMessage
