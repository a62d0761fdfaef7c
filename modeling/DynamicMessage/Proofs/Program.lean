/-
# Proofs.Program -- what a program can do with values

A program holds values.  It makes new ones over declared schemas, and it runs calls on the
containers it holds: reads, writes, and calls that open a part in place, after which it goes on
with the part before it returns to the whole.  What a call gives back it may hold and pass on.

`Program` is that language as data.  `Program.run` replays it on a container and logs what every
call answered; a refused call is logged, and the program goes on.  `Reachable` is the set of values
that any run can lead to, over any number of schemas.
-/
import DynamicMessage.AddressBook
import DynamicMessage.Message.Extensions
import DynamicMessage.Path
import DynamicMessage.Proofs.Schema.Declared

namespace DynamicMessage

set_option autoImplicit false

/-! ## Shapes -/

/-- The three kinds of container. -/
inductive Shape where
  | message
  | vector
  | map
deriving DecidableEq, Repr

namespace Shape

/-- The containers of a shape. -/
@[reducible] def Container : Shape → Type
  | .message => Message
  | .vector => Vector
  | .map => Map

/-- A container as a composite. -/
def composite : (σ : Shape) → σ.Container → Composite
  | .message, m => .message m
  | .vector, v => .vector v
  | .map, m => .map m

/-- A container as a value. -/
def value (σ : Shape) (x : σ.Container) : Value := .composite (σ.composite x)

/-- An operation on the containers of a shape, which refuses the other shapes. -/
def edit {α : Type} : (σ : Shape) → (σ.Container → Outcome σ.Container α) → Edit α
  | .message, run => .message run
  | .vector, run => .vector run
  | .map, run => .map run

end Shape

/-! ## Calls -/

/-- What a call gives back. -/
inductive Answer where
  | done
  | flag (b : Bool)
  | count (n : Nat)
  | numbers (ns : List FieldNumber)
  | keys (ks : List Key)
  | extensions (es : List Extension)
  | values (vs : List Value)
  | fields (rows : List (FieldNumber × Value))
  | entries (rows : List (Key × Value))

/-- The values in an answer. -/
def Answer.parts : Answer → List Value
  | .values vs => vs
  | .fields rows => rows.map (·.2)
  | .entries rows => rows.map (·.2)
  | _ => []

/-- The answers of a program in order, and the causes of its refused calls. -/
abbrev Log := List (Except Error Answer)

/-- The values a log gives. -/
def Log.parts : Log → List Value
  | [] => []
  | .ok a :: rest => a.parts ++ Log.parts rest
  | .error _ :: rest => Log.parts rest

/-- The visitor that keeps what it sees and stops at the visit of a number, if there is one. -/
def collect {α : Type} (limit : Option Nat) (a : α) (seen : List α) : ForInStep (List α) :=
  if limit = some (seen.length + 1) then .done (seen ++ [a]) else .yield (seen ++ [a])

/-- A call that only looks. -/
inductive Read : Shape → Type where
  | list : Read .message
  | size : Read .message
  | has (n : FieldNumber) : Read .message
  | get (n : FieldNumber) : Read .message
  | range (limit : Option Nat) : Read .message
  | extensions : Read .message
  | item (i : Nat) : Read .vector
  | items : Read .vector
  | entry (k : Key) : Read .map
  | keys : Read .map
  | entries (limit : Option Nat) : Read .map

/-- What a reading call answers. -/
def Read.answer : {σ : Shape} → Read σ → σ.Container → Except Error Answer
  | _, .list, m => .ok (.numbers m.list)
  | _, .size, m => .ok (.count m.size)
  | _, .has n, m => .ok (.flag (m.has n))
  | _, .get n, m => .ok (.values [m.get n])
  | _, .range limit, m => .ok (.fields (m.range (collect limit) []))
  | _, .extensions, m => .ok (.extensions m.extensions.list)
  | _, .item i, v => (v.get i).map fun x => .values [x]
  | _, .items, v => .ok (.values v.items)
  | _, .entry k, m => .ok (.values [m.get k])
  | _, .keys, m => .ok (.keys m.list)
  | _, .entries limit, m => .ok (.entries (m.range (collect limit) []))

/-- A call that may change its container.  The calls that open a part answer with the part. -/
inductive Write : Shape → Type where
  | set (n : FieldNumber) (v : Value) : Write .message
  | clear (n : FieldNumber) : Write .message
  | openField (n : FieldNumber) : Write .message
  | register (extendee : String) (field : Field) : Write .message
  | remove (extendee : String) (field : Field) : Write .message
  | setUnknown (n : FieldNumber) (run : Wire.Run) : Write .message
  | appendUnknown (n : FieldNumber) (run : Wire.Run) : Write .message
  | setItem (i : Nat) (v : Value) : Write .vector
  | append (v : Value) : Write .vector
  | openItem (i : Nat) : Write .vector
  | openNewItem : Write .vector
  | truncate (length : Nat) : Write .vector
  | setEntry (k : Key) (v : Value) : Write .map
  | removeEntry (k : Key) : Write .map
  | openEntry (k : Key) : Write .map

/-- The answer of an outcome in another form. -/
def Outcome.answered {σ α β : Type} (o : Outcome σ α) (form : α → β) : Outcome σ β :=
  ⟨o.result.map form, o.state⟩

/-- The operation that changes nothing and answers with the message it is run on. -/
def look (m : Message) : Outcome Message Answer := .done (.values [.message m]) m

/-- What a writing call answers and leaves. -/
def Write.run : {σ : Shape} → Write σ → σ.Container → Outcome σ.Container Answer
  | _, .set n v, m => (m.set n v).answered fun _ => .done
  | _, .clear n, m => (m.clear n).answered fun _ => .done
  | _, .openField n, m => m.edit n fun c => .done (.values [.composite c]) c
  | _, .register extendee field, m =>
    (m.register (.declare extendee field)).answered fun _ => .done
  | _, .remove extendee field, m =>
    (m.remove (.declare extendee field)).answered fun _ => .done
  | _, .setUnknown n run, m => (m.setUnknown n run).answered fun _ => .done
  | _, .appendUnknown n run, m => (m.appendUnknown n run).answered fun _ => .done
  | _, .setItem i v, x => (x.set i v).answered fun _ => .done
  | _, .append v, x => (x.append v).answered fun _ => .done
  | _, .openItem i, x => x.edit i look
  | _, .openNewItem, x => x.editNew look
  | _, .truncate length, x => (x.truncate length).answered fun _ => .done
  | _, .setEntry k v, m => (m.set k v).answered fun _ => .done
  | _, .removeEntry k, m => (m.remove k).answered fun v => .values v.toList
  | _, .openEntry k, m => m.edit k look

/-- The values a writing call is given. -/
def Write.arguments : {σ : Shape} → Write σ → List Value
  | _, .set _ v => [v]
  | _, .setItem _ v => [v]
  | _, .append v => [v]
  | _, .setEntry _ v => [v]
  | _, _ => []

/-! ## Programs -/

/-- What a program does with a container of a shape. -/
inductive Program : Shape → Type where
  /-- Nothing. -/
  | idle {σ : Shape} : Program σ
  /-- One program after another. -/
  | seq {σ : Shape} (first second : Program σ) : Program σ
  | read {σ : Shape} (r : Read σ) : Program σ
  | write {σ : Shape} (w : Write σ) : Program σ
  /-- Opens a composite field and goes on with what it holds, if that has the shape `τ`. -/
  | inField (n : FieldNumber) {τ : Shape} (inner : Program τ) : Program .message
  /-- Opens an element and goes on with it. -/
  | inItem (i : Nat) (inner : Program .message) : Program .vector
  /-- Adds an element and goes on with it. -/
  | inNewItem (inner : Program .message) : Program .vector
  /-- Opens the value of a key and goes on with it. -/
  | inEntry (k : Key) (inner : Program .message) : Program .map

/-- What a program answers and leaves. -/
structure Trace (τ : Type) where
  log : Log
  state : τ

/-- A trace as the outcome of an operation, which refuses nothing as a whole. -/
def Trace.outcome {τ : Type} (t : Trace τ) : Outcome τ Log := .done t.log t.state

/-- The trace of an operation that opens a part and goes on with it: the log of the part, or the one
refusal. -/
def Outcome.trace {τ : Type} (o : Outcome τ Log) : Trace τ :=
  match o.result with
  | .ok log => ⟨log, o.state⟩
  | .error e => ⟨[.error e], o.state⟩

@[simp] theorem Outcome.state_trace {τ : Type} (o : Outcome τ Log) : o.trace.state = o.state := by
  unfold Outcome.trace
  split <;> rfl

/-- Runs a program on a container. -/
def Program.run : {σ : Shape} → Program σ → σ.Container → Trace σ.Container
  | _, .idle, x => ⟨[], x⟩
  | _, .seq first second, x =>
    let start := first.run x
    let rest := second.run start.state
    ⟨start.log ++ rest.log, rest.state⟩
  | _, .read r, x => ⟨[r.answer x], x⟩
  | _, .write w, x => ⟨[(w.run x).result], (w.run x).state⟩
  | _, .inField n (τ := τ) inner, m =>
    (m.edit n (τ.edit fun x => (inner.run x).outcome).onComposite).trace
  | _, .inItem i inner, v => (v.edit i fun m => (inner.run m).outcome).trace
  | _, .inNewItem inner, v => (v.editNew fun m => (inner.run m).outcome).trace
  | _, .inEntry k inner, m => (m.edit k fun m => (inner.run m).outcome).trace

/-- The values a program is given. -/
def Program.arguments : {σ : Shape} → Program σ → List Value
  | _, .idle => []
  | _, .seq first second => first.arguments ++ second.arguments
  | _, .read _ => []
  | _, .write w => w.arguments
  | _, .inField _ inner => inner.arguments
  | _, .inItem _ inner => inner.arguments
  | _, .inNewItem inner => inner.arguments
  | _, .inEntry _ inner => inner.arguments

/-! ## Reachable values -/

/-- The values a program can hold: null and scalars, new containers over declared schemas, what a
program with such values as arguments makes of a container, and what its calls give back. -/
inductive Reachable : Value → Prop where
  | null : Reachable .null
  | scalar (x : Scalar) : Reachable (.scalar x)
  | newMessage {s : Schema} {index : MessageIndex} {m : Message} (declared : s.Declared)
      (made : Message.new s index = .ok m) : Reachable (.message m)
  | newMessageByName {s : Schema} {name : String} {m : Message} (declared : s.Declared)
      (made : Message.newByName s name = .ok m) : Reachable (.message m)
  | newVector {s : Schema} {kind : Kind} {v : Vector} (declared : s.Declared)
      (made : Vector.new s kind = .ok v) : Reachable (.vector v)
  | newMap {s : Schema} {key value : Kind} {m : Map} (declared : s.Declared)
      (made : Map.new s key value = .ok m) : Reachable (.map m)
  | run {σ : Shape} {x : σ.Container} (p : Program σ) (held : Reachable (σ.value x))
      (arguments : ∀ v ∈ p.arguments, Reachable v) : Reachable (σ.value (p.run x).state)
  | given {σ : Shape} {x : σ.Container} (p : Program σ) (held : Reachable (σ.value x))
      (arguments : ∀ v ∈ p.arguments, Reachable v) {v : Value} (answered : v ∈ (p.run x).log.parts) :
      Reachable v

/-! ## A filled-in card -/

namespace AddressBook

/-- A person without fields. -/
def blank : Message :=
  { schema, index := person, fields := ∅, extensions := .empty, unknown := { isSupported := true } }

theorem new_person : Message.new schema person = .ok blank := by
  have keeps : (schema.type? person).map (·.keepsUnknown) = some true := by decide +kernel
  obtain ⟨t, found, supported⟩ := Option.map_eq_some_iff.1 keeps
  simp [Message.new, Message.zero, Schema.typeAt, found, supported, blank]

/-- The type of a person has the fields it was declared with. -/
theorem fields_of_person {t : MessageType} (type : schema.type? person = some t) :
    t.fields = personType.fields := by
  have fields : (schema.type? person).map (·.fields) = some personType.fields := by decide +kernel
  rw [type] at fields
  exact Option.some.inj fields

/-- Adds a phone number in place, sets an attribute and a pager, opens the friends, and registers a
nickname to set it. -/
def fillIn : Program .message :=
  .seq (.inField 4 (τ := .vector) (.inNewItem (.write (.set 1 (.scalar (.string "555"))))))
    (.seq (.inField 5 (τ := .map) (.write (.setEntry (.string "mood") (.scalar (.string "fine")))))
      (.seq (.write (.set 8 (.scalar (.i64 7))))
        (.seq (.write (.openField 6))
          (.seq
            (.write (.register "tutorial.Person"
              { number := 100, name := "tutorial.nickname", kind := .scalar .string }))
            (.write (.set 100 (.scalar (.string "Al"))))))))

/-- The card of a person: a phone number, an attribute, a pager, a hidden row and a nickname. -/
def card : Message := (fillIn.run blank).state

theorem reachable_blank : Reachable (.message blank) :=
  .newMessage ⟨0, types, declare_types⟩ new_person

theorem reachable_card : Reachable (.message card) := by
  refine .run (σ := .message) fillIn reachable_blank ?_
  intro v member
  have scalars : v = .scalar (.string "555") ∨ v = .scalar (.string "fine") ∨
      v = .scalar (.i64 7) ∨ v = .scalar (.string "Al") := by
    simpa [fillIn, Program.arguments, Write.arguments] using member
  rcases scalars with rfl | rfl | rfl | rfl
  · exact .scalar _
  · exact .scalar _
  · exact .scalar _
  · exact .scalar _

end AddressBook

end DynamicMessage
