/-
# Proofs.Container.Invariant -- from one change to every run

A property of single composites is an `Invariant` if new composites have it and no change to a
sound composite takes it away.  `Invariant.everywhere` carries it from there to every value that
any run can lead to, at every depth: a program is a sequence of refusals, changes and openings, and
an opened part keeps its header, so it still suits the place it goes back to.

Soundness comes along for free, so an invariant may rely on it (`Reachable.sound`).
-/
import DynamicMessage.Proofs.Container.Opening
import DynamicMessage.Proofs.Program

namespace DynamicMessage

set_option autoImplicit false

/-- A property of composites that holds of a value and of all values inside it. -/
inductive Everywhere (P : Composite → Prop) : Value → Prop where
  | null : Everywhere P .null
  | scalar (x : Scalar) : Everywhere P (.scalar x)
  | composite {c : Composite} (here : P c) (inside : ∀ v ∈ c.parts, Everywhere P v) :
      Everywhere P (.composite c)

namespace Everywhere

variable {P Q : Composite → Prop} {c : Composite}

theorem here (held : Everywhere P (.composite c)) : P c := by
  cases held with
  | composite here _ => exact here

theorem inside (held : Everywhere P (.composite c)) {v : Value} (member : v ∈ c.parts) :
    Everywhere P v := by
  cases held with
  | composite _ inside => exact inside v member

theorem imp (weaker : ∀ c, P c → Q c) {v : Value} (held : Everywhere P v) : Everywhere Q v := by
  induction held with
  | null => exact .null
  | scalar x => exact .scalar x
  | composite here _ ih => exact .composite (weaker _ here) ih

end Everywhere

/-- A property of composites that new ones have and that no change to a sound one takes away. -/
structure Invariant (P : Composite → Prop) : Prop where
  fresh : ∀ {s : Schema} {c : Composite}, s.Declared → c.Fresh s → P c
  change : ∀ {brought : List Value} {c c' : Composite}, c.Sound → P c → Change brought c c' → P c'

/-- Two invariants together are one. -/
theorem Invariant.and {P Q : Composite → Prop} (first : Invariant P) (second : Invariant Q) :
    Invariant fun c => P c ∧ Q c where
  fresh declared fresh := ⟨first.fresh declared fresh, second.fresh declared fresh⟩
  change sound held change :=
    ⟨first.change sound held.1 change, second.change sound held.2 change⟩

/-! ## One call -/

/-- An opened part is stored by one change. -/
theorem Opening.effect {known : Value → Prop} {σ α : Type} {composite : σ → Composite} {x : σ}
    {c : Composite} {put : Composite → σ} (opening : Opening composite x c put)
    (given : known (.composite c)) (a : α) : Effect known composite x (.done a (put c)) :=
  .changed a (opening.change c rfl) (by simpa using given)

/-- An opened part is known where the stored parts and the new composites are. -/
theorem Opening.known_part {known : Value → Prop} {σ : Type} {composite : σ → Composite} {x : σ}
    {c : Composite} {put : Composite → σ} (opening : Opening composite x c put)
    (inside : ∀ v ∈ (composite x).parts, known v)
    (fresh : ∀ c, c.Fresh (composite x).schema → known (.composite c)) : known (.composite c) := by
  rcases opening.part with stored | new
  · exact inside _ stored
  · exact fresh c new

/-- The values an outcome answers with are known. -/
def Outcome.Gives {σ : Type} (known : Value → Prop) (o : Outcome σ Answer) : Prop :=
  ∀ a, o.result = .ok a → ∀ v ∈ a.parts, known v

/-- A write without an answer gives nothing. -/
theorem Outcome.gives_of_answered_done {σ α : Type} {known : Value → Prop} (o : Outcome σ α) :
    (o.answered fun _ => Answer.done).Gives known := by
  intro a answered v member
  simp only [Outcome.answered] at answered
  cases result : o.result with
  | error e => simp [result, Except.map] at answered
  | ok b =>
    simp only [result, Except.map, Except.ok.injEq] at answered
    simp [← answered, Answer.parts] at member

/-- A call that opens a part to look at it is refused, or stores the part back and gives it. -/
theorem InPlace.look_effect {known : Value → Prop} {σ π : Type} {composite : σ → Composite}
    {part : π → Composite} {x : σ} {edit : {α : Type} → (π → Outcome π α) → Outcome σ α}
    (inPlace : InPlace composite part x edit)
    (inside : ∀ v ∈ (composite x).parts, known v)
    (fresh : ∀ c, c.Fresh (composite x).schema → known (.composite c)) :
    Effect known composite x (edit fun c => .done (Answer.values [.composite (part c)]) c) ∧
      (edit fun c => .done (Answer.values [.composite (part c)]) c).Gives known := by
  rcases inPlace with ⟨e, refused⟩ | ⟨c, put, opening, runs⟩
  · have refused : edit (fun c => .done (Answer.values [.composite (part c)]) c) = .fail e x :=
      refused _
    rw [refused]
    exact ⟨.refused e, fun a answered => by simp at answered⟩
  · have runs : edit (fun c => .done (Answer.values [.composite (part c)]) c) =
        .done (.values [.composite (part c)]) (put (part c)) := runs _
    rw [runs]
    have given := opening.known_part inside fresh
    refine ⟨opening.effect given _, fun a answered v member => ?_⟩
    cases answered
    rwa [List.mem_singleton.1 member]

/-- A write to a sound container is refused or makes one change, and gives known values only. -/
theorem Write.effect {σ : Shape} (w : Write σ) {x : σ.Container} {known : Value → Prop}
    (sound : (σ.composite x).Sound) (arguments : ∀ v ∈ w.arguments, known v)
    (inside : ∀ v ∈ (σ.composite x).parts, known v)
    (fresh : ∀ c, c.Fresh (σ.composite x).schema → known (.composite c)) :
    Effect known σ.composite x (w.run x) ∧ (w.run x).Gives known := by
  cases w with
  | set n v =>
    exact ⟨(x.set_effect n (arguments v (by simp [Write.arguments]))).map _,
      Outcome.gives_of_answered_done _⟩
  | clear n => exact ⟨(x.clear_effect n).map _, Outcome.gives_of_answered_done _⟩
  | openField n =>
    obtain ⟨t, sound⟩ := sound
    exact (sound.inPlace_edit n).look_effect inside fresh
  | register extendee field =>
    exact ⟨(x.register_effect (Extension.hasPresence_declare extendee field)).map _,
      Outcome.gives_of_answered_done _⟩
  | remove extendee field =>
    exact ⟨(x.remove_effect _).map _, Outcome.gives_of_answered_done _⟩
  | setUnknown n run => exact ⟨(x.setUnknown_effect n run).map _, Outcome.gives_of_answered_done _⟩
  | appendUnknown n run =>
    exact ⟨(x.appendUnknown_effect n run).map _, Outcome.gives_of_answered_done _⟩
  | setItem i v =>
    exact ⟨(x.set_effect i (arguments v (by simp [Write.arguments]))).map _,
      Outcome.gives_of_answered_done _⟩
  | append v =>
    exact ⟨(x.append_effect (arguments v (by simp [Write.arguments]))).map _,
      Outcome.gives_of_answered_done _⟩
  | openItem i => exact (Vector.Sound.inPlace_edit sound i).look_effect inside fresh
  | openNewItem => exact x.inPlace_editNew.look_effect inside fresh
  | truncate length => exact ⟨(x.truncate_effect length).map _, Outcome.gives_of_answered_done _⟩
  | setEntry k v =>
    exact ⟨(x.set_effect k (arguments v (by simp [Write.arguments]))).map _,
      Outcome.gives_of_answered_done _⟩
  | removeEntry k =>
    refine ⟨(x.remove_effect k).map _, fun a answered v member => ?_⟩
    cases answered
    have found : x.entries.find? k = some v := by simpa [Answer.parts] using member
    exact inside v (Table.mem_values_of_find? found)
  | openEntry k => exact (Map.Sound.inPlace_edit sound k).look_effect inside fresh

/-- What a visitor collects was among the rows. -/
theorem mem_visit_collect {α : Type} {limit : Option Nat} {rows seen : List α} {a : α}
    (member : a ∈ visit (collect limit) seen rows) : a ∈ seen ∨ a ∈ rows := by
  induction rows generalizing seen with
  | nil => exact .inl member
  | cons row rows ih =>
    simp only [visit, collect] at member
    split at member
    · rename_i stopped
      split at stopped <;> cases stopped
      grind
    · rename_i going
      split at going <;> cases going
      rcases ih member with before | after
      · grind
      · exact .inr (List.mem_cons_of_mem _ after)

/-- The populated values are stored. -/
theorem Message.mem_values_of_mem_populated {m : Message} {row : FieldNumber × Value}
    (member : row ∈ m.populated) : row.2 ∈ m.fields.values :=
  List.mem_map_of_mem (List.mem_filter.1 member).1

/-- A read gives null and stored values only. -/
theorem Read.mem_parts {σ : Shape} (r : Read σ) {x : σ.Container} {a : Answer}
    (answered : r.answer x = .ok a) {v : Value} (member : v ∈ a.parts) :
    v = .null ∨ v ∈ (σ.composite x).parts := by
  cases r with
  | list => cases answered; simp [Answer.parts] at member
  | size => cases answered; simp [Answer.parts] at member
  | has n => cases answered; simp [Answer.parts] at member
  | get n =>
    cases answered
    rw [List.mem_singleton.1 member, Message.get]
    split
    · rename_i w found
      split
      · exact .inr (Table.mem_values_of_find? found)
      · exact .inl rfl
    · exact .inl rfl
  | range limit =>
    cases answered
    obtain ⟨row, collected, rfl⟩ := List.mem_map.1 member
    rcases mem_visit_collect collected with none | stored
    · simp at none
    · exact .inr (Message.mem_values_of_mem_populated stored)
  | extensions => cases answered; simp [Answer.parts] at member
  | item i =>
    simp only [Read.answer, Vector.get] at answered
    split at answered
    · rename_i item found
      cases answered
      rw [List.mem_singleton.1 member]
      exact .inr (List.mem_of_getElem? found)
    · simp [Except.map] at answered
  | items =>
    cases answered
    exact .inr member
  | entry k =>
    cases answered
    rw [List.mem_singleton.1 member, Map.get]
    cases found : x.entries.find? k with
    | none => exact .inl rfl
    | some w => exact .inr (Table.mem_values_of_find? found)
  | keys => cases answered; simp [Answer.parts] at member
  | entries limit =>
    cases answered
    obtain ⟨row, collected, rfl⟩ := List.mem_map.1 member
    rcases mem_visit_collect collected with none | stored
    · simp at none
    · exact .inr (List.mem_map_of_mem stored)

/-! ## Programs -/

theorem Log.parts_append (first second : Log) :
    (first ++ second : Log).parts = first.parts ++ second.parts := by
  induction first with
  | nil => rfl
  | cons entry rest ih => cases entry <;> simp [Log.parts, ih]

/-- The log of a single call gives what the call gives. -/
theorem Log.mem_parts_singleton {result : Except Error Answer} {v : Value}
    (member : v ∈ Log.parts [result]) : ∃ a, result = .ok a ∧ v ∈ a.parts := by
  cases result with
  | error e => simp [Log.parts] at member
  | ok a => exact ⟨a, rfl, by simpa [Log.parts] using member⟩

/-- The trace of a part, seen from the whole. -/
theorem Outcome.trace_within {τ υ : Type} (o : Outcome τ Log) (put : τ → υ) :
    (o.within put).trace = ⟨o.trace.log, put o.trace.state⟩ := by
  cases result : o.result <;> simp [Outcome.trace, result]

/-- An edit for one shape runs on composites of that shape, and is refused by all others for their
member. -/
theorem Shape.onComposite_cases (τ : Shape) (c : Composite) :
    (∃ expected, ∀ {α : Type} (run : τ.Container → Outcome τ.Container α),
        (τ.edit run).onComposite c = .fail (.typeMismatch expected c.member) c) ∨
      ∃ y, c = τ.composite y ∧ ∀ {α : Type} (run : τ.Container → Outcome τ.Container α),
        (τ.edit run).onComposite c = (run y).within τ.composite := by
  cases τ with
  | message =>
    cases c with
    | message m => exact .inr ⟨m, rfl, fun _ => rfl⟩
    | vector v => exact .inl ⟨.member .message, fun _ => rfl⟩
    | map m => exact .inl ⟨.member .message, fun _ => rfl⟩
  | vector =>
    cases c with
    | message m => exact .inl ⟨.member .vector, fun _ => rfl⟩
    | vector v => exact .inr ⟨v, rfl, fun _ => rfl⟩
    | map m => exact .inl ⟨.member .vector, fun _ => rfl⟩
  | map =>
    cases c with
    | message m => exact .inl ⟨.member .map, fun _ => rfl⟩
    | vector v => exact .inl ⟨.member .map, fun _ => rfl⟩
    | map m => exact .inr ⟨m, rfl, fun _ => rfl⟩

/-- What a program leaves of a composite, and what it gives: a composite with the same header, and
values, all with `P` everywhere. -/
structure Keeps (P : Composite → Prop) (c c' : Composite) (log : Log) : Prop where
  header : c'.header = c.header
  state : Everywhere P (.composite c')
  given : ∀ v ∈ log.parts, Everywhere P v

namespace Invariant

variable {P : Composite → Prop}

/-- New composites of the schema of a sound one have the property everywhere. -/
theorem everywhere_fresh (inv : Invariant P) {s : Schema} {c : Composite} (declared : s.Declared)
    (fresh : c.Fresh s) : Everywhere (fun c => c.Sound ∧ P c) (.composite c) := by
  refine .composite ⟨fresh.sound declared, inv.fresh declared fresh⟩ ?_
  intro v member
  simp [fresh.parts_eq_nil] at member

/-- A change that brings in values with the property leaves it everywhere. -/
theorem everywhere_change (inv : Invariant P) {brought : List Value} {c c' : Composite}
    (held : Everywhere (fun c => c.Sound ∧ P c) (.composite c)) (change : Change brought c c')
    (given : ∀ v ∈ brought, Everywhere (fun c => c.Sound ∧ P c) v) :
    Everywhere (fun c => c.Sound ∧ P c) (.composite c') := by
  obtain ⟨sound, here⟩ := held.here
  refine .composite ⟨change.sound sound, inv.change sound here change⟩ ?_
  intro v member
  rcases change.mem_parts member with old | new
  · exact held.inside old
  · exact given v new

/-- A refusal keeps the property. -/
theorem keeps_refusal {c : Composite} (held : Everywhere P (.composite c)) (e : Error) :
    Keeps P c c [.error e] :=
  ⟨rfl, held, by simp [Log.parts]⟩

/-- Editing a part in place keeps the property, if what runs on the part keeps it. -/
theorem keeps_inPlace (inv : Invariant P) {σ π : Type} {composite : σ → Composite}
    {part : π → Composite} {x : σ} {edit : {α : Type} → (π → Outcome π α) → Outcome σ α}
    (held : Everywhere (fun c => c.Sound ∧ P c) (.composite (composite x)))
    (inPlace : InPlace composite part x edit) {run : π → Outcome π Log}
    (inner : ∀ c, Everywhere (fun c => c.Sound ∧ P c) (.composite (part c)) →
      Keeps (fun c => c.Sound ∧ P c) (part c) (part (run c).trace.state) (run c).trace.log) :
    Keeps (fun c => c.Sound ∧ P c) (composite x) (composite (edit run).trace.state)
      (edit run).trace.log := by
  rcases inPlace with ⟨e, refused⟩ | ⟨c, put, opening, runs⟩
  · have refused : edit run = .fail e x := refused run
    rw [refused]
    exact keeps_refusal held e
  · have runs : edit run = (run c).within fun c => put (part c) := runs run
    rw [runs, Outcome.trace_within]
    have keeps := inner c <|
      opening.known_part (fun v => held.inside) fun d => inv.everywhere_fresh held.here.1.declared
    have change := opening.change (part (run c).trace.state) keeps.header
    refine ⟨change.header_eq, inv.everywhere_change held change ?_, keeps.given⟩
    intro v member
    rw [List.mem_singleton.1 member]
    exact keeps.state

/-- A program keeps the property, if its arguments have it.  By induction on the program; what runs
on an opened part is a program again. -/
theorem keeps_run (inv : Invariant P) {σ : Shape} (p : Program σ) {x : σ.Container}
    (held : Everywhere (fun c => c.Sound ∧ P c) (σ.value x))
    (arguments : ∀ v ∈ p.arguments, Everywhere (fun c => c.Sound ∧ P c) v) :
    Keeps (fun c => c.Sound ∧ P c) (σ.composite x) (σ.composite (p.run x).state)
      (p.run x).log := by
  induction p with
  | idle => exact ⟨rfl, held, by simp [Program.run, Log.parts]⟩
  | seq first second ih ih' =>
    obtain ⟨early, late⟩ := List.forall_mem_append.1 arguments
    have start := ih held early
    have rest := ih' start.state late
    refine ⟨rest.header.trans start.header, rest.state, fun v member => ?_⟩
    rw [Program.run, Log.parts_append] at member
    rcases List.mem_append.1 member with begun | done
    · exact start.given v begun
    · exact rest.given v done
  | read r =>
    refine ⟨rfl, held, fun v member => ?_⟩
    obtain ⟨a, answered, given⟩ := Log.mem_parts_singleton member
    rcases r.mem_parts answered given with rfl | stored
    · exact .null
    · exact held.inside stored
  | @write σ w =>
    obtain ⟨effect, gives⟩ := w.effect held.here.1 arguments (fun v => held.inside)
      fun c => inv.everywhere_fresh held.here.1.declared
    refine ⟨?_, ?_, fun v member => ?_⟩
    · rcases effect.state_eq_or_change with same | ⟨_, _, change⟩
      · rw [Program.run, same]
      · exact change.header_eq
    · rcases effect.state_eq_or_change with same | ⟨_, given, change⟩
      · rw [Program.run, same]
        exact held
      · exact inv.everywhere_change held change given
    · obtain ⟨a, answered, given⟩ := Log.mem_parts_singleton member
      exact gives a answered v given
  | @inField n τ inner ih =>
    obtain ⟨t, sound⟩ := held.here.1
    apply inv.keeps_inPlace held (sound.inPlace_edit n)
    intro c part
    rcases τ.onComposite_cases c with ⟨_, refused⟩ | ⟨y, rfl, runs⟩
    · rw [refused]
      exact keeps_refusal part _
    · rw [runs, Outcome.trace_within]
      exact ih part arguments
  | inItem i inner ih =>
    exact inv.keeps_inPlace held (Vector.Sound.inPlace_edit held.here.1 i) fun m part =>
      ih part arguments
  | @inNewItem inner ih =>
    exact inv.keeps_inPlace held (Vector.inPlace_editNew x) fun m part => ih part arguments
  | inEntry k inner ih =>
    exact inv.keeps_inPlace held (Map.Sound.inPlace_edit held.here.1 k) fun m part =>
      ih part arguments

/-- Every value that a run can lead to has the property, and is sound, everywhere. -/
theorem everywhere (inv : Invariant P) {v : Value} (reachable : Reachable v) :
    Everywhere (fun c => c.Sound ∧ P c) v := by
  induction reachable with
  | null => exact .null
  | scalar x => exact .scalar x
  | newMessage declared made =>
    exact inv.everywhere_fresh declared (Message.fresh_of_new made)
  | newMessageByName declared made =>
    exact inv.everywhere_fresh declared (Message.fresh_of_newByName made)
  | newVector declared made => exact inv.everywhere_fresh declared (Vector.fresh_of_new made)
  | newMap declared made => exact inv.everywhere_fresh declared (Map.fresh_of_new made)
  | run p _ _ held arguments => exact (inv.keeps_run p held arguments).state
  | given p _ _ answered held arguments => exact (inv.keeps_run p held arguments).given _ answered

end Invariant

/-! ## Soundness -/

theorem Invariant.true : Invariant fun _ => True := ⟨fun _ _ => trivial, fun _ _ _ => trivial⟩

theorem Everywhere.sound_and_true_iff {v : Value} :
    Everywhere (fun c => c.Sound ∧ True) v ↔ Everywhere Composite.Sound v :=
  ⟨Everywhere.imp fun _ => And.left, Everywhere.imp fun _ sound => ⟨sound, trivial⟩⟩

/-- A program with sound arguments leaves a sound container, and gives sound values. -/
theorem Program.keeps_sound {σ : Shape} (p : Program σ) {x : σ.Container}
    (held : Everywhere Composite.Sound (σ.value x))
    (arguments : ∀ v ∈ p.arguments, Everywhere Composite.Sound v) :
    Keeps Composite.Sound (σ.composite x) (σ.composite (p.run x).state) (p.run x).log := by
  have keeps := Invariant.true.keeps_run p (Everywhere.sound_and_true_iff.2 held) fun v member =>
    Everywhere.sound_and_true_iff.2 (arguments v member)
  refine ⟨keeps.header, Everywhere.sound_and_true_iff.1 keeps.state, fun v member => ?_⟩
  exact Everywhere.sound_and_true_iff.1 (keeps.given v member)

/-- Every value that a run can lead to is sound everywhere. -/
theorem Reachable.sound {v : Value} (reachable : Reachable v) : Everywhere Composite.Sound v :=
  Everywhere.sound_and_true_iff.1 (Invariant.true.everywhere reachable)

/-- A part of a composite that is sound everywhere, stored or new, is sound everywhere. -/
theorem Everywhere.sound_part {c d : Composite} (held : Everywhere Composite.Sound (.composite d))
    (part : .composite c ∈ d.parts ∨ c.Fresh d.schema) :
    Everywhere Composite.Sound (.composite c) := by
  rcases part with stored | fresh
  · exact held.inside stored
  · refine .composite (fresh.sound held.here.declared) ?_
    intro v member
    simp [fresh.parts_eq_nil] at member

/-! ## Parts of fields -/

/-- What a field gives when it is opened is the part that opens there. -/
theorem Reachable.opens_of_answer {m : Message} {n : FieldNumber} {c : Composite}
    (reachable : Reachable (.message m))
    (answer : ((Write.openField n).run m).result = .ok (.values [.composite c])) :
    ∃ t f, m.Sound t ∧ m.Opens t n f c := by
  obtain ⟨t, sound⟩ := reachable.sound.here
  rw [Write.run] at answer
  cases field : m.field? t n with
  | none => simp [Message.edit_of_unknown sound.type field] at answer
  | some f =>
    by_cases composite : f.isComposite = true
    · obtain ⟨d, opens⟩ := sound.opens_of_composite field composite
      rw [opens.edit_eq] at answer
      obtain rfl : d = c := by simpa using answer
      exact ⟨t, f, sound, opens⟩
    · simp [Message.edit_of_scalar sound.type field (by simpa using composite)] at answer

/-- A part that a field gives is known. -/
theorem Reachable.of_openField {m : Message} {n : FieldNumber} {c : Composite}
    (reachable : Reachable (.message m))
    (answer : ((Write.openField n).run m).result = .ok (.values [.composite c])) :
    Reachable (.composite c) := by
  refine .given (σ := .message) (.write (.openField n)) reachable ?_ ?_
  · simp [Program.arguments, Write.arguments]
  · simp [Program.run, answer, Log.parts, Answer.parts]

/-! ## Refused calls -/

/-- A refused call leaves its container as it was, with its hidden rows and the members of its
oneofs.  Its arguments need not be reachable. -/
theorem refused_call_unchanged {σ : Shape} {x : σ.Container} (reachable : Reachable (σ.value x))
    (w : Write σ) {e : Error} (refused : (w.run x).result = .error e) : (w.run x).state = x := by
  have sound := reachable.sound.here
  have effect : Effect (fun _ => True) σ.composite x (w.run x) :=
    (w.effect sound (fun _ _ => trivial) (fun _ _ => trivial) fun _ _ => trivial).1
  exact effect.state_of_error refused

/-- Opening the scalar member of a oneof is refused and leaves its sibling set. -/
theorem AddressBook.opened_scalar_unchanged :
    Reachable (.message card) ∧ card.has 8 = true ∧
      ∃ e, ((Write.openField 7).run card).result = .error e ∧
        ((Write.openField 7).run card).state = card := by
  have refused : ((Write.openField 7).run card).result.isOk = false := by decide +kernel
  cases result : ((Write.openField 7).run card).result with
  | ok a => simp [result] at refused
  | error e =>
    have unchanged := refused_call_unchanged (σ := .message) reachable_card (.openField 7) result
    exact ⟨reachable_card, by decide +kernel, e, rfl, unchanged⟩

end DynamicMessage
