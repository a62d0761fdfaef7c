/-
# Proofs.HiddenRows.Unobservable -- no program can tell that a row is hidden

Two messages that differ in hidden rows of their own answer every program with the same log, answer
every edit through an opened part the same, whatever the edit is, and still differ in hidden rows
only.  Where values inside them differ in hidden rows too, programs that are given such values
answer with logs that agree up to such values, so that no answer of a kind that can be compared
differs.
-/
import DynamicMessage.Proofs.HiddenRows.Nested

namespace DynamicMessage

set_option autoImplicit false

/-! ## Programs on containers that differ at the top -/

/-- Messages up to hidden rows of their own; equal vectors; equal maps. -/
def Shape.Near : (σ : Shape) → σ.Container → σ.Container → Prop
  | .message, m, m' => Message.Like Eq m m'
  | .vector, v, v' => v' = v
  | .map, m, m' => m' = m

/-- The types of two sound messages that are alike are one. -/
theorem Message.Like.sound_type {R : Value → Value → Prop} {m m' : Message}
    (like : Message.Like R m m') {t : MessageType} (sound : m.Sound t)
    (sound' : Composite.Sound (.message m')) : m'.Sound t := by
  obtain ⟨t', sound'⟩ := sound'
  have same := sound'.type_eq (like.type_eq.trans sound.type)
  rwa [same]

/-- Reads of near containers are equal. -/
theorem Read.near {σ : Shape} (r : Read σ) {x x' : σ.Container} (near : σ.Near x x')
    (sound : (σ.composite x).Sound) (sound' : (σ.composite x').Sound) :
    r.answer x' = r.answer x := by
  cases σ with
  | message =>
    have like : Message.Like Eq x x' := near
    obtain ⟨t, sound⟩ := sound
    have sound' := like.sound_type sound sound'
    exact (like.read .eq sound.ascending sound'.ascending r).eq
  | vector =>
    obtain rfl : x' = x := near
    rfl
  | map =>
    obtain rfl : x' = x := near
    rfl

/-- A write to near containers answers the same and leaves them near. -/
theorem Write.near {σ : Shape} (w : Write σ) {x x' : σ.Container} (near : σ.Near x x')
    (sound : (σ.composite x).Sound) (sound' : (σ.composite x').Sound) :
    (w.run x').result = (w.run x).result ∧ σ.Near (w.run x).state (w.run x').state := by
  cases σ with
  | message =>
    have like : Message.Like Eq x x' := near
    obtain ⟨t, sound⟩ := sound
    have sound' := like.sound_type sound sound'
    have given : Write.Like Eq w w := by
      cases w with
      | set n v => exact .set n rfl
      | _ => exact .same rfl
    have outcome := like.write .eq sound sound' given
    exact ⟨outcome.result.eq, outcome.state⟩
  | vector =>
    obtain rfl : x' = x := near
    exact ⟨rfl, rfl⟩
  | map =>
    obtain rfl : x' = x := near
    exact ⟨rfl, rfl⟩

/-- Editing a field of near messages gives the same, whatever runs on the opened part. -/
theorem Message.Like.edit_eq {m m' : Message} (like : Message.Like Eq m m')
    (sound : Composite.Sound (.message m)) (sound' : Composite.Sound (.message m'))
    (n : FieldNumber) {α : Type} (run : Composite → Outcome Composite α) :
    (m'.edit n run).result = (m.edit n run).result ∧
      Message.Like Eq (m.edit n run).state (m'.edit n run).state := by
  obtain ⟨t, sound⟩ := sound
  have sound' := like.sound_type sound sound'
  rcases like.inPlace_edit .eq sound sound' n with
    ⟨e, refused, refused'⟩ | ⟨c, c', put, put', opens, runs, runs'⟩
  · have refused : m.edit n run = .fail e m := refused run
    have refused' : m'.edit n run = .fail e m' := refused' run
    rw [refused, refused']
    exact ⟨rfl, like⟩
  · obtain rfl : c = c' := Value.composite.inj opens.related
    have runs : m.edit n run = (run c).within put := runs run
    have runs' : m'.edit n run = (run c).within put' := runs' run
    rw [runs, runs']
    exact ⟨rfl, opens.stored _ _ rfl⟩

/-- A program answers near containers with one log and leaves them near.  By induction on the
program; a program on an opened part is the same edit of two equal parts. -/
theorem Program.near {σ : Shape} (p : Program σ) {x x' : σ.Container} (near : σ.Near x x')
    (sound : Everywhere Composite.Sound (σ.value x))
    (sound' : Everywhere Composite.Sound (σ.value x'))
    (arguments : ∀ v ∈ p.arguments, Everywhere Composite.Sound v) :
    (p.run x').log = (p.run x).log ∧ σ.Near (p.run x).state (p.run x').state := by
  induction p with
  | idle => exact ⟨rfl, near⟩
  | seq first second ih ih' =>
    obtain ⟨early, late⟩ := List.forall_mem_append.1 arguments
    obtain ⟨log, near⟩ := ih near sound sound' early
    obtain ⟨log', near⟩ :=
      ih' near (first.keeps_sound sound early).state (first.keeps_sound sound' early).state late
    exact ⟨by rw [Program.run, Program.run, log, log'], near⟩
  | read r => exact ⟨by rw [Program.run, Program.run, r.near near sound.here sound'.here], near⟩
  | write w =>
    obtain ⟨result, near⟩ := w.near near sound.here sound'.here
    exact ⟨by rw [Program.run, Program.run, result], near⟩
  | @inField n τ inner =>
    obtain ⟨result, state⟩ := Message.Like.edit_eq near sound.here sound'.here n
      (τ.edit fun x => (inner.run x).outcome).onComposite
    simp only [Program.run]
    refine ⟨?_, ?_⟩
    · simp only [Outcome.trace, result]
      split <;> rfl
    · rw [Outcome.state_trace, Outcome.state_trace]
      exact state
  | inItem i inner =>
    obtain rfl := near
    exact ⟨rfl, rfl⟩
  | inNewItem inner =>
    obtain rfl := near
    exact ⟨rfl, rfl⟩
  | inEntry k inner =>
    obtain rfl := near
    exact ⟨rfl, rfl⟩

/-! ## Programs on containers that differ inside -/

/-- Programs that are equal but for related values they are given. -/
inductive Program.Like (R : Value → Value → Prop) : {σ : Shape} → Program σ → Program σ → Prop where
  | idle {σ : Shape} : Program.Like R (.idle (σ := σ)) .idle
  | seq {σ : Shape} {first first' second second' : Program σ} (start : Program.Like R first first')
      (rest : Program.Like R second second') :
      Program.Like R (.seq first second) (.seq first' second')
  | read {σ : Shape} (r : Read σ) : Program.Like R (.read r) (.read r)
  | write {σ : Shape} {w w' : Write σ} (given : Write.Like R w w') :
      Program.Like R (.write w) (.write w')
  | inField (n : FieldNumber) {τ : Shape} {inner inner' : Program τ}
      (like : Program.Like R inner inner') : Program.Like R (.inField n inner) (.inField n inner')
  | inItem (i : Nat) {inner inner' : Program .message} (like : Program.Like R inner inner') :
      Program.Like R (.inItem i inner) (.inItem i inner')
  | inNewItem {inner inner' : Program .message} (like : Program.Like R inner inner') :
      Program.Like R (.inNewItem inner) (.inNewItem inner')
  | inEntry (k : Key) {inner inner' : Program .message} (like : Program.Like R inner inner') :
      Program.Like R (.inEntry k inner) (.inEntry k inner')

/-- Logs with the same refusals and related answers. -/
def Log.Like (R : Value → Value → Prop) (log log' : Log) : Prop :=
  List.Forall₂ (ResultLike R) log log'

/-- Traces with related logs and related containers. -/
structure TraceLike (R : Value → Value → Prop) {σ : Type} (S : σ → σ → Prop) (t t' : Trace σ) :
    Prop where
  log : Log.Like R t.log t'.log
  state : S t.state t'.state

/-- Related containers refuse alike. -/
theorem TraceLike.refused {R : Value → Value → Prop} {σ : Type} {S : σ → σ → Prop} {x x' : σ}
    (like : S x x') (e : Error) :
    TraceLike R S (Outcome.fail e x : Outcome σ Log).trace (Outcome.fail e x').trace :=
  ⟨.cons (.error e) .nil, like⟩

theorem TraceLike.imp {R : Value → Value → Prop} {σ : Type} {S S' : σ → σ → Prop} {t t' : Trace σ}
    (like : TraceLike R S t t') (weaker : ∀ y y', S y y' → S' y y') : TraceLike R S' t t' :=
  ⟨like.log, weaker _ _ like.state⟩

/-- Editing related parts in place gives related traces, if what runs on the parts does. -/
theorem InPlaceLike.trace {R : Value → Value → Prop} {σ π : Type} {composite : σ → Composite}
    {part : π → Composite} {S : σ → σ → Prop} {x x' : σ}
    {edit edit' : {α : Type} → (π → Outcome π α) → Outcome σ α}
    (inPlace : InPlaceLike R composite part S x x' edit edit') (like : S x x')
    (sound : Everywhere Composite.Sound (.composite (composite x)))
    (sound' : Everywhere Composite.Sound (.composite (composite x')))
    {run run' : π → Outcome π Log}
    (inner : ∀ c c', R (.composite (part c)) (.composite (part c')) →
      Everywhere Composite.Sound (.composite (part c)) →
      Everywhere Composite.Sound (.composite (part c')) →
      TraceLike R (fun d d' => R (.composite (part d)) (.composite (part d'))) (run c).trace
        (run' c').trace) :
    TraceLike R S (edit run).trace (edit' run').trace := by
  rcases inPlace with ⟨e, refused, refused'⟩ | ⟨c, c', put, put', opens, runs, runs'⟩
  · have refused : edit run = .fail e x := refused run
    have refused' : edit' run' = .fail e x' := refused' run'
    rw [refused, refused']
    exact .refused like e
  · have runs : edit run = (run c).within fun c => put (part c) := runs run
    have runs' : edit' run' = (run' c').within fun c => put' (part c) := runs' run'
    rw [runs, runs', Outcome.trace_within, Outcome.trace_within]
    have traces := inner c c' opens.related (sound.sound_part opens.part)
      (sound'.sound_part opens.part')
    exact ⟨traces.log, opens.stored _ _ traces.state⟩

namespace Alike

/-- Reads of containers that are alike answer alike. -/
theorem read {σ : Shape} (r : Read σ) {x x' : σ.Container} (alike : Alike (σ.value x) (σ.value x'))
    (sound : (σ.composite x).Sound) (sound' : (σ.composite x').Sound) :
    ResultLike Alike (r.answer x) (r.answer x') := by
  cases σ with
  | message =>
    cases alike with
    | message like =>
      obtain ⟨t, sound⟩ := sound
      have sound' := like.sound_type sound sound'
      exact like.read .alike sound.ascending sound'.ascending r
  | vector =>
    cases alike with
    | vector like => exact like.read r
  | map =>
    cases alike with
    | map like => exact like.read .alike (Map.Sound.ascending sound) (Map.Sound.ascending sound') r

/-- A write to containers that are alike answers alike and leaves them alike. -/
theorem write {σ : Shape} {w w' : Write σ} (given : Write.Like Alike w w') {x x' : σ.Container}
    (alike : Alike (σ.value x) (σ.value x')) (sound : (σ.composite x).Sound)
    (sound' : (σ.composite x').Sound) :
    OutcomeLike Alike (fun y y' => Alike (σ.value y) (σ.value y')) (w.run x) (w'.run x') := by
  cases σ with
  | message =>
    cases alike with
    | message like =>
      obtain ⟨t, sound⟩ := sound
      have outcome := like.write .alike sound (like.sound_type sound sound') given
      exact ⟨outcome.result, .message outcome.state⟩
  | vector =>
    cases alike with
    | vector like =>
      have outcome := like.write .alike given
      exact ⟨outcome.result, .vector outcome.state⟩
  | map =>
    cases alike with
    | map like =>
      have outcome := like.write .alike given
      exact ⟨outcome.result, .map outcome.state⟩

/-- An edit for one shape runs on both of two composites that are alike, or is refused by both for
one reason. -/
theorem onComposite_cases {c c' : Composite} (alike : Alike (.composite c) (.composite c'))
    (τ : Shape) :
    (∃ e, (∀ {α : Type} (run : τ.Container → Outcome τ.Container α),
          (τ.edit run).onComposite c = .fail e c) ∧
        ∀ {α : Type} (run : τ.Container → Outcome τ.Container α),
          (τ.edit run).onComposite c' = .fail e c') ∨
      ∃ y y', c = τ.composite y ∧ c' = τ.composite y' ∧
        (∀ {α : Type} (run : τ.Container → Outcome τ.Container α),
          (τ.edit run).onComposite c = (run y).within τ.composite) ∧
        ∀ {α : Type} (run : τ.Container → Outcome τ.Container α),
          (τ.edit run).onComposite c' = (run y').within τ.composite := by
  cases alike with
  | @message m m' =>
    cases τ with
    | message => exact .inr ⟨m, m', rfl, rfl, fun _ => rfl, fun _ => rfl⟩
    | vector => exact .inl ⟨.typeMismatch (.member .vector) .message, fun _ => rfl, fun _ => rfl⟩
    | map => exact .inl ⟨.typeMismatch (.member .map) .message, fun _ => rfl, fun _ => rfl⟩
  | @vector v v' =>
    cases τ with
    | message => exact .inl ⟨.typeMismatch (.member .message) .vector, fun _ => rfl, fun _ => rfl⟩
    | vector => exact .inr ⟨v, v', rfl, rfl, fun _ => rfl, fun _ => rfl⟩
    | map => exact .inl ⟨.typeMismatch (.member .map) .vector, fun _ => rfl, fun _ => rfl⟩
  | @map m m' =>
    cases τ with
    | message => exact .inl ⟨.typeMismatch (.member .message) .map, fun _ => rfl, fun _ => rfl⟩
    | vector => exact .inl ⟨.typeMismatch (.member .vector) .map, fun _ => rfl, fun _ => rfl⟩
    | map => exact .inr ⟨m, m', rfl, rfl, fun _ => rfl, fun _ => rfl⟩

/-- A program answers containers that are alike with logs that are alike, and leaves them alike.  By
induction on the program; what runs on the opened parts is a program again, and the parts are
alike. -/
theorem run {σ : Shape} {p p' : Program σ} (like : Program.Like Alike p p') {x x' : σ.Container}
    (alike : Alike (σ.value x) (σ.value x'))
    (sound : Everywhere Composite.Sound (σ.value x))
    (sound' : Everywhere Composite.Sound (σ.value x'))
    (arguments : ∀ v ∈ p.arguments, Everywhere Composite.Sound v)
    (arguments' : ∀ v ∈ p'.arguments, Everywhere Composite.Sound v) :
    TraceLike Alike (fun y y' => Alike (σ.value y) (σ.value y')) (p.run x) (p'.run x') := by
  induction like with
  | idle => exact ⟨.nil, alike⟩
  | @seq σ first first' second second' _ _ ih ih' =>
    obtain ⟨early, late⟩ := List.forall_mem_append.1 arguments
    obtain ⟨early', late'⟩ := List.forall_mem_append.1 arguments'
    have start := ih alike sound sound' early early'
    have rest := ih' start.state (first.keeps_sound sound early).state
      (first'.keeps_sound sound' early').state late late'
    exact ⟨List.rel_append start.log rest.log, rest.state⟩
  | read r => exact ⟨.cons (alike.read r sound.here sound'.here) .nil, alike⟩
  | write given =>
    have outcome := alike.write given sound.here sound'.here
    exact ⟨.cons outcome.result .nil, outcome.state⟩
  | @inField n τ inner inner' _ ih =>
    cases alike with
    | message messages =>
      obtain ⟨t, typed⟩ := sound.here
      have typed' := messages.sound_type typed sound'.here
      refine TraceLike.imp (S := Message.Like Alike) ?_ fun y y' => .message
      refine (messages.inPlace_edit .alike typed typed' n).trace messages sound sound'
        fun c c' parts part part' => ?_
      have related : Alike (.composite c) (.composite c') := parts
      rcases related.onComposite_cases τ with
        ⟨e, refused, refused'⟩ | ⟨y, y', rfl, rfl, runs, runs'⟩
      · rw [refused, refused']
        exact ⟨.cons (.error e) .nil, related⟩
      · rw [runs, runs', Outcome.trace_within, Outcome.trace_within]
        have traces := ih related part part' arguments arguments'
        exact ⟨traces.log, traces.state⟩
  | inItem i _ ih =>
    cases alike with
    | vector vectors =>
      refine TraceLike.imp (S := Vector.Like Alike) ?_ fun y y' => .vector
      exact (vectors.inPlace_edit .alike i).trace vectors sound sound'
        fun m m' parts part part' => ih parts part part' arguments arguments'
  | inNewItem _ ih =>
    cases alike with
    | vector vectors =>
      refine TraceLike.imp (S := Vector.Like Alike) ?_ fun y y' => .vector
      exact (vectors.inPlace_editNew .alike).trace vectors sound sound'
        fun m m' parts part part' => ih parts part part' arguments arguments'
  | inEntry k _ ih =>
    cases alike with
    | map maps =>
      refine TraceLike.imp (S := Map.Like Alike) ?_ fun y y' => .map
      exact (maps.inPlace_edit .alike k).trace maps sound sound'
        fun m m' parts part part' => ih parts part part' arguments arguments'

end Alike

/-! ## Hidden rows -/

/-- A container field opens with a container that holds nothing. -/
theorem Field.hidden_of_initial {s : Schema} {f : Field} {v : Value}
    (container : f.isList = true ∨ f.isMap = true) (initial : f.initial s = .ok v) :
    v.isPopulated = false := by
  cases keyed : f.mapKey with
  | some key =>
    simp only [Field.initial, keyed] at initial
    cases initial
    rfl
  | none =>
    have list : f.isList = true := by simpa [Field.isMap, keyed] using container
    simp only [Field.initial, keyed, list, ↓reduceIte] at initial
    cases initial
    rfl

/-- Opening a container field outside every oneof, set or not, changes hidden rows at most. -/
theorem Message.like_openField {m : Message} (reachable : Reachable (.message m)) {t : MessageType}
    {n : FieldNumber} {f : Field} (type : m.type = .ok t) (field : m.field? t n = some f)
    (container : f.isList = true ∨ f.isMap = true) (alone : f.oneof = none) :
    Message.Like Eq m ((Write.openField n).run m).state := by
  obtain ⟨t', sound⟩ := reachable.sound.here
  obtain rfl := sound.type_eq type
  have composite : f.isComposite = true := by
    rcases container with list | map
    · simp [Field.isComposite, list]
    · simp [Field.isComposite, map]
  obtain ⟨c, opens⟩ := sound.opens_of_composite field composite
  have siblings : m.unsetSiblings t n f = m := by simp [unsetSiblings, siblings, alone]
  rw [Write.run, opens.edit_eq, siblings]
  refine .of_eq rfl rfl rfl rfl ?_
  intro k
  show SlotLike Eq (m.fields.find? k) ((m.put n (.composite c)).fields.find? k)
  rw [find?_put]
  by_cases here : k = n
  · subst here
    rw [if_pos rfl]
    rcases opens.part with stored | ⟨absent, initial⟩
    · rw [stored]
      exact .both rfl
    · rw [absent]
      exact .second (Field.hidden_of_initial container initial)
  · rw [if_neg here]
    cases m.fields.find? k with
    | none => exact .absent
    | some v => exact .both rfl

/-- Hidden rows are never observed.  Messages that differ in hidden rows of their own answer every
program with one log, every edit of an opened part with one result, and every visitor with one
state, and still differ in hidden rows only.  Messages that differ in hidden rows at any depth
answer programs that differ like that with logs that do. -/
theorem hidden_rows_unobservable {m m' : Message} (reachable : Reachable (.message m))
    (reachable' : Reachable (.message m')) :
    (Message.Like Eq m m' →
      (∀ p : Program .message, (∀ v ∈ p.arguments, Reachable v) →
        (p.run m').log = (p.run m).log ∧ Message.Like Eq (p.run m).state (p.run m').state) ∧
      (∀ (n : FieldNumber) {α : Type} (run : Composite → Outcome Composite α),
        (m'.edit n run).result = (m.edit n run).result ∧
          Message.Like Eq (m.edit n run).state (m'.edit n run).state) ∧
      ∀ {σ : Type} (visitor : FieldNumber × Value → σ → ForInStep σ) (s : σ),
        m'.range visitor s = m.range visitor s) ∧
    (Alike (.message m) (.message m') →
      ∀ p p' : Program .message, Program.Like Alike p p' → (∀ v ∈ p.arguments, Reachable v) →
        (∀ v ∈ p'.arguments, Reachable v) →
        Log.Like Alike (p.run m).log (p'.run m').log ∧
          Alike (.message (p.run m).state) (.message (p'.run m').state)) := by
  have sound := reachable.sound
  have sound' := reachable'.sound
  refine ⟨fun like => ⟨fun p arguments => ?_, fun n α run => ?_, fun visitor s => ?_⟩, ?_⟩
  · exact p.near (σ := .message) like sound sound' fun v member => (arguments v member).sound
  · exact like.edit_eq sound.here sound'.here n run
  · obtain ⟨t, typed⟩ := sound.here
    have typed' := like.sound_type typed sound'.here
    have rows := like.populated .eq typed.ascending typed'.ascending
    rw [rowLike_eq, List.forall₂_eq_eq_eq] at rows
    rw [Message.range, Message.range, rows]
  · intro alike p p' like arguments arguments'
    have trace := Alike.run (σ := .message) like alike sound sound'
      (fun v member => (arguments v member).sound) fun v member => (arguments' v member).sound
    exact ⟨trace.log, trace.state⟩

/-- A card on which the scores were opened has one row more, which nothing brings to light. -/
theorem AddressBook.opened_scores_unobservable :
    ∃ opened, opened = ((Write.openField 9).run card).state ∧
      Reachable (.message card) ∧ Reachable (.message opened) ∧
      opened.fields.size = card.fields.size + 1 ∧ Message.Like Eq card opened ∧
      ∀ p : Program .message, (∀ v ∈ p.arguments, Reachable v) →
        (p.run opened).log = (p.run card).log := by
  have reachable : Reachable (.message ((Write.openField 9).run card).state) :=
    .run (σ := .message) (.write (.openField 9)) reachable_card (by simp [Program.arguments,
      Write.arguments])
  obtain ⟨t, sound⟩ := reachable_card.sound.here
  have shape : (card.schema.type? card.index).bind (fun t =>
      (t.field? 9).map fun f => (f.isList, f.oneof)) = some (true, none) := by decide +kernel
  rw [sound.type?, Option.bind_some] at shape
  obtain ⟨f, declared, list⟩ := Option.map_eq_some_iff.1 shape
  rw [Prod.mk.injEq] at list
  have field : card.field? t 9 = some f := by rw [Message.field?, declared]
  have like := Message.like_openField reachable_card sound.type field (.inl list.1) list.2
  refine ⟨_, rfl, reachable_card, reachable, by decide +kernel, like, fun p arguments => ?_⟩
  exact (((hidden_rows_unobservable reachable_card reachable).1 like).1 p arguments).1

end DynamicMessage
