/-
# Proofs.Message.Filling -- two ways to fill a vector or a map

A field that holds a container gets its content in one of two ways: the container is made apart,
filled, and the field set to it (`Message.setFilled`), or the field is cleared, opened, and what it
opens with is filled in place (`Message.fillInPlace`).  The first goes through the check of the
field and may leave it unset, the second stores what the field opens with before anything is put
into it.

Both fill the same container, so they are refused for the same element (`Outcome.each_eq`), and what
they leave differs in the row of the field at most: made apart, a container that holds nothing is
not stored in a field without presence, which readers cannot tell (`Message.FillsAlike`).
-/
import DynamicMessage.Proofs.Message.Rebuild

namespace DynamicMessage

set_option autoImplicit false

/-! ## Operations in a row -/

namespace Outcome

variable {σ α β : Type}

/-- Goes on with what an accepted operation leaves. -/
def andThen (o : Outcome σ α) (next : σ → Outcome σ β) : Outcome σ β :=
  match o.result with
  | .ok _ => next o.state
  | .error e => .fail e o.state

/-- Runs an operation on arguments in order, up to the first that is refused. -/
def each (operation : σ → β → Outcome σ Unit) : List β → σ → Outcome σ Unit
  | [], s => .done () s
  | b :: bs, s => (operation s b).andThen (each operation bs)

/-- Where a fault of the argument alone decides about each step, the first fault decides about all
steps.  By induction on the arguments that are left, for all states of a kind that steps keep. -/
theorem each_eq {operation : σ → β → Outcome σ Unit} {fault : β → Option Error} {step : σ → β → σ}
    (Kept : σ → Prop)
    (refused : ∀ {s b e}, Kept s → fault b = some e → operation s b = .fail e s)
    (accepted : ∀ {s b}, Kept s → fault b = none →
      operation s b = .done () (step s b) ∧ Kept (step s b))
    (bs : List β) {s : σ} (kept : Kept s) :
    (∀ e, bs.findSome? fault = some e → (each operation bs s).result = .error e) ∧
      (bs.findSome? fault = none → each operation bs s = .done () (bs.foldl step s)) := by
  induction bs generalizing s with
  | nil => exact ⟨by simp, fun _ => rfl⟩
  | cons b bs ih =>
    rw [List.findSome?_cons, each]
    cases fits : fault b with
    | some e =>
      rw [refused kept fits]
      constructor
      · intro e' same
        cases same
        rfl
      · intro none
        cases none
    | none =>
      obtain ⟨done, kept⟩ := accepted kept fits
      rw [done]
      exact ih kept

end Outcome

/-- An operation on the containers of a shape runs on a container of that shape. -/
theorem Shape.onComposite_composite {α : Type} (τ : Shape)
    (run : τ.Container → Outcome τ.Container α) (x : τ.Container) :
    (τ.edit run).onComposite (τ.composite x) = (run x).within τ.composite := by
  cases τ <;> rfl

/-! ## Filling vectors and maps -/

/-- A vector of a kind that the schema has can be made. -/
theorem Schema.Names.new_vector {s : Schema} {kind : Kind} (names : s.Names kind) :
    Vector.new s kind = .ok (.empty s kind) := by
  unfold Vector.new
  cases named : kind.messageIndex? with
  | none => rfl
  | some index =>
    obtain ⟨t, found⟩ := names index named
    simp only [found]

/-- A map of a key kind and a kind that the schema has can be made. -/
theorem Schema.Names.new_map {s : Schema} {key value : Kind} (names : s.Names value)
    (keyed : key.isKey = true) : Map.new s key value = .ok (.empty s key value) := by
  unfold Map.new
  cases named : value.messageIndex? with
  | none => simp [keyed]
  | some index =>
    obtain ⟨t, found⟩ := names index named
    simp [keyed, found]

theorem Vector.foldl_append (v : Vector) (xs : List Value) :
    xs.foldl (fun v x => { v with items := v.items ++ [x] }) v = { v with items := v.items ++ xs } := by
  induction xs generalizing v with
  | nil => cases v; simp
  | cons x xs ih => simp [ih]

/-- Values are added to a vector up to the first that does not fit. -/
theorem Vector.each_append (v : Vector) (xs : List Value) :
    (∀ e, xs.findSome? (v.misfit? .vectorAppend) = some e →
        (Outcome.each append xs v).result = .error e) ∧
      (xs.findSome? (v.misfit? .vectorAppend) = none →
        Outcome.each append xs v = .done () { v with items := v.items ++ xs }) := by
  have same : ∀ {w : Vector}, w.schema = v.schema ∧ w.kind = v.kind → ∀ x,
      w.misfit? .vectorAppend x = v.misfit? .vectorAppend x := by
    intro w kept x
    rw [misfit?, misfit?, kept.1, kept.2]
  rw [← v.foldl_append xs]
  apply Outcome.each_eq fun w : Vector => w.schema = v.schema ∧ w.kind = v.kind
  · intro w x e kept misfit
    simp only [append, same kept, misfit]
  · intro w x kept fits
    simp only [append, same kept, fits, true_and]
    exact kept
  · exact ⟨rfl, rfl⟩

/-- Why a key and a value are no entry of a map. -/
def Map.misfit? (m : Map) (k : Key) (x : Value) : Option Error :=
  (m.keyMisfit? k).or <| if x.isNull then some (.nullRejected .mapSet) else m.schema.misfit? m.value x

theorem Map.set_of_misfit {m : Map} {k : Key} {x : Value} {e : Error}
    (misfit : m.misfit? k x = some e) : m.set k x = .fail e m := by
  unfold misfit? at misfit
  unfold set
  cases keyed : m.keyMisfit? k with
  | some e' =>
    simp only [keyed, Option.some_or, Option.some.injEq] at misfit
    rw [misfit]
  | none =>
    simp only [keyed, Option.none_or] at misfit
    split at misfit
    · cases misfit
      simp [*]
    · simp [*]

theorem Map.set_of_fits {m : Map} {k : Key} {x : Value} (fits : m.misfit? k x = none) :
    m.set k x = .done () { m with entries := m.entries.insert k x } := by
  unfold misfit? at fits
  rw [Option.or_eq_none_iff] at fits
  obtain ⟨keyed, fits⟩ := fits
  split at fits
  · simp at fits
  · simp [set, *]

theorem Map.foldl_insert (m : Map) (rows : List (Key × Value)) :
    rows.foldl (fun m row => { m with entries := m.entries.insert row.1 row.2 }) m =
      { m with entries := m.entries.insertAll rows } := by
  induction rows generalizing m with
  | nil => cases m; rfl
  | cons row rows ih => exact ih { m with entries := m.entries.insert row.1 row.2 }

/-- Entries are set in a map up to the first that does not fit, a key again over the value it had. -/
theorem Map.each_set (m : Map) (rows : List (Key × Value)) :
    (∀ e, rows.findSome? (fun row => m.misfit? row.1 row.2) = some e →
        (Outcome.each (fun m row => m.set row.1 row.2) rows m).result = .error e) ∧
      (rows.findSome? (fun row => m.misfit? row.1 row.2) = none →
        Outcome.each (fun m row => m.set row.1 row.2) rows m =
          .done () { m with entries := m.entries.insertAll rows }) := by
  have same : ∀ {w : Map}, w.schema = m.schema ∧ w.key = m.key ∧ w.value = m.value → ∀ k x,
      w.misfit? k x = m.misfit? k x := by
    intro w kept k x
    rw [misfit?, misfit?, keyMisfit?, keyMisfit?, kept.1, kept.2.1, kept.2.2]
  rw [← m.foldl_insert rows]
  apply Outcome.each_eq fun w : Map => w.schema = m.schema ∧ w.key = m.key ∧ w.value = m.value
  · intro w row e kept misfit
    exact set_of_misfit (by rw [same kept, misfit])
  · intro w row kept fits
    exact ⟨set_of_fits (by rw [same kept, fits]), kept⟩
  · exact ⟨rfl, rfl, rfl⟩

/-! ## Filling a field -/

namespace Message

/-- Makes a container apart, fills it and sets a field to it. -/
def setFilled {τ : Shape} (m : Message) (n : FieldNumber) (made : Except Error τ.Container)
    (fill : τ.Container → Outcome τ.Container Unit) : Outcome Message Unit :=
  match made with
  | .error e => .fail e m
  | .ok x =>
    match (fill x).result with
    | .error e => .fail e m
    | .ok _ => m.set n (τ.value (fill x).state)

/-- Clears a field, opens it and fills what it opens with in place. -/
def fillInPlace {τ : Shape} (m : Message) (n : FieldNumber)
    (fill : τ.Container → Outcome τ.Container Unit) : Outcome Message Unit :=
  (m.clear n).andThen fun m => m.edit n (τ.edit fill).onComposite

/-- What filling a container of the field `f` apart and in place leave, where `content` is what was
filled in. -/
structure FilledAlike (n : FieldNumber) (f : Field) (content : Value) (apart inPlace : Message) :
    Prop where
  stored : inPlace.fields.find? n = some content
  /-- The messages are the same, unless the field does not keep the content; then that is hidden,
  and filling it in apart leaves the field unset. -/
  same : isKept f content = true → apart = inPlace
  unset : isKept f content = false → apart = inPlace.unset n ∧ content.isPopulated = false
  get : apart.get n = if content.isPopulated then content else .null
  reads : ∀ r : Read .message, r.answer inPlace = r.answer apart
  paths : ∀ step rest, Value.read (.message inPlace) (step :: rest) =
    Value.read (.message apart) (step :: rest)

/-- How filling a container of the field `f` apart and in place compare, where `fault` is the error
of the first element that does not fit. -/
structure FillsAlike (m : Message) (n : FieldNumber) (f : Field) (fault : Option Error)
    (content : Value) (apart inPlace : Outcome Message Unit) : Prop where
  refused : ∀ e, fault = some e →
    apart.result = .error e ∧ inPlace.result = .error e ∧ apart.state = m
  accepted : fault = none → apart.result = .ok () ∧ inPlace.result = .ok () ∧
    FilledAlike n f content apart.state inPlace.state

variable {m : Message} {t : MessageType} {n : FieldNumber} {f : Field}

theorem result_set_of_holds (type : m.type = .ok t) {v : Value} (field : m.field? t n = some f)
    (holds : f.Holds m.schema v) : (m.set n v).result = .ok () := by
  cases kept : isKept f v with
  | true => rw [set_of_kept type field holds kept, Outcome.result_done]
  | false => rw [set_of_not_kept type field holds kept, Outcome.result_done]

/-- A hidden row in a free place is all that two messages differ in. -/
theorem Like.put_hidden {v : Value} (absent : m.fields.find? n = none)
    (hidden : v.isPopulated = false) : Message.Like Eq m (m.put n v) := by
  refine .of_eq rfl rfl rfl rfl fun k => ?_
  rw [find?_put]
  by_cases here : k = n
  · rw [if_pos here, here, absent]
    exact .second hidden
  · rw [if_neg here]
    cases m.fields.find? k with
    | none => exact .absent
    | some w => exact .both rfl

/-- Messages that differ in hidden rows show the same at the end of every path. -/
theorem Like.read_path {m' : Message} (like : Message.Like Eq m m') (step : Step Value)
    (rest : List (Step Value)) :
    Value.read (.message m') (step :: rest) = Value.read (.message m) (step :: rest) := by
  have follow : Value.follow (.message m') step = Value.follow (.message m) step := by
    cases step with
    | field n => simp only [Value.follow, Value.asMessage, like.get .eq n]
    | index i => rfl
    | key k => rfl
  simp only [Value.read, follow]

namespace Sound

/-- A cleared field that opens with a container runs an operation on it and stores what that
leaves. -/
theorem fillInPlace_eq {τ : Shape} {x : τ.Container} (sound : m.Sound t)
    (field : m.field? t n = some f) (composite : f.isComposite = true)
    (initial : f.initial m.schema = .ok (τ.value x))
    (fill : τ.Container → Outcome τ.Container Unit) :
    m.fillInPlace n fill =
      (fill x).within fun y => ((m.unset n).unsetSiblings t n f).put n (τ.value y) := by
  have cleared : m.clear n = .done () (m.unset n) := by
    simp only [clear, withField, sound.type, field]
  have opens : (m.unset n).Opens t n f (τ.composite x) := by
    refine ⟨sound.type, field, composite, .inr ⟨?_, initial⟩⟩
    rw [find?_unset, if_pos rfl]
  rw [fillInPlace, cleared]
  show (m.unset n).edit n _ = _
  rw [opens.edit_eq, τ.onComposite_composite]
  rfl

/-- A field without presence is in no oneof. -/
theorem ungrouped_of_implicit (sound : m.Sound t) (field : m.field? t n = some f)
    (implicit : f.isNullable = false) : f.oneof = none := by
  cases grouped : f.oneof with
  | none => rfl
  | some o => simp [Schema.nullable_of_faultless (sound.field field).2 grouped] at implicit

/-- Storing a row where the siblings are dropped makes up for dropping the old row first. -/
theorem put_unsetSiblings_unset (sound : m.Sound t) (n : FieldNumber) (f : Field) (v : Value) :
    ((m.unset n).unsetSiblings t n f).put n v = (m.unsetSiblings t n f).put n v := by
  have rows : ((siblings t n f).foldl Table.erase (m.fields.erase n)).insert n v =
      ((siblings t n f).foldl Table.erase m.fields).insert n v := by
    refine (((sound.ascending.erase n).foldl_erase _).insert n v).ext
      ((sound.ascending.foldl_erase _).insert n v) fun k => ?_
    simp only [Table.find?_insert, Table.find?_foldl_erase, Table.find?_erase]
    grind
  rw [unsetSiblings_eq, unsetSiblings_eq]
  show ({ m with fields := _ } : Message) = { m with fields := _ }
  rw [← rows]
  rfl

/-- Setting a field to a composite that fits compares with storing it in place of the row that the
field has. -/
theorem filledAlike_set (sound : m.Sound t) (field : m.field? t n = some f) {c : Composite}
    (holds : f.Holds m.schema (.composite c)) :
    FilledAlike n f (.composite c) (m.set n (.composite c)).state
      (((m.unset n).unsetSiblings t n f).put n (.composite c)) := by
  cases kept : isKept f (.composite c) with
  | true =>
    rw [set_of_kept sound.type field holds kept, sound.put_unsetSiblings_unset, Outcome.state_done]
    refine ⟨?_, fun _ => rfl, fun dropped => ?_, ?_, fun r => rfl, fun step rest => rfl⟩
    · rw [find?_put, if_pos rfl]
    · simp [kept] at dropped
    · simp only [get, find?_put, ↓reduceIte]
  | false =>
    obtain ⟨implicit, hidden⟩ : f.isNullable = false ∧ (Value.composite c).isPopulated = false := by
      simpa [isKept, Value.isZero] using kept
    have alone := unsetSiblings_of_ungrouped (m.unset n) t n (sound.ungrouped_of_implicit field implicit)
    rw [set_of_not_kept sound.type field holds kept, alone, Outcome.state_done]
    have absent : (m.unset n).fields.find? n = none := by rw [find?_unset, if_pos rfl]
    have like : Message.Like Eq (m.unset n) ((m.unset n).put n (.composite c)) :=
      .put_hidden absent hidden
    have ascending := (sound.unset n).ascending
    refine ⟨?_, fun stored => ?_, fun _ => ⟨?_, hidden⟩, ?_, fun r => ?_, like.read_path⟩
    · rw [find?_put, if_pos rfl]
    · simp [kept] at stored
    · rw [unset_put, unset_of_absent absent]
    · simp only [get, absent, hidden, Bool.false_eq_true, ↓reduceIte]
    · exact (like.read .eq ascending (ascending.insert n _) r).eq

/-- Filling apart and in place compare like filling the same container does. -/
theorem fillsAlike {τ : Shape} {x y : τ.Container} (sound : m.Sound t)
    (field : m.field? t n = some f) (composite : f.isComposite = true)
    (initial : f.initial m.schema = .ok (τ.value x)) (holds : f.Holds m.schema (τ.value y))
    {fill : τ.Container → Outcome τ.Container Unit} {fault : Option Error}
    (fills : (∀ e, fault = some e → (fill x).result = .error e) ∧
      (fault = none → fill x = .done () y)) :
    m.FillsAlike n f fault (τ.value y) (m.setFilled n (.ok x) fill) (m.fillInPlace n fill) where
  refused e faulty := by
    have refused := fills.1 e faulty
    rw [sound.fillInPlace_eq field composite initial]
    simp only [setFilled, refused, Outcome.result_fail, Outcome.state_fail, Outcome.result_within,
      and_self]
  accepted faultless := by
    have accepted := fills.2 faultless
    rw [sound.fillInPlace_eq field composite initial, accepted]
    simp only [setFilled, accepted, Outcome.result_done, Outcome.state_done, Outcome.result_within,
      Outcome.state_within]
    exact ⟨result_set_of_holds sound.type field holds, trivial, sound.filledAlike_set field holds⟩

end Sound

end Message

/-- Filling a vector or a map of a message that a run leads to gives the same apart and in place.
Both are refused for the first element or entry that does not fit, and otherwise leave messages that
every read and every path show alike; of entries with one key the last stays. -/
theorem reachable_filled_alike {m : Message} (reachable : Reachable (.message m)) {n : FieldNumber}
    {f : Field} (has : m.HasField n f) :
    (f.isList = true → ∀ xs : List Value,
      let made : Vector := .empty m.schema f.kind
      m.FillsAlike n f (xs.findSome? (made.misfit? .vectorAppend)) (.vector { made with items := xs })
        (m.setFilled (τ := .vector) n (Vector.new m.schema f.kind) (Outcome.each Vector.append xs))
        (m.fillInPlace (τ := .vector) n (Outcome.each Vector.append xs))) ∧
    ∀ key, f.mapKey = some key → ∀ rows : List (Key × Value),
      let made : Map := .empty m.schema key f.kind
      let fill := Outcome.each (fun (x : Map) (row : Key × Value) => x.set row.1 row.2) rows
      m.FillsAlike n f (rows.findSome? fun row => made.misfit? row.1 row.2)
        (.map { made with entries := made.entries.insertAll rows })
        (m.setFilled (τ := .map) n (Map.new m.schema key f.kind) fill)
        (m.fillInPlace (τ := .map) n fill) := by
  obtain ⟨t, sound⟩ := reachable.sound.here
  have field := (sound.hasField_iff n f).1 has
  have names := sound.names field
  constructor
  · intro list xs made
    have unkeyed : f.mapKey = none := by
      simp only [Field.isList, Bool.and_eq_true, Option.isNone_iff_eq_none] at list
      exact list.2
    rw [names.new_vector]
    refine sound.fillsAlike (τ := .vector) field (by simp [Field.isComposite, list]) ?_
      (.vector list rfl rfl) (made.each_append xs)
    simp only [Field.initial, unkeyed, list, ↓reduceIte]
    rfl
  · intro key keyed rows made fill
    rw [names.new_map (Schema.isKey_of_faultless (sound.field field).2 keyed)]
    refine sound.fillsAlike (τ := .map) field (by simp [Field.isComposite, Field.isMap, keyed]) ?_
      (.map keyed rfl rfl) (made.each_set rows)
    simp only [Field.initial, keyed]
    rfl

namespace AddressBook

/-- The scores of a person. -/
def scores : Field := .repeated { number := 9, name := "scores", kind := .scalar .int32 }

/-- The attributes of a person. -/
def attributes : Field :=
  .map { number := 5, name := "attributes", kind := .scalar .string } (.scalar .string)

/-- A field that a person declares is a field of the card. -/
theorem hasField_card {f : Field} (listed : f ∈ personType.fields) : card.HasField f.number f := by
  obtain ⟨t, sound⟩ := reachable_card.sound.here
  have fields : t.fields = personType.fields := fields_of_person sound.type?
  exact .declared sound.type? (by rwa [fields]) rfl

/-- Scores with a text among them. -/
def mixed : List Value := [.scalar (.i32 1), .scalar (.string "two"), .null]

/-- A mood and another one. -/
def moods : List (Key × Value) :=
  [(.string "mood", .scalar (.string "low")), (.string "mood", .scalar (.string "high"))]

/-- Gives the card scores that are added to a vector apart, and to its own. -/
def scored (xs : List Value) : Outcome Message Unit × Outcome Message Unit :=
  let fill := Outcome.each Vector.append xs
  (card.setFilled (τ := .vector) 9 (Vector.new card.schema scores.kind) fill,
    card.fillInPlace (τ := .vector) 9 fill)

/-- Gives the card attributes that are set in a map apart, and in its own. -/
def attributed (rows : List (Key × Value)) : Outcome Message Unit × Outcome Message Unit :=
  let fill := Outcome.each (fun (x : Map) (row : Key × Value) => x.set row.1 row.2) rows
  (card.setFilled (τ := .map) 5 (Map.new card.schema (.scalar .string) attributes.kind) fill,
    card.fillInPlace (τ := .map) 5 fill)

/-- Mixed scores are refused for the text, no scores are hidden or unset, and of two moods the second
stays. -/
theorem card_filled_alike :
    Reachable (.message card) ∧ card.HasField 9 scores ∧ card.HasField 5 attributes ∧
      ((scored mixed).1.result = .error (.typeMismatch (.member .i32) .string) ∧
        (scored mixed).2.result = .error (.typeMismatch (.member .i32) .string)) ∧
      Message.FilledAlike 9 scores (.vector (.empty card.schema scores.kind)) (scored []).1.state
        (scored []).2.state ∧
      (attributed moods).1.state = (attributed moods).2.state ∧
      (attributed moods).1.state.get 5 =
        .map { Map.empty card.schema (.scalar .string) attributes.kind with
          entries := ⟨[(.string "mood", .scalar (.string "high"))]⟩ } := by
  have has : card.HasField 9 scores := hasField_card (f := scores) (by decide)
  have has' : card.HasField 5 attributes := hasField_card (f := attributes) (by decide)
  have list := (reachable_filled_alike reachable_card has).1 (by decide)
  have map := (reachable_filled_alike reachable_card has').2 (.scalar .string) (by decide)
  obtain ⟨refused, refused', -⟩ := (list mixed).refused _ rfl
  obtain ⟨-, -, empty⟩ := (list []).accepted rfl
  obtain ⟨-, -, full⟩ := (map moods).accepted rfl
  exact ⟨reachable_card, has, has', ⟨refused, refused'⟩, empty, full.same rfl, full.get⟩

end AddressBook

end DynamicMessage
