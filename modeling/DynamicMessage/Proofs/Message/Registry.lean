/-
# Proofs.Message.Registry -- the two tables of extensions agree

Extensions are found by number and by name.  Registering writes both tables after it checked that
number and name are free, and removing erases from both what is registered together, so each table
says what the other says (`Registry.Agrees`).  What is registered on a message was free to be
registered on its type (`MessageType.Admits`), whatever became of the message since.
-/
import DynamicMessage.Proofs.Message.Invariant
import Mathlib.Data.List.Dedup

namespace DynamicMessage

set_option autoImplicit false

/-! ## The tables -/

/-- The rows of both tables ascend, an extension is found by its own number and name, and a name
leads to an extension of that name. -/
structure Registry.Agrees (r : Registry) : Prop where
  byNumber : r.byNumber.Ascending
  byName : r.byName.Ascending
  named : ∀ n e, r.byNumber.find? n = some e → e.number = n ∧ r.byName.find? e.name = some n
  numbered : ∀ name n, r.byName.find? name = some n →
    ∃ e, r.byNumber.find? n = some e ∧ e.name = name

namespace Registry.Agrees

variable {r : Registry} {e : Extension}

theorem empty : Registry.empty.Agrees where
  byNumber := Table.Ascending.empty
  byName := Table.Ascending.empty
  named n e found := by simp [Registry.empty] at found
  numbered name n found := by simp [Registry.empty] at found

/-- The tables agree after an extension of a free number and a free name is added. -/
theorem add (agrees : r.Agrees) (freeNumber : r.byNumber.find? e.number = none)
    (freeName : r.byName.find? e.name = none) : (r.add e).Agrees where
  byNumber := agrees.byNumber.insert e.number e
  byName := agrees.byName.insert e.name e.number
  named n e' found := by
    rcases Table.find?_insert_eq_some_iff.1 found with ⟨rfl, rfl⟩ | ⟨-, found⟩
    · exact ⟨rfl, Table.find?_insert_eq_some_iff.2 (.inl ⟨rfl, rfl⟩)⟩
    · obtain ⟨number, name⟩ := agrees.named n e' found
      have differ : e'.name ≠ e.name := by
        intro same
        rw [same, freeName] at name
        simp at name
      exact ⟨number, Table.find?_insert_eq_some_iff.2 (.inr ⟨differ, name⟩)⟩
  numbered name n found := by
    rcases Table.find?_insert_eq_some_iff.1 found with ⟨rfl, rfl⟩ | ⟨-, found⟩
    · exact ⟨e, Table.find?_insert_eq_some_iff.2 (.inl ⟨rfl, rfl⟩), rfl⟩
    · obtain ⟨e', number, named⟩ := agrees.numbered name n found
      have differ : n ≠ e.number := by
        intro same
        rw [same, freeNumber] at number
        simp at number
      exact ⟨e', Table.find?_insert_eq_some_iff.2 (.inr ⟨differ, number⟩), named⟩

/-- The tables agree after a registered extension is dropped. -/
theorem drop (agrees : r.Agrees) {n : FieldNumber} (registered : r.byNumber.find? n = some e) :
    (r.drop n e.name).Agrees where
  byNumber := agrees.byNumber.erase n
  byName := agrees.byName.erase e.name
  named k e' found := by
    obtain ⟨differ, found⟩ := Table.find?_erase_eq_some_iff.1 found
    obtain ⟨number, name⟩ := agrees.named k e' found
    have other : e'.name ≠ e.name := by
      intro same
      rw [same, (agrees.named n e registered).2, Option.some.injEq] at name
      exact differ name.symm
    exact ⟨number, Table.find?_erase_eq_some_iff.2 ⟨other, name⟩⟩
  numbered name k found := by
    obtain ⟨differ, found⟩ := Table.find?_erase_eq_some_iff.1 found
    obtain ⟨e', number, named⟩ := agrees.numbered name k found
    have other : k ≠ n := by
      intro same
      rw [same, registered, Option.some.injEq] at number
      exact differ (by rw [← named, number])
    exact ⟨e', Table.find?_erase_eq_some_iff.2 ⟨other, number⟩, named⟩

/-- The listed extensions are found under their numbers. -/
theorem mem_list_iff (agrees : r.Agrees) (e : Extension) :
    e ∈ r.list ↔ r.byNumber.find? e.number = some e := by
  constructor
  · intro listed
    obtain ⟨⟨n, e'⟩, row, same⟩ := List.mem_map.1 listed
    have same : e' = e := same
    have found := (agrees.byNumber.mem_rows_iff n e').1 row
    rw [← same, (agrees.named n e' found).1]
    exact found
  · exact Table.mem_values_of_find?

/-- The listed extensions have different numbers and different names. -/
theorem apart (agrees : r.Agrees) :
    r.list.Pairwise fun e e' => e.number ≠ e'.number ∧ e.name ≠ e'.name := by
  apply List.pairwise_map.2
  apply agrees.byNumber.imp_of_mem
  intro a b first second lt
  obtain ⟨number, name⟩ := agrees.named a.1 a.2 ((agrees.byNumber.mem_rows_iff a.1 a.2).1 first)
  obtain ⟨number', name'⟩ := agrees.named b.1 b.2 ((agrees.byNumber.mem_rows_iff b.1 b.2).1 second)
  have differ : a.1 ≠ b.1 := by
    intro same
    simp [same] at lt
  constructor
  · rwa [number, number']
  · intro same
    rw [same, name', Option.some.injEq] at name
    exact differ name.symm

end Registry.Agrees

/-! ## The registries of messages -/

/-- The tables of a message agree, and hold what its type admits. -/
structure Message.Extended (m : Message) (t : MessageType) : Prop where
  agrees : m.extensions.Agrees
  admitted : ∀ n e, m.extensions.byNumber.find? n = some e → t.Admits e
  present : ∀ n e, m.extensions.byNumber.find? n = some e → e.HasPresence

/-- What is registered under an extension's number has the extension's name. -/
theorem Message.isRegistered_iff (m : Message) (e : Extension) :
    m.isRegistered e = true ↔
      ∃ e', m.extensions.byNumber.find? e.number = some e' ∧ e'.name = e.name := by
  unfold isRegistered Registry.findByNumber?
  cases m.extensions.byNumber.find? e.number <;> simp

theorem Message.invariant_extended : Invariant (Composite.OnMessage Message.Extended) := by
  apply Invariant.onMessage
  · intro s index t _ _
    refine ⟨Registry.Agrees.empty, fun n e found => ?_, fun n e found => ?_⟩ <;>
      simp [Message.blank, Registry.empty] at found
  · intro brought m m' t sound extended change
    cases change with
    | unset => exact ⟨extended.agrees, extended.admitted, extended.present⟩
    | put =>
      rw [unsetSiblings_eq]
      exact ⟨extended.agrees, extended.admitted, extended.present⟩
    | @register m t' e type free faultless present =>
      obtain rfl := sound.type_eq type
      obtain ⟨admits, freeNumber, freeName⟩ := (m.conflict?_eq_none_iff t' e).1 free
      refine ⟨extended.agrees.add freeNumber freeName, fun n e' found => ?_, fun n e' found => ?_⟩
      · rcases Table.find?_insert_eq_some_iff.1 found with ⟨-, rfl⟩ | ⟨-, found⟩
        · exact admits
        · exact extended.admitted n e' found
      · rcases Table.find?_insert_eq_some_iff.1 found with ⟨-, rfl⟩ | ⟨-, found⟩
        · exact present
        · exact extended.present n e' found
    | @remove m e registered =>
      obtain ⟨e', found, name⟩ := (m.isRegistered_iff e).1 registered
      rw [← name]
      refine ⟨extended.agrees.drop found, fun n e'' kept => ?_, fun n e'' kept => ?_⟩
      · exact extended.admitted n e'' (Table.find?_erase_eq_some_iff.1 kept).2
      · exact extended.present n e'' (Table.find?_erase_eq_some_iff.1 kept).2
    | setUnknown => exact ⟨extended.agrees, extended.admitted, extended.present⟩
    | appendUnknown => exact ⟨extended.agrees, extended.admitted, extended.present⟩

/-! ## What is registered -/

/-- The two tables are inverse to each other: both find the listed extensions and nothing else, and
there are as many of these as they have numbers and as they have names. -/
structure Registry.Inverse (r : Registry) : Prop where
  byNumber : ∀ n e, r.findByNumber? n = some e ↔ e ∈ r.list ∧ e.number = n
  byName : ∀ name e, r.findByName? name = some e ↔ e ∈ r.list ∧ e.name = name
  taken : ∀ name n, r.byName.find? name = some n ↔ ∃ e ∈ r.list, e.name = name ∧ e.number = n
  numbers : r.size = (r.list.map (·.number)).dedup.length
  names : r.size = (r.list.map (·.name)).dedup.length

namespace Registry.Agrees

variable {r : Registry}

theorem size_eq (r : Registry) : r.size = r.list.length := by
  simp [Registry.size, Table.size, Registry.list, Table.values]

theorem findByNumber?_eq_some_iff (agrees : r.Agrees) (n : FieldNumber) (e : Extension) :
    r.findByNumber? n = some e ↔ e ∈ r.list ∧ e.number = n := by
  rw [agrees.mem_list_iff]
  constructor
  · intro found
    obtain ⟨number, -⟩ := agrees.named n e found
    exact ⟨by rwa [number], number⟩
  · rintro ⟨found, rfl⟩
    exact found

/-- The names are those of the listed extensions, and lead to their numbers. -/
theorem byName_eq_some_iff (agrees : r.Agrees) (name : String) (n : FieldNumber) :
    r.byName.find? name = some n ↔ ∃ e ∈ r.list, e.name = name ∧ e.number = n := by
  constructor
  · intro found
    obtain ⟨e, registered, named⟩ := agrees.numbered name n found
    obtain ⟨listed, number⟩ := (agrees.findByNumber?_eq_some_iff n e).1 registered
    exact ⟨e, listed, named, number⟩
  · rintro ⟨e, listed, rfl, rfl⟩
    exact (agrees.named e.number e ((agrees.mem_list_iff e).1 listed)).2

theorem findByName?_eq_some_iff (agrees : r.Agrees) (name : String) (e : Extension) :
    r.findByName? name = some e ↔ e ∈ r.list ∧ e.name = name := by
  unfold findByName?
  constructor
  · intro found
    split at found
    · simp at found
    · rename_i n taken
      obtain ⟨e', registered, named⟩ := agrees.numbered name n taken
      rw [registered, Option.some.injEq] at found
      subst found
      exact ⟨((agrees.findByNumber?_eq_some_iff n e').1 registered).1, named⟩
  · rintro ⟨listed, rfl⟩
    have registered := (agrees.mem_list_iff e).1 listed
    rw [(agrees.named e.number e registered).2]
    exact registered

/-- A number is free when no listed extension has it. -/
theorem findByNumber?_eq_none_iff (agrees : r.Agrees) (n : FieldNumber) :
    r.findByNumber? n = none ↔ ∀ e ∈ r.list, e.number ≠ n := by
  constructor
  · intro free e listed number
    have found := (agrees.findByNumber?_eq_some_iff n e).2 ⟨listed, number⟩
    simp [free] at found
  · intro free
    cases found : r.findByNumber? n with
    | none => rfl
    | some e =>
      obtain ⟨listed, number⟩ := (agrees.findByNumber?_eq_some_iff n e).1 found
      exact absurd number (free e listed)

/-- A name is free when no listed extension has it. -/
theorem byName_eq_none_iff (agrees : r.Agrees) (name : String) :
    r.byName.find? name = none ↔ ∀ e ∈ r.list, e.name ≠ name := by
  constructor
  · intro free e listed named
    have found := (agrees.byName_eq_some_iff name e.number).2 ⟨e, listed, named, rfl⟩
    simp [free] at found
  · intro free
    cases found : r.byName.find? name with
    | none => rfl
    | some n =>
      obtain ⟨e, listed, named, -⟩ := (agrees.byName_eq_some_iff name n).1 found
      exact absurd named (free e listed)

theorem nodup_list (agrees : r.Agrees) : r.list.Nodup :=
  agrees.apart.imp fun differ same => differ.1 (by rw [same])

/-- Adding an extension of a free number and a free name adds it to the list. -/
theorem list_add (agrees : r.Agrees) {e : Extension} (freeNumber : r.byNumber.find? e.number = none)
    (freeName : r.byName.find? e.name = none) : (r.add e).list.Perm (e :: r.list) := by
  have added := agrees.add freeNumber freeName
  have other : ∀ x ∈ r.list, x.number ≠ e.number :=
    (agrees.findByNumber?_eq_none_iff e.number).1 freeNumber
  have fresh : e ∉ r.list := fun listed => other e listed rfl
  apply (List.perm_ext_iff_of_nodup added.nodup_list (agrees.nodup_list.cons fresh)).2
  intro x
  rw [added.mem_list_iff, List.mem_cons, agrees.mem_list_iff]
  show (r.byNumber.insert e.number e).find? x.number = some x ↔ _
  rw [Table.find?_insert_eq_some_iff]
  constructor
  · rintro (⟨-, rfl⟩ | ⟨-, found⟩)
    · exact .inl rfl
    · exact .inr found
  · rintro (rfl | found)
    · exact .inl ⟨rfl, rfl⟩
    · exact .inr ⟨other x ((agrees.mem_list_iff x).2 found), found⟩

/-- Dropping an extension takes it, and no other, off the list. -/
theorem list_drop (agrees : r.Agrees) {e : Extension} (listed : e ∈ r.list) :
    r.list.Perm (e :: (r.drop e.number e.name).list) := by
  have dropped := agrees.drop ((agrees.mem_list_iff e).1 listed)
  have mem : ∀ x, x ∈ (r.drop e.number e.name).list ↔ x.number ≠ e.number ∧ x ∈ r.list := by
    intro x
    rw [dropped.mem_list_iff, agrees.mem_list_iff]
    exact Table.find?_erase_eq_some_iff
  have fresh : e ∉ (r.drop e.number e.name).list := fun again => ((mem e).1 again).1 rfl
  apply (List.perm_ext_iff_of_nodup agrees.nodup_list (dropped.nodup_list.cons fresh)).2
  intro x
  rw [List.mem_cons, mem]
  constructor
  · intro stays
    by_cases same : x.number = e.number
    · left
      have found := (agrees.mem_list_iff x).1 stays
      rw [same, (agrees.mem_list_iff e).1 listed, Option.some.injEq] at found
      exact found.symm
    · exact .inr ⟨same, stays⟩
  · rintro (rfl | ⟨-, stays⟩)
    · exact listed
    · exact stays

/-- An extension that was added and dropped leaves the registry as it was. -/
theorem drop_add {e : Extension} (freeNumber : r.byNumber.find? e.number = none)
    (freeName : r.byName.find? e.name = none) : (r.add e).drop e.number e.name = r := by
  simp only [Registry.add, Registry.drop, Table.erase_insert,
    Table.erase_of_find?_eq_none _ _ freeNumber, Table.erase_of_find?_eq_none _ _ freeName]

theorem inverse (agrees : r.Agrees) : r.Inverse where
  byNumber := agrees.findByNumber?_eq_some_iff
  byName := agrees.findByName?_eq_some_iff
  taken := agrees.byName_eq_some_iff
  numbers := by
    have distinct : (r.list.map (·.number)).Nodup :=
      List.pairwise_map.2 (agrees.apart.imp fun differ => differ.1)
    rw [distinct.dedup, List.length_map, size_eq]
  names := by
    have distinct : (r.list.map (·.name)).Nodup :=
      List.pairwise_map.2 (agrees.apart.imp fun differ => differ.2)
    rw [distinct.dedup, List.length_map, size_eq]

end Registry.Agrees

/-- The extension `e` extends messages of type `t` in a schema by a field that they do not
declare. -/
structure Schema.Extends (s : Schema) (t : MessageType) (e : Extension) : Prop where
  extendee : e.extendee = t.name
  ranged : ∃ r ∈ t.extensionRanges, r.first ≤ e.number ∧ e.number ≤ r.last
  number : 1 ≤ e.number.toNat ∧ e.number.toNat ≤ 536870911
  undeclared : ∀ f ∈ t.fields, f.number ≠ e.number
  ungrouped : e.field.oneof = none
  unkeyed : e.field.isMap = false
  typed : ∀ index, e.field.kind.messageIndex? = some index → index.toNat < s.size
  nullable : e.field.cardinality ≠ .repeated → e.field.isNullable = true

/-- A position that names a type is below the number of types. -/
theorem Schema.lt_of_type? {s : Schema} {index : MessageIndex} {t : MessageType}
    (found : s.type? index = some t) : index.toNat < s.size :=
  (List.getElem?_eq_some_iff.1 found).1

namespace Message

variable {m : Message} {t : MessageType}

/-- What is registered on a message extends its type. -/
theorem Extended.extends (extended : m.Extended t) (sound : m.Sound t) {e : Extension}
    (listed : e ∈ m.extensions.list) : m.schema.Extends t e := by
  have found := (extended.agrees.mem_list_iff e).1 listed
  have admits := extended.admitted e.number e found
  obtain ⟨-, undeclared, faultless⟩ := sound.registered e.number e found
  have free := ((Schema.fieldFault?_eq_none_iff _ _ _).1 faultless).1
  have inRange : e.number.InRange := (Schema.numberFault?_eq_none_iff _ _).1 free
  refine
    { extendee := admits.extendee
      ranged := (t.isOpenTo_iff e.number).1 admits.ranged
      number := (FieldNumber.inRange_iff e.number).1 inRange
      undeclared := (sound.indexed.field?_eq_none_iff e.number).1 undeclared
      ungrouped := admits.ungrouped
      unkeyed := by rw [Field.isMap, admits.unkeyed]; rfl
      typed := fun index named => ?_
      nullable := fun single => ?_ }
  · obtain ⟨t', type⟩ := Schema.names_of_faultless faultless index named
    exact Schema.lt_of_type? type
  · rcases extended.present e.number e found with repeated | present
    · exact absurd repeated single
    · simp [Field.isNullable, single, present]

end Message

/-- Whatever a program does, the two tables of extensions of every message it holds are inverse to
each other, and what they hold extends the type of the message. -/
theorem reachable_registry {m : Message} (reachable : Reachable (.message m)) :
    ∃ t, m.type = .ok t ∧ m.extensions.Inverse ∧
      ∀ e ∈ m.extensions.list, m.schema.Extends t e := by
  obtain ⟨t, sound⟩ := reachable.sound.here
  have extended := reachable.onMessage Message.invariant_extended sound.type
  exact ⟨t, sound.type, extended.agrees.inverse, fun e listed => extended.extends sound listed⟩

namespace AddressBook

/-- Removes the nickname and registers its number and its name apart; a second extension of the
number is refused. -/
def relabel : Program .message :=
  let nickname : Field := { number := 100, name := "tutorial.nickname", kind := .scalar .string }
  .seq (.seq (.write (.clear 100)) (.write (.remove "tutorial.Person" nickname)))
    (.seq (.write (.register "tutorial.Person" { nickname with name := "tutorial.alias" }))
      (.seq (.write (.register "tutorial.Person" { nickname with number := 101 }))
        (.write (.register "tutorial.Person" { nickname with name := "tutorial.other" }))))

theorem relabelled_registry :
    Reachable (.message (relabel.run card).state) ∧
      (relabel.run card).state.extensions.list.map (fun e => (e.number, e.name)) =
        [(100, "tutorial.alias"), (101, "tutorial.nickname")] ∧
      ∃ t, (relabel.run card).state.type = .ok t ∧ (relabel.run card).state.extensions.Inverse ∧
        ∀ e ∈ (relabel.run card).state.extensions.list,
          (relabel.run card).state.schema.Extends t e := by
  have reachable : Reachable (.message (relabel.run card).state) := by
    refine .run (σ := .message) relabel reachable_card ?_
    intro v member
    simp [relabel, Program.arguments, Write.arguments] at member
  exact ⟨reachable, by decide +kernel, reachable_registry reachable⟩

end AddressBook

end DynamicMessage
