/-
# Proofs.Schema.Validation -- which declarations make a schema

`Schema.declare` is a scan.  `Schema.checks` lists what it checks, in order: the names of all types,
then type by type the fields and the extension ranges.  `Check.Fails` says when one check fails and
with which error, without the tables that the scan builds, and `Schema.WellFormed` says the same of
whole declarations, without the order.

The scan finds what the list of checks says (`Finds`): nothing if all pass, else the error of the
first that fails.  `Finds` is closed under putting scans one after another, so the loops need one
induction each.
-/
import DynamicMessage.Proofs.Schema.Declared

namespace DynamicMessage

set_option autoImplicit false

/-! ## Well-formed declarations -/

/-- A field declares no default, or is a singular scalar and declares a scalar of its kind. -/
inductive Field.DefaultSuits (f : Field) : Prop where
  | undeclared (none : f.declaredDefault = .undeclared)
  | scalar {k : ScalarKind} {x : Scalar} (single : f.cardinality ≠ .repeated)
      (kind : f.kind = .scalar k) (declared : f.declaredDefault = .scalar x)
      (same : x.member = k.member)

/-- A field that a type `t` of a schema of `count` types may declare. -/
structure Field.WellFormed (count : Nat) (t : MessageType) (f : Field) : Prop where
  number : f.number.InRange
  kind : ∀ index, f.kind.messageIndex? = some index → index.toNat < count
  mapKey : ∀ key, f.mapKey = some key → key.isKey = true
  oneof : ∀ o, f.oneof = some o → o.toNat < t.oneofs.length ∧ f.cardinality ≠ .repeated
  default : f.DefaultSuits

structure NumberRange.WellFormed (r : NumberRange) : Prop where
  first : r.first.InRange
  last : r.last.InRange
  ordered : r.first ≤ r.last

structure MessageType.WellFormed (count : Nat) (t : MessageType) : Prop where
  fields : ∀ f ∈ t.fields, f.WellFormed count t
  distinct : (t.fields.map (·.number)).Nodup
  ranges : ∀ r ∈ t.extensionRanges, r.WellFormed

namespace Schema

/-- Types that may be declared together. -/
structure WellFormed (types : List MessageType) : Prop where
  distinct : (types.map (·.name)).Nodup
  each : ∀ t ∈ types, t.WellFormed types.length

/-! ## The checks in order -/

/-- One check of a declaration. -/
inductive Check where
  /-- The name of `t`, which comes after `earlier`. -/
  | name (earlier : List MessageType) (t : MessageType)
  /-- The number of a field, or one end of a range. -/
  | number (t : MessageType) (n : FieldNumber)
  | kind (t : MessageType) (f : Field)
  | mapKey (t : MessageType) (f : Field)
  | oneof (t : MessageType) (f : Field)
  | declaredDefault (t : MessageType) (f : Field)
  /-- The number of `f`, which comes after `earlier`. -/
  | distinct (t : MessageType) (earlier : List Field) (f : Field)
  | order (t : MessageType) (r : NumberRange)

/-- When a check fails in a schema of `count` types, and with which error. -/
inductive Check.Fails (count : Nat) : Check → Error → Prop where
  | name {earlier : List MessageType} {t u : MessageType} (before : u ∈ earlier)
      (same : u.name = t.name) : Fails count (.name earlier t) (.duplicateMessageName t.name)
  | number {t : MessageType} {n : FieldNumber} (outside : ¬n.InRange) :
      Fails count (.number t n) (.invalidFieldNumber t.name n)
  | kind {t : MessageType} {f : Field} {index : MessageIndex}
      (named : f.kind.messageIndex? = some index) (past : count ≤ index.toNat) :
      Fails count (.kind t f) (.messageIndexOutOfRange t.name f.name index count)
  | mapKey {t : MessageType} {f : Field} {key : Kind} (keyed : f.mapKey = some key)
      (unfit : key.isKey = false) :
      Fails count (.mapKey t f) (.invalidMapKeyKind t.name f.name key)
  | oneof {t : MessageType} {f : Field} {o : UInt32} (grouped : f.oneof = some o)
      (unfit : t.oneofs.length ≤ o.toNat ∨ f.cardinality = .repeated) :
      Fails count (.oneof t f) (.oneofIndexOutOfRange t.name f.name o)
  | composite {t : MessageType} {f : Field} (declared : f.declaredDefault ≠ .undeclared)
      (composite : f.cardinality = .repeated ∨ f.kind.messageIndex?.isSome) :
      Fails count (.declaredDefault t f) (.invalidDefault t.name f.name .notSingularScalar)
  | otherMember {t : MessageType} {f : Field} {k : ScalarKind}
      (declared : f.declaredDefault ≠ .undeclared) (single : f.cardinality ≠ .repeated)
      (kind : f.kind = .scalar k)
      (other : ∀ x, f.declaredDefault = .scalar x → x.member ≠ k.member) :
      Fails count (.declaredDefault t f) (.invalidDefault t.name f.name .otherMember)
  | distinct {t : MessageType} {earlier : List Field} {f g : Field} (before : g ∈ earlier)
      (same : g.number = f.number) :
      Fails count (.distinct t earlier f) (.duplicateFieldNumber t.name f.number)
  | order {t : MessageType} {r : NumberRange} (inverted : r.last < r.first) :
      Fails count (.order t r) (.invalidExtensionRange t.name r.first r.last)

def Check.Passes (count : Nat) (c : Check) : Prop := ∀ e, ¬c.Fails count e

/-- The error of the first check that fails. -/
inductive FirstFails (count : Nat) : List Check → Error → Prop where
  | here {c : Check} {cs : List Check} {e : Error} (fails : c.Fails count e) :
      FirstFails count (c :: cs) e
  | later {c : Check} {cs : List Check} {e : Error} (passes : c.Passes count)
      (rest : FirstFails count cs e) : FirstFails count (c :: cs) e

/-- The checks of the names of types that come after `earlier`. -/
def nameChecks (earlier : List MessageType) : List MessageType → List Check
  | [] => []
  | t :: types => .name earlier t :: nameChecks (t :: earlier) types

/-- The checks of one field, its number being seen before apart. -/
def shapeChecks (t : MessageType) (f : Field) : List Check :=
  [.number t f.number, .kind t f, .mapKey t f, .oneof t f, .declaredDefault t f]

/-- The checks of fields that come after `earlier`. -/
def fieldChecks (t : MessageType) (earlier : List Field) : List Field → List Check
  | [] => []
  | f :: fields => shapeChecks t f ++ .distinct t earlier f :: fieldChecks t (f :: earlier) fields

def rangeChecks (t : MessageType) (r : NumberRange) : List Check :=
  [.number t r.first, .number t r.last, .order t r]

def typeChecks (t : MessageType) : List Check :=
  fieldChecks t [] t.fields ++ t.extensionRanges.flatMap (rangeChecks t)

/-- All that is checked, in order. -/
def checks (types : List MessageType) : List Check :=
  nameChecks [] types ++ types.flatMap typeChecks

/-! ## What a scan finds -/

/-- A scan through checks finds the error of the first that fails, and nothing if all pass. -/
def Finds (count : Nat) (cs : List Check) : Option Error → Prop
  | none => ∀ c ∈ cs, c.Passes count
  | some e => FirstFails count cs e

theorem Check.Fails.unique {count : Nat} {c : Check} {e e' : Error} (fails : c.Fails count e)
    (fails' : c.Fails count e') : e = e' := by
  cases fails <;> cases fails'
  case kind.kind named _ _ named' _ => simp_all
  case mapKey.mapKey keyed _ _ keyed' _ => simp_all
  case oneof.oneof grouped _ _ grouped' _ => simp_all
  case composite.otherMember composite _ _ single kind _ =>
    simp [single, kind, Kind.messageIndex?] at composite
  case otherMember.composite single kind _ _ composite =>
    simp [single, kind, Kind.messageIndex?] at composite
  all_goals rfl

theorem FirstFails.unique {count : Nat} {cs : List Check} {e e' : Error}
    (first : FirstFails count cs e) (first' : FirstFails count cs e') : e = e' := by
  induction first with
  | here fails =>
    cases first' with
    | here fails' => exact fails.unique fails'
    | later passes => exact absurd fails (passes _)
  | later passes _ ih =>
    cases first' with
    | here fails' => exact absurd fails' (passes _)
    | later _ rest' => exact ih rest'

theorem FirstFails.exists_fails {count : Nat} {cs : List Check} {e : Error}
    (first : FirstFails count cs e) : ∃ c ∈ cs, c.Fails count e := by
  induction first with
  | here fails => exact ⟨_, List.mem_cons_self, fails⟩
  | later _ _ ih =>
    obtain ⟨c, listed, fails⟩ := ih
    exact ⟨c, List.mem_cons_of_mem _ listed, fails⟩

namespace Finds

variable {count : Nat} {c : Check} {cs cs' : List Check} {found found' : Option Error} {e : Error}

theorem nil : Finds count [] none := by simp [Finds]

theorem pass (passes : c.Passes count) : Finds count [c] none := by simpa [Finds] using passes

theorem fail (fails : c.Fails count e) : Finds count [c] (some e) := FirstFails.here fails

/-- A check that is a test. -/
theorem guard {p : Prop} [Decidable p] (passes : p → c.Passes count)
    (fails : ¬p → c.Fails count e) : Finds count [c] (if p then none else some e) := by
  split
  · rename_i holds
    exact pass (passes holds)
  · rename_i broken
    exact fail (fails broken)

theorem cons_pass (passes : c.Passes count) (rest : Finds count cs found) :
    Finds count (c :: cs) found := by
  cases found with
  | none => exact List.forall_mem_cons.2 ⟨passes, rest⟩
  | some e => exact FirstFails.later passes rest

/-- One scan after another. -/
theorem append (front : Finds count cs found) (back : Finds count cs' found') :
    Finds count (cs ++ cs') (found.or found') := by
  cases found with
  | none =>
    rw [Option.none_or]
    induction cs with
    | nil => exact back
    | cons c cs ih =>
      obtain ⟨passes, front⟩ := List.forall_mem_cons.1 front
      exact cons_pass passes (ih front)
  | some e =>
    rw [Option.some_or]
    induction front with
    | here fails => exact FirstFails.here fails
    | later passes _ ih => exact FirstFails.later passes ih

theorem flatMap {α : Type} {xs : List α} {scan : α → List Check} {find : α → Option Error}
    (each : ∀ x ∈ xs, Finds count (scan x) (find x)) :
    Finds count (xs.flatMap scan) (xs.findSome? find) := by
  induction xs with
  | nil => exact nil
  | cons x xs ih =>
    obtain ⟨first, rest⟩ := List.forall_mem_cons.1 each
    rw [List.flatMap_cons, List.findSome?_cons]
    have both := first.append (ih rest)
    cases found : find x with
    | none => simpa [found] using both
    | some e => simpa [found] using both

/-- A scan finds one thing. -/
theorem eq_some_iff (finds : Finds count cs found) : found = some e ↔ FirstFails count cs e := by
  cases found with
  | none =>
    simp only [reduceCtorEq, false_iff]
    intro first
    obtain ⟨c, listed, fails⟩ := first.exists_fails
    exact finds c listed e fails
  | some e' =>
    rw [Option.some.injEq]
    refine ⟨?_, fun first => FirstFails.unique finds first⟩
    rintro rfl
    exact finds

theorem eq_none_iff (finds : Finds count cs found) :
    found = none ↔ ∀ c ∈ cs, c.Passes count := by
  cases found with
  | none => simpa [Finds] using finds
  | some e =>
    simp only [reduceCtorEq, false_iff]
    intro passes
    obtain ⟨c, listed, fails⟩ := FirstFails.exists_fails finds
    exact passes c listed e fails

end Finds

/-! ## When a check passes -/

section Passes

variable {count : Nat} {t : MessageType} {f : Field}

theorem passes_number_iff {n : FieldNumber} : (Check.number t n).Passes count ↔ n.InRange := by
  refine ⟨fun passes => ?_, ?_⟩
  · by_contra outside
    exact passes _ (.number outside)
  · intro inside e fails
    cases fails with
    | number outside => exact outside inside

theorem passes_kind_iff : (Check.kind t f).Passes count ↔
    ∀ index, f.kind.messageIndex? = some index → index.toNat < count := by
  refine ⟨fun passes index named => ?_, ?_⟩
  · by_contra past
    exact passes _ (.kind named (Nat.le_of_not_lt past))
  · intro below e fails
    cases fails with
    | kind named past => exact absurd (below _ named) (Nat.not_lt_of_le past)

theorem passes_mapKey_iff : (Check.mapKey t f).Passes count ↔
    ∀ key, f.mapKey = some key → key.isKey = true := by
  refine ⟨fun passes key keyed => ?_, ?_⟩
  · by_contra unfit
    exact passes _ (.mapKey keyed (Bool.eq_false_iff.2 unfit))
  · intro fit e fails
    cases fails with
    | mapKey keyed unfit => simp [fit _ keyed] at unfit

theorem passes_oneof_iff : (Check.oneof t f).Passes count ↔
    ∀ o, f.oneof = some o → o.toNat < t.oneofs.length ∧ f.cardinality ≠ .repeated := by
  refine ⟨fun passes o grouped => ?_, ?_⟩
  · by_contra unfit
    refine passes _ (.oneof grouped ?_)
    by_cases past : t.oneofs.length ≤ o.toNat
    · exact .inl past
    · exact .inr (by_contra fun single => unfit ⟨Nat.lt_of_not_le past, single⟩)
  · intro fit e fails
    cases fails with
    | oneof grouped unfit =>
      rcases unfit with past | repeated
      · exact absurd (fit _ grouped).1 (Nat.not_lt_of_le past)
      · exact (fit _ grouped).2 repeated

theorem passes_distinct_iff {earlier : List Field} : (Check.distinct t earlier f).Passes count ↔
    ∀ g ∈ earlier, g.number ≠ f.number := by
  refine ⟨fun passes g before same => passes _ (.distinct before same), fun fresh e fails => ?_⟩
  cases fails with
  | distinct before same => exact fresh _ before same

theorem passes_name_iff {earlier : List MessageType} : (Check.name earlier t).Passes count ↔
    ∀ u ∈ earlier, u.name ≠ t.name := by
  refine ⟨fun passes u before same => passes _ (.name before same), fun fresh e fails => ?_⟩
  cases fails with
  | name before same => exact fresh _ before same

theorem passes_order_iff {r : NumberRange} : (Check.order t r).Passes count ↔ r.first ≤ r.last := by
  refine ⟨fun passes => ?_, ?_⟩
  · by_contra inverted
    exact passes _ (.order (UInt32.not_le.1 inverted))
  · intro ordered e fails
    cases fails with
    | order inverted => exact absurd ordered (UInt32.not_le.2 inverted)

theorem passes_declaredDefault_iff :
    (Check.declaredDefault t f).Passes count ↔ f.DefaultSuits := by
  constructor
  · intro passes
    by_cases undeclared : f.declaredDefault = .undeclared
    · exact .undeclared undeclared
    have single : f.cardinality ≠ .repeated := fun repeated =>
      passes _ (.composite undeclared (.inl repeated))
    have unnamed : f.kind.messageIndex? = none := Option.not_isSome_iff_eq_none.1 fun named =>
      passes _ (.composite undeclared (.inr named))
    obtain ⟨k, kind⟩ := f.kind.messageIndex?_eq_none_iff.1 unnamed
    by_contra unfit
    refine passes _ (.otherMember undeclared single kind fun x declared same => unfit ?_)
    exact .scalar single kind declared same
  · intro suits e fails
    cases suits with
    | undeclared none =>
      cases fails with
      | composite declared => exact declared none
      | otherMember declared => exact declared none
    | scalar single kind declared same =>
      cases fails with
      | composite _ composite => simp [single, kind, Kind.messageIndex?] at composite
      | otherMember _ _ kind' other =>
        rw [kind, Kind.scalar.injEq] at kind'
        exact other _ declared (kind' ▸ same)

end Passes

/-! ## The scan of the declarations -/

section Scan

variable {count : Nat} {t : MessageType} {f : Field}

theorem finds_number (t : MessageType) (n : FieldNumber) :
    Finds count [.number t n] (numberFault? t.name n) :=
  .guard passes_number_iff.2 .number

theorem finds_kind : Finds count [.kind t f] (kindFault? count t f) := by
  unfold kindFault?
  cases named : f.kind.messageIndex? with
  | none => exact .pass (passes_kind_iff.2 (by simp [named]))
  | some index =>
    refine .guard (fun below => passes_kind_iff.2 ?_)
      (fun past => .kind named (Nat.le_of_not_lt past))
    simpa [named] using below

theorem finds_mapKey : Finds count [.mapKey t f] (mapKeyFault? t f) := by
  unfold mapKeyFault?
  cases keyed : f.mapKey with
  | none => exact .pass (passes_mapKey_iff.2 (by simp [keyed]))
  | some key =>
    refine .guard (fun fit => passes_mapKey_iff.2 ?_)
      (fun unfit => .mapKey keyed (Bool.eq_false_iff.2 unfit))
    simpa [keyed] using fit

theorem finds_oneof : Finds count [.oneof t f] (oneofFault? t f) := by
  unfold oneofFault?
  cases grouped : f.oneof with
  | none => exact .pass (passes_oneof_iff.2 (by simp [grouped]))
  | some o =>
    refine .guard (fun fit => passes_oneof_iff.2 ?_) (fun unfit => .oneof grouped ?_)
    · simpa [grouped] using fit
    · rwa [Decidable.not_and_iff_not_or_not, Nat.not_lt, not_not] at unfit

theorem finds_declaredDefault : Finds count [.declaredDefault t f] (defaultFault? t f) := by
  by_cases undeclared : f.declaredDefault = .undeclared
  · rw [defaultFault?, undeclared]
    exact .pass (passes_declaredDefault_iff.2 (.undeclared undeclared))
  by_cases composite : f.cardinality = .repeated ∨ f.kind.messageIndex?.isSome
  · have fault : defaultFault? t f = some (.invalidDefault t.name f.name .notSingularScalar) := by
      cases default : f.declaredDefault <;> simp_all [defaultFault?]
    exact fault ▸ .fail (.composite undeclared composite)
  obtain ⟨single, unnamed⟩ := not_or.1 composite
  obtain ⟨k, kind⟩ :=
    f.kind.messageIndex?_eq_none_iff.1 (Option.not_isSome_iff_eq_none.1 unnamed)
  have other (unscalar : ∀ x, f.declaredDefault ≠ .scalar x) :
      Finds count [.declaredDefault t f] (some (.invalidDefault t.name f.name .otherMember)) :=
    .fail (.otherMember undeclared single kind fun x declared => absurd declared (unscalar x))
  cases default : f.declaredDefault with
  | undeclared => exact absurd default undeclared
  | null => simpa [defaultFault?, default, composite] using other (by simp [default])
  | composite => simpa [defaultFault?, default, composite] using other (by simp [default])
  | scalar x =>
    have fault : defaultFault? t f =
        if k.member = x.member then none
        else some (.invalidDefault t.name f.name .otherMember) := by
      simp [defaultFault?, default, single, kind, Kind.messageIndex?, Kind.accepts]
    rw [fault]
    refine .guard (fun same => ?_) (fun differ => ?_)
    · exact passes_declaredDefault_iff.2 (.scalar single kind default same.symm)
    · refine .otherMember undeclared single kind fun y default' => ?_
      rw [default, Default.scalar.injEq] at default'
      exact default' ▸ Ne.symm differ

theorem finds_shape : Finds count (shapeChecks t f) (fieldFault? count t f) :=
  (finds_number t f.number).append <| finds_kind.append <| finds_mapKey.append <|
    finds_oneof.append finds_declaredDefault

theorem finds_range (t : MessageType) (r : NumberRange) :
    Finds count (rangeChecks t r) (rangeFault? t r) :=
  (finds_number t r.first).append <| (finds_number t r.last).append <|
    .guard passes_order_iff.2 fun inverted => .order (UInt32.not_le.1 inverted)

/-- The error of a result. -/
def fault? {α : Type} : Except Error α → Option Error
  | .ok _ => none
  | .error e => some e

/-- The keys of a table are those of the elements `earlier`. -/
def Lists {α β κ : Type} [DecidableEq κ] (key : β → κ) (earlier : List β) (table : Table κ α) :
    Prop :=
  ∀ k, table.contains k = true ↔ ∃ y ∈ earlier, key y = k

theorem Lists.insert {α β κ : Type} [DecidableEq κ] [Ord κ] [Std.LawfulEqOrd κ] {key : β → κ}
    {earlier : List β} {table : Table κ α} (lists : Lists key earlier table) (x : β) (v : α) :
    Lists key (x :: earlier) (table.insert (key x) v) := by
  intro k
  have before := lists k
  rw [Table.contains] at before
  rw [Table.contains, Table.find?_insert]
  by_cases same : k = key x
  · simp [same]
  · simp [same, Ne.symm same, before]

/-- A key is looked up to see whether it was there before. -/
theorem Finds.unseen {α β κ : Type} [DecidableEq κ] {key : β → κ} {earlier : List β}
    {table : Table κ α} {c : Check} {e : Error} (lists : Lists key earlier table) (x : β)
    (passes : (∀ y ∈ earlier, key y ≠ key x) → c.Passes count)
    (fails : ∀ y ∈ earlier, key y = key x → c.Fails count e) :
    Finds count [c] (if table.contains (key x) = false then none else some e) := by
  refine .guard (fun fresh => passes fun y before same => ?_) (fun again => ?_)
  · simp [(lists (key x)).2 ⟨y, before, same⟩] at fresh
  · obtain ⟨y, before, same⟩ := (lists (key x)).1 (by simpa using again)
    exact fails y before same

/-- The loop over the fields finds what its checks say, when its table lists the fields before. -/
theorem finds_fields {fields earlier : List Field} {position : Nat}
    {positions : Table FieldNumber Nat} (lists : Lists (·.number) earlier positions) :
    Finds count (fieldChecks t earlier fields)
      (fault? (indexFields count t position positions fields)) := by
  induction fields generalizing earlier position positions with
  | nil => exact .nil
  | cons f fields ih =>
    have step : fault? (indexFields count t position positions (f :: fields)) =
        (fieldFault? count t f).or
          ((if positions.contains f.number = false then none
            else some (.duplicateFieldNumber t.name f.number)).or
              (fault? (indexFields count t (position + 1)
                (positions.insert f.number position) fields))) := by
      simp only [indexFields]
      cases fieldFault? count t f with
      | some e => rfl
      | none => cases positions.contains f.number <;> rfl
    rw [step]
    have unseen : Finds count [.distinct t earlier f]
        (if positions.contains f.number = false then none
          else some (.duplicateFieldNumber t.name f.number)) :=
      .unseen lists f passes_distinct_iff.2 fun _ => .distinct
    exact finds_shape.append (unseen.append (ih (lists.insert f position)))

/-- The loop over the names finds what its checks say, when its table lists the types before. -/
theorem finds_names {types earlier : List MessageType} {index : Nat}
    {indexes : Table String MessageIndex} (lists : Lists (·.name) earlier indexes) :
    Finds count (nameChecks earlier types) (fault? (indexNames index indexes types)) := by
  induction types generalizing earlier index indexes with
  | nil => exact .nil
  | cons t types ih =>
    have step : fault? (indexNames index indexes (t :: types)) =
        (if indexes.contains t.name = false then none
          else some (.duplicateMessageName t.name)).or
            (fault? (indexNames (index + 1) (indexes.insert t.name (UInt32.ofNat index))
              types)) := by
      simp only [indexNames]
      cases indexes.contains t.name <;> rfl
    rw [step, nameChecks, ← List.singleton_append]
    have unseen : Finds count [.name earlier t]
        (if indexes.contains t.name = false then none
          else some (.duplicateMessageName t.name)) :=
      .unseen lists t passes_name_iff.2 fun _ => .name
    exact unseen.append (ih (lists.insert t (UInt32.ofNat index)))

theorem finds_type (count : Nat) (t : MessageType) :
    Finds count (typeChecks t) (fault? (indexType count t)) := by
  have step : fault? (indexType count t) =
      (fault? (indexFields count t 0 ∅ t.fields)).or
        (t.extensionRanges.findSome? (rangeFault? t)) := by
    simp only [indexType]
    cases indexFields count t 0 ∅ t.fields with
    | error e => rfl
    | ok positions => cases t.extensionRanges.findSome? (rangeFault? t) <;> rfl
  rw [step]
  exact (finds_fields (by simp [Lists, Table.contains])).append
    (.flatMap fun r _ => finds_range t r)

theorem fault?_indexTypes (count : Nat) (types : List MessageType) :
    fault? (indexTypes count types) = types.findSome? fun t => fault? (indexType count t) := by
  induction types with
  | nil => rfl
  | cons t types ih =>
    rw [List.findSome?_cons, ← ih]
    simp only [indexTypes]
    cases indexType count t with
    | error e => rfl
    | ok t => cases indexTypes count types <;> rfl

theorem finds_declare (id : Nat) (types : List MessageType) :
    Finds types.length (checks types) (fault? (declare id types)) := by
  have step : fault? (declare id types) =
      (fault? (indexNames 0 ∅ types)).or (fault? (indexTypes types.length types)) := by
    simp only [declare]
    cases indexNames 0 ∅ types with
    | error e => rfl
    | ok indexes => cases indexTypes types.length types <;> rfl
  rw [step, fault?_indexTypes]
  exact (finds_names (by simp [Lists, Table.contains])).append
    (.flatMap fun t _ => finds_type types.length t)

/-! ## Passing all checks -/

theorem passes_shape_iff :
    (∀ c ∈ shapeChecks t f, c.Passes count) ↔ f.WellFormed count t := by
  simp only [shapeChecks, List.forall_mem_cons, List.not_mem_nil, false_implies, implies_true,
    and_true, passes_number_iff, passes_kind_iff, passes_mapKey_iff, passes_oneof_iff,
    passes_declaredDefault_iff]
  constructor
  · rintro ⟨number, kind, mapKey, oneof, default⟩
    exact { number, kind, mapKey, oneof, default }
  · intro formed
    exact ⟨formed.number, formed.kind, formed.mapKey, formed.oneof, formed.default⟩

theorem fieldFault?_eq_none_iff_wellFormed :
    fieldFault? count t f = none ↔ f.WellFormed count t :=
  finds_shape.eq_none_iff.trans passes_shape_iff

theorem passes_range_iff {r : NumberRange} :
    (∀ c ∈ rangeChecks t r, c.Passes count) ↔ r.WellFormed := by
  simp only [rangeChecks, List.forall_mem_cons, List.not_mem_nil, false_implies, implies_true,
    and_true, passes_number_iff, passes_order_iff]
  constructor
  · rintro ⟨first, last, ordered⟩
    exact { first, last, ordered }
  · intro formed
    exact ⟨formed.first, formed.last, formed.ordered⟩

/-- No two of the keys of `xs` are equal, and none is that of an element `earlier`. -/
def Distinct {β κ : Type} (key : β → κ) (earlier xs : List β) : Prop :=
  (xs.map key).Nodup ∧ ∀ x ∈ xs, ∀ y ∈ earlier, key y ≠ key x

theorem distinct_cons_iff {β κ : Type} {key : β → κ} {earlier xs : List β} {x : β} :
    Distinct key earlier (x :: xs) ↔
      (∀ y ∈ earlier, key y ≠ key x) ∧ Distinct key (x :: earlier) xs := by
  simp only [Distinct, List.map_cons, List.nodup_cons, List.mem_map, not_exists, not_and,
    List.forall_mem_cons]
  constructor
  · rintro ⟨⟨fresh, distinct⟩, first, rest⟩
    exact ⟨first, distinct, fun y later => ⟨Ne.symm (fresh y later), rest y later⟩⟩
  · rintro ⟨first, distinct, rest⟩
    exact ⟨⟨fun y later => Ne.symm (rest y later).1, distinct⟩, first,
      fun y later => (rest y later).2⟩

theorem passes_fields_iff {fields earlier : List Field} :
    (∀ c ∈ fieldChecks t earlier fields, c.Passes count) ↔
      (∀ f ∈ fields, f.WellFormed count t) ∧ Distinct (·.number) earlier fields := by
  induction fields generalizing earlier with
  | nil => simp [fieldChecks, Distinct]
  | cons f fields ih =>
    rw [fieldChecks, List.forall_mem_append, List.forall_mem_cons, ih, passes_shape_iff,
      passes_distinct_iff, distinct_cons_iff, List.forall_mem_cons]
    tauto

theorem passes_names_iff {types earlier : List MessageType} :
    (∀ c ∈ nameChecks earlier types, c.Passes count) ↔ Distinct (·.name) earlier types := by
  induction types generalizing earlier with
  | nil => simp [nameChecks, Distinct]
  | cons t types ih =>
    rw [nameChecks, List.forall_mem_cons, ih, passes_name_iff, distinct_cons_iff]

theorem passes_type_iff :
    (∀ c ∈ typeChecks t, c.Passes count) ↔ t.WellFormed count := by
  have ranges : (∀ c ∈ t.extensionRanges.flatMap (rangeChecks t), c.Passes count) ↔
      ∀ r ∈ t.extensionRanges, r.WellFormed := by
    rw [List.forall_mem_flatMap]
    exact forall₂_congr fun r _ => passes_range_iff
  rw [typeChecks, List.forall_mem_append, passes_fields_iff, ranges]
  simp only [Distinct, List.not_mem_nil, false_implies, implies_true, and_true]
  constructor
  · rintro ⟨⟨fields, distinct⟩, ranges⟩
    exact { fields, distinct, ranges }
  · intro formed
    exact ⟨⟨formed.fields, formed.distinct⟩, formed.ranges⟩

theorem passes_checks_iff (types : List MessageType) :
    (∀ c ∈ checks types, c.Passes types.length) ↔ WellFormed types := by
  have each : (∀ c ∈ types.flatMap typeChecks, c.Passes types.length) ↔
      ∀ t ∈ types, t.WellFormed types.length := by
    rw [List.forall_mem_flatMap]
    exact forall₂_congr fun t _ => passes_type_iff
  rw [checks, List.forall_mem_append, passes_names_iff, each]
  simp only [Distinct, List.not_mem_nil, false_implies, implies_true, and_true]
  exact ⟨fun ⟨distinct, each⟩ => { distinct, each }, fun formed => ⟨formed.distinct, formed.each⟩⟩

end Scan

/-- Declarations make a schema exactly if they are well-formed, and otherwise the error is that of
the first check that fails. -/
theorem declare_decided (id : Nat) (types : List MessageType) :
    ((∃ s, declare id types = .ok s) ↔ WellFormed types) ∧
      ∀ e, declare id types = .error e ↔ FirstFails types.length (checks types) e := by
  have finds := finds_declare id types
  rw [← passes_checks_iff, ← finds.eq_none_iff]
  refine ⟨?_, fun e => ?_⟩
  · cases declare id types <;> simp [fault?]
  · rw [← finds.eq_some_iff]
    cases declare id types <;> simp [fault?]

/-- A name that two types share is found before a number of the first that is out of range. -/
example :
    declare 0
      [{ name := "A", fields := [{ number := 0, name := "a", kind := .scalar .bool }] },
       { name := "A", fields := [] }] = .error (.duplicateMessageName "A") := by
  decide +kernel

end Schema

end DynamicMessage
