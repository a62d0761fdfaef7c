/-
# Proofs.Unknown.Acceptance -- which bytes a store takes

A store that keeps records reads the items of a scan in order and stops at the first one that is no
record of the number the bytes are for.  A record of another number is refused as such, whatever
stands behind it; a break is refused where it is.  `FirstOffence` is that rule, one constructor an
item, and `Scan.fault?_eq_some_iff` says that the check follows it.

So a call is accepted exactly if its bytes are none or nothing but records of the number, and its
refusal names the first item that is not (`UnknownStore.takes_exactly`).  The bytes inside groups
are not asked for their numbers: a group is one item.
-/
import DynamicMessage.Proofs.Unknown.Calls
import DynamicMessage.Proofs.Wire.Cursor

namespace DynamicMessage

set_option autoImplicit false

open Wire

/-! ## Items of a scan -/

namespace Wire

/-- The item is a record of the number. -/
def Carries (n : FieldNumber) (item : Except Error Record) : Prop :=
  ∃ record, item = .ok record ∧ record.number = n

/-- Why items are not all records of a number: what the first one that is not says. -/
inductive FirstOffence (n : FieldNumber) : List (Except Error Record) → Error → Prop where
  /-- It is a record of another number. -/
  | otherNumber {record : Record} {later : List (Except Error Record)}
      (differs : record.number ≠ n) :
      FirstOffence n (.ok record :: later) (.wireFieldNumberMismatch n record.number)
  /-- It is where the bytes break. -/
  | broken {number : FieldNumber} {offset : Nat} {later : List (Except Error Record)} :
      FirstOffence n (.error (.malformedWire number offset) :: later) (.malformedWire n offset)
  /-- It comes behind a record of the number. -/
  | behind {record : Record} {later : List (Except Error Record)} {e : Error}
      (carries : record.number = n) (first : FirstOffence n later e) :
      FirstOffence n (.ok record :: later) e

namespace Scan

variable {n : FieldNumber} {record : Record}

@[simp] theorem items_cons (record : Record) (scan : Scan) :
    (scan.cons record).items = .ok record :: scan.items := rfl

theorem fault?_cons_of_eq (same : record.number = n) (scan : Scan) :
    (scan.cons record).fault? n = scan.fault? n := by
  simp [fault?, cons, same]

theorem fault?_cons_of_ne (differs : record.number ≠ n) (scan : Scan) :
    (scan.cons record).fault? n = some (.wireFieldNumberMismatch n record.number) := by
  simp [fault?, cons, differs]

/-- The check gives the first offence among the items.  By induction on the records, behind which
there is a break at most. -/
theorem fault?_eq_some_iff (scan : Scan) (n : FieldNumber) (e : Error) :
    scan.fault? n = some e ↔ FirstOffence n scan.items e := by
  obtain ⟨records, brokenAt⟩ := scan
  induction records with
  | nil =>
    cases brokenAt with
    | none =>
      constructor
      · intro fault
        simp [fault?] at fault
      · intro offence
        cases offence
    | some offset =>
      constructor
      · intro fault
        obtain rfl : Error.malformedWire n offset = e := by simpa [fault?] using fault
        exact .broken
      · intro offence
        cases offence with
        | broken => simp [fault?]
  | cons record records ih =>
    let rest : Scan := ⟨records, brokenAt⟩
    show (rest.cons record).fault? n = some e ↔ FirstOffence n (rest.cons record).items e
    rw [items_cons]
    by_cases same : record.number = n
    · rw [fault?_cons_of_eq same]
      constructor
      · intro fault
        exact .behind same (ih.1 fault)
      · intro offence
        cases offence with
        | otherNumber differs => exact absurd same differs
        | behind _ first => exact ih.2 first
    · rw [fault?_cons_of_ne same]
      constructor
      · intro fault
        rw [← Option.some.inj fault]
        exact .otherNumber same
      · intro offence
        cases offence with
        | otherNumber => rfl
        | behind carries => exact absurd carries same

/-- The check gives nothing when all items are records of the number. -/
theorem fault?_eq_none_iff_items (scan : Scan) (n : FieldNumber) :
    scan.fault? n = none ↔ ∀ item ∈ scan.items, Carries n item := by
  rw [fault?_eq_none_iff]
  obtain ⟨records, brokenAt⟩ := scan
  cases brokenAt with
  | none => simp [items, isComplete, Carries]
  | some offset => simp [items, isComplete, Carries]

end Scan

end Wire

/-! ## Calls -/

namespace UnknownStore

variable {u : UnknownStore}

/-- A call without bytes is accepted. -/
theorem Call.result_of_isEmpty (supported : u.isSupported = true) {call : Call}
    (none : call.given.isEmpty = true) : (call.apply u).result = .ok () := by
  cases call with
  | set n run =>
    have none : run.isEmpty = true := none
    rw [Call.apply, set_of_isEmpty supported n none]
    rfl
  | append n run =>
    have none : run.isEmpty = true := none
    rw [Call.apply, append_of_isEmpty u n none]
    rfl

/-- A call answers what there is against its bytes.  Against no bytes there is nothing. -/
theorem Call.result_apply (supported : u.isSupported = true) (call : Call) :
    (call.apply u).result =
      match call.given.scan.fault? call.number with
      | some fault => .error fault
      | none => .ok () := by
  by_cases nonempty : call.given.isEmpty = false
  · rw [call.apply_of_nonempty supported nonempty]
    cases call.given.scan.fault? call.number <;> rfl
  · have none : call.given.isEmpty = true := by simpa using nonempty
    rw [Call.result_of_isEmpty supported none, (Run.isEmpty_iff _).1 none, Run.scan, Run.empty,
      Scan.ofBytes]
    rfl

theorem Call.result_eq_error_iff (supported : u.isSupported = true) (call : Call) (e : Error) :
    (call.apply u).result = .error e ↔ call.given.scan.fault? call.number = some e := by
  rw [call.result_apply supported]
  cases call.given.scan.fault? call.number <;> simp

theorem Call.result_eq_ok_iff (supported : u.isSupported = true) (call : Call) :
    (call.apply u).result = .ok () ↔ call.given.scan.fault? call.number = none := by
  rw [call.result_apply supported]
  cases call.given.scan.fault? call.number <;> simp

/-- Calls about one number answer alike if their bytes are scanned alike. -/
theorem Call.result_eq_of_scan (call other : Call) (number : other.number = call.number)
    (scan : other.given.scan = call.given.scan) (u : UnknownStore) :
    (other.apply u).result = (call.apply u).result := by
  by_cases supported : u.isSupported = true
  · rw [other.result_apply supported, call.result_apply supported, number, scan]
  · have unsupported : u.isSupported = false := by simpa using supported
    rw [other.apply_of_unsupported unsupported, call.apply_of_unsupported unsupported]

/-- No call changes what is stored under another number. -/
theorem Call.find?_apply_of_ne (call : Call) (u : UnknownStore) {k : FieldNumber}
    (other : k ≠ call.number) : (call.apply u).state.runs.find? k = u.runs.find? k := by
  by_cases supported : u.isSupported = true
  · by_cases nonempty : call.given.isEmpty = false
    · rw [call.apply_of_nonempty supported nonempty]
      split
      · rfl
      · exact (Table.find?_insert _ _ _ _).trans (if_neg other)
    · have none : call.given.isEmpty = true := by simpa using nonempty
      cases call with
      | set n run =>
        have none : run.isEmpty = true := none
        rw [Call.apply, set_of_isEmpty supported n none]
        exact (Table.find?_erase _ _ _).trans (if_neg other)
      | append n run =>
        have none : run.isEmpty = true := none
        rw [Call.apply, append_of_isEmpty u n none]
        rfl
  · rw [call.apply_of_unsupported (by simpa using supported)]
    rfl

/-- A refused call leaves the store as it was, and an accepted one leaves `Call.result`. -/
theorem Call.state_apply (supported : u.isSupported = true) (call : Call) :
    (∀ e, (call.apply u).result = .error e → (call.apply u).state = u) ∧
      ((call.apply u).result = .ok () → (call.apply u).state.get call.number = call.result u) := by
  rcases call.apply_cases supported with ⟨fault, refused⟩ | ⟨left, accepted, -, stored⟩
  · rw [refused]
    exact ⟨fun _ _ => rfl, fun accepted => by cases accepted⟩
  · rw [accepted]
    exact ⟨fun _ refused => (by cases refused), fun _ => by simp [stored]⟩

/-- Dropping the entry of a number drops it from the list. -/
theorem list_erase (u : UnknownStore) (n : FieldNumber) :
    list { u with runs := u.runs.erase n } = u.list.filter (· ≠ n) := by
  simp only [list, Table.keys, Table.erase, List.filter_map]
  rfl

/-- A store that keeps records takes exactly the records of a number.  A call to replace or to add
bytes is accepted exactly if there are none or every item of their scan is a record of its number,
and it is refused for the first item that is not.  A refused call changes nothing, an accepted one
stores its bytes, and none touches another number.  No bytes in place of what is stored drop the
entry of the number and nothing else, and no bytes behind it change nothing. -/
theorem takes_exactly (supported : u.isSupported = true) :
    (∀ call : Call,
      ((call.apply u).result = .ok () ↔
        call.given.isEmpty = true ∨ ∀ item ∈ call.given.scan.items, Carries call.number item) ∧
      (∀ e, (call.apply u).result = .error e ↔
        FirstOffence call.number call.given.scan.items e) ∧
      (∀ e, (call.apply u).result = .error e → (call.apply u).state = u) ∧
      ((call.apply u).result = .ok () → (call.apply u).state.get call.number = call.result u) ∧
      ∀ k, k ≠ call.number → (call.apply u).state.runs.find? k = u.runs.find? k) ∧
    ∀ (n : FieldNumber) (run : Run), run.isEmpty = true →
      (u.set n run).state = { u with runs := u.runs.erase n } ∧
        (u.set n run).state.list = u.list.filter (· ≠ n) ∧ (u.append n run).state = u := by
  refine ⟨fun call => ?_, fun n run none => ?_⟩
  · obtain ⟨unchanged, stored⟩ := call.state_apply supported
    refine ⟨?_, fun e => ?_, unchanged, stored, fun k other => call.find?_apply_of_ne u other⟩
    · rw [← Scan.fault?_eq_none_iff_items, ← call.result_eq_ok_iff supported]
      constructor
      · exact .inr
      · rintro (none | accepted)
        · exact Call.result_of_isEmpty supported none
        · exact accepted
    · rw [call.result_eq_error_iff supported, Scan.fault?_eq_some_iff]
  · rw [set_of_isEmpty supported n none, append_of_isEmpty u n none]
    exact ⟨rfl, list_erase u n, rfl⟩

/-- A store with a run under 7 and one under 9. -/
def twoRuns : UnknownStore :=
  { isSupported := true, runs := ⟨[(7, Run.sample 7), (9, Run.sample 9)]⟩ }

/-- A group of the number 9 around a record of another number, a record of the number 7, and a byte
that starts no record. -/
def strayed : Run := ⟨[0x4B, 0x08, 0x01, 0x4C, 0x38, 0x01, 0x80]⟩

/-- The group on its own. -/
def grouped : Run := ⟨[0x4B, 0x08, 0x01, 0x4C]⟩

/-- The strayed bytes are refused under 9 for the record of 7 and not for the one inside the group,
and under 5 for the group, though they break later; the group is taken under 9, and none of it is
with a broken byte behind it.  No bytes in place of the run under 9 leave the other one. -/
theorem strayed_refused :
    twoRuns.isSupported = true ∧
      (twoRuns.append 9 strayed).result = .error (.wireFieldNumberMismatch 9 7) ∧
      (twoRuns.set 5 strayed).result = .error (.wireFieldNumberMismatch 5 9) ∧
      (twoRuns.append 9 (grouped.append [0x80])).result = .error (.malformedWire 9 4) ∧
      (twoRuns.append 9 grouped).result = .ok () ∧
      (twoRuns.set 9 .empty).state.list = [7] := by
  have supported : twoRuns.isSupported = true := rfl
  obtain ⟨each, dropped⟩ := takes_exactly supported
  have strayed_scan : strayed.scan = ⟨[⟨9, .startGroup, 0, 4⟩, ⟨7, .varint, 4, 2⟩], some 6⟩ := by
    decide +kernel
  have broken_scan : (grouped.append [0x80]).scan = ⟨[⟨9, .startGroup, 0, 4⟩], some 4⟩ := by
    decide +kernel
  have grouped_scan : grouped.scan = ⟨[⟨9, .startGroup, 0, 4⟩], none⟩ := by decide +kernel
  refine ⟨supported, ((each (.append 9 strayed)).2.1 _).2 ?_, ((each (.set 5 strayed)).2.1 _).2 ?_,
    ((each (.append 9 (grouped.append [0x80]))).2.1 _).2 ?_,
    (each (.append 9 grouped)).1.2 (.inr ?_), (dropped 9 .empty rfl).2.1⟩
  · show FirstOffence 9 strayed.scan.items _
    rw [strayed_scan]
    exact .behind rfl (.otherNumber (by decide))
  · show FirstOffence 5 strayed.scan.items _
    rw [strayed_scan]
    exact .otherNumber (by decide)
  · show FirstOffence 9 (grouped.append [0x80]).scan.items _
    rw [broken_scan]
    exact .behind rfl .broken
  · show ∀ item ∈ grouped.scan.items, Carries 9 item
    rw [grouped_scan]
    exact List.forall_mem_singleton.2 ⟨_, rfl, rfl⟩

end UnknownStore

end DynamicMessage
