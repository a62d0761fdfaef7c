/-
# Proofs.Unknown.Pieces -- unrecognised records do not depend on how they were cut

Bytes may reach a store in one call or in several.  Once the first piece is accepted, the rest is
answered as the whole would be: accepted with the same store, or refused for the same reason, which
names a place in the whole that lies behind the first piece (`UnknownStore.AnswersAs`).

So nothing is lost: after any run of calls the run of a number is put together of pieces, the bytes
of the last accepted replacement and of the additions accepted after it (`UnknownStore.pieces`), and
its records are the records of the pieces in that order.
-/
import DynamicMessage.Proofs.Unknown.Calls
import Mathlib.Data.List.Induction

namespace DynamicMessage

set_option autoImplicit false

open Wire

/-! ## Reasons further back -/

/-- The error of bytes that have `distance` more bytes in front. -/
def Error.later (distance : Nat) : Error → Error
  | .malformedWire n offset => .malformedWire n (offset + distance)
  | e => e

theorem Error.later_zero (e : Error) : e.later 0 = e := by
  cases e <;> rfl

namespace Wire.Scan

/-- The reason against records that start later is the same, further back. -/
theorem fault?_later (distance : Nat) (scan : Scan) (n : FieldNumber) :
    (scan.later distance).fault? n = (scan.fault? n).map (·.later distance) := by
  have search : (scan.later distance).records.find? (·.number ≠ n) =
      (scan.records.find? (·.number ≠ n)).map (·.later distance) := by
    simp only [later, List.find?_map]
    rfl
  unfold fault?
  rw [search]
  cases scan.records.find? (·.number ≠ n) with
  | none => simp [later, Function.comp_def, Error.later]
  | some record => rfl

/-- Where there is no reason against the first records, the reason is one against the second. -/
theorem fault?_followedBy {first : Scan} {n : FieldNumber} (free : first.fault? n = none)
    (second : Scan) : (first.followedBy second).fault? n = second.fault? n := by
  have numbered := ((fault?_eq_none_iff first n).1 free).2
  have none : first.records.find? (·.number ≠ n) = none := by
    simpa using numbered
  unfold fault?
  simp only [followedBy, List.find?_append, none, Option.none_or]

end Wire.Scan

/-- The reason against bytes behind a run of the number is the reason against them alone, further
back. -/
theorem Wire.Run.fault?_append {run : Run} {n : FieldNumber} (free : run.scan.fault? n = none)
    (more : Run) :
    (run.append more.bytes).scan.fault? n = (more.scan.fault? n).map (·.later run.length) := by
  have valid : run.isValid = true := ((Scan.fault?_eq_none_iff _ n).1 free).1
  rw [Run.scan_append valid, Scan.fault?_followedBy free, Scan.fault?_later]

/-! ## One call in two pieces -/

namespace UnknownStore

/-- The second piece of some bytes, `distance` bytes into the whole, is answered as the whole is: it
is accepted when the whole is and leaves the same store, and it is refused for the reason of the
whole, seen from where the piece starts. -/
structure AnswersAs (distance : Nat) (piece whole : Outcome UnknownStore Unit) : Prop where
  accepted : piece.result = .ok () ↔ whole.result = .ok ()
  store : piece.result = .ok () → piece.state = whole.state
  refused : ∀ e, piece.result = .error e → whole.result = .error (e.later distance)
  malformed : ∀ n offset, whole.result = .error (.malformedWire n offset) →
    distance ≤ offset ∧ piece.result = .error (.malformedWire n (offset - distance))

namespace AnswersAs

variable {distance : Nat}

theorem of_done {piece whole : Outcome UnknownStore Unit} {u : UnknownStore}
    (first : piece = .done () u) (second : whole = .done () u) :
    AnswersAs distance piece whole := by
  subst first second
  exact ⟨Iff.rfl, fun _ => rfl, fun e refused => by simp at refused,
    fun n offset refused => by simp at refused⟩

theorem of_fail (e : Error) (u u' : UnknownStore) :
    AnswersAs distance (.fail e u) (.fail (e.later distance) u') where
  accepted := by simp
  store accepted := by simp at accepted
  refused other same := by
    simp only [Outcome.result_fail, Except.error.injEq] at same
    rw [← same]
    rfl
  malformed n offset same := by
    simp only [Outcome.result_fail, Except.error.injEq] at same
    cases e <;> simp only [Error.later, reduceCtorEq] at same
    case malformedWire n' offset' =>
      simp only [Error.malformedWire.injEq] at same
      obtain ⟨rfl, rfl⟩ := same
      simp

/-- With nothing in front the piece is the whole. -/
theorem refl (o : Outcome UnknownStore Unit) : AnswersAs 0 o o where
  accepted := Iff.rfl
  store _ := rfl
  refused e same := by rw [e.later_zero, same]
  malformed n offset same := ⟨Nat.zero_le offset, same⟩

end AnswersAs

namespace Call

/-- The call with more bytes at its end. -/
def extend (more : Run) : Call → Call
  | .set n run => .set n (run.append more.bytes)
  | .append n run => .append n (run.append more.bytes)

@[simp] theorem number_extend (more : Run) (call : Call) :
    (call.extend more).number = call.number := by
  cases call <;> rfl

@[simp] theorem given_extend (more : Run) (call : Call) :
    (call.extend more).given = call.given.append more.bytes := by
  cases call <;> rfl

/-- What the longer call leaves is what the call leaves, with the bytes at its end. -/
theorem result_extend (more : Run) (call : Call) (u : UnknownStore) :
    (call.extend more).result u = (call.result u).append more.bytes := by
  cases call with
  | set n run => rfl
  | append n run => simp [extend, result, Run.append]

theorem extend_of_isEmpty {more : Run} (none : more.isEmpty = true) (call : Call) :
    call.extend more = call := by
  cases call <;> simp [extend, Run.append_of_isEmpty none]

/-- An accepted call with bytes stores what it leaves, and there is no reason against its bytes. -/
theorem apply_of_accepted {u : UnknownStore} (supported : u.isSupported = true) {call : Call}
    (nonempty : call.given.isEmpty = false) (accepted : (call.apply u).result = .ok ()) :
    call.given.scan.fault? call.number = none ∧
      call.apply u = .done () { u with runs := u.runs.insert call.number (call.result u) } := by
  rw [call.apply_of_nonempty supported nonempty] at accepted ⊢
  split at accepted
  · simp at accepted
  · rename_i free
    exact ⟨free, rfl⟩

/-- After an accepted call with bytes, more bytes for its number are answered as the longer call
would have been. -/
theorem answersAs {u : UnknownStore} (call : Call) (nonempty : call.given.isEmpty = false)
    (accepted : (call.apply u).result = .ok ()) (more : Run) :
    AnswersAs call.given.length ((call.apply u).state.append call.number more)
      ((call.extend more).apply u) := by
  by_cases supported : u.isSupported = true
  · by_cases rest : more.isEmpty = false
    · obtain ⟨free, stored⟩ := apply_of_accepted supported nonempty accepted
      rw [stored]
      -- The second piece is an addition to the store that the first one left.
      let left : UnknownStore := { u with runs := u.runs.insert call.number (call.result u) }
      have kept : left.isSupported = true := supported
      have piece := append_of_nonempty kept call.number rest
      have longer : (call.extend more).given.isEmpty = false := by
        rw [given_extend]
        exact Run.isEmpty_append nonempty more.bytes
      have whole := (call.extend more).apply_of_nonempty supported longer
      have reason := Run.fault?_append free more
      rw [given_extend, number_extend, result_extend, reason] at whole
      show AnswersAs _ (left.append call.number more) _
      rw [piece, whole]
      cases more.scan.fault? call.number with
      | some e => exact .of_fail e _ _
      | none =>
        refine .of_done rfl ?_
        have seen : left.get call.number = call.result u := by
          simp [left, get, Table.find?_insert]
        simp only [Option.map_none, seen, left, Table.insert_insert]
    · have none : more.isEmpty = true := by simpa using rest
      obtain ⟨_, stored⟩ := apply_of_accepted supported nonempty accepted
      rw [stored, append_of_isEmpty _ _ none, extend_of_isEmpty none]
      exact .of_done rfl stored
  · have unsupported : u.isSupported = false := by simpa using supported
    rw [apply_of_unsupported unsupported, apply_of_unsupported unsupported]
    exact .of_done ((Call.append call.number more).apply_of_unsupported unsupported) rfl

end Call

/-! ## The pieces of a run -/

/-- The bytes that a call puts in place of what was stored. -/
def Call.replacement? : Call → Option Run
  | .set _ run => some run
  | .append _ _ => none

/-- Whether a call leaves what was stored in front. -/
def Call.isAddition : Call → Bool
  | .set _ _ => false
  | .append _ _ => true

/-- The bytes of the last replacement, if there is one, and of the additions after it. -/
def pieces (calls : List Call) : List Run :=
  (calls.reverse.findSome? Call.replacement?).toList ++
    (calls.reverse.takeWhile Call.isAddition).reverse.map Call.given

/-- The calls of a run that are about a number and were accepted, in order. -/
def Replay.accepted (left : Replay) (n : FieldNumber) : List Call :=
  (left.entries.filter fun entry => entry.1.number = n && entry.2.isOk).map (·.1)

theorem pieces_set (calls : List Call) (n : FieldNumber) (run : Run) :
    pieces (calls ++ [.set n run]) = [run] := by
  simp [pieces, List.findSome?_cons, Call.replacement?, Call.isAddition]

theorem pieces_append (calls : List Call) (n : FieldNumber) (run : Run) :
    pieces (calls ++ [.append n run]) = pieces calls ++ [run] := by
  simp [pieces, List.findSome?_cons, List.takeWhile_cons, Call.replacement?, Call.isAddition,
    Call.given]

theorem mem_given_of_mem_pieces {calls : List Call} {run : Run} (member : run ∈ pieces calls) :
    ∃ call ∈ calls, call.given = run := by
  induction calls using List.reverseRecOn with
  | nil => simp [pieces] at member
  | append_singleton calls call ih =>
    cases call with
    | set n other =>
      rw [pieces_set, List.mem_singleton] at member
      exact ⟨.set n other, by simp, member.symm⟩
    | append n other =>
      rw [pieces_append, List.mem_append, List.mem_singleton] at member
      rcases member with earlier | rfl
      · obtain ⟨call, stored, same⟩ := ih earlier
        exact ⟨call, by simp [stored], same⟩
      · exact ⟨.append n run, by simp, rfl⟩

end UnknownStore

/-! ## Putting pieces together -/

namespace Wire.Run

/-- Runs put together. -/
def concat (runs : List Run) : Run := ⟨runs.flatMap (·.bytes)⟩

/-- The records of runs, each found where it stands when the runs are put together from `offset`
on. -/
def recordsFrom : Nat → List Run → List Record
  | _, [] => []
  | offset, run :: runs =>
    run.scan.records.map (·.later offset) ++ recordsFrom (offset + run.length) runs

theorem concat_append_singleton (runs : List Run) (run : Run) :
    concat (runs ++ [run]) = (concat runs).append run.bytes := by
  simp [concat, append]

/-- Valid runs put together are scanned one after another. -/
theorem scan_concat {runs : List Run} (valid : ∀ run ∈ runs, run.isValid = true) :
    (concat runs).scan = ⟨recordsFrom 0 runs, none⟩ := by
  suffices from_offset : ∀ offset, Scan.ofBytes offset (runs.flatMap (·.bytes)) =
      ⟨recordsFrom offset runs, none⟩ from from_offset 0
  induction runs with
  | nil =>
    intro offset
    simp [Scan.ofBytes, recordsFrom]
  | cons run runs ih =>
    intro offset
    have first : Scan.ofBytes offset run.bytes = run.scan.later offset := by
      have moved := Scan.ofBytes_later 0 offset run.bytes
      rwa [Nat.zero_add] at moved
    have complete : (Scan.ofBytes offset run.bytes).isComplete = true := by
      rw [first, Scan.isComplete_later]
      exact valid run (by simp)
    have later := ih (fun other member => valid other (by simp [member]))
      (offset + run.bytes.length)
    rw [List.flatMap_cons, Scan.ofBytes_append complete, later, first]
    rfl

end Wire.Run

/-! ## What is stored is what was accepted -/

namespace UnknownStore

/-- An accepted call was given a valid run, or no bytes. -/
theorem Call.isValid_of_accepted {u : UnknownStore} (supported : u.isSupported = true) {call : Call}
    (accepted : (call.apply u).result = .ok ()) : call.given.isValid = true := by
  by_cases nonempty : call.given.isEmpty = false
  · have free := (apply_of_accepted supported nonempty accepted).1
    exact ((Scan.fault?_eq_none_iff _ _).1 free).1
  · have none : call.given = Run.empty := (Run.isEmpty_iff _).1 (by simpa using nonempty)
    rw [none]
    simp [Run.empty, Run.isValid, Run.scan, Scan.ofBytes, Scan.isComplete]

theorem isValid_of_mem_accepted {u : UnknownStore} (supported : u.isSupported = true)
    {calls : List Call} {n : FieldNumber} {call : Call}
    (member : call ∈ (u.replay calls).accepted n) : call.given.isValid = true := by
  obtain ⟨entry, kept, rfl⟩ := List.mem_map.1 member
  obtain ⟨stored, about⟩ := List.mem_filter.1 kept
  have ok : entry.2.isOk = true := by
    simp only [Bool.and_eq_true] at about
    exact about.2
  clear kept about member
  induction calls generalizing u with
  | nil => simp [replay] at stored
  | cons first calls ih =>
    rcases List.mem_cons.1 stored with rfl | later
    · cases answered : (first.apply u).result with
      | error e => simp [answered] at ok
      | ok a => exact Call.isValid_of_accepted supported answered
    · exact ih ((first.isSupported_apply u).trans supported) later

/-- The run of a number is put together of the pieces of its accepted calls.  By induction on the
calls from the end: a refused call changes nothing, and an accepted one is a new last piece or the
only piece. -/
theorem get_replay {u : UnknownStore} (supported : u.isSupported = true) (none : u.runs = ∅)
    (calls : List Call) (n : FieldNumber) :
    (u.replay calls).store.get n = Run.concat (pieces ((u.replay calls).accepted n)) := by
  induction calls using List.reverseRecOn with
  | nil =>
    simp only [replay, get, none, Table.find?_empty]
    rfl
  | append_singleton calls call ih =>
    have kept : (u.replay calls).store.isSupported = true :=
      (isSupported_replay u calls).trans supported
    rw [replay_append]
    rcases call.apply_cases kept with ⟨fault, refused⟩ | ⟨u', accepted, -, left⟩
    · have same : (⟨(u.replay calls).entries ++ [(call, .error fault)],
          (u.replay calls).store⟩ : Replay).accepted n = (u.replay calls).accepted n := by
        simp [Replay.accepted]
      simp only [replay, refused, Outcome.state_fail, Outcome.result_fail]
      rw [same, ih]
    · simp only [replay, accepted, Outcome.state_done, Outcome.result_done]
      rw [left n]
      by_cases about : n = call.number
      · have longer : (⟨(u.replay calls).entries ++ [(call, .ok ())], u'⟩ : Replay).accepted n =
            (u.replay calls).accepted n ++ [call] := by
          simp [Replay.accepted, about]
        rw [if_pos about, longer]
        cases call with
        | set k run =>
          rw [pieces_set]
          simp [Run.concat, Call.result]
        | append k run =>
          obtain rfl : n = k := about
          rw [pieces_append, Run.concat_append_singleton, ← ih]
          rfl
      · have same : (⟨(u.replay calls).entries ++ [(call, .ok ())], u'⟩ : Replay).accepted n =
            (u.replay calls).accepted n := by
          simp [Replay.accepted, Ne.symm about]
        rw [if_neg about, same, ih]

/-- Unrecognised records are kept byte for byte, however they were cut.  Where a first piece is
accepted, as an addition or, if it is not empty, as a replacement, adding the rest is answered as
the whole is in one call, and reasons against it are found as far back in the whole as the first
piece is long.  After any calls on a new store that keeps records, the run of a number consists of
the bytes of the last accepted replacement and of the additions accepted after it, in order, and
its records are theirs. -/
theorem records_kept_in_pieces :
    (∀ (u : UnknownStore) (n : FieldNumber) (a b : Run), (u.append n a).result = .ok () →
      AnswersAs a.length ((u.append n a).state.append n b) (u.append n (a.append b.bytes))) ∧
    (∀ (u : UnknownStore) (n : FieldNumber) (a b : Run), a.isEmpty = false →
      (u.set n a).result = .ok () →
      AnswersAs a.length ((u.set n a).state.append n b) (u.set n (a.append b.bytes))) ∧
    ∀ (calls : List Call) (n : FieldNumber) (left : Replay),
      left = replay { isSupported := true } calls →
        left.store.get n = Run.concat (pieces (left.accepted n)) ∧
          (left.store.get n).scan = ⟨Run.recordsFrom 0 (pieces (left.accepted n)), none⟩ := by
  refine ⟨fun u n a b accepted => ?_, fun u n a b nonempty accepted => ?_,
    fun calls n left same => ?_⟩
  · by_cases nonempty : a.isEmpty = false
    · exact (Call.append n a).answersAs nonempty accepted b
    · obtain rfl : a = Run.empty := (Run.isEmpty_iff a).1 (by simpa using nonempty)
      rw [append_of_isEmpty u n rfl]
      exact .refl _
  · exact (Call.set n a).answersAs nonempty accepted b
  · subst same
    have together := get_replay (u := { isSupported := true }) rfl rfl calls n
    refine ⟨together, ?_⟩
    rw [together]
    apply Run.scan_concat
    intro run member
    obtain ⟨call, accepted, rfl⟩ := mem_given_of_mem_pieces member
    exact isValid_of_mem_accepted (u := { isSupported := true }) rfl accepted

/-- A run of the number 200 that breaks off in its second record. -/
def broken : Run := ⟨[0xC0, 0x0C, 0x01, 0xC0, 0x0C]⟩

/-- Behind the sample, which is accepted, the broken run is refused at its fourth byte; the same
bytes in one call are refused behind the sample as far.  What a store holds after a replacement, a
refused call and an addition are the two accepted runs. -/
theorem broken_behind_sample :
    (AddressBook.filed.unknown.append 200 (Run.sample 200)).result = .ok () ∧
      ((AddressBook.filed.unknown.append 200 (Run.sample 200)).state.append 200 broken).result =
        .error (.malformedWire 200 3) ∧
      (AddressBook.filed.unknown.append 200 ((Run.sample 200).append broken.bytes)).result =
        .error (.malformedWire 200 (3 + (Run.sample 200).length)) ∧
      AnswersAs (Run.sample 200).length
        ((AddressBook.filed.unknown.set 200 (Run.sample 200)).state.append 200 broken)
        (AddressBook.filed.unknown.set 200 ((Run.sample 200).append broken.bytes)) ∧
      (replay { isSupported := true } [.append 200 (Run.sample 200), .set 200 (Run.sample 200),
        .append 200 broken, .append 200 (Run.sample 200)]).store.get 200 =
          Run.concat [Run.sample 200, Run.sample 200] := by
  have accepted : (AddressBook.filed.unknown.append 200 (Run.sample 200)).result = .ok () := by
    decide +kernel
  have replaced : (AddressBook.filed.unknown.set 200 (Run.sample 200)).result = .ok () := by
    decide +kernel
  have refused : ((AddressBook.filed.unknown.append 200 (Run.sample 200)).state.append 200
      broken).result = .error (.malformedWire 200 3) := by decide +kernel
  have cut := records_kept_in_pieces.1 _ 200 _ broken accepted
  refine ⟨accepted, refused, cut.refused _ refused,
    records_kept_in_pieces.2.1 _ 200 _ broken (by decide +kernel) replaced, ?_⟩
  rw [(records_kept_in_pieces.2.2 _ 200 _ rfl).1]
  decide +kernel

end UnknownStore

end DynamicMessage
