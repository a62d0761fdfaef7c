/-
# Outcome -- what an operation answers and what it leaves behind

A write answers with a value or an error and leaves a state in either case.  Keeping the state
beside the answer, and not only behind a success, makes "a refused write changes nothing" a
statement about each operation instead of a consequence of how results are represented.
-/
import DynamicMessage.Error

namespace DynamicMessage

set_option autoImplicit false

/-- The answer of an operation and the state after it. -/
structure Outcome (σ α : Type) where
  result : Except Error α
  state : σ

namespace Outcome

variable {σ τ α β : Type}

/-- Success. -/
def done (a : α) (s : σ) : Outcome σ α := ⟨.ok a, s⟩

/-- Refusal. -/
def fail (e : Error) (s : σ) : Outcome σ α := ⟨.error e, s⟩

/-- The outcome of a write to a part, seen from the whole that `put` makes of the part. -/
def within (o : Outcome τ α) (put : τ → σ) : Outcome σ α := ⟨o.result, put o.state⟩

@[simp] theorem result_done (a : α) (s : σ) : (done a s).result = .ok a := rfl
@[simp] theorem state_done (a : α) (s : σ) : (done a s).state = s := rfl
@[simp] theorem result_fail (e : Error) (s : σ) : (fail e s : Outcome σ α).result = .error e := rfl
@[simp] theorem state_fail (e : Error) (s : σ) : (fail e s : Outcome σ α).state = s := rfl
@[simp] theorem result_within (o : Outcome τ α) (put : τ → σ) :
    (o.within put).result = o.result := rfl
@[simp] theorem state_within (o : Outcome τ α) (put : τ → σ) :
    (o.within put).state = put o.state := rfl

end Outcome

section

variable {ε α : Type}

@[simp] theorem isOk_ok (a : α) : (.ok a : Except ε α).isOk = true := rfl
@[simp] theorem isOk_error (e : ε) : (.error e : Except ε α).isOk = false := rfl

end

end DynamicMessage
