/-
# Fit -- which values may be stored where

A scalar fits a scalar kind of its member.  A message fits a message kind of its own type in the
same schema instance.  Vectors and maps fit only fields, and a field of their exact kinds.  Each
check gives the error of a value that does not fit.
-/
import DynamicMessage.Message.Basic

namespace DynamicMessage

set_option autoImplicit false

/-- Why a value is not a singular value of a kind in a schema. -/
def Schema.misfit? (s : Schema) (kind : Kind) (v : Value) : Option Error :=
  match kind.messageIndex?, v with
  | some index, .message m =>
    if m.schema = s ∧ m.index = index then none
    else
      match s.typeAt index, m.type with
      | .error e, _ => some e
      | .ok _, .error e => some e
      | .ok expected, .ok got => some (.messageTypeMismatch expected.name got.name)
  | _, .scalar x => if kind.accepts x then none else some (v.mismatch kind.member)
  | _, _ => some (v.mismatch kind.member)

/-- Why a value other than null is not a value of a field in a schema. -/
def Field.misfit? (f : Field) (s : Schema) (v : Value) : Option Error :=
  match f.mapKey with
  | some key =>
    match v with
    | .map m =>
      if m.schema = s ∧ m.key = key ∧ m.value = f.kind then none else some (v.mismatch .map)
    | _ => some (v.mismatch .map)
  | none =>
    if f.isList then
      match v with
      | .vector x =>
        if x.schema = s ∧ x.kind = f.kind then none else some (v.mismatch .vector)
      | _ => some (v.mismatch .vector)
    else s.misfit? f.kind v

end DynamicMessage
