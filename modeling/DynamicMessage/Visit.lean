/-
# Visit -- going through rows until told to stop

A visitor sees the rows in order with a state of its own and answers with the next state, and with
whether it wants more (`ForInStep`).
-/
namespace DynamicMessage

set_option autoImplicit false

/-- The state a visitor ends with. -/
def visit {α σ : Type} (visitor : α → σ → ForInStep σ) (s : σ) : List α → σ
  | [] => s
  | a :: rest =>
    match visitor a s with
    | .done s => s
    | .yield s => visit visitor s rest

end DynamicMessage
