/-
# Proofs.Message.Invariant -- invariants of messages and their types

Most invariants speak of messages only, and of the declaration of their type.  `Composite.OnMessage`
makes such a property one of composites, and `Invariant.onMessage` asks for what is left to show:
that a blank message has it, and that no change to a sound message takes it away.
-/
import DynamicMessage.Proofs.Container.Invariant

namespace DynamicMessage

set_option autoImplicit false

/-- A property of messages and their types; vectors and maps have it for free. -/
def Composite.OnMessage (P : Message → MessageType → Prop) : Composite → Prop
  | .message m => ∀ t, m.type = .ok t → P m t
  | .vector _ | .map _ => True

/-- A message without fields, of the type `t` at a position. -/
def Message.blank (s : Schema) (index : MessageIndex) (t : MessageType) : Message :=
  { schema := s, index, fields := ∅, extensions := .empty,
    unknown := { isSupported := t.keepsUnknown } }

theorem Message.type_blank {s : Schema} {index : MessageIndex} {t : MessageType}
    (found : s.type? index = some t) : (Message.blank s index t).type = .ok t :=
  Schema.typeAt_of_type? found

/-- The type of a message is known from the header. -/
theorem Message.type_of_header {m m' : Message}
    (same : Composite.header (.message m') = Composite.header (.message m)) : m'.type = m.type := by
  simp only [Composite.header, Header.message.injEq] at same
  rw [Message.type, Message.type, same.1, same.2]

/-- A change leaves the type of a message. -/
theorem Change.type_eq {brought : List Value} {m m' : Message}
    (change : Change brought (.message m) (.message m')) : m'.type = m.type :=
  Message.type_of_header change.header_eq

/-- A property of messages is an invariant if blank messages have it and changes keep it. -/
theorem Invariant.onMessage {P : Message → MessageType → Prop}
    (blank : ∀ {s : Schema} {index : MessageIndex} {t : MessageType}, s.Declared →
      s.type? index = some t → P (Message.blank s index t) t)
    (change : ∀ {brought : List Value} {m m' : Message} {t : MessageType}, m.Sound t → P m t →
      Change brought (.message m) (.message m') → P m' t) :
    Invariant (Composite.OnMessage P) where
  fresh declared fresh := by
    cases fresh with
    | message made =>
      obtain ⟨t, found, rfl⟩ := Message.zero_eq_ok made
      intro t' type
      rw [← Except.ok.inj ((Message.type_blank found).symm.trans type)]
      exact blank declared found
    | vector => exact trivial
    | map => exact trivial
  change {brought c c'} sound held step := by
    cases c' with
    | message m' =>
      cases c with
      | message m =>
        intro t type
        rw [step.type_eq] at type
        obtain ⟨t', sound⟩ := sound
        obtain rfl := sound.type_eq type
        exact change sound (held _ type) step
      | vector v => cases step
      | map m => cases step
    | vector v => exact trivial
    | map m => exact trivial

/-- An invariant of messages holds of every reachable message. -/
theorem Reachable.onMessage {P : Message → MessageType → Prop}
    (inv : Invariant (Composite.OnMessage P)) {m : Message} {t : MessageType}
    (reachable : Reachable (.message m)) (type : m.type = .ok t) : P m t :=
  (inv.everywhere reachable).here.2 t type

/-- An invariant of messages holds of the messages in every reachable value, at every depth. -/
theorem Reachable.everywhere_onMessage {P : Message → MessageType → Prop}
    (inv : Invariant (Composite.OnMessage P)) {v : Value} (reachable : Reachable v) :
    Everywhere (Composite.OnMessage P) v :=
  (inv.everywhere reachable).imp fun _ held => held.2

end DynamicMessage
