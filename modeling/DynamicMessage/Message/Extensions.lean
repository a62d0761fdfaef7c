/-
# Message.Extensions -- registering and removing extensions of a message

An extension adds a field to one message.  Registering checks that the extension is meant for this
message, that number and name are free, and that its field suits the schema; removing is refused
while the field is populated, and is no change when that number is not registered under that name.
-/
import DynamicMessage.Message.Write

namespace DynamicMessage

set_option autoImplicit false

namespace Message

/-- The first reason why an extension cannot be registered on a message of type `t`. -/
def conflict? (m : Message) (t : MessageType) (e : Extension) : Option Conflict :=
  if e.extendee ≠ t.name then some .otherExtendee
  else if !t.isOpenTo e.number then some .outsideRanges
  else if (t.field? e.number).isSome then some .declaredNumber
  else if e.field.oneof.isSome then some .inOneof
  else if e.field.isMap then some .isMap
  else if m.extensions.byNumber.contains e.number then some .registeredNumber
  else if m.extensions.byName.contains e.name then some .registeredName
  else none

/-- Registers an extension on this message. -/
def register (m : Message) (e : Extension) : Outcome Message Unit :=
  match m.type with
  | .error fault => .fail fault m
  | .ok t =>
    match m.conflict? t e with
    | some reason => .fail (.extensionConflict e.name e.number reason) m
    | none =>
      match Schema.fieldFault? m.schema.size t e.field with
      | some fault => .fail fault m
      | none => .done () { m with extensions := m.extensions.add e }

/-- Whether an extension's number is registered under its name. -/
def isRegistered (m : Message) (e : Extension) : Bool :=
  match m.extensions.findByNumber? e.number with
  | some current => current.name = e.name
  | none => false

/-- Removes an extension and what is stored for it. -/
def remove (m : Message) (e : Extension) : Outcome Message Unit :=
  if !m.isRegistered e then .done () m
  else if m.has e.number then .fail (.extensionStillSet e.name e.number) m
  else
    .done () { m.unset e.number with extensions := m.extensions.drop e.number e.name }

end Message

end DynamicMessage
