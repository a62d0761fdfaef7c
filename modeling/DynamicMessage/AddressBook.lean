/-
# AddressBook -- a schema to try things on

Two message types that show every shape of field: singular fields with and without presence, a
default, a map, a oneof, and vectors of scalars, of messages, and of the message itself.
-/
import DynamicMessage.Schema.Basic

namespace DynamicMessage.AddressBook

set_option autoImplicit false

/-- The position of `tutorial.Person`. -/
def person : MessageIndex := 0

/-- The position of `tutorial.PhoneNumber`. -/
def phoneNumber : MessageIndex := 1

/-- A person, open to extensions from 100 to 199. -/
def personType : MessageType :=
  { name := "tutorial.Person"
    fields :=
      [{ number := 1, name := "name", kind := .scalar .string },
       { number := 2, name := "id", kind := .scalar .int32 },
       Field.optional { number := 3, name := "email", kind := .scalar .string },
       Field.repeated { number := 4, name := "phones", kind := .message phoneNumber },
       Field.map { number := 5, name := "attributes", kind := .scalar .string } (.scalar .string),
       Field.repeated { number := 6, name := "friends", kind := .message person },
       Field.inOneof { number := 7, name := "handle", kind := .scalar .string } 0,
       Field.inOneof { number := 8, name := "pager", kind := .scalar .int64 } 0,
       Field.repeated { number := 9, name := "scores", kind := .scalar .int32 }]
    oneofs := ["contact"]
    extensionRanges := [⟨100, 199⟩] }

/-- A phone number, whose type is 1 unless set. -/
def phoneNumberType : MessageType :=
  { name := "tutorial.PhoneNumber"
    fields :=
      [{ number := 1, name := "number", kind := .scalar .string },
       Field.withDefault { number := 2, name := "type", kind := .scalar .enum }
         (.scalar (.enum 1))] }

/-- The declarations of the address book. -/
def types : List MessageType := [personType, phoneNumberType]

/-- The schema of the declarations. -/
def schema : Schema := (Schema.declare 0 types).toOption.getD ⟨0, [], ∅⟩

/-- The declarations make a schema. -/
theorem declare_types : Schema.declare 0 types = .ok schema :=
  Schema.declare_eq_ok_of_isOk _ (by decide +kernel)

end DynamicMessage.AddressBook
