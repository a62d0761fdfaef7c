/-
# Key -- the scalars that may key a map

Keys are ordered by member first, in the order of the constructors, then numbers by size and
strings by their characters.  `Key.rank`, `Key.number` and `Key.text` are the coordinates of that
order; together they determine the key (`Key.ext_coordinates`), so comparing them is a lawful total
order.
-/
import DynamicMessage.Scalar

namespace DynamicMessage

set_option autoImplicit false

/-- A map key. -/
inductive Key where
  | bool (b : Bool)
  | i32 (n : Int32)
  | i64 (n : Int64)
  | u32 (n : UInt32)
  | u64 (n : UInt64)
  | string (s : String)
deriving DecidableEq, Repr

/-- The key a scalar makes, if its member may key a map. -/
def Scalar.toKey? : Scalar → Option Key
  | .bool b => some (.bool b)
  | .i32 n => some (.i32 n)
  | .i64 n => some (.i64 n)
  | .u32 n => some (.u32 n)
  | .u64 n => some (.u64 n)
  | .string s => some (.string s)
  | .f32 _ | .f64 _ | .bytes _ | .enum _ => none

namespace Key

/-- The scalar a key was made of. -/
def toScalar : Key → Scalar
  | .bool b => .bool b
  | .i32 n => .i32 n
  | .i64 n => .i64 n
  | .u32 n => .u32 n
  | .u64 n => .u64 n
  | .string s => .string s

/-- The member of a key. -/
def member (k : Key) : Member := k.toScalar.member

/-- The characters of a string key. -/
def string? : Key → Option String
  | .string s => some s
  | _ => none

/-! ## Order -/

/-- The place of a key's member among the members. -/
def rank : Key → Nat
  | .bool _ => 0
  | .i32 _ => 1
  | .i64 _ => 2
  | .u32 _ => 3
  | .u64 _ => 4
  | .string _ => 5

/-- The number in a key; `false` is below `true`. -/
def number : Key → Int
  | .bool b => b.toNat
  | .i32 n => n.toInt
  | .i64 n => n.toInt
  | .u32 n => n.toNat
  | .u64 n => n.toNat
  | .string _ => 0

/-- The characters in a key. -/
def text : Key → String
  | .string s => s
  | _ => ""

theorem ext_coordinates {k k' : Key} (rank : k.rank = k'.rank) (number : k.number = k'.number)
    (text : k.text = k'.text) : k = k' := by
  cases k <;> cases k' <;> cases rank
  case bool.bool a b => cases a <;> cases b <;> first | rfl | cases number
  case i32.i32 => exact congrArg Key.i32 (Int32.toInt_inj.1 number)
  case i64.i64 => exact congrArg Key.i64 (Int64.toInt_inj.1 number)
  case u32.u32 => exact congrArg Key.u32 (UInt32.toNat_inj.1 (Int.ofNat_inj.1 number))
  case u64.u64 => exact congrArg Key.u64 (UInt64.toNat_inj.1 (Int.ofNat_inj.1 number))
  case string.string => exact congrArg Key.string text

instance : Ord Key where
  compare := compareLex (compareOn rank) (compareLex (compareOn number) (compareOn text))

theorem compare_def :
    (compare : Key → Key → Ordering) =
      compareLex (compareOn rank) (compareLex (compareOn number) (compareOn text)) := rfl

instance : Std.TransOrd Key :=
  inferInstanceAs (Std.TransCmp
    (compareLex (compareOn rank) (compareLex (compareOn number) (compareOn text))))

instance : Std.LawfulEqOrd Key where
  eq_of_compare {a b} h := by
    simp only [compare_def, compareLex, compareOn, Ordering.then_eq_eq,
      Std.compare_eq_iff_eq] at h
    exact ext_coordinates h.1 h.2.1 h.2.2

/-- Members come first, and the same number under two members makes two keys. -/
example : compare (Key.i64 (-1)) (Key.u32 0) = .lt ∧ compare (Key.u32 1) (Key.i32 2) = .gt ∧
    compare (Key.string "B") (Key.string "a") = .lt := by decide

end Key

end DynamicMessage
