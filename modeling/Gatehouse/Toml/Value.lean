/-
TOML values.

A settings file is read as far as settings need it.  Whole numbers, texts, arrays
and tables keep what they hold; of a truth value, a float, a date or a time only
the sort is kept, since no setting is one.
-/
namespace Gatehouse.Toml

/-- A TOML value. -/
inductive Value where
  /-- A whole number of sixty-four bits. -/
  | integer (n : Int)
  /-- A text. -/
  | text (s : String)
  /-- A truth value. -/
  | bool
  /-- A number with a fraction or an exponent, or an infinity, or no number. -/
  | float
  /-- A date, a time of day, or both. -/
  | time
  /-- An array. -/
  | array (items : List Value)
  /-- A table: its keys with their values. -/
  | table (members : List (String × Value))
  deriving Inhabited

namespace Value

/-- What a table holds under a key. -/
def lookup (key : String) : List (String × Value) → Option Value
  | [] => none
  | m :: ms => if m.1 = key then some m.2 else lookup key ms

/-- The items of an array set against the fields of a record, in declared order; what is too much
is ignored. -/
def align : List String → List Value → List (Option Value)
  | [], _ => []
  | _ :: fs, v :: vs => some v :: align fs vs
  | _ :: fs, [] => none :: align fs []

/-- The values of the declared fields of a record, in declared order.  A record is a table, in
which other keys are ignored, or an array of its fields.  A date is taken for a table that has
none of the keys. -/
def fields? (fields : List String) : Value → Option (List (Option Value))
  | .table ms => some (fields.map fun f => lookup f ms)
  | .array vs => some (align fields vs)
  | .time => some (fields.map fun _ => none)
  | _ => none

/-- A number of thirty-two bits. -/
def uint32? : Value → Option UInt32
  | .integer n => if 0 ≤ n ∧ n ≤ 0xFFFFFFFF then some (.ofNat n.toNat) else none
  | _ => none

/-- Whether the value is a table or an array with nothing in it. -/
def isEmptyCollection : Value → Bool
  | .table [] => true
  | .array [] => true
  | _ => false

/-- The name of an alternative that carries nothing: a text, or a table whose only key is the name
and holds an empty table or array. -/
def choice? : Value → Option String
  | .text s => some s
  | .table [(name, v)] => if v.isEmptyCollection then some name else none
  | _ => none

end Value

end Gatehouse.Toml
