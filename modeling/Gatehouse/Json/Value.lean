/-
JSON values.

Only what the texts of this library need is kept of a value.  A number without
fraction and exponent is a whole number of any size; any other number is kept as
it was written, because nothing reads one.  A string may hold an escape for half
of a surrogate pair: such a string can be passed over but not read, so its text
is absent.  An object keeps its members in order, repetitions included: whether
a repetition is an error is for the reader of a particular record to say.
-/
namespace Gatehouse.Json

/-- A JSON value. -/
inductive Value where
  /-- The word `null`. -/
  | null
  /-- A truth value. -/
  | bool (b : Bool)
  /-- A number without fraction or exponent, minus zero excepted. -/
  | int (n : Int)
  /-- Any other number, as written. -/
  | real (lexeme : String)
  /-- A string; no text if it holds half of a surrogate pair. -/
  | str (text : Option String)
  /-- The items of an array. -/
  | arr (items : List Value)
  /-- The members of an object, in order. -/
  | obj (members : List (Option String × Value))
  deriving Inhabited

namespace Value

/-- A string with the given text. -/
def ofText (s : String) : Value := .str (some s)

/-- A member that has a name with text. -/
def member (name : String) (v : Value) : Option String × Value := (some name, v)

/-- An object from names and values. -/
def ofMembers (ms : List (String × Value)) : Value := .obj (ms.map fun m => member m.1 m.2)

/-- An array of strings. -/
def ofTexts (ss : List String) : Value := .arr (ss.map ofText)

/-- A value, or `null` if there is none. -/
def ofOption (v : Option Value) : Value := v.getD .null

/-- The text of a string. -/
def text? : Value → Option String
  | .str s => s
  | _ => none

/-- The truth value. -/
def bool? : Value → Option Bool
  | .bool b => some b
  | _ => none

/-- The whole number. -/
def int? : Value → Option Int
  | .int n => some n
  | _ => none

/-- The whole number, if it lies between the bounds. -/
def intWithin? (lo hi : Int) (v : Value) : Option Int :=
  v.int?.filter fun n => lo ≤ n && n ≤ hi

/-- The items of an array. -/
def items? : Value → Option (List Value)
  | .arr vs => some vs
  | _ => none

/-- The texts of an array of strings. -/
def texts? (v : Value) : Option (List String) := do (← v.items?).mapM text?

/-- A number of thirty-two bits. -/
def uint32? (v : Value) : Option UInt32 := (v.intWithin? 0 0xFFFFFFFF).map fun n => .ofNat n.toNat

/-- A number of sixty-four bits. -/
def uint64? (v : Value) : Option UInt64 :=
  (v.intWithin? 0 0xFFFFFFFFFFFFFFFF).map fun n => .ofNat n.toNat

/-- A signed number of thirty-two bits. -/
def int32? (v : Value) : Option Int32 := (v.intWithin? (-0x80000000) 0x7FFFFFFF).map Int32.ofInt

/-- A value that may be `null`. -/
def nullable? {α : Type} (read : Value → Option α) : Value → Option (Option α)
  | .null => some none
  | v => (read v).map some

end Value

end Gatehouse.Json
