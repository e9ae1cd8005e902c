/-
Writing JSON.

A value is written without blanks, the members of an object in their order.  In
a string, the quote, the backslash and the control characters are escaped, those
with a letter of their own by it; everything else stands as it is.
-/
import Gatehouse.Json.Value
import Gatehouse.Text.Decimal

namespace Gatehouse.Json

/-- The hexadecimal digit, in lower case, of a number below sixteen. -/
def hexDigit (n : Nat) : Char := if n < 10 then Char.ofNat (48 + n) else Char.ofNat (87 + n)

/-- How a character stands inside a string. -/
def escaped (c : Char) : List Char :=
  if c = '"' then ['\\', '"']
  else if c = '\\' then ['\\', '\\']
  else if c = '\n' then ['\\', 'n']
  else if c = '\r' then ['\\', 'r']
  else if c = '\t' then ['\\', 't']
  else if c = Char.ofNat 8 then ['\\', 'b']
  else if c = Char.ofNat 12 then ['\\', 'f']
  else if c.toNat < 32 then ['\\', 'u', '0', '0', hexDigit (c.toNat / 16), hexDigit (c.toNat % 16)]
  else [c]

/-- A string, with its quotes.  One without text is written as half of a surrogate pair. -/
def writeString : Option String → List Char
  | some s => '"' :: s.toList.flatMap escaped ++ ['"']
  | none => ['"', '\\', 'u', 'd', '8', '0', '0', '"']

mutual

/-- A value as text. -/
def write : Value → List Char
  | .null => ['n', 'u', 'l', 'l']
  | .bool true => ['t', 'r', 'u', 'e']
  | .bool false => ['f', 'a', 'l', 's', 'e']
  | .int n => Text.decimal n
  | .real lexeme => lexeme.toList
  | .str s => writeString s
  | .arr [] => ['[', ']']
  | .arr (v :: vs) => '[' :: write v ++ writeItems vs
  | .obj [] => ['\x7b', '\x7d']
  | .obj (m :: ms) => '\x7b' :: writeMember m ++ writeMembers ms

/-- The items after the first, and the bracket that closes the array. -/
def writeItems : List Value → List Char
  | [] => [']']
  | v :: vs => ',' :: write v ++ writeItems vs

/-- A member: its name and its value. -/
def writeMember : Option String × Value → List Char
  | (name, v) => writeString name ++ ':' :: write v

/-- The members after the first, and the brace that closes the object. -/
def writeMembers : List (Option String × Value) → List Char
  | [] => ['\x7d']
  | m :: ms => ',' :: writeMember m ++ writeMembers ms

end

/-- A value as text. -/
def Value.render (v : Value) : String := String.ofList (write v)

end Gatehouse.Json
