/-
Reading JSON.

The grammar is the strict one: four blanks, no leading zeros, no trailing
commas, control characters only as escapes, nothing after the value.  Reading
goes through the characters once; the only recursion that does not follow them
is from a value into its parts, and it is bounded by the length of the text,
since a part is always shorter than the whole.
-/
import Gatehouse.Json.Value
import Gatehouse.Text.Decimal
import Gatehouse.Text.Hex

namespace Gatehouse.Json

/-- The four characters that may stand between tokens. -/
def isBlank (c : Char) : Bool := c == ' ' || c == '\n' || c == '\t' || c == '\r'

/-- The text from its first character that is not blank. -/
def skipBlanks (cs : List Char) : List Char := cs.dropWhile isBlank

/-! ### Strings -/

/-- One piece of a string: a character, or half of a surrogate pair given by an escape. -/
inductive Piece where
  /-- A character. -/
  | char (c : Char)
  /-- Half of a surrogate pair. -/
  | half (unit : Nat)

/-- The character an escape letter stands for. -/
def escapeLetter? (c : Char) : Option Char :=
  if c = '"' then some '"'
  else if c = '\\' then some '\\'
  else if c = '/' then some '/'
  else if c = 'b' then some (Char.ofNat 8)
  else if c = 'f' then some (Char.ofNat 12)
  else if c = 'n' then some '\n'
  else if c = 'r' then some '\r'
  else if c = 't' then some '\t'
  else none

/-- The piece that a number of sixteen bits stands for. -/
def Piece.ofUnit (n : Nat) : Piece :=
  if 0xD800 ≤ n && n ≤ 0xDFFF then .half n else .char (Char.ofNat n)

/-- The number that four hexadecimal digits stand for. -/
def hexUnit? (a b c d : Char) : Option Nat := do
  return ((16 * (← Text.Hex.value? a) + (← Text.Hex.value? b)) * 16 + (← Text.Hex.value? c)) * 16
    + (← Text.Hex.value? d)

/-- The pieces of a string up to its closing quote, and what follows the quote. -/
def readPieces : List Char → Option (List Piece × List Char)
  | [] => none
  | '"' :: rest => some ([], rest)
  | '\\' :: 'u' :: a :: b :: c :: d :: rest =>
    match hexUnit? a b c d, readPieces rest with
    | some n, some (ps, r) => some (.ofUnit n :: ps, r)
    | _, _ => none
  | '\\' :: e :: rest =>
    match escapeLetter? e, readPieces rest with
    | some c, some (ps, r) => some (.char c :: ps, r)
    | _, _ => none
  | c :: rest =>
    if c.toNat < 32 || c == '\\' then none
    else (readPieces rest).map fun p => (.char c :: p.1, p.2)

/-- The text of the pieces: every half must be the first of two that make a character. -/
def joinPieces : List Piece → Option (List Char)
  | [] => some []
  | .char c :: ps => (joinPieces ps).map (c :: ·)
  | .half h :: .half l :: ps =>
    if h < 0xDC00 && 0xDC00 ≤ l then
      (joinPieces ps).map (Char.ofNat (0x10000 + (h - 0xD800) * 0x400 + (l - 0xDC00)) :: ·)
    else none
  | .half _ :: _ => none

/-- A string after its opening quote, and what follows it. -/
def readString (cs : List Char) : Option (Option String × List Char) :=
  (readPieces cs).map fun p => ((joinPieces p.1).map String.ofList, p.2)

/-! ### Numbers -/

/-- The digits before the point: a zero alone, or digits that begin with no zero. -/
def readWhole (cs : List Char) : Option (List Char × List Char) :=
  match Text.spanDigits cs with
  | ([], _) => none
  | (['0'], rest) => some (['0'], rest)
  | ('0' :: _, _) => none
  | (ds, rest) => some (ds, rest)

/-- The point and the digits after it, if there is a point. -/
def readFraction : List Char → Option (List Char × List Char)
  | '.' :: cs =>
    match Text.spanDigits cs with
    | ([], _) => none
    | (ds, rest) => some ('.' :: ds, rest)
  | cs => some ([], cs)

/-- The exponent, if there is one. -/
def readExponent : List Char → Option (List Char × List Char)
  | c :: cs =>
    if c = 'e' ∨ c = 'E' then
      let sign := cs.takeWhile (fun d => d == '+' || d == '-') |>.take 1
      match Text.spanDigits (cs.drop sign.length) with
      | ([], _) => none
      | (ds, rest) => some (c :: sign ++ ds, rest)
    else some ([], c :: cs)
  | [] => some ([], [])

/-- A number, and what follows it. -/
def readNumber (cs : List Char) : Option (Value × List Char) :=
  let sign := if cs.head? = some '-' then ['-'] else []
  match readWhole (cs.drop sign.length) with
  | none => none
  | some (ds, rest) =>
    match readFraction rest with
    | none => none
    | some (fraction, rest) =>
      match readExponent rest with
      | none => none
      | some (exponent, rest) =>
        if fraction = [] ∧ exponent = [] ∧ ¬(sign = ['-'] ∧ ds = ['0']) then
          let n : Int := Text.digitsValue ds
          some (.int (if sign = [] then n else -n), rest)
        else some (.real (String.ofList (sign ++ ds ++ fraction ++ exponent)), rest)

/-! ### Values -/

mutual

/-- A value at the head of a text, and what follows it. -/
def readValue : Nat → List Char → Option (Value × List Char)
  | 0, _ => none
  | fuel + 1, cs =>
    match skipBlanks cs with
    | 'n' :: 'u' :: 'l' :: 'l' :: rest => some (.null, rest)
    | 't' :: 'r' :: 'u' :: 'e' :: rest => some (.bool true, rest)
    | 'f' :: 'a' :: 'l' :: 's' :: 'e' :: rest => some (.bool false, rest)
    | '"' :: rest => (readString rest).map fun p => (.str p.1, p.2)
    | '[' :: rest =>
      match skipBlanks rest with
      | ']' :: rest => some (.arr [], rest)
      | rest => (readItems fuel rest).map fun p => (.arr p.1, p.2)
    | '\x7b' :: rest =>
      match skipBlanks rest with
      | '\x7d' :: rest => some (.obj [], rest)
      | rest => (readMembers fuel rest).map fun p => (.obj p.1, p.2)
    | rest => readNumber rest

/-- Items up to the bracket that closes the array. -/
def readItems : Nat → List Char → Option (List Value × List Char)
  | 0, _ => none
  | fuel + 1, cs =>
    match readValue fuel cs with
    | none => none
    | some (v, rest) =>
      match skipBlanks rest with
      | ']' :: rest => some ([v], rest)
      | ',' :: rest => (readItems fuel rest).map fun p => (v :: p.1, p.2)
      | _ => none

/-- Members up to the brace that closes the object. -/
def readMembers : Nat → List Char → Option (List (Option String × Value) × List Char)
  | 0, _ => none
  | fuel + 1, cs =>
    match skipBlanks cs with
    | '"' :: rest =>
      match readString rest with
      | none => none
      | some (name, rest) =>
        match skipBlanks rest with
        | ':' :: rest =>
          match readValue fuel rest with
          | none => none
          | some (v, rest) =>
            match skipBlanks rest with
            | '\x7d' :: rest => some ([(name, v)], rest)
            | ',' :: rest => (readMembers fuel rest).map fun p => ((name, v) :: p.1, p.2)
            | _ => none
        | _ => none
    | _ => none

end

/-- The value a whole text stands for. -/
def Value.read? (s : String) : Option Value :=
  let cs := s.toList
  match readValue (2 * cs.length + 2) cs with
  | some (v, rest) => if skipBlanks rest = [] then some v else none
  | none => none

end Gatehouse.Json
