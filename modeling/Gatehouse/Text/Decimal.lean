/-
Whole numbers in decimal.

Numbers are written with the digits of core and read back by the same digits.
A number that is typed by a person (minutes in a setting, an id in a request)
may carry a plus sign and leading zeros, and is refused for one of three causes.
-/
namespace Gatehouse.Text

/-- The digits at the head of a text, and what follows them. -/
def spanDigits (cs : List Char) : List Char × List Char :=
  (cs.takeWhile Char.isDigit, cs.dropWhile Char.isDigit)

/-- The number that digits stand for. -/
def digitsValue (ds : List Char) : Nat := Nat.ofDigitChars 10 ds 0

/-- A number in decimal, with at least `width` digits. -/
def padded (width n : Nat) : List Char :=
  let ds := Nat.toDigits 10 n
  List.replicate (width - ds.length) '0' ++ ds

/-- A whole number in decimal, with a minus sign if it is negative. -/
def decimal (n : Int) : List Char :=
  if n < 0 then '-' :: Nat.toDigits 10 n.natAbs else Nat.toDigits 10 n.natAbs

/-- Why a text is no number of the kind asked for. -/
inductive NumberError where
  /-- There is nothing to read. -/
  | empty
  /-- Something stands where a digit should. -/
  | invalidDigit
  /-- The number is larger than the largest that fits. -/
  | tooLarge
  deriving DecidableEq, Repr

/-- The cause in words. -/
def NumberError.message : NumberError → String
  | .empty => "cannot parse integer from empty string"
  | .invalidDigit => "invalid digit found in string"
  | .tooLarge => "number too large to fit in target type"

/-- Reads digits from left to right; the first thing that goes wrong is the cause. -/
def readDigits (max : Nat) : Nat → List Char → Except NumberError Nat
  | n, [] => .ok n
  | n, c :: cs =>
    if !c.isDigit then .error .invalidDigit
    else
      let m := 10 * n + (c.toNat - '0'.toNat)
      if max < m then .error .tooLarge else readDigits max m cs

/-- Reads a number of at most `max`: digits, after a plus sign if there is one. -/
def readNat (max : Nat) : List Char → Except NumberError Nat
  | [] => .error .empty
  | [c] => if c.isDigit then readDigits max 0 [c] else .error .invalidDigit
  | '+' :: cs => readDigits max 0 cs
  | cs => readDigits max 0 cs

theorem digitsValue_toDigits (n : Nat) : digitsValue (Nat.toDigits 10 n) = n :=
  Nat.ofDigitChars_ten_toDigits

end Gatehouse.Text
