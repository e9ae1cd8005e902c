/-
Instants as text.

An instant is written as a date, the letter T, a time of day and the letter Z
for the zero meridian, with no fraction or one of three, six or nine digits, as
few as lose nothing.  A leap second is the sixtieth of its minute, and years
outside four digits have a sign.  What is read may be looser: blanks around the
parts, fields without leading zeros, any offset from the zero meridian, and a
fraction of any length.
-/
import Gatehouse.Text.Blank
import Gatehouse.Text.Decimal
import Gatehouse.Time.Calendar
import Gatehouse.Time.Instant

namespace Gatehouse.Timestamp

/-! ### Writing -/

/-- A year: four digits, or more after a sign. -/
def yearText (y : Int) : List Char :=
  if 0 ≤ y ∧ y ≤ 9999 then Text.padded 4 y.toNat
  else (if y < 0 then '-' else '+') :: Text.padded 4 y.natAbs

/-- A fraction of a second: no digits, or three, six or nine. -/
def fractionText (nanos : Nat) : List Char :=
  if nanos = 0 then []
  else if nanos % 1000000 = 0 then '.' :: Text.padded 3 (nanos / 1000000)
  else if nanos % 1000 = 0 then '.' :: Text.padded 6 (nanos / 1000)
  else '.' :: Text.padded 9 nanos

/-- The instant as text. -/
def write (t : Instant) : String :=
  let date := Calendar.Date.ofDays (t.second / 86400)
  let ofDay := (t.second % 86400).toNat
  let leap := t.fraction / 1000000000
  String.ofList (yearText date.year ++ '-' :: Text.padded 2 date.month
    ++ '-' :: Text.padded 2 date.day
    ++ 'T' :: Text.padded 2 (ofDay / 3600) ++ ':' :: Text.padded 2 (ofDay / 60 % 60)
    ++ ':' :: Text.padded 2 (ofDay % 60 + leap)
    ++ fractionText (t.fraction % 1000000000) ++ ['Z'])

/-! ### Reading -/

/-- The number that one to `most` digits stand for, and what follows them. -/
def number? (most : Nat) (cs : List Char) : Option (Nat × List Char) :=
  let ds := (cs.takeWhile Char.isDigit).take most
  if ds = [] then none else some (Text.digitsValue ds, cs.drop ds.length)

/-- A field between `lo` and `hi` of at most two digits, before which blanks may stand. -/
def field? (lo hi : Nat) (cs : List Char) : Option (Nat × List Char) :=
  (number? 2 (Text.trimStart cs)).filter fun p => lo ≤ p.1 && p.1 ≤ hi

/-- What follows a character before which blanks may stand. -/
def after? (c : Char) (cs : List Char) : Option (List Char) :=
  match Text.trimStart cs with
  | d :: rest => if d = c then some rest else none
  | [] => none

/-- A year: after a sign any number of digits, without one at most four. -/
def year? (cs : List Char) : Option (Int × List Char) :=
  match Text.trimStart cs with
  | '-' :: rest => (number? rest.length rest).map fun p => (-(p.1 : Int), p.2)
  | '+' :: rest => (number? rest.length rest).map fun p => ((p.1 : Int), p.2)
  | rest => (number? 4 rest).map fun p => ((p.1 : Int), p.2)

/-- The nanoseconds of a fraction, if there is one; digits after the ninth are dropped. -/
def fraction? : List Char → Option (Nat × List Char)
  | '.' :: cs =>
    let ds := cs.takeWhile Char.isDigit
    if ds = [] then none
    else
      let kept := ds.take 9
      some (Text.digitsValue kept * Nat.pow 10 (9 - kept.length), cs.drop ds.length)
  | cs => some (0, cs)

/-- A number of exactly two digits. -/
def twoDigits? : List Char → Option (Nat × List Char)
  | a :: b :: rest =>
    if a.isDigit && b.isDigit then some (Text.digitsValue [a, b], rest) else none
  | _ => none

/-- The seconds by which local time is ahead, and what follows. -/
def offset? (cs : List Char) : Option (Int × List Char) :=
  match cs with
  | a :: b :: c :: rest =>
    if [a, b, c].map Char.toLower = ['u', 't', 'c'] then some (0, rest) else signed cs
  | _ => signed cs
where
  /-- An offset that is no name: the letter Z, or a sign with hours and minutes. -/
  signed : List Char → Option (Int × List Char)
    | c :: rest =>
      if c = 'Z' ∨ c = 'z' then some (0, rest)
      else if c = '+' then amount 1 rest
      else if c = '-' ∨ c = Char.ofNat 0x2212 then amount (-1) rest
      else none
    | [] => none
  /-- Hours and minutes, between which colons and blanks may stand. -/
  amount (sign : Int) (cs : List Char) : Option (Int × List Char) := do
    let (hours, rest) ← twoDigits? cs
    let (minutes, rest) ← twoDigits? (rest.dropWhile fun c => c == ':' || Text.isBlank c)
    if hours < 24 && minutes < 60 then
      some (sign * (hours * 3600 + minutes * 60 : Nat), rest)
    else none

/-- Whether a year is one of those that can be represented. -/
def inRange (year : Int) : Bool := -262143 ≤ year && year ≤ 262142

/-- The instant that a text names. -/
def read? (s : String) : Option Instant := do
  let (year, rest) ← year? s.toList
  let (month, rest) ← field? 1 12 (← after? '-' rest)
  let (day, rest) ← field? 1 31 (← after? '-' rest)
  let rest ← separator rest
  let (hour, rest) ← field? 0 23 rest
  let (minute, rest) ← field? 0 59 (← after? ':' rest)
  let (second, rest) ← field? 0 60 (← after? ':' rest)
  let (nanos, rest) ← fraction? rest
  let (offset, rest) ← offset? (Text.trimStart rest)
  let date : Calendar.Date := ⟨year, month, day⟩
  if !(Text.trimStart rest).isEmpty || !inRange year || !date.exists then none
  let leap := if second = 60 then 1 else 0
  let ahead : Int := date.toDays * 86400 + (hour * 3600 + minute * 60 + (second - leap) : Nat)
  Instant.ofParts? (ahead - offset) (nanos + leap * 1000000000)
where
  /-- What follows the character between the date and the time. -/
  separator : List Char → Option (List Char)
    | c :: rest => if c = 'T' ∨ c = 't' ∨ c = ' ' then some rest else none
    | [] => none

end Gatehouse.Timestamp
