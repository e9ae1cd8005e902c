/-
Texts, numbers and times in TOML.

Each reader takes a text, and gives what stands at its head together with what
follows, or nothing if the head is ill formed.
-/
import Gatehouse.Text.Decimal
import Gatehouse.Text.Hex
import Gatehouse.Toml.Value

namespace Gatehouse.Toml

/-- The two blanks that do not end a line. -/
def isBlank (c : Char) : Bool := c == ' ' || c == '\t'

/-- The text from its first character that is not blank. -/
def skipBlanks (cs : List Char) : List Char := cs.dropWhile isBlank

/-- What follows the end of a line, if the text begins with one. -/
def newline? : List Char → Option (List Char)
  | '\n' :: rest => some rest
  | '\r' :: '\n' :: rest => some rest
  | _ => none

/-- Whether a character may stand in a comment: no control character but the tab. -/
def isPlain (c : Char) : Bool := c == '\t' || (32 ≤ c.toNat && c.toNat != 127)

/-! ### Texts -/

/-- The character that hexadecimal digits stand for, if they stand for one. -/
def scalar? (digits : List Char) : Option Char := do
  let ds ← digits.mapM Text.Hex.value?
  let n := ds.foldl (fun a d => 16 * a + d) 0
  if n < 0xD800 || (0xDFFF < n && n < 0x110000) then some (Char.ofNat n) else none

/-- The character an escape letter stands for. -/
def escapeLetter? (c : Char) : Option Char :=
  if c = '"' then some '"'
  else if c = '\\' then some '\\'
  else if c = 'b' then some (Char.ofNat 8)
  else if c = 'f' then some (Char.ofNat 12)
  else if c = 'n' then some '\n'
  else if c = 'r' then some '\r'
  else if c = 't' then some '\t'
  else none

/-- A character put before the text that was read after it. -/
def consText (c : Option Char) (r : Option (List Char × List Char)) :
    Option (List Char × List Char) :=
  match c, r with
  | some c, some (s, rest) => some (c :: s, rest)
  | _, _ => none

/-- A text on one line after its opening double quote. -/
def readBasic : List Char → Option (List Char × List Char)
  | [] => none
  | '"' :: rest => some ([], rest)
  | '\\' :: 'u' :: a :: b :: c :: d :: rest => consText (scalar? [a, b, c, d]) (readBasic rest)
  | '\\' :: 'U' :: a :: b :: c :: d :: e :: f :: g :: h :: rest =>
    consText (scalar? [a, b, c, d, e, f, g, h]) (readBasic rest)
  | '\\' :: e :: rest => consText (escapeLetter? e) (readBasic rest)
  | c :: rest => if isPlain c && c != '\\' then consText (some c) (readBasic rest) else none

/-- A text on one line after its opening single quote. -/
def readLiteral : List Char → Option (List Char × List Char)
  | [] => none
  | '\'' :: rest => some ([], rest)
  | c :: rest => if isPlain c then consText (some c) (readLiteral rest) else none

/-- The end of a text of several lines, after three quotes: up to two more belong to the text. -/
def closeText (quote : Char) (rest : List Char) : Option (List Char × List Char) :=
  let extra := rest.takeWhile (· == quote)
  if extra.length ≤ 2 then some (extra, rest.drop extra.length) else none

/-- A text of several lines after its opening double quotes.  While `skipping`, blanks and line
ends are left out, as they are after a backslash at the end of a line. -/
def readMultiBasic : Bool → List Char → Option (List Char × List Char)
  | _, [] => none
  | _, '"' :: '"' :: '"' :: rest => closeText '"' rest
  | _, '\\' :: 'u' :: a :: b :: c :: d :: rest =>
    consText (scalar? [a, b, c, d]) (readMultiBasic false rest)
  | _, '\\' :: 'U' :: a :: b :: c :: d :: e :: f :: g :: h :: rest =>
    consText (scalar? [a, b, c, d, e, f, g, h]) (readMultiBasic false rest)
  | skipping, '\r' :: '\n' :: rest =>
    if skipping then readMultiBasic true rest else consText (some '\n') (readMultiBasic false rest)
  | _, '\\' :: e :: rest =>
    if (newline? (skipBlanks (e :: rest))).isSome then readMultiBasic true rest
    else consText (escapeLetter? e) (readMultiBasic false rest)
  | skipping, c :: rest =>
    if skipping && (c == '\n' || isBlank c) then readMultiBasic true rest
    else if isPlain c || c == '\n' then consText (some c) (readMultiBasic false rest)
    else none

/-- A text of several lines after its opening single quotes. -/
def readMultiLiteral : List Char → Option (List Char × List Char)
  | [] => none
  | '\'' :: '\'' :: '\'' :: rest => closeText '\'' rest
  | '\r' :: '\n' :: rest => consText (some '\n') (readMultiLiteral rest)
  | c :: rest =>
    if isPlain c || c == '\n' then consText (some c) (readMultiLiteral rest) else none

/-- The text without the line end at its head, if there is one. -/
def dropNewline (cs : List Char) : List Char := (newline? cs).getD cs

/-- A text of any of the four sorts. -/
def readText : List Char → Option (String × List Char)
  | '"' :: '"' :: '"' :: rest =>
    (readMultiBasic false (dropNewline rest)).map fun p => (String.ofList p.1, p.2)
  | '\'' :: '\'' :: '\'' :: rest =>
    (readMultiLiteral (dropNewline rest)).map fun p => (String.ofList p.1, p.2)
  | '"' :: rest => (readBasic rest).map fun p => (String.ofList p.1, p.2)
  | '\'' :: rest => (readLiteral rest).map fun p => (String.ofList p.1, p.2)
  | _ => none

/-! ### Numbers -/

/-- Digits of which each but the first may follow an underscore.  An underscore that is not
between digits makes the text ill formed. -/
def readDigitsTail (isDigit : Char → Bool) : List Char → Option (List Char × List Char)
  | [] => some ([], [])
  | '_' :: d :: rest =>
    if isDigit d then consText (some d) (readDigitsTail isDigit rest) else none
  | c :: rest =>
    if isDigit c then consText (some c) (readDigitsTail isDigit rest)
    else if c = '_' then none
    else some ([], c :: rest)

/-- One digit or more, with underscores between them. -/
def readDigits (isDigit : Char → Bool) : List Char → Option (List Char × List Char)
  | c :: rest => if isDigit c then consText (some c) (readDigitsTail isDigit rest) else none
  | [] => none

/-- The digits of a whole number in decimal: a zero alone, or digits that begin with no zero. -/
def readDecimal : List Char → Option (List Char × List Char)
  | '0' :: rest => some (['0'], rest)
  | cs => readDigits Char.isDigit cs

/-- The least number that is too large for a signed integer of sixty-four bits. -/
def integerBound : Nat := UInt64.size / 2

/-- A number in another base than ten, after the letter that says so. -/
def readBased (base : Nat) (cs : List Char) : Option (Value × List Char) :=
  let isDigit := fun c => match Text.Hex.value? c with | some d => d < base | none => false
  match readDigits isDigit cs with
  | none => none
  | some (ds, rest) =>
    let n := ds.foldl (fun a d => base * a + (Text.Hex.value? d).getD 0) 0
    if n < integerBound then some (.integer n, rest) else none

/-- Whether `digits` scaled by a power of ten is too large for a float of sixty-four bits. -/
def overflows (digits : List Char) (exponent : Int) : Bool :=
  let m := Text.digitsValue digits
  if m = 0 then false
  else
    let size : Int := (Nat.toDigits 10 m).length + exponent
    let bound := Nat.pow 2 1024 - Nat.pow 2 970
    if 310 < size then true
    else if size < 300 then false
    else if 0 ≤ exponent then bound ≤ m * Nat.pow 10 exponent.toNat
    else bound * Nat.pow 10 (-exponent).toNat ≤ m

/-- The exponent of a float, after its letter. -/
def readExponent (cs : List Char) : Option (Int × List Char) :=
  let negative := cs.head? == some '-'
  let signed := negative || cs.head? == some '+'
  (readDigits Char.isDigit (if signed then cs.drop 1 else cs)).map fun p =>
    let n : Int := Text.digitsValue p.1
    (if negative then -n else n, p.2)

/-- A whole number in decimal or a float, after its sign.  A float without a minus sign must not
be too large. -/
def readUnsigned (negative : Bool) (cs : List Char) : Option (Value × List Char) := do
  let (ds, rest) ← readDecimal cs
  let float := fun (digits : List Char) (exponent : Int) (rest : List Char) =>
    if !negative && overflows digits exponent then none else some (Value.float, rest)
  match rest with
  | '.' :: rest =>
    let (fs, rest) ← readDigits Char.isDigit rest
    match rest with
    | c :: after =>
      if c = 'e' || c = 'E' then
        let (e, rest) ← readExponent after
        float (ds ++ fs) (e - fs.length) rest
      else float (ds ++ fs) (-fs.length) rest
    | [] => float (ds ++ fs) (-fs.length) []
  | c :: after =>
    if c = 'e' || c = 'E' then
      let (e, rest) ← readExponent after
      float ds e rest
    else integer ds rest
  | [] => integer ds []
where
  /-- The number itself, which must fit in sixty-four bits. -/
  integer (ds : List Char) (rest : List Char) : Option (Value × List Char) :=
    let n : Int := Text.digitsValue ds
    let n := if negative then -n else n
    if -integerBound ≤ n && n < integerBound then some (.integer n, rest) else none

/-- A number. -/
def readNumber (cs : List Char) : Option (Value × List Char) :=
  match cs with
  | '0' :: 'x' :: rest => readBased 16 rest
  | '0' :: 'o' :: rest => readBased 8 rest
  | '0' :: 'b' :: rest => readBased 2 rest
  | _ =>
    let negative := cs.head? == some '-'
    let body := if negative || cs.head? == some '+' then cs.drop 1 else cs
    match body with
    | 'i' :: 'n' :: 'f' :: rest => some (.float, rest)
    | 'n' :: 'a' :: 'n' :: rest => some (.float, rest)
    | _ => readUnsigned negative body

/-! ### Dates and times -/

/-- The number that the first `n` characters stand for, if all are digits, and what follows. -/
def readFixed (n : Nat) (cs : List Char) : Option (Nat × List Char) :=
  let ds := cs.take n
  if ds.length = n && ds.all Char.isDigit then some (Text.digitsValue ds, cs.drop n) else none

/-- What follows a number of two digits of at most `max`. -/
def readTwo (max : Nat) (cs : List Char) : Option (List Char) :=
  (readFixed 2 cs).bind fun p => if p.1 ≤ max then some p.2 else none

/-- What follows a given character. -/
def expect (c : Char) : List Char → Option (List Char)
  | [] => none
  | d :: rest => if d = c then some rest else none

/-- How many days a month has. -/
def daysIn (year month : Nat) : Nat :=
  if month = 2 then
    if year % 4 = 0 && (year % 100 != 0 || year % 400 = 0) then 29 else 28
  else if month = 4 || month = 6 || month = 9 || month = 11 then 30
  else 31

/-- What follows the month and the day of a date. -/
def readMonthDay (year : Nat) (cs : List Char) : Option (List Char) := do
  let (month, rest) ← readFixed 2 cs
  if month = 0 || 12 < month then none
  let (day, rest) ← readFixed 2 (← expect '-' rest)
  if day = 0 || daysIn year month < day then none else some rest

/-- What follows the minutes and the seconds of a time, with their fraction if there is one. -/
def readMinuteSecond (cs : List Char) : Option (List Char) := do
  let rest ← readTwo 60 (← expect ':' (← readTwo 59 cs))
  match rest with
  | '.' :: after =>
    let ds := after.takeWhile Char.isDigit
    some (if ds = [] then rest else after.drop ds.length)
  | _ => some rest

/-- What follows the offset of a time, if there is one. -/
def readOffset (cs : List Char) : Option (List Char) :=
  match cs with
  | c :: rest =>
    if c = 'Z' || c = 'z' then some rest
    else if c = '+' || c = '-' then do readTwo 59 (← expect ':' (← readTwo 23 rest))
    else some cs
  | [] => some []

/-- Whether a time of day begins here: an hour and a colon. -/
def startsTime (cs : List Char) : Option (List Char) := do expect ':' (← readTwo 23 cs)

/-- A value that begins with a sign or a digit: a date with or without a time, a time of day, or a
number. -/
def readNumberOrTime (cs : List Char) : Option (Value × List Char) :=
  match readFixed 4 cs with
  | some (year, '-' :: rest) => do
    let rest ← readMonthDay year rest
    match rest with
    | c :: after =>
      if c = 'T' || c = 't' || c = ' ' then
        match startsTime after with
        | some time => do return (.time, ← readOffset (← readMinuteSecond time))
        | none => some (.time, rest)
      else some (.time, rest)
    | [] => some (.time, [])
  | _ =>
    match startsTime cs with
    | some time => (readMinuteSecond time).map (Value.time, ·)
    | none => readNumber cs

end Gatehouse.Toml
