/-
Lower case.

The lower case of a text is the lower case of its characters one after the other, but
for one letter: the capital sigma of Greek has two small ones, and which of them it
becomes depends on whether it ends a word.  It does if a letter with case stands
before it and none after it, characters that do not count left out.

The capital `İ` with a dot becomes two characters, the small `i` and a dot to be put
above it; every other character becomes one.
-/
import Gatehouse.Text.LowercaseTable
import Gatehouse.Text.Quoted

namespace Gatehouse.Text

/-- Whether a character is a letter with case. -/
def isCased (c : Char) : Bool := inRanges casedRanges c.toNat

/-- Whether a character does not count when the letters around a place are looked for. -/
def isIgnorable (c : Char) : Bool := inRanges ignorableRanges c.toNat

/-- Whether the first character that counts is a letter with case. -/
def startsCased (cs : List Char) : Bool :=
  match cs.dropWhile isIgnorable with
  | [] => false
  | c :: _ => isCased c

/-- Whether a word ends between what stands before, read backwards, and what stands after. -/
def endsWord (before after : List Char) : Bool := startsCased before && !startsCased after

/-- The lower case of a character outside ASCII. -/
def lowerBeyondAscii (c : Char) : List Char :=
  if c = '\u0130' then ['i', '\u0307']
  else
    match (furtherRuns ++ lowerRuns).find? (fun run => run.covers c.toNat) with
    | some run => [Char.ofNat (c.toNat + run.shift).toNat]
    | none => [c]

/-- The lower case of a character that stands by itself. -/
def lowerChar (c : Char) : List Char :=
  if c.toNat < 128 then [c.toLower] else lowerBeyondAscii c

/-- The lower case of the rest of a text, after what stands before, read backwards. -/
def lowerAfter (before : List Char) : List Char → List Char
  | [] => []
  | c :: cs =>
    let small :=
      if c = '\u03a3' then (if endsWord before cs then ['\u03c2'] else ['\u03c3']) else lowerChar c
    small ++ lowerAfter (c :: before) cs

/-- The lower case of a text. -/
def lower (s : String) : String := String.ofList (lowerAfter [] s.toList)

@[simp] theorem toList_lower (s : String) : (lower s).toList = lowerAfter [] s.toList := by
  simp [lower]

end Gatehouse.Text
