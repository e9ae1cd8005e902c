/-
Upper case.

Codes are compared without regard to letter case by comparing their upper case.
The upper case of a text is the upper case of its characters one after the
other, whatever stands around them; a character may become several (`ß` becomes
`SS`), so lengths change, and characters of different lengths can become the same
one: `ſ` and `s` both become `S`.
-/
import Gatehouse.Text.UppercaseTable

namespace Gatehouse.Text

/-- The upper case of a character outside ASCII. -/
def upperBeyondAscii (c : Char) : List Char :=
  match caseExpansions.find? (fun e => e.1 == c.toNat) with
  | some e => e.2.map Char.ofNat
  | none =>
    match caseRuns.find? (fun run => run.covers c.toNat) with
    | some run => [Char.ofNat (c.toNat + run.shift).toNat]
    | none => [c]

/-- The upper case of a character. -/
def upperChar (c : Char) : List Char :=
  if c.toNat < 128 then [c.toUpper] else upperBeyondAscii c

/-- The upper case of a text, character by character. -/
def upper (s : String) : String := String.ofList (s.toList.flatMap upperChar)

/-- The text with ASCII letters in lower case and all else as it is. -/
def lowerAscii (s : String) : String := String.ofList (s.toList.map Char.toLower)

@[simp] theorem toList_upper (s : String) : (upper s).toList = s.toList.flatMap upperChar := by
  simp [upper]

@[simp] theorem upper_empty : upper "" = "" := by
  apply String.toList_inj.1
  simp

end Gatehouse.Text
