/-
Blank characters.

A character is blank if it has the Unicode property White_Space.  Texts that
people type (a policy, a number of minutes, a time) are read with the blanks
around them taken off.
-/
namespace Gatehouse.Text

/-- The Unicode property White_Space. -/
def isBlank (c : Char) : Bool :=
  let n := c.toNat
  (9 ≤ n && n ≤ 13) || n == 0x20 || n == 0x85 || n == 0xA0 || n == 0x1680 ||
    (0x2000 ≤ n && n ≤ 0x200A) || n == 0x2028 || n == 0x2029 || n == 0x202F || n == 0x205F ||
    n == 0x3000

/-- The text from its first character that is not blank. -/
def trimStart (cs : List Char) : List Char := cs.dropWhile isBlank

/-- The text without the blanks at its two ends. -/
def trimmed (cs : List Char) : List Char := (trimStart (trimStart cs).reverse).reverse

/-- The text without the blanks at its two ends. -/
def trim (s : String) : String := String.ofList (trimmed s.toList)

end Gatehouse.Text
