/-
Bytes in hexadecimal: two digits a byte, the high one first, letters in upper
case.  Reading takes letters of either case and refuses an odd digit at the end.
-/
namespace Gatehouse.Text.Hex

/-- The digit for a number below sixteen. -/
def digit (n : Nat) : Char := if n < 10 then Char.ofNat (48 + n) else Char.ofNat (55 + n)

/-- The two digits of a byte. -/
def ofByte (b : UInt8) : List Char := [digit (b.toNat / 16), digit (b.toNat % 16)]

/-- The digits of a sequence of bytes. -/
def encode (bytes : List UInt8) : String := String.ofList (bytes.flatMap ofByte)

/-- The number a digit stands for. -/
def value? (c : Char) : Option Nat :=
  let n := c.toNat
  if 48 ≤ n && n ≤ 57 then some (n - 48)
  else if 65 ≤ n && n ≤ 70 then some (n - 55)
  else if 97 ≤ n && n ≤ 102 then some (n - 87)
  else none

/-- The bytes that a sequence of digits stands for. -/
def decode? : List Char → Option (List UInt8)
  | [] => some []
  | [_] => none
  | hi :: lo :: rest => do
    let h ← value? hi
    let l ← value? lo
    return UInt8.ofNat (16 * h + l) :: (← decode? rest)

theorem length_encode (bytes : List UInt8) : (encode bytes).length = 2 * bytes.length := by
  simp only [encode, String.length_ofList]
  induction bytes with
  | nil => rfl
  | cons b bs ih => simp only [List.flatMap_cons, List.length_append, ih, ofByte, List.length_cons,
      List.length_nil]; omega

end Gatehouse.Text.Hex
