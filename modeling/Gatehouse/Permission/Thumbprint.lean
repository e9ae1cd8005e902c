/-
Thumbprints.

A permission set is told from others by a digest of its normal forms, taken in
order with a byte between them that no one types.
-/
import Gatehouse.Digest.Sha256
import Gatehouse.Text.Hex
import Gatehouse.Text.Utf8
import Gatehouse.Json.Value

namespace Gatehouse

/-- A digest of thirty-two bytes that stands for a permission set. -/
structure Thumbprint where
  /-- The bytes. -/
  bytes : List UInt8
  /-- There are thirty-two of them. -/
  length_eq : bytes.length = 32
  deriving DecidableEq

namespace Thumbprint

/-- The byte between two texts. -/
def delimiter : UInt8 := 0x1f

/-- The bytes of several texts, with the delimiter between them. -/
def message : List String → List UInt8
  | [] => []
  | [s] => Text.utf8 s.toList
  | s :: ss => Text.utf8 s.toList ++ delimiter :: message ss

/-- The thumbprint of a list of normal forms. -/
def ofForms (forms : List String) : Thumbprint := ⟨sha256 (message forms), length_sha256 _⟩

/-- The bytes in hexadecimal. -/
def hex (t : Thumbprint) : String := Text.Hex.encode t.bytes

/-- The thumbprint as reports show it: its first eight bytes. -/
def report (t : Thumbprint) : String := "Thumbprint(" ++ Text.Hex.encode (t.bytes.take 8) ++ ")"

/-- The order of thumbprints, byte by byte. -/
def compare (t u : Thumbprint) : Ordering :=
  if t.bytes < u.bytes then .lt else if t.bytes = u.bytes then .eq else .gt

/-- The thumbprint in JSON: an array of its bytes. -/
def toJson (t : Thumbprint) : Json.Value := .arr (t.bytes.map fun b => .int b.toNat)

/-- A number of eight bits. -/
def byte? (v : Json.Value) : Option UInt8 := (v.intWithin? 0 255).map fun n => .ofNat n.toNat

/-- Reads a thumbprint. -/
def ofJson? (v : Json.Value) : Option Thumbprint := do
  let bytes ← (← v.items?).mapM byte?
  if h : bytes.length = 32 then some ⟨bytes, h⟩ else none

end Thumbprint

end Gatehouse
