/-
Who words a denial.

A provider of reasons answers a denial with its wording or stays silent.  There
are registries, asked by name so that what they learn later counts; functions of
the code and the culture; and chains, in which the first answer wins.
-/
import Gatehouse.Permission.Registry

namespace Gatehouse

/-- The registries of the service, by name. -/
abbrev Registries := String → Registry

/-- A provider of reasons. -/
inductive Reason where
  /-- Answers by a function of the code and the culture. -/
  | custom (answer : String → Option String → Option String)
  /-- Answers as the registry of that name does. -/
  | registry (name : String)
  /-- Answers as the first of these that does not stay silent. -/
  | chain (providers : List Reason)

namespace Reason

mutual

/-- The provider's answer to a denial of the code. -/
def answer (registries : Registries) (code : String) (culture : Option String) :
    Reason → Option String
  | .custom f => f code culture
  | .registry name => (registries name).denialReason code
  | .chain providers => firstAnswer registries code culture providers

/-- The first answer of several providers. -/
def firstAnswer (registries : Registries) (code : String) (culture : Option String) :
    List Reason → Option String
  | [] => none
  | p :: ps =>
    match answer registries code culture p with
    | some message => some message
    | none => firstAnswer registries code culture ps

end

/-- The text with each occurrence of `pattern` replaced; `skip` characters are still to be
dropped. -/
def substitute (pattern replacement : List Char) : Nat → List Char → List Char
  | _, [] => []
  | skip + 1, _ :: cs => substitute pattern replacement skip cs
  | 0, c :: cs =>
    if pattern.isPrefixOf (c :: cs) then
      replacement ++ substitute pattern replacement (pattern.length - 1) cs
    else c :: substitute pattern replacement 0 cs

/-- A provider that never answers. -/
def silent : Reason := .custom fun _ _ => none

/-- A provider that fills the code and the culture into a template, in that order.  If it is for
one culture, it answers for exactly that one. -/
def template (text : String) (only : Option String) : Reason :=
  .custom fun code culture =>
    if only.isSome && culture != only then none
    else
      let withCode := substitute "\x7bcode\x7d".toList code.toList 0 text.toList
      some (String.ofList
        (substitute "\x7bculture\x7d".toList (culture.getD "-").toList 0 withCode))

end Reason

end Gatehouse
