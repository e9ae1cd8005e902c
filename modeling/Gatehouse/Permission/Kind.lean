/-
Kinds of permission.

Kinds form trees: each is a root or stands under a parent.  Those under the
permission root that are identifiable have a code, whose segments name the kinds
on the way down from the root, the root left out.  A kind is named in its code by
its identity, a short digest of its path, so that the code does not depend on
what the kind is called.
-/
import Gatehouse.Permission.Code
import Gatehouse.Digest.Sha256
import Gatehouse.Text.Hex

namespace Gatehouse

/-- A kind of permission, with all that stands above it. -/
inductive Kind where
  /-- A root, which is called by its path. -/
  | root (path : String)
  /-- A kind under a parent.  One that is not identifiable only groups the kinds below it. -/
  | under (parent : Kind) (path name : String) (description : Option String) (identifiable : Bool)
  deriving DecidableEq, Inhabited

namespace Kind

/-- The path of the root under which kinds have codes. -/
def rootPath : String := "keystone::Permission"

/-- The root under which kinds have codes. -/
def permissionRoot : Kind := .root rootPath

/-- A kind that groups others and has no code. -/
def grouping (parent : Kind) (path name : String) : Kind := .under parent path name none false

/-- The path, which tells kinds apart. -/
def path : Kind → String
  | .root path => path
  | .under _ path _ _ _ => path

/-- What the kind is called. -/
def name : Kind → String
  | .root path => path
  | .under _ _ name _ _ => name

/-- What the kind is for. -/
def description : Kind → Option String
  | .root _ => none
  | .under _ _ _ description _ => description

/-- The kind it stands under. -/
def parent : Kind → Option Kind
  | .root _ => none
  | .under parent _ _ _ _ => some parent

/-- Whether the kind may have a code. -/
def identifiable : Kind → Bool
  | .root _ => false
  | .under _ _ _ _ identifiable => identifiable

/-- Whether it is the permission root. -/
def isPermissionRoot : Kind → Bool
  | .root path => path == rootPath
  | .under _ _ _ _ _ => false

/-- Whether the permission root stands above it. -/
def descendsFromRoot : Kind → Bool
  | .root _ => false
  | .under parent _ _ _ _ => parent.isPermissionRoot || parent.descendsFromRoot

/-- Whether a kind with the path of `ancestor` stands above it. -/
def isSubkindOf : Kind → Kind → Bool
  | .root _, _ => false
  | .under parent _ _ _ _, ancestor =>
    parent.path == ancestor.path || parent.isSubkindOf ancestor

/-- The kinds from below the root down to this one. -/
def descent : Kind → List Kind
  | .root _ => []
  | .under parent path name description identifiable =>
    parent.descent ++ [.under parent path name description identifiable]

/-- The same for all kinds that are not roots, and a root alone. -/
def lineage (k : Kind) : List Kind := if k.parent.isNone then [k] else k.descent

/-- The name of a path inside codes: the first eight bytes of its digest, in hexadecimal. -/
def identityOf (path : String) : String :=
  Text.Hex.encode ((sha256 (Text.utf8 path.toList)).take 8)

/-- The name of the kind inside codes. -/
def identity (k : Kind) : String := identityOf k.path

/-- The kind's code: the identities of its lineage.  Only identifiable kinds under the permission
root have one. -/
def code (k : Kind) : Option Code :=
  if k.identifiable && k.descendsFromRoot then
    some ⟨String.ofList (joinPoints (k.lineage.map fun a => a.identity.toList))⟩
  else none

end Kind

end Gatehouse
