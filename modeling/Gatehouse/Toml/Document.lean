/-
TOML documents.

A document is a list of lines, each of which opens a table or gives a value to a
key.  The tables are built as the lines come.  A table remembers how it came to
be, because that decides who may add to it: one opened by a header of its own is
closed to dotted keys from outside and may not be opened again; one that was only
passed through on the way to another may still be opened; and one made by dotted
keys is extended by dotted keys alone.
-/
import Gatehouse.Toml.Scalar

namespace Gatehouse.Toml

/-! ### Tables under construction -/

/-- How a table came to be. -/
inductive Origin where
  /-- It was opened by a header of its own. -/
  | header
  /-- A header passed through it. -/
  | passage
  /-- Dotted keys made it. -/
  | dotted
  deriving DecidableEq

/-- What a key stands for while a document is being read. -/
inductive Item where
  /-- A value that is complete. -/
  | value (v : Value)
  /-- A table that may grow. -/
  | table (origin : Origin) (members : List (String × Item))
  /-- A series of tables: those complete, latest first, and the one that may grow. -/
  | series (complete : List (List (String × Item))) (latest : List (String × Item))

/-- The members of a table that may grow. -/
abbrev Members := List (String × Item)

/-- What the members hold under a key. -/
def Members.find (key : String) : Members → Option Item
  | [] => none
  | m :: ms => if m.1 = key then some m.2 else Members.find key ms

/-- The members with another item under a key they have. -/
def Members.replace (key : String) (item : Item) (ms : Members) : Members :=
  ms.map fun m => if m.1 = key then (key, item) else m

/-- Applies a change to the table at the end of a path of header names.  Tables on the way that do
not exist are made. -/
def changeAt : List String → (Members → Option Members) → Members → Option Members
  | [], change, ms => change ms
  | p :: ps, change, ms =>
    match ms.find p with
    | none => (changeAt ps change []).map fun t => ms ++ [(p, .table .passage t)]
    | some (.value _) => none
    | some (.table origin t) =>
      (changeAt ps change t).map fun t => ms.replace p (.table origin t)
    | some (.series complete latest) =>
      (changeAt ps change latest).map fun t => ms.replace p (.series complete t)

/-- Opens the table of the given name. -/
def openTable (key : String) (ms : Members) : Option Members :=
  match ms.find key with
  | none => some (ms ++ [(key, .table .header [])])
  | some (.table .passage t) => some (ms.replace key (.table .header t))
  | some _ => none

/-- Opens the next table of the series of the given name. -/
def openNext (key : String) (ms : Members) : Option Members :=
  match ms.find key with
  | none => some (ms ++ [(key, .series [] [])])
  | some (.series complete latest) => some (ms.replace key (.series (latest :: complete) []))
  | some _ => none

/-- Gives a value to a dotted key, whose last name is given apart. -/
def assign : List String → String → Value → Members → Option Members
  | [], key, v, ms =>
    match ms.find key with
    | none => some (ms ++ [(key, .value v)])
    | some _ => none
  | p :: ps, key, v, ms =>
    match ms.find p with
    | none => (assign ps key v []).map fun t => ms ++ [(p, .table .dotted t)]
    | some (.value _) => none
    | some (.table origin t) =>
      if origin = .header ∨ (ps = [] ∧ origin ≠ .dotted) then none
      else (assign ps key v t).map fun t => ms.replace p (.table origin t)
    | some (.series complete latest) =>
      if ps = [] then none
      else (assign ps key v latest).map fun t => ms.replace p (.series complete t)

mutual

/-- The finished value of an item. -/
def Item.finish : Item → Value
  | .value v => v
  | .table _ ms => .table (finishMembers ms)
  | .series complete latest =>
    .array ((finishAll complete).reverse ++ [.table (finishMembers latest)])

/-- The finished values of members. -/
def finishMembers : List (String × Item) → List (String × Value)
  | [] => []
  | m :: ms => finishMember m :: finishMembers ms

/-- The finished value of one member. -/
def finishMember : String × Item → String × Value
  | (key, item) => (key, item.finish)

/-- The finished values of tables. -/
def finishAll : List (List (String × Item)) → List Value
  | [] => []
  | t :: ts => .table (finishMembers t) :: finishAll ts

end

/-! ### Keys -/

/-- How deep values may nest, and how long a dotted key may be, less one. -/
def depthLimit : Nat := 79

/-- Whether a character may stand in a key without quotes. -/
def isBare (c : Char) : Bool := c.isAlphanum || c == '_' || c == '-'

/-- One name of a key. -/
def readName : List Char → Option (String × List Char)
  | '"' :: rest => (readBasic rest).map fun p => (String.ofList p.1, p.2)
  | '\'' :: rest => (readLiteral rest).map fun p => (String.ofList p.1, p.2)
  | cs =>
    match cs.takeWhile isBare with
    | [] => none
    | name => some (String.ofList name, cs.dropWhile isBare)

/-- A dotted key: the names before the last, the last one, and what follows. -/
def readKey : Nat → List Char → Option (List String × String × List Char)
  | 0, _ => none
  | fuel + 1, cs =>
    match readName (skipBlanks cs) with
    | none => none
    | some (name, rest) =>
      match skipBlanks rest with
      | '.' :: rest => (readKey fuel rest).map fun p => (name :: p.1, p.2)
      | rest => some ([], name, rest)

/-! ### Values -/

/-- The text from its first character that is no blank, line end or comment. -/
def skipLayout : Bool → List Char → List Char
  | _, [] => []
  | _, '\r' :: '\n' :: rest => skipLayout false rest
  | inComment, c :: rest =>
    if c = '\n' then skipLayout false rest
    else if inComment then (if isPlain c then skipLayout true rest else c :: rest)
    else if isBlank c then skipLayout false rest
    else if c = '#' then skipLayout true rest
    else c :: rest

mutual

/-- A value, with `depth` more levels of nesting allowed. -/
def readValue : Nat → Nat → List Char → Option (Value × List Char)
  | 0, _, _ => none
  | fuel + 1, depth, cs =>
    match cs with
    | 't' :: 'r' :: 'u' :: 'e' :: rest => some (.bool, rest)
    | 'f' :: 'a' :: 'l' :: 's' :: 'e' :: rest => some (.bool, rest)
    | 'i' :: 'n' :: 'f' :: rest => some (.float, rest)
    | 'n' :: 'a' :: 'n' :: rest => some (.float, rest)
    | '[' :: rest =>
      if depth = 0 then none
      else (readItems fuel (depth - 1) rest).map fun p => (.array p.1, p.2)
    | '\x7b' :: rest =>
      if depth = 0 then none
      else
        match skipBlanks rest with
        | '\x7d' :: rest => some (.table [], rest)
        | rest =>
          (readInline fuel (depth - 1) [] rest).map fun p => (.table (finishMembers p.1), p.2)
    | c :: _ =>
      if c = '"' || c = '\'' then (readText cs).map fun p => (.text p.1, p.2)
      else if c = '+' || c = '-' || c.isDigit then readNumberOrTime cs
      else none
    | [] => none

/-- The items of an array up to its closing bracket. -/
def readItems : Nat → Nat → List Char → Option (List Value × List Char)
  | 0, _, _ => none
  | fuel + 1, depth, cs =>
    match skipLayout false cs with
    | ']' :: rest => some ([], rest)
    | rest =>
      match readValue fuel depth rest with
      | none => none
      | some (v, rest) =>
        match skipLayout false rest with
        | ']' :: rest => some ([v], rest)
        | ',' :: rest => (readItems fuel depth rest).map fun p => (v :: p.1, p.2)
        | _ => none

/-- The members of a table between braces, added to those read before. -/
def readInline : Nat → Nat → Members → List Char → Option (Members × List Char)
  | 0, _, _, _ => none
  | fuel + 1, depth, ms, cs =>
    match readKey depthLimit cs with
    | some (path, key, '=' :: rest) =>
      match readValue fuel depth (skipBlanks rest) with
      | none => none
      | some (v, rest) =>
        match assign path key v ms with
        | none => none
        | some ms =>
          match skipBlanks rest with
          | '\x7d' :: rest => some (ms, rest)
          | ',' :: rest => readInline fuel depth ms rest
          | _ => none
    | _ => none

end

/-! ### Lines -/

/-- What follows the end of a line, before which blanks and a comment may stand. -/
def endLine (cs : List Char) : Option (List Char) :=
  let rest := skipBlanks cs
  let rest := if rest.head? = some '#' then rest.dropWhile isPlain else rest
  if rest = [] then some [] else newline? rest

/-- A document as far as it has been read: its tables, and the path of the one that lines add to. -/
structure Draft where
  /-- The members of the outermost table. -/
  root : Members
  /-- The path of the table opened last. -/
  path : List String

/-- One line that is not blank, and what follows it. -/
def readLine (draft : Draft) (cs : List Char) : Option (Draft × List Char) :=
  match cs with
  | '[' :: '[' :: rest =>
    match readKey depthLimit rest with
    | some (path, key, ']' :: ']' :: rest) => do
      return (⟨← changeAt path (openNext key) draft.root, path ++ [key]⟩, ← endLine rest)
    | _ => none
  | '[' :: rest =>
    match readKey depthLimit rest with
    | some (path, key, ']' :: rest) => do
      return (⟨← changeAt path (openTable key) draft.root, path ++ [key]⟩, ← endLine rest)
    | _ => none
  | _ =>
    match readKey depthLimit cs with
    | some (path, key, '=' :: rest) => do
      let (v, rest) ← readValue (2 * cs.length + 2) depthLimit (skipBlanks rest)
      return ({ draft with root := ← changeAt draft.path (assign path key v) draft.root },
        ← endLine rest)
    | _ => none

/-- The lines of a document, added to what was read before. -/
def readLines : Nat → Draft → List Char → Option Draft
  | 0, _, _ => none
  | fuel + 1, draft, cs =>
    match skipBlanks cs with
    | [] => some draft
    | c :: rest =>
      if c = '#' || c = '\n' || c = '\r' then
        match endLine (c :: rest) with
        | some rest => readLines fuel draft rest
        | none => none
      else
        match readLine draft (c :: rest) with
        | some (draft, rest) => readLines fuel draft rest
        | none => none

/-- The table that a whole document stands for.  A byte order mark before it is ignored. -/
def read? (s : String) : Option Value :=
  let cs := s.toList
  let cs := if cs.head? = some (Char.ofNat 0xFEFF) then cs.drop 1 else cs
  (readLines (cs.length + 1) ⟨[], []⟩ cs).map fun draft => .table (finishMembers draft.root)

end Gatehouse.Toml
