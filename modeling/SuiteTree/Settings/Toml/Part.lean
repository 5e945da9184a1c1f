import SuiteTree.Settings.Document

/-!
# Tables in TOML

A document is a sequence of sections, each of which gives entries to the table that its header
names. Here they are put together. No entry and no table may be given twice: a dotted key only adds
to tables that were made by dotted keys of the same section, and a list of tables stays one.
-/

namespace SuiteTree.Toml

/-- A value under a key of one or several parts. -/
abbrev Entry := List String × Document

/-- The parts of several keys that follow the first. -/
def below (entries : List Entry) : List Entry :=
  entries.map fun (key, value) => (key.drop 1, value)

/-- Put together what the keys of one table say. Entries that share the first part of their keys
form a table, unless it is the whole key of one of them. -/
def tableOf : (fuel : Nat) → List Entry → Option (List (String × Document))
  | 0, _ => none
  | _, [] => some []
  | _, ([], _) :: _ => none
  | fuel + 1, (first :: more, value) :: rest => do
    let (alike, others) := rest.partition fun (key, _) => key.head? == some first
    let value ←
      if more.isEmpty then if alike.isEmpty then some value else none
      else (tableOf fuel ((more, value) :: below alike)).map .table
    some ((first, value) :: (← tableOf fuel others))

/-- Enough fuel to put entries together. -/
def fuelForEntries (entries : List Entry) : Nat :=
  entries.foldl (fun n (key, _) => n + key.length + 1) 1

/-- The table that entries give, if no two of them are at odds. -/
def table? (entries : List Entry) : Option (List (String × Document)) :=
  tableOf (fuelForEntries entries) entries

/-- A part of a document under one header. The part before the first header belongs to the document
itself and has an empty path. -/
structure Part where
  path : List String := []
  /-- The header starts one more table of a list. -/
  isItem : Bool := false
  entries : List (String × Document) := []

namespace Part

/-- The part starts an item of the list at hand. -/
def startsItem (part : Part) : Bool :=
  part.isItem && part.path.isEmpty

/-- The parts under a name, as seen from there. -/
def below (parts : List Part) : List Part :=
  parts.map fun part => { part with path := part.path.drop 1 }

/-- The first of several parts and those up to the next item. -/
def splitItems : List Part → List (Part × List Part)
  | [] => []
  | part :: rest =>
    match splitItems rest with
    | [] => [(part, [])]
    | (next, inner) :: items =>
      if next.startsItem then (part, []) :: (next, inner) :: items
      else (part, next :: inner) :: items

/-- Add the entries of one table to those that it has. -/
def addEntries (before entries : List (String × Document)) : Option (List (String × Document)) :=
  if entries.any fun (key, _) => (before.lookup key).isSome then none else some (before ++ entries)

/-- Put parts together. `named` says that the table at hand has had its own part, of which there is
only one. The first part under a name decides whether it is a table or a list of tables. -/
def assemble : (fuel : Nat) → (named : Bool) → (before : List (String × Document)) → List Part →
    Option (List (String × Document))
  | 0, _, _, _ => none
  | _, _, before, [] => some before
  | fuel + 1, named, before, part :: rest =>
    match part.path with
    | [] =>
      if named || part.isItem then none
      else do assemble fuel true (← addEntries before part.entries) rest
    | name :: _ => do
      let (alike, others) := rest.partition fun other => other.path.head? == some name
      let inner := below (part :: alike)
      let value : Document ←
        if (inner.head?.any startsItem) then do
          let items ← (splitItems inner).mapM fun (item, more) =>
            assemble fuel true item.entries more
          some (.list (items.map .table))
        else (assemble fuel false [] inner).map .table
      assemble fuel named (← addEntries before [(name, value)]) others

/-- Enough fuel to put parts together. -/
def fuelFor (parts : List Part) : Nat :=
  parts.foldl (fun n part => n + part.path.length + 1) 1

/-- The document that parts give, if no two of them are at odds. -/
def document? (parts : List Part) : Option Document :=
  (assemble (fuelFor parts) false [] parts).map .table

end Part

end SuiteTree.Toml
