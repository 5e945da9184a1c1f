import SuiteTree.Settings.Yaml.Scalar
import SuiteTree.Settings.Yaml.Token

/-!
# YAML

Mappings and sequences, nested by indentation or in brackets and braces; scalars with and without
quotes; block texts; tags, anchors and references to values; and several documents in one text. Keys
that are not texts are dropped from mappings, and of several entries with one key the last counts.
-/

namespace SuiteTree.Yaml

/-- A value, or nothing in place of one that does not fit its tag. -/
abbrev Node := Option Document

/-- The tokens that are left, and the values under anchors. An anchor is known from its mark on, but
its value only from its end on. -/
structure Reader where
  tokens : List Token
  /-- The numbers of anchors, by their names in this document. -/
  anchors : List (String × Nat) := []
  values : List (Nat × Node) := []
  /-- The anchors so far, in all documents. -/
  count : Nat := 0

/-- A reader of values of type `α`. -/
abbrev Read (α : Type) := StateT Reader Option α

namespace Read

/-- No text is accepted. -/
def reject {α : Type} : Read α := fun _ => none

/-- The next token, which stays. -/
def peek : Read (Option Token) := do pure (← get).tokens.head?

/-- Go past a token. -/
def advance : Read Unit :=
  modify fun r => { r with tokens := r.tokens.drop 1 }

/-- The next token is one of several. -/
def isAt (ts : List Token) : Read Bool := do
  pure ((← peek).any ts.contains)

/-- Go past a token if it comes next, and say whether it did. -/
def skip? (t : Token) : Read Bool := do
  if ← isAt [t] then do advance; pure true
  else pure false

/-- Go past a token that must come next. -/
def expect (t : Token) : Read Unit := do
  if ← skip? t then pure () else reject

end Read

/-- What stands before a value: its tag and the number of its anchor. -/
structure Properties where
  tag : Option Tag := none
  anchor : Option Nat := none

namespace Properties

/-- Read a tag, if there is one. -/
def readTag (p : Properties) : Read Properties := do
  match ← Read.peek with
  | some (.tag tag) => do
    Read.advance
    pure { p with tag := some tag }
  | _ => pure p

/-- Read an anchor, if there is one. -/
def readAnchor (p : Properties) : Read Properties := do
  match ← Read.peek with
  | some (.anchor name) => do
    Read.advance
    let number := (← get).count
    modify fun r => { r with anchors := (name, number) :: r.anchors, count := number + 1 }
    pure { p with anchor := some number }
  | _ => pure p

/-- Read a tag and an anchor, in either order. -/
def read : Read Properties := do
  match ← Read.peek with
  | some (.tag _) => do (← readTag {}).readAnchor
  | _ => do (← readAnchor {}).readTag

/-- Keep a value under its anchor. -/
def keep (p : Properties) (n : Node) : Read Node := do
  match p.anchor with
  | some number => modify fun r => { r with values := (number, n) :: r.values }
  | none => pure ()
  pure n

end Properties

/-- The value of a name. Inside the value itself it stands for nothing. -/
def referred (name : String) : Read Node := do
  let r ← get
  match r.anchors.lookup name with
  | some number => pure (r.values.lookup number).join
  | none => Read.reject

/-- A sequence of nodes. -/
def listOf (nodes : List Node) : Document :=
  .list (nodes.map fun n => n.getD .null)

/-- The entries of a mapping from its keys and values, one after the other, after a key without its
value and the entries already made. A node that does not fit its tag is no key: the next one takes
its place. Only texts are kept as keys. -/
def entriesOf (before : List (String × Document)) : Node → List Node → List (String × Document)
  | _, [] => before
  | none, n :: rest => entriesOf before n rest
  | some (.text k), n :: rest => entriesOf (Document.insert before k (n.getD .null)) none rest
  | some _, _ :: rest => entriesOf before none rest

/-- A mapping of nodes, which are keys and values in turn. -/
def tableOf (nodes : List Node) : Document :=
  .table (entriesOf [] none nodes)

/-- A value that is left out. -/
def missing : Node := some .null

mutual

/-- A value. It is nested by indentation only if `nests` says so, and a sequence whose dashes stand
no deeper than its parent only if `flush` says so. -/
def node (nests flush : Bool) : (fuel : Nat) → Read Node
  | 0 => Read.reject
  | fuel + 1 => do
    match ← Read.peek with
    | some (.reference name) => do
      Read.advance
      referred name
    | _ => do
      let p ← Properties.read
      let n ← content nests flush p fuel
      p.keep n

/-- A value after its properties. With properties it may be left out. -/
def content (nests flush : Bool) (p : Properties) : (fuel : Nat) → Read Node
  | 0 => Read.reject
  | fuel + 1 => do
    let absent : Read Node :=
      if p.tag.isSome || p.anchor.isSome then pure (scalarValue? p.tag "") else Read.reject
    match ← Read.peek with
    | some (.scalar isPlain text) => do
      Read.advance
      pure (if isPlain then scalarValue? p.tag text else some (.text text))
    | some .flowSequence => do
      Read.advance
      pure (some (listOf (← flowItems true fuel)))
    | some .flowMapping => do
      Read.advance
      pure (some (tableOf (← flowMembers true fuel)))
    | some .blockSequence =>
      if nests then do
        Read.advance
        pure (some (listOf (← items fuel)))
      else absent
    | some .blockMapping =>
      if nests then do
        Read.advance
        pure (some (tableOf (← members fuel)))
      else absent
    | some .dash => if flush then do pure (some (listOf (← flushItems fuel))) else absent
    | _ => absent

/-- The items of a sequence in brackets, and the closing one. All but the first follow a comma. -/
def flowItems (first : Bool) : (fuel : Nat) → Read (List Node)
  | 0 => Read.reject
  | fuel + 1 => do
    if ← Read.skip? .flowSequenceEnd then pure []
    else do
      if !first then Read.expect .comma
      if ← Read.skip? .flowSequenceEnd then pure []
      else do
        let item ← if ← Read.skip? .key then pair fuel else node false false fuel
        pure (item :: (← flowItems false fuel))

/-- A mapping of one entry without braces, after the mark of its key. If the key is left out, the
token after it is dropped. -/
def pair : (fuel : Nat) → Read Node
  | 0 => Read.reject
  | fuel + 1 => do
    let k ← if ← Read.isAt [.value, .comma, .flowSequenceEnd] then do
        Read.advance
        pure missing
      else node false false fuel
    let v ← flowValue .flowSequenceEnd fuel
    pure (some (tableOf [k, v]))

/-- The value of an entry, if there is one; `closing` ends what the entry belongs to. -/
def flowValue (closing : Token) : (fuel : Nat) → Read Node
  | 0 => Read.reject
  | fuel + 1 => do
    if !(← Read.skip? .value) then pure missing
    else if ← Read.isAt [.comma, closing] then pure missing
    else node false false fuel

/-- The keys and values of a mapping in braces, and the closing one. All but the first key follow a
comma. -/
def flowMembers (first : Bool) : (fuel : Nat) → Read (List Node)
  | 0 => Read.reject
  | fuel + 1 => do
    if ← Read.skip? .flowMappingEnd then pure []
    else do
      if !first then Read.expect .comma
      if ← Read.skip? .flowMappingEnd then pure []
      else do
        let marked ← Read.skip? .key
        let omitted ← Read.isAt (if marked then [.value, .comma, .flowMappingEnd] else [.value])
        let k ← if omitted then pure missing else node false false fuel
        let v ← if marked || omitted then flowValue .flowMappingEnd fuel else pure missing
        pure (k :: v :: (← flowMembers false fuel))

/-- The value after a mark of a mapping, if there is one. -/
def afterMark : (fuel : Nat) → Read Node
  | 0 => Read.reject
  | fuel + 1 => do
    if ← Read.isAt [.key, .value, .blockEnd] then pure missing else node true true fuel

/-- The keys and values of a mapping, and its end. -/
def members : (fuel : Nat) → Read (List Node)
  | 0 => Read.reject
  | fuel + 1 => do
    if ← Read.skip? .blockEnd then pure []
    else do
      let k ← if ← Read.skip? .key then afterMark fuel
        else if ← Read.isAt [.value] then pure missing
        else Read.reject
      let v ← if ← Read.skip? .value then afterMark fuel else pure missing
      pure (k :: v :: (← members fuel))

/-- The items of a sequence, and its end. -/
def items : (fuel : Nat) → Read (List Node)
  | 0 => Read.reject
  | fuel + 1 => do
    if ← Read.skip? .blockEnd then pure []
    else do
      Read.expect .dash
      let item ← if ← Read.isAt [.dash, .blockEnd] then pure missing else node true false fuel
      pure (item :: (← items fuel))

/-- The items of a sequence whose dashes stand in the column of its parent. -/
def flushItems : (fuel : Nat) → Read (List Node)
  | 0 => Read.reject
  | fuel + 1 => do
    if ← Read.skip? .dash then do
      let item ← if ← Read.isAt [.dash, .key, .value, .blockEnd] then pure missing
        else node true false fuel
      pure (item :: (← flushItems fuel))
    else pure []

end

/-- Go past tokens of one kind. -/
def skipAll (t : Token) : Read Unit :=
  modify fun r => { r with tokens := r.tokens.dropWhile (· == t) }

/-- The value of a document that is separated from what is before it. It may be left out. -/
def separated (fuel : Nat) : Read Node := do
  skipAll .directive
  Read.expect .documentStart
  if (← get).tokens.isEmpty || (← Read.isAt [.directive, .documentStart, .documentEnd]) then
    pure missing
  else node true false fuel

/-- The documents of a text. Only the first one need not be separated. -/
def documents (first : Bool) : (fuel : Nat) → Read (List Node)
  | 0 => Read.reject
  | fuel + 1 => do
    if !first then skipAll .documentEnd
    if (← get).tokens.isEmpty then pure []
    else do
      let bare ← if first then do pure !(← Read.isAt [.directive, .documentStart]) else pure false
      modify fun r => { r with anchors := [] }
      let n ← if bare then node true false fuel else separated fuel
      pure (n :: (← documents false fuel))

/-- Read the only document of a text, which ends at a zero character. A text without a document is
an empty mapping. -/
def read (text : String) : Option Document := do
  let ts ← tokens (text.toList.takeWhile (· != '\x00'))
  let (nodes, _) ← (documents true (4 * ts.length + 8)).run { tokens := ts }
  match nodes with
  | [] => some (.table [])
  | [n] => some (n.getD .null)
  | _ => none

end SuiteTree.Yaml
