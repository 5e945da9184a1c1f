import SuiteTree.Settings.Toml.Moment
import SuiteTree.Settings.Toml.Number
import SuiteTree.Settings.Toml.Part
import SuiteTree.Settings.Toml.Text

/-!
# TOML

A document is a sequence of lines: entries, headers of tables, and comments. No entry and no table
may be given twice.
-/

namespace SuiteTree.Toml

/-- The value of a word without quotes. -/
def word? (cs : List Char) : Option Document :=
  match String.ofList cs with
  | "true" => some (.bool true)
  | "false" => some (.bool false)
  | _ =>
    match Scan.whole moment cs with
    | some text => some (.text text)
    | none => number? cs

/-- A character of a word without quotes. -/
def isWordChar (c : Char) : Bool :=
  c.isAlphanum || c == '+' || c == '-' || c == '_' || c == '.' || c == ':'

/-- A word without quotes, with the time after a date and a blank. -/
def word : Scan Document := do
  let first ← Scan.takeWhile isWordChar
  let dated := (Scan.whole date first).isSome
  match ← Scan.peek, ← Scan.peekSecond with
  | some ' ', some c =>
    if dated && c.isDigit then do
      Scan.drop 1
      let second ← Scan.takeWhile isWordChar
      StateT.lift (word? (first ++ ' ' :: second))
    else StateT.lift (word? first)
  | _, _ => StateT.lift (word? first)

/-- A character of a key without quotes. -/
def isKeyChar (c : Char) : Bool :=
  c.isAlphanum || c == '-' || c == '_'

/-- One part of a key. -/
def keyPart : Scan String := do
  match ← Scan.peek with
  | some '"' => quotedLine
  | some '\'' => quotedLine
  | _ => do
    let cs ← Scan.takeWhile isKeyChar
    if cs.isEmpty then Scan.reject else pure (String.ofList cs)

/-- A key, as its parts between points, and the blanks after it. -/
def key : (fuel : Nat) → Scan (List String)
  | 0 => Scan.reject
  | fuel + 1 => do
    let part ← keyPart
    Scan.skipWhile isBlank
    if ← Scan.skip? "." then do
      Scan.skipWhile isBlank
      pure (part :: (← key fuel))
    else pure [part]

/-- Drop a comment. -/
def comment : Scan Unit := do
  if ← Scan.skip? "#" then Scan.skipWhile fun c => c == '\t' || 32 ≤ c.toNat

/-- Drop blanks, comments and line ends. -/
def gaps : (fuel : Nat) → Scan Unit
  | 0 => Scan.reject
  | fuel + 1 => do
    Scan.skipWhile isBlank
    match ← Scan.peek with
    | some '\n' => do Scan.drop 1; gaps fuel
    | some '#' => do comment; gaps fuel
    | _ => pure ()

mutual

/-- A value. -/
def value : (fuel : Nat) → Scan Document
  | 0 => Scan.reject
  | fuel + 1 => do
    match ← Scan.peek with
    | some '"' => do pure (.text (← quoted))
    | some '\'' => do pure (.text (← quoted))
    | some '[' => do
      Scan.drop 1
      pure (.list (← items fuel))
    | some '\x7b' => do
      Scan.drop 1
      Scan.skipWhile isBlank
      if ← Scan.skip? "\x7d" then pure (.table [])
      else do pure (.table (← StateT.lift (table? (← members fuel []))))
    | _ => word

/-- The items of a list and its closing bracket. A comma may stand after the last item. -/
def items : (fuel : Nat) → Scan (List Document)
  | 0 => Scan.reject
  | fuel + 1 => do
    gaps fuel
    if ← Scan.skip? "]" then pure []
    else do
      let first ← value fuel
      gaps fuel
      if ← Scan.skip? "," then do pure (first :: (← items fuel))
      else do
        Scan.expect "]"
        pure [first]

/-- The entries of a table on one line, after those already read, and its closing brace. -/
def members : (fuel : Nat) → List Entry → Scan (List Entry)
  | 0, _ => Scan.reject
  | fuel + 1, before => do
    let path ← key fuel
    Scan.expect "="
    Scan.skipWhile isBlank
    let entries := before ++ [(path, ← value fuel)]
    Scan.skipWhile isBlank
    if ← Scan.skip? "\x7d" then pure entries
    else do
      Scan.expect ","
      Scan.skipWhile isBlank
      members fuel entries

end

/-- The end of a line, after blanks and a comment. -/
def lineEnd : Scan Unit := do
  Scan.skipWhile isBlank
  comment
  match ← Scan.peek with
  | none => pure ()
  | _ => Scan.expect "\n"

/-- The header of a table: its path, and whether it starts an item of a list. -/
def header (fuel : Nat) : Scan (List String × Bool) := do
  let isItem ← Scan.skip? "[["
  if !isItem then Scan.drop 1
  Scan.skipWhile isBlank
  let path ← key fuel
  Scan.expect (if isItem then "]]" else "]")
  lineEnd
  pure (path, isItem)

/-- A key and its value. -/
def entry (fuel : Nat) : Scan Entry := do
  let path ← key fuel
  Scan.expect "="
  Scan.skipWhile isBlank
  let v ← value fuel
  lineEnd
  pure (path, v)

/-- The rest of a part, after the entries already read, and the parts that follow. -/
def parts (path : List String) (isItem : Bool) (before : List Entry) :
    (fuel : Nat) → Scan (List Part)
  | 0 => Scan.reject
  | fuel + 1 => do
    gaps fuel
    match ← Scan.peek with
    | none => do pure [⟨path, isItem, ← StateT.lift (table? before)⟩]
    | some '[' => do
      let part : Part := ⟨path, isItem, ← StateT.lift (table? before)⟩
      let (nextPath, nextIsItem) ← header fuel
      pure (part :: (← parts nextPath nextIsItem [] fuel))
    | some _ => do
      let e ← entry fuel
      parts path isItem (before ++ [e]) fuel

/-- Turn the two-character line ends into single ones. -/
def foldLineEnds : List Char → List Char
  | [] => []
  | '\r' :: '\n' :: rest => '\n' :: foldLineEnds rest
  | c :: rest => c :: foldLineEnds rest

/-- Read a document. A byte order mark at its start does not count. -/
def read (text : String) : Option Document :=
  let cs := foldLineEnds text.toList
  let cs := if cs.head? = some '\uFEFF' then cs.drop 1 else cs
  (Scan.whole (parts [] false [] (Scan.fuelFor cs)) cs).bind Part.document?

end SuiteTree.Toml
