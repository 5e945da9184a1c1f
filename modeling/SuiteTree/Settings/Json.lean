import SuiteTree.Settings.Json.Number
import SuiteTree.Settings.Json.Text

/-!
# JSON

The strict grammar: no comments, no trailing commas, quoted keys, and at most 127 nested lists and
tables. Of several entries with one key the last counts.
-/

namespace SuiteTree.Json

/-- White space between tokens. -/
def isBlank (c : Char) : Bool :=
  c == ' ' || c == '\n' || c == '\t' || c == '\r'

/-- A text after its opening quote: controls only stand in it as escapes. -/
def text : Scan String := do
  pure (String.ofList (← Scan.ofFunction (textAfterQuote fun c => 32 ≤ c.toNat)))

/-- A character that can stand in a number. -/
def isNumeric (c : Char) : Bool :=
  c.isDigit || c == '-' || c == '+' || c == '.' || c == 'e' || c == 'E'

mutual

/-- A value, where `depth` more levels may be opened. -/
def value (depth : Nat) : (fuel : Nat) → Scan Document
  | 0 => Scan.reject
  | fuel + 1 => do
    Scan.skipWhile isBlank
    match ← Scan.peek with
    | some '"' => do
      Scan.drop 1
      pure (.text (← text))
    | some '[' =>
      if depth ≤ 1 then Scan.reject
      else do
        Scan.drop 1
        Scan.skipWhile isBlank
        if ← Scan.skip? "]" then pure (.list [])
        else do pure (.list (← items (depth - 1) fuel))
    | some '\x7b' =>
      if depth ≤ 1 then Scan.reject
      else do
        Scan.drop 1
        Scan.skipWhile isBlank
        if ← Scan.skip? "\x7d" then pure (.table [])
        else do pure (.table (← members (depth - 1) fuel []))
    | some 'n' => do Scan.expect "null"; pure .null
    | some 't' => do Scan.expect "true"; pure (.bool true)
    | some 'f' => do Scan.expect "false"; pure (.bool false)
    | _ => do
      match number? (← Scan.takeWhile isNumeric) with
      | some d => pure d
      | none => Scan.reject

/-- The items of a list and its closing bracket. -/
def items (depth : Nat) : (fuel : Nat) → Scan (List Document)
  | 0 => Scan.reject
  | fuel + 1 => do
    let first ← value depth fuel
    Scan.skipWhile isBlank
    if ← Scan.skip? "," then do pure (first :: (← items depth fuel))
    else do
      Scan.expect "]"
      pure [first]

/-- The entries of a table, after those already read, and its closing brace. -/
def members (depth : Nat) : (fuel : Nat) → List (String × Document) →
    Scan (List (String × Document))
  | 0, _ => Scan.reject
  | fuel + 1, before => do
    Scan.skipWhile isBlank
    Scan.expect "\""
    let key ← text
    Scan.skipWhile isBlank
    Scan.expect ":"
    let entries := Document.insert before key (← value depth fuel)
    Scan.skipWhile isBlank
    if ← Scan.skip? "," then members depth fuel entries
    else do
      Scan.expect "\x7d"
      pure entries

end

/-- Read a document. -/
def read (source : String) : Option Document :=
  let cs := source.toList
  Scan.whole (do
    let d ← value 128 (Scan.fuelFor cs)
    Scan.skipWhile isBlank
    pure d) cs

end SuiteTree.Json
