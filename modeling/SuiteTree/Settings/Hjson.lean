import SuiteTree.Settings.Json.Text
import SuiteTree.Settings.Document
import SuiteTree.Text.WhiteSpace

/-!
# Hjson

Like JSON, but for people: comments, optional commas, keys and texts without quotes, and no braces
around the whole. A text without quotes reaches to the end of its line. A slash between tokens that
starts no comment is dropped.
-/

namespace SuiteTree.Hjson

/-- White space between tokens. -/
def isBlank (c : Char) : Bool :=
  c == ' ' || c == '\n' || c == '\t' || c == '\r'

/-- A mark that does not stand in a key, and does not start a text without quotes. -/
def isPunctuation (c : Char) : Bool :=
  c == '\x7b' || c == '\x7d' || c == '[' || c == ']' || c == ',' || c == ':'

/-- What follows a comment between slashes and stars. -/
def afterBlockComment : List Char → List Char
  | [] => []
  | '*' :: '/' :: rest => rest
  | _ :: rest => afterBlockComment rest

/-- Drop white space and comments. A slash must not be the last character. -/
def gaps : (fuel : Nat) → Scan Unit
  | 0 => Scan.reject
  | fuel + 1 => do
    Scan.skipWhile isBlank
    match ← get with
    | '#' :: _ => do Scan.skipWhile (· != '\n'); gaps fuel
    | '/' :: '/' :: _ => do Scan.skipWhile (· != '\n'); gaps fuel
    | '/' :: '*' :: rest => do set (afterBlockComment rest); gaps fuel
    | ['/'] => Scan.reject
    | '/' :: rest => do set rest; gaps fuel
    | _ => pure ()

/-- A text after its opening quote, in which controls may stand. -/
def text : Scan String := do
  pure (String.ofList (← Scan.ofFunction (Json.textAfterQuote fun _ => true)))

/-- A character that can stand in a number. -/
def isNumeric (c : Char) : Bool :=
  c.isDigit || c == '-' || c == '+' || c == '.' || c == 'e' || c == 'E'

/-- A whole number of 64 bits: from half of its range on, it counts as negative. -/
def wrapInt (n : Int) : Int :=
  if Document.fitsInt n then n else n - 18446744073709551616

/-- The value of a number, with white space and comments after it. -/
def number? (cs : List Char) : Option Document := do
  let d ← DecimalText.ofChars? (cs.takeWhile isNumeric)
  let _ ← Scan.whole (gaps (Scan.fuelFor cs)) (cs.dropWhile isNumeric)
  if d.whole.isEmpty || (d.whole.head? == some '0' && 1 < d.whole.length)
      || d.fraction == some [] then none
  else if d.isWhole then some (.int (wrapInt d.toInt))
  else some (.number d.toFloat)

/-- The value of a word without quotes, if it is not a text. Its first character shows what it can
be. -/
def word? (cs : List Char) : Option Document :=
  let spells (word : String) : Bool := Text.trim cs == word.toList
  match cs.head? with
  | some 'f' => if spells "false" then some (.bool false) else none
  | some 'n' => if spells "null" then some .null else none
  | some 't' => if spells "true" then some (.bool true) else none
  | _ => number? cs

/-- A character that ends a line. -/
def endsLine (c : Char) : Bool :=
  c == '\n' || c == '\r' || c == '\x00'

/-- A mark or a comment that ends a word which is not a text. -/
def endsWord : List Char → Bool
  | [] => true
  | '/' :: c :: _ => c == '/' || c == '*'
  | c :: _ => endsLine c || c == '#' || c == ',' || c == '\x7d' || c == ']'

/-- A value without quotes, after what was read of it before, and the rest of the text. -/
def unquoted (before : List Char) : List Char → Document × List Char
  | [] => ((word? before).getD (.text (String.ofList (Text.trim before))), [])
  | c :: rest =>
    match if endsWord (c :: rest) then word? before else none with
    | some d => (d, c :: rest)
    | none =>
      if endsLine c then (.text (String.ofList (Text.trim before)), rest)
      else unquoted (before ++ [c]) rest

/-- A text after three single quotes, and what follows the closing ones. The indentation of its
lines is dropped; `dropping` says how many blanks may still be dropped. -/
def lines (indent : Option Nat) (dropping : Option Nat) : List Char → Option (List Char × List Char)
  | [] => none
  | '\'' :: '\'' :: '\'' :: rest => some ([], rest)
  | c :: rest =>
    if dropping ≠ some 0 ∧ c ≠ '\n' ∧ isBlank c then lines indent (dropping.map (· - 1)) rest
    else if c = '\r' then lines indent (some 0) rest
    else do
      let (cs, after) ← lines indent (if c = '\n' then indent else some 0) rest
      some (c :: cs, after)

/-- The bytes that stand before the rest of a text on its line. -/
def column (whole rest : List Char) : Nat :=
  let seen := whole.take (whole.length - rest.length)
  (seen.reverse.takeWhile (· != '\n')).foldl (fun n c => n + c.utf8Size) 0

/-- A text between three single quotes on each side. It starts after a line end that follows the
opening ones, and ends before one that stands before the closing ones. As many blanks are dropped
from the start of its lines as bytes stand before it; all of them if it starts a line. -/
def quotedLines (whole : List Char) : Scan Document := do
  let cs ← get
  let start := column whole cs
  let indent := if start = 0 then none else some start
  let body := (cs.drop 3).dropWhile fun c => isBlank c && c != '\n'
  let onNextLine := body.head? == some '\n'
  let dropping := if onNextLine then indent else some 0
  match lines indent dropping (if onNextLine then body.drop 1 else body) with
  | some (text, after) => do
    set after
    pure (.text (String.ofList (if text.getLast? = some '\n' then text.dropLast else text)))
  | none => Scan.reject

/-- A key. Without quotes, blanks and controls may only stand between it and the colon. -/
def key : Scan String := do
  if ← Scan.skip? "\"" then text
  else do
    let cs ← Scan.takeWhile fun c => !isPunctuation c && c != '\x00'
    let name := cs.filter fun c => 32 < c.toNat
    let front := cs.takeWhile fun c => 32 < c.toNat
    if name.isEmpty || (front.length != name.length) || (← Scan.peek) != some ':' then Scan.reject
    else pure (String.ofList name)

mutual

/-- A value. -/
def value (whole : List Char) : (fuel : Nat) → Scan Document
  | 0 => Scan.reject
  | fuel + 1 => do
    gaps fuel
    match ← get with
    | [] => Scan.reject
    | '"' :: rest => do
      set rest
      pure (.text (← text))
    | '[' :: rest => do
      set rest
      pure (.list (← items whole fuel))
    | '\x7b' :: rest => do
      set rest
      pure (.table (← members whole true fuel []))
    | '\'' :: '\'' :: '\'' :: _ => quotedLines whole
    | c :: rest =>
      if isPunctuation c || c == '\x00' then Scan.reject
      else do
        let (d, after) := unquoted [] (c :: rest)
        set after
        pure d

/-- The items of a list and its closing bracket. -/
def items (whole : List Char) : (fuel : Nat) → Scan (List Document)
  | 0 => Scan.reject
  | fuel + 1 => do
    gaps fuel
    if ← Scan.skip? "]" then pure []
    else do
      let first ← value whole fuel
      gaps fuel
      let _ ← Scan.skip? ","
      pure (first :: (← items whole fuel))

/-- The entries of a table, after those already read, and its closing brace, unless the table is the
whole text and has no braces. -/
def members (whole : List Char) (braced : Bool) : (fuel : Nat) → List (String × Document) →
    Scan (List (String × Document))
  | 0, _ => Scan.reject
  | fuel + 1, before => do
    gaps fuel
    match ← Scan.peek with
    | some '\x7d' => if braced then do Scan.drop 1; pure before else Scan.reject
    | none => if braced then Scan.reject else pure before
    | some _ => do
      let k ← key
      gaps fuel
      Scan.expect ":"
      let entries := Document.insert before k (← value whole fuel)
      gaps fuel
      let _ ← Scan.skip? ","
      members whole braced fuel entries

end

/-- Read a document: a table without braces, or else any value. Without a value there is no
document. -/
def read (source : String) : Option Document :=
  let cs := source.toList
  let fuel := Scan.fuelFor cs
  let bare : Scan Document := do
    gaps fuel
    if (← Scan.peek).isNone then Scan.reject
    else pure (.table (← members cs false fuel []))
  let plain : Scan Document := do
    let d ← value cs fuel
    gaps fuel
    pure d
  (Scan.whole bare cs).or (Scan.whole plain cs)

end SuiteTree.Hjson
