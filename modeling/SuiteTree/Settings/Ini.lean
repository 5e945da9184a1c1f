import SuiteTree.Settings.Document
import SuiteTree.Settings.Scan
import SuiteTree.Text.WhiteSpace

/-!
# INI

Entries, in sections or before the first one; all values are texts. Comments start with a semicolon
or a number sign, also after a value. A backslash escapes the next character everywhere but in
comments.
-/

namespace SuiteTree.Ini

/-- A mark that starts a comment. -/
def startsComment (c : Char) : Bool :=
  c == ';' || c == '#'

/-- A mark between a key and its value. -/
def endsKey (c : Char) : Bool :=
  c == '=' || c == ':'

/-- A mark that ends a value which has no quotes. -/
def endsValue (c : Char) : Bool :=
  c == '\n' || c == '\r' || startsComment c

/-- What a character after a backslash stands for. -/
def unescape (c : Char) : List Char :=
  match c with
  | '0' => ['\x00']
  | 'a' => ['\x07']
  | 'b' => ['\x08']
  | 't' => ['\t']
  | 'r' => ['\r']
  | 'n' => ['\n']
  | '\n' => []
  | c => [c]

/-- The text up to a character that satisfies `stop`, which stays. The end of the text stops it as
well if `orEnd` says so. A backslash and an `x` stand before the four digits of a code. -/
def upTo (stop : Char → Bool) (orEnd : Bool) : List Char → Option (List Char × List Char)
  | [] => if orEnd then some ([], []) else none
  | '\\' :: 'x' :: rest =>
    match rest with
    | a :: b :: c :: d :: rest => do
      let x ← (Digits.unsigned? 16 [a, b, c, d]).bind Digits.charOf?
      let (cs, after) ← upTo stop orEnd rest
      some (x :: cs, after)
    | _ => none
  | '\\' :: c :: rest => do
    let (cs, after) ← upTo stop orEnd rest
    some (unescape c ++ cs, after)
  | c :: rest =>
    if stop c then some ([], c :: rest)
    else if c = '\\' then none
    else do
      let (cs, after) ← upTo stop orEnd rest
      some (c :: cs, after)

/-- A value, which may be quoted at its start. The quoted part may go over several lines and contain
marks of comments. -/
def value : Scan (List Char) := do
  Scan.skipWhile fun c => Text.isWhiteSpace c && c != '\n' && c != '\r'
  match ← Scan.peek with
  | some c =>
    if c = '"' ∨ c = '\'' then do
      Scan.drop 1
      let quoted ← Scan.ofFunction (upTo (· == c) false)
      Scan.drop 1
      pure (quoted ++ (← Scan.ofFunction (upTo endsValue true)))
    else Scan.ofFunction (upTo endsValue true)
  | none => pure []

/-- A document that is being read. -/
structure Draft where
  /-- The current section. -/
  current : Option String := none
  /-- The key that waits for its value. -/
  key : List Char := []
  entries : List (String × Document) := []

/-- Give the waiting key a value in the current section. -/
def Draft.add (d : Draft) (text : List Char) : Draft :=
  let k := String.ofList d.key
  let v : Document := .text (String.ofList (Text.trim text))
  let entries := match d.current with
    | none => Document.insert d.entries k v
    | some name =>
      let inner := ((d.entries.lookup name).map Document.entries).getD []
      Document.insert d.entries name (.table (Document.insert inner k v))
  { d with key := [], entries }

/-- The sections and entries of a text, after those already read. -/
def parts : (fuel : Nat) → Draft → Scan Draft
  | 0, _ => Scan.reject
  | fuel + 1, d => do
    Scan.skipWhile Text.isWhiteSpace
    match ← Scan.peek with
    | none => pure d
    | some '[' => do
      Scan.drop 1
      let name ← Scan.ofFunction (upTo (· == ']') false)
      Scan.drop 1
      let name := String.ofList (Text.trim name)
      let entries := if (d.entries.lookup name).isSome then d.entries
        else d.entries ++ [(name, .table [])]
      parts fuel { d with current := some name, entries }
    | some c =>
      if startsComment c then do
        Scan.skipWhile (· != '\n')
        parts fuel d
      else if endsKey c then
        if d.key.isEmpty then Scan.reject
        else do
          Scan.drop 1
          let v ← value
          parts fuel (d.add v)
      else do
        let k ← Scan.ofFunction (upTo endsKey false)
        parts fuel { d with key := Text.trim k }

/-- Read a document. -/
def read (text : String) : Option Document :=
  let cs := text.toList
  (Scan.whole (parts (Scan.fuelFor cs) {}) cs).map fun d => .table d.entries

end SuiteTree.Ini
