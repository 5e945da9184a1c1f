import SuiteTree.Settings.Scan

/-!
# Quoted texts in TOML

Texts stand between one quote or three, double or single. Only double quotes know escapes, and only
three quotes may go over several lines.
-/

namespace SuiteTree.Toml

/-- A blank inside a line. -/
def isBlank (c : Char) : Bool :=
  c == ' ' || c == '\t'

/-- A character that stands for itself in a text on one line. -/
def isPlain (c : Char) : Bool :=
  c == '\t' || (32 ≤ c.toNat && c.toNat != 127)

/-- The character for a letter after a backslash. -/
def unescape? (c : Char) : Option Char :=
  match c with
  | '"' => some '"'
  | '\\' => some '\\'
  | 'b' => some '\x08'
  | 'f' => some '\x0c'
  | 'n' => some '\n'
  | 'r' => some '\r'
  | 't' => some '\t'
  | _ => none

/-- Put a character before the text that has been read. -/
def push (c : Char) (text : Option (List Char × List Char)) : Option (List Char × List Char) :=
  text.map fun (cs, after) => (c :: cs, after)

/-- A text on one line after its double quote, and what follows the closing one. -/
def basicText : List Char → Option (List Char × List Char)
  | [] => none
  | '"' :: rest => some ([], rest)
  | '\\' :: 'u' :: a :: b :: c :: d :: rest => do
    push (← Digits.toChar? [a, b, c, d]) (basicText rest)
  | '\\' :: 'U' :: a :: b :: c :: d :: e :: f :: g :: h :: rest => do
    push (← Digits.toChar? [a, b, c, d, e, f, g, h]) (basicText rest)
  | '\\' :: c :: rest => do push (← unescape? c) (basicText rest)
  | c :: rest => if isPlain c then push c (basicText rest) else none

/-- The end of a text after three closing quotes. Up to two more quotes belong to the text. -/
def closing (quote : Char) (rest : List Char) : List Char × List Char :=
  let more := (rest.takeWhile (· == quote)).take 2
  (more, rest.drop more.length)

/-- A text after three double quotes, and what follows the closing ones. A backslash at the end of a
line drops all blanks and line ends up to the next character; `skipping` says that one was met. -/
def basicLines (skipping : Bool) : List Char → Option (List Char × List Char)
  | [] => none
  | '"' :: '"' :: '"' :: rest => some (closing '"' rest)
  | '\\' :: 'u' :: a :: b :: c :: d :: rest => do
    push (← Digits.toChar? [a, b, c, d]) (basicLines false rest)
  | '\\' :: 'U' :: a :: b :: c :: d :: e :: f :: g :: h :: rest => do
    push (← Digits.toChar? [a, b, c, d, e, f, g, h]) (basicLines false rest)
  | '\\' :: c :: rest =>
    if c = '\n' then basicLines true rest
    else if isBlank c then
      if (rest.dropWhile isBlank).head? = some '\n' then basicLines true rest else none
    else do push (← unescape? c) (basicLines false rest)
  | c :: rest =>
    if skipping ∧ (c = '\n' ∨ isBlank c) then basicLines true rest
    else if c = '\n' ∨ isPlain c then push c (basicLines false rest)
    else none

/-- A text on one line after its single quote, and what follows the closing one. -/
def literalText : List Char → Option (List Char × List Char)
  | [] => none
  | '\'' :: rest => some ([], rest)
  | c :: rest => if isPlain c then push c (literalText rest) else none

/-- A text after three single quotes, and what follows the closing ones. -/
def literalLines : List Char → Option (List Char × List Char)
  | [] => none
  | '\'' :: '\'' :: '\'' :: rest => some (closing '\'' rest)
  | c :: rest => if c = '\n' ∨ isPlain c then push c (literalLines rest) else none

/-- A quoted text on one line. -/
def quotedLine : Scan String := do
  if ← Scan.skip? "\"" then pure (String.ofList (← Scan.ofFunction basicText))
  else do
    Scan.expect "'"
    pure (String.ofList (← Scan.ofFunction literalText))

/-- A quoted text. A line end right after three quotes does not belong to it. -/
def quoted : Scan String := do
  if ← Scan.skip? "\"\"\"" then do
    let _ ← Scan.skip? "\n"
    pure (String.ofList (← Scan.ofFunction (basicLines false)))
  else if ← Scan.skip? "'''" then do
    let _ ← Scan.skip? "\n"
    pure (String.ofList (← Scan.ofFunction literalLines))
  else quotedLine

end SuiteTree.Toml
