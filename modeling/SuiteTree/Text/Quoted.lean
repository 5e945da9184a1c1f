import SuiteTree.Text.Invisible
import SuiteTree.Text.Combining

/-!
# Quoted text

A string inside a failure record is written between quotes. Quotes and backslashes are escaped, and
so is every character that a reader could not see or could mistake for part of its neighbour.
-/

namespace SuiteTree.Text

/-- A code point in braces: `\u{301}`. -/
def escapeCode (c : Char) : List Char :=
  ['\\', 'u', '\x7b'] ++ Nat.toDigits 16 c.toNat ++ ['\x7d']

/-- One character of a quoted text. -/
def quoteChar (c : Char) : List Char :=
  if c = '\x00' then ['\\', '0']
  else if c = '\t' then ['\\', 't']
  else if c = '\r' then ['\\', 'r']
  else if c = '\n' then ['\\', 'n']
  else if c = '\\' then ['\\', '\\']
  else if c = '"' then ['\\', '"']
  else if isCombining c || isInvisible c then escapeCode c
  else [c]

/-- The characters of a text between quotes. -/
def quoteChars (cs : List Char) : List Char :=
  '"' :: cs.flatMap quoteChar ++ ['"']

/-- A text between quotes, on one line and free of invisible characters. -/
def quote (s : String) : String :=
  String.ofList (quoteChars s.toList)

/-- The characters of a path between quotes. Beside what is escaped in every text, so are
apostrophes. -/
def quotePathChars (cs : List Char) : List Char :=
  '"' :: cs.flatMap (fun c => if c = '\'' then ['\\', '\''] else quoteChar c) ++ ['"']

/-- A path between quotes. -/
def quotePath (s : String) : String :=
  String.ofList (quotePathChars s.toList)

end SuiteTree.Text
