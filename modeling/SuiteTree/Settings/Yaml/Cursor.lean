import SuiteTree.Settings.Scan

/-!
# Reading YAML by lines and columns

A cursor knows the column and the line of the text that is left, because nesting is shown by
columns. Only a line feed starts a new line; a carriage return alone ends a line of text, but the
columns go on.
-/

namespace SuiteTree.Yaml

/-- A line end. -/
def isBreak (c : Char) : Bool :=
  c == '\n' || c == '\r'

/-- A blank inside a line. -/
def isBlank (c : Char) : Bool :=
  c == ' ' || c == '\t'

/-- A blank or a line end. -/
def isGap (c : Char) : Bool :=
  isBlank c || isBreak c

/-- A mark of the nested forms in brackets and braces. -/
def isFlowMark (c : Char) : Bool :=
  c == ',' || c == '[' || c == ']' || c == '\x7b' || c == '\x7d'

/-- A character of a name. -/
def isNameChar (c : Char) : Bool :=
  c.isAlphanum || c == '_' || c == '-'

/-- Nothing, a blank or a line end comes next. -/
def endsWord (cs : List Char) : Bool :=
  cs.head?.all isGap

/-- What is left of a text, and where it starts. -/
structure Cursor where
  rest : List Char
  /-- The characters before the rest. -/
  index : Nat := 0
  line : Nat := 0
  column : Nat := 0
  deriving Repr, DecidableEq

namespace Cursor

/-- The next character, which stays. -/
def peek (k : Cursor) : Option Char :=
  k.rest.head?

/-- Go past one character. -/
def step (k : Cursor) : Cursor :=
  match k.rest with
  | [] => k
  | '\n' :: rest => ⟨rest, k.index + 1, k.line + 1, 0⟩
  | _ :: rest => ⟨rest, k.index + 1, k.line, k.column + 1⟩

/-- Go past a number of characters. -/
def advance (k : Cursor) : Nat → Cursor
  | 0 => k
  | n + 1 => k.step.advance n

/-- Go past the characters that satisfy `p`. -/
def skipWhile (k : Cursor) (p : Char → Bool) : Cursor :=
  k.advance (k.rest.takeWhile p).length

/-- Go past a line end, which may be one of two characters. -/
def skipBreak (k : Cursor) : Cursor :=
  match k.rest with
  | '\r' :: '\n' :: _ => k.advance 2
  | c :: _ => if isBreak c then k.step else k
  | [] => k

/-- Go past the rest of a line. -/
def skipLine (k : Cursor) : Cursor :=
  k.skipWhile (!isBreak ·)

/-- Go past blanks and a comment to the end of the line, if nothing else is there. -/
def endOfLine? (k : Cursor) : Option Cursor :=
  let k := k.skipWhile isBlank
  let k := if k.peek == some '#' then k.skipLine else k
  if k.peek.all isBreak then some k.skipBreak else none

/-- A text and a word end come next, at the start of a line. -/
def atLineMark (k : Cursor) (mark : String) : Bool :=
  k.column == 0 && mark.toList.isPrefixOf k.rest && endsWord (k.rest.drop mark.length)

/-- A line that separates documents starts here. -/
def atSeparator (k : Cursor) : Bool :=
  k.atLineMark "---" || k.atLineMark "..."

end Cursor

end SuiteTree.Yaml
