import SuiteTree.Settings.Yaml.Cursor

/-!
# Texts over several lines in YAML

A text between quotes, and one without them, may go over several lines: a single line end counts as
a blank, and of several the first is dropped. Block texts keep their lines, or fold them likewise.
-/

namespace SuiteTree.Yaml

/-- A text and what follows it. -/
abbrev Span := List Char × Cursor

/-- Blanks and line ends between two words of a text. Blanks after a line end do not count. -/
structure Gap where
  blanks : List Char := []
  breaks : Nat := 0
  deriving Repr, DecidableEq

namespace Gap

/-- What stands for the gap in the text. -/
def text (g : Gap) : List Char :=
  match g.breaks with
  | 0 => g.blanks
  | 1 => [' ']
  | n + 2 => List.replicate (n + 1) '\n'

/-- Read further blanks and line ends. Tabs in columns below `indent` are not accepted after a line
end. -/
def readMore (indent : Int) (g : Gap) (k : Cursor) : (fuel : Nat) → Option (Gap × Cursor)
  | 0 => none
  | fuel + 1 =>
    match k.peek with
    | none => some (g, k)
    | some c =>
      if isBreak c then readMore indent ⟨[], g.breaks + 1⟩ k.skipBreak fuel
      else if !isBlank c then some (g, k)
      else if g.breaks = 0 then readMore indent ⟨g.blanks ++ [c], 0⟩ k.step fuel
      else if c = '\t' ∧ k.column < indent then none
      else readMore indent g k.step fuel

/-- Read blanks and line ends. -/
def read (indent : Int) (k : Cursor) : Option (Gap × Cursor) :=
  readMore indent {} k (k.rest.length + 1)

end Gap

/-- The character for a letter after a backslash. -/
def unescape? (c : Char) : Option Char :=
  match c with
  | '0' => some '\x00'
  | 'a' => some '\x07'
  | 'b' => some '\x08'
  | 't' => some '\t'
  | '\t' => some '\t'
  | 'n' => some '\n'
  | 'v' => some '\x0b'
  | 'f' => some '\x0c'
  | 'r' => some '\r'
  | 'e' => some '\x1b'
  | ' ' => some ' '
  | '"' => some '"'
  | '\'' => some '\''
  | '\\' => some '\\'
  | 'N' => some '\u0085'
  | '_' => some '\u00a0'
  | 'L' => some '\u2028'
  | 'P' => some '\u2029'
  | _ => none

/-- The number of hexadecimal digits after a letter that starts a code. -/
def codeLength? (c : Char) : Option Nat :=
  match c with
  | 'x' => some 2
  | 'u' => some 4
  | 'U' => some 8
  | _ => none

/-- The character that an escape stands for, and what follows it. -/
def escape? (k : Cursor) : Option (Char × Cursor) := do
  let letter ← k.peek
  let after := k.step
  match codeLength? letter with
  | none => some (← unescape? letter, after)
  | some n =>
    let digits := after.rest.take n
    if digits.length = n then some (← Digits.toChar? digits, after.advance n) else none

/-- How a word between quotes ends. -/
inductive WordEnd
  | quote
  | gap
  /-- A line end that a backslash hides. -/
  | hiddenBreak

/-- A word of a text between quotes. -/
def quotedWord (quote : Char) (k : Cursor) : (fuel : Nat) → Option (List Char × WordEnd × Cursor)
  | 0 => none
  | fuel + 1 => do
    let onward (c : Char) (k : Cursor) : Option (List Char × WordEnd × Cursor) := do
      let (cs, ending, k) ← quotedWord quote k fuel
      some (c :: cs, ending, k)
    match k.rest with
    | [] => some ([], .gap, k)
    | c :: rest =>
      if isGap c then some ([], .gap, k)
      else if c = '\'' ∧ quote = '\'' ∧ rest.head? = some '\'' then onward '\'' (k.advance 2)
      else if c = quote then some ([], .quote, k)
      else if c = '\\' ∧ quote = '"' then
        if rest.head?.any isBreak then some ([], .hiddenBreak, k.step.skipBreak)
        else
          let (x, k) ← escape? k.step
          onward x k
      else onward c k.step

/-- The rest of a text between quotes. Lines that separate documents do not stand in it. -/
def quotedRest (quote : Char) (k : Cursor) : (fuel : Nat) → Option Span
  | 0 => none
  | fuel + 1 => do
    if k.atSeparator ∨ k.rest.isEmpty then none
    else
      let (word, ending, k) ← quotedWord quote k (k.rest.length + 1)
      if k.peek = some quote then some (word, k.step)
      else
        let (gap, k) ← Gap.read (-1) k
        let between := match ending with
          | .hiddenBreak => List.replicate gap.breaks '\n'
          | _ => gap.text
        let (more, k) ← quotedRest quote k fuel
        some (word ++ between ++ more, k)

/-- A text between quotes, the first of which comes next. -/
def quoted (k : Cursor) : Option Span := do
  quotedRest (← k.peek) k.step (k.rest.length + 1)

/-- A word of a text without quotes. It ends before a gap, and before a colon that ends a key;
inside brackets it also ends before their marks. -/
def plainWord (flow : Bool) : List Char → List Char
  | [] => []
  | c :: rest =>
    if isGap c then []
    else if c = ':' && (endsWord rest || (flow && rest.head?.any isFlowMark)) then []
    else if flow && isFlowMark c then []
    else c :: plainWord flow rest

/-- A text without quotes that has been read, and the gap after it. -/
structure Plain where
  text : List Char := []
  gap : Gap := {}
  cursor : Cursor

/-- Read the rest of a text without quotes. It goes on over lines that are indented by at least
`indent` columns, up to a comment or a line that separates documents. -/
def Plain.read (flow : Bool) (indent : Int) (p : Plain) : (fuel : Nat) → Option Plain
  | 0 => none
  | fuel + 1 =>
    if p.cursor.atSeparator ∨ p.cursor.peek = some '#' then some p
    else
      let word := plainWord flow p.cursor.rest
      let k := p.cursor.advance word.length
      let text := if word.isEmpty then p.text else p.text ++ p.gap.text ++ word
      let gap := if word.isEmpty then p.gap else {}
      if !k.peek.any isGap then some ⟨text, gap, k⟩
      else
        match gap.readMore indent k (k.rest.length + 1) with
        | none => none
        | some (gap, k) =>
          if !flow && k.column < indent then some ⟨text, gap, k⟩
          else Plain.read flow indent ⟨text, gap, k⟩ fuel

/-- A text without quotes. -/
def plain (flow : Bool) (indent : Int) (k : Cursor) : Option Plain :=
  Plain.read flow indent { cursor := k } (k.rest.length + 1)

/-- How the line ends at the end of a block text are treated. -/
inductive Chomp
  | strip
  | clip
  | keep
  deriving Repr, DecidableEq

/-- What follows the mark of a block text. -/
structure BlockHeader where
  chomp : Chomp := .clip
  /-- The indentation, counted from that of the parent; zero if the first line shows it. -/
  indent : Nat := 0

namespace BlockHeader

/-- Read how line ends are treated. -/
def readChomp (h : BlockHeader) (k : Cursor) : BlockHeader × Cursor :=
  match k.peek with
  | some '+' => ({ h with chomp := .keep }, k.step)
  | some '-' => ({ h with chomp := .strip }, k.step)
  | _ => (h, k)

/-- Read the indentation, which is not zero. -/
def readIndent (h : BlockHeader) (k : Cursor) : Option (BlockHeader × Cursor) :=
  match k.peek with
  | some c =>
    if c = '0' then none
    else if c.isDigit then some ({ h with indent := c.toNat - '0'.toNat }, k.step)
    else some (h, k)
  | none => some (h, k)

/-- Read both, in either order. -/
def read (k : Cursor) : Option (BlockHeader × Cursor) :=
  if k.peek.any Char.isDigit then do
    let (h, k) ← readIndent {} k
    some (h.readChomp k)
  else
    let (h, k) := ({} : BlockHeader).readChomp k
    h.readIndent k

end BlockHeader

/-- Empty lines and the indentation of the next line. -/
structure Margin where
  breaks : Nat := 0
  /-- The deepest column of a line so far. -/
  deepest : Nat := 0
  cursor : Cursor

/-- Go past empty lines and up to `indent` blanks of the next line, or all of its blanks if `indent`
is zero. -/
def Margin.read (indent : Nat) (m : Margin) : (fuel : Nat) → Option Margin
  | 0 => none
  | fuel + 1 =>
    let spaces := (m.cursor.rest.takeWhile (· == ' ')).length
    let k := m.cursor.advance (if indent = 0 then spaces else min spaces (indent - m.cursor.column))
    let deepest := max m.deepest k.column
    match k.peek with
    | some c =>
      if c = '\t' ∧ (indent = 0 ∨ k.column < indent) then none
      else if isBreak c then Margin.read indent ⟨m.breaks + 1, deepest, k.skipBreak⟩ fuel
      else some ⟨m.breaks, deepest, k⟩
    | none => some ⟨m.breaks, deepest, k⟩

/-- A block text that has been read: what is certain of it, whether a line end waits after it, and
the empty lines after that. -/
structure Block where
  text : List Char := []
  ended : Bool := false
  /-- The last line starts with a blank. -/
  loose : Bool := false
  margin : Margin

/-- Read the lines of a block text. When lines are folded, the line end between two lines that start
without a blank counts as a blank, unless empty lines stand between them. -/
def Block.read (folds : Bool) (indent : Nat) (b : Block) : (fuel : Nat) → Option Block
  | 0 => none
  | fuel + 1 =>
    let k := b.margin.cursor
    match k.peek with
    | none => some b
    | some c =>
      if k.column ≠ indent then some b
      else
        let loose := isBlank c
        let lineEnd :=
          if !b.ended then []
          else if folds && !b.loose && !loose then if b.margin.breaks = 0 then [' '] else []
          else ['\n']
        let line := k.rest.takeWhile (!isBreak ·)
        let text := b.text ++ lineEnd ++ List.replicate b.margin.breaks '\n' ++ line
        let k := k.advance line.length
        if k.rest.isEmpty then some ⟨text, false, loose, { cursor := k }⟩
        else do
          let k := k.skipBreak
          let margin ← Margin.read indent { cursor := k } (k.rest.length + 1)
          Block.read folds indent ⟨text, true, loose, margin⟩ fuel

/-- The text with the line ends that are kept. -/
def Block.chomped (b : Block) (chomp : Chomp) : List Char :=
  let last := if b.ended then ['\n'] else []
  match chomp with
  | .strip => b.text
  | .clip => b.text ++ last
  | .keep => b.text ++ last ++ List.replicate b.margin.breaks '\n'

/-- A block text, after its mark, inside a parent in column `parent`, or minus one. -/
def block (folds : Bool) (parent : Int) (k : Cursor) : Option Span := do
  let (header, k) ← BlockHeader.read k
  let k ← k.endOfLine?
  let given := if header.indent = 0 then 0 else parent.toNat + header.indent
  let margin ← Margin.read given { cursor := k } (k.rest.length + 1)
  let indent := if given = 0 then max (max margin.deepest (parent + 1).toNat) 1 else given
  let b ← Block.read folds indent { margin } (k.rest.length + 1)
  some (b.chomped header.chomp, b.margin.cursor)

end SuiteTree.Yaml
