import SuiteTree.Settings.Yaml.Tag
import SuiteTree.Settings.Yaml.Text

/-!
# Tokens of YAML

A text is cut into tokens. Nesting by indentation becomes explicit: a deeper column opens a mapping
or a sequence, and a column further left closes it. A key is only recognised at the colon after its
value, so the places where one could have started are kept, and the token that marks a key is put in
there afterwards.
-/

namespace SuiteTree.Yaml

inductive Token
  | directive
  | documentStart
  | documentEnd
  | blockMapping
  | blockSequence
  | blockEnd
  | flowMapping
  | flowMappingEnd
  | flowSequence
  | flowSequenceEnd
  /-- A comma. -/
  | comma
  /-- The dash before an item. -/
  | dash
  /-- A key follows. -/
  | key
  /-- The value of a key follows. -/
  | value
  | anchor (name : String)
  /-- The value under an anchor. -/
  | reference (name : String)
  | tag (tag : Tag)
  /-- A text, and whether it has neither quotes nor a block of its own. -/
  | scalar (isPlain : Bool) (text : String)
  deriving Repr, DecidableEq

/-- A place where a key may have started. -/
structure KeyStart where
  /-- The tokens before it. -/
  token : Nat
  index : Nat
  line : Nat
  column : Nat
  /-- It is a mistake if no key starts here. -/
  isRequired : Bool

/-- A text that is being cut into tokens. -/
structure Lexer where
  cursor : Cursor
  tokens : Array Token := #[]
  /-- For each open bracket, and outside them, the place where a key may have started. -/
  keys : List (Option KeyStart) := [none]
  /-- A key may start at the cursor. -/
  keyAllowed : Bool := true
  /-- The column of the innermost mapping or sequence that is nested by indentation. -/
  indent : Int := -1
  /-- The columns of those around it. -/
  outer : List Int := []
  /-- The brackets and braces that are open. -/
  depth : Nat := 0
  /-- Where the last text between quotes ended. -/
  quoteEnd : Nat := 0

/-- A step that cuts tokens off. -/
abbrev Lex (α : Type) := StateT Lexer Option α

namespace Lex

/-- No text is accepted. -/
def reject {α : Type} : Lex α := fun _ => none

/-- The cursor lies inside brackets or braces. -/
def inFlow : Lex Bool := do pure ((← get).depth != 0)

/-- Add a token. -/
def push (t : Token) : Lex Unit :=
  modify fun s => { s with tokens := s.tokens.push t }

/-- Go on at a cursor. -/
def goTo (k : Cursor) : Lex Unit :=
  modify fun s => { s with cursor := k }

/-- Go past characters and add a token for them. -/
def take (t : Token) (length : Nat) : Lex Unit :=
  modify fun s => { s with tokens := s.tokens.push t, cursor := s.cursor.advance length }

/-- Say whether a key may start at the cursor. -/
def allowKey (allowed : Bool) : Lex Unit :=
  modify fun s => { s with keyAllowed := allowed }

/-- Close mappings and sequences that stand in columns right of a column. -/
def closeTo (column : Int) : Lex Unit := do
  let s ← get
  if s.depth = 0 then
    let closed := (s.indent :: s.outer).takeWhile (column < ·)
    let left := (s.indent :: s.outer).drop closed.length
    set { s with
      tokens := s.tokens ++ closed.map fun _ => Token.blockEnd
      indent := left.headD (-1)
      outer := left.drop 1 }

/-- Open a mapping or a sequence in a column, unless one stands there, with its token before the
token numbered `at`. -/
def openAt (column : Nat) (t : Token) (place : Nat) : Lex Unit :=
  modify fun s =>
    if s.depth = 0 ∧ s.indent < (column : Int) then
      { s with
        tokens := s.tokens.insertIdxIfInBounds place t
        indent := column
        outer := s.indent :: s.outer }
    else s

/-- Open a mapping or a sequence in the column of the cursor. -/
def openHere (t : Token) : Lex Unit := do
  let s ← get
  openAt s.cursor.column t s.tokens.size

/-- Forget the innermost place where a key may have started. -/
def dropKey : Lex Unit := do
  let s ← get
  match s.keys with
  | some start :: more => if start.isRequired then reject else set { s with keys := none :: more }
  | _ => pure ()

/-- A key may start at the cursor. -/
def markKey : Lex Unit := do
  let s ← get
  if s.keyAllowed then do
    dropKey
    let k := s.cursor
    let start : KeyStart :=
      ⟨s.tokens.size, k.index, k.line, k.column, s.depth != 0 && s.indent == k.column⟩
    modify fun s => { s with keys := some start :: s.keys.drop 1 }

/-- Forget places on earlier lines, and those too far back: a key has at most 1024 characters. -/
def dropOldKeys : Lex Unit := do
  let s ← get
  let isOld (start : KeyStart) : Bool :=
    start.line < s.cursor.line || start.index + 1024 < s.cursor.index
  if s.keys.any fun start => start.any fun start => isOld start && start.isRequired then reject
  else set { s with keys := s.keys.map (Option.filter (!isOld ·)) }

/-- Go past blanks, comments and line ends. A tab is no blank where a key may start. -/
def skipGaps : (fuel : Nat) → Lex Unit
  | 0 => reject
  | fuel + 1 => do
    let s ← get
    match s.cursor.peek with
    | none => pure ()
    | some c =>
      if c = ' ' ∨ (c = '\t' ∧ (s.depth ≠ 0 ∨ !s.keyAllowed)) then do
        goTo s.cursor.step
        skipGaps fuel
      else if isBreak c then do
        goTo s.cursor.skipBreak
        if s.depth = 0 then allowKey true
        skipGaps fuel
      else if c = '#' then do
        goTo s.cursor.skipLine
        skipGaps fuel
      else pure ()

/-- A directive, or a line that separates documents. -/
def documentMark (t : Token) (read : Cursor → Option Cursor) : Lex Unit := do
  closeTo (-1)
  dropKey
  allowKey false
  match read (← get).cursor with
  | some k => do push t; goTo k
  | none => reject

/-- An opening bracket or brace, which may start a key. At most 255 of them are nested. -/
def flowStart (t : Token) : Lex Unit := do
  markKey
  let s ← get
  if 255 ≤ s.depth then reject
  else do
    set { s with keys := none :: s.keys, depth := s.depth + 1, keyAllowed := true }
    take t 1

/-- A closing bracket or brace. -/
def flowEnd (t : Token) : Lex Unit := do
  dropKey
  let s ← get
  if s.depth ≠ 0 then set { s with keys := s.keys.drop 1, depth := s.depth - 1 }
  allowKey false
  take t 1

/-- A comma. -/
def comma : Lex Unit := do
  dropKey
  allowKey true
  take .comma 1

/-- The dash before an item of a sequence, which stands where a key may start. -/
def dash : Lex Unit := do
  if (← inFlow) || !(← get).keyAllowed then reject
  else do
    openHere .blockSequence
    dropKey
    allowKey true
    take .dash 1

/-- The question mark before a key. -/
def keyMark : Lex Unit := do
  let s ← get
  if s.depth = 0 && !s.keyAllowed then reject
  else do
    openHere .blockMapping
    dropKey
    allowKey (s.depth == 0)
    take .key 1

/-- The colon before a value. If a key may have started before it, one did. -/
def valueMark : Lex Unit := do
  let s ← get
  match s.keys with
  | some start :: more => do
    set { s with
      tokens := s.tokens.insertIdxIfInBounds start.token .key
      keys := none :: more }
    openAt start.column .blockMapping start.token
    allowKey false
  | _ =>
    if s.depth = 0 && !s.keyAllowed then reject
    else do
      openHere .blockMapping
      allowKey (s.depth == 0)
  take .value 1

/-- An anchor or a reference to one, after its mark: a name that only some marks may follow. -/
def name (token : String → Token) : Lex Unit := do
  markKey
  allowKey false
  let k := (← get).cursor.step
  let cs := k.rest.takeWhile isNameChar
  let k := k.advance cs.length
  let ends := endsWord k.rest || k.peek.any fun c => "?:,]\x7d%@\x60".toList.contains c
  if cs.isEmpty || !ends then reject
  else do
    push (token (String.ofList cs))
    goTo k

/-- A tag. -/
def tag : Lex Unit := do
  markKey
  allowKey false
  match tag? (← get).cursor with
  | some (tag, k) => do push (.tag tag); goTo k
  | none => reject

/-- A block text. -/
def blockScalar (folds : Bool) : Lex Unit := do
  markKey
  allowKey true
  let s ← get
  match block folds s.indent s.cursor.step with
  | some (cs, k) => do push (.scalar false (String.ofList cs)); goTo k
  | none => reject

/-- A text between quotes. -/
def quotedScalar : Lex Unit := do
  markKey
  allowKey false
  match quoted (← get).cursor with
  | some (cs, k) => do
    push (.scalar false (String.ofList cs))
    modify fun s => { s with cursor := k, quoteEnd := k.index }
  | none => reject

/-- A text without quotes. -/
def plainScalar : Lex Unit := do
  markKey
  allowKey false
  let s ← get
  match plain (s.depth != 0) (s.indent + 1) s.cursor with
  | some p => do
    push (.scalar true (String.ofList p.text))
    goTo p.cursor
    if p.gap.breaks ≠ 0 then allowKey true
  | none => reject

/-- The token that starts with a character, which comes next. -/
def token (c : Char) : Lex Unit := do
  let s ← get
  let k := s.cursor
  let flow := s.depth != 0
  let alone := endsWord k.step.rest
  let valueFollows := alone || (flow && (k.step.peek.any isFlowMark || k.index == s.quoteEnd))
  if k.column == 0 && c == '%' then documentMark .directive fun k => directive k.step
  else if k.atLineMark "---" then documentMark .documentStart fun k => some (k.advance 3)
  else if k.atLineMark "..." then documentMark .documentEnd fun k => some (k.advance 3)
  else
    match c with
    | '[' => flowStart .flowSequence
    | '\x7b' => flowStart .flowMapping
    | ']' => flowEnd .flowSequenceEnd
    | '\x7d' => flowEnd .flowMappingEnd
    | ',' => comma
    | '*' => name .reference
    | '&' => name .anchor
    | '!' => tag
    | '\'' => quotedScalar
    | '"' => quotedScalar
    | '%' => reject
    | '@' => reject
    | '\x60' => reject
    | '-' => if alone then dash else plainScalar
    | '?' => if alone then keyMark else plainScalar
    | ':' => if valueFollows then valueMark else plainScalar
    | '|' => if flow then plainScalar else blockScalar false
    | '>' => if flow then plainScalar else blockScalar true
    | _ => plainScalar

/-- All tokens of the text, one after the other. -/
def all : (fuel : Nat) → Lex Unit
  | 0 => reject
  | fuel + 1 => do
    skipGaps ((← get).cursor.rest.length + 1)
    dropOldKeys
    closeTo (← get).cursor.column
    match (← get).cursor.peek with
    | none => do
      closeTo (-1)
      dropKey
    | some c => do
      token c
      all fuel

end Lex

/-- The tokens of a text. -/
def tokens (cs : List Char) : Option (List Token) :=
  ((Lex.all (cs.length + 2)).run { cursor := { rest := cs } }).map fun (_, s) => s.tokens.toList

end SuiteTree.Yaml
