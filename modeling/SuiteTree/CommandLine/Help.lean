import SuiteTree.CommandLine.Parameter

/-!
# The help text

A help text has two forms. The short one puts the description of a parameter beside its name and
wraps it in its column; the long one puts it on the next line. Both are 120 columns wide.
-/

namespace SuiteTree.CommandLine.Help

/-- The width of the text. -/
def columns : Nat := 120

/-- A number of blanks. -/
def blanks (n : Nat) : String :=
  String.ofList (List.replicate n ' ')

/-- Split a word after every hyphen that stands between letters or digits. The character before the
word is `before`. -/
def splitHyphen (before : Char) : List Char → List (List Char)
  | [] => [[]]
  | c :: rest =>
    let pieces := splitHyphen c rest
    let breaks := c == '-' && before.isAlphanum && (rest.headD ' ').isAlphanum
    match pieces with
    | [] => [[c]]
    | piece :: more => if breaks then [c] :: piece :: more else (c :: piece) :: more

/-- A piece of a line that is not broken, with the number of blanks before it. -/
structure Piece where
  gap : Nat
  text : List Char
  deriving Repr, DecidableEq

/-- The pieces of a line, for a line that is read from its start. -/
def piecesOf (gap : Nat) (word : List Char) : List Char → List Piece
  | [] => finishWord gap word
  | c :: rest =>
    if c == ' ' then
      if word.isEmpty then piecesOf (gap + 1) [] rest
      else finishWord gap word ++ piecesOf 1 [] rest
    else piecesOf gap (word ++ [c]) rest
where
  /-- The pieces of a word; the gap stands before the first one. -/
  finishWord (gap : Nat) (word : List Char) : List Piece :=
    if word.isEmpty then []
    else
      match splitHyphen ' ' word with
      | [] => []
      | first :: more => ⟨gap, first⟩ :: more.map (⟨0, ·⟩)

/-- Fill lines of a width with pieces, starting with a line that holds `line` already. A gap at a
break is dropped, and a piece wider than a line has a line of its own. -/
def fill (width : Nat) (line : List Char) : List Piece → List (List Char)
  | [] => [line]
  | p :: rest =>
    if line.isEmpty then fill width p.text rest
    else if line.length + p.gap + p.text.length ≤ width then
      fill width (line ++ List.replicate p.gap ' ' ++ p.text) rest
    else line :: fill width p.text rest

/-- Break a line at blanks and hyphens into lines of at most `width` characters. -/
def wrap (width : Nat) (line : String) : List String :=
  (fill width [] (piecesOf 0 [] line.toList)).map String.ofList

/-- The placeholder of the value. -/
def placeholder (p : Parameter) : String :=
  if p.arity = .flag then "" else " <" ++ p.valueName.getD p.long ++ ">"

/-- The long name and the placeholder. -/
def usage (p : Parameter) : String :=
  "--" ++ p.long ++ placeholder p

/-- The letter, the long name and the placeholder in their columns. -/
def heading (p : Parameter) : String :=
  "    " ++ (match p.short with
    | some c => "-" ++ String.singleton c ++ ", "
    | none => "    ") ++ usage p

/-- What is known of the values: the environment variable with its value, and the choices. -/
def notes (p : Parameter) (env : List (String × String)) : String :=
  let environment := match p.env with
    | some name => [" [env: " ++ name ++ "=" ++ (env.lookup name).getD "" ++ "]"]
    | none => []
  let choices := if p.choices.isEmpty then []
    else [" [possible values: " ++ ", ".intercalate p.choices ++ "]"]
  " ".intercalate (environment ++ choices)

/-- The lines of a description that starts in column `start`. -/
def description (p : Parameter) (env : List (String × String)) (start : Nat) : List String :=
  let text := p.help ++ notes p env
  if columns ≤ start + text.length then wrap (columns - start) text else [text]

/-- The entry of a parameter, where the widest name of its section has `widest` characters. -/
def entry (long : Bool) (env : List (String × String)) (widest : Nat) (p : Parameter) : String :=
  let head := heading p ++ blanks (widest - (usage p).length + 4)
  let start := if long then 12 else widest + 12
  match description p env start with
  | [] => head
  | first :: rest =>
    let follow := String.join (rest.map fun line => "\n" ++ blanks start ++ line)
    if long then
      head ++ "\n" ++ blanks 12 ++ first ++ follow ++ (if rest.isEmpty then "\n" else "")
    else head ++ first ++ follow

/-- A section of parameters. -/
def block (long : Bool) (env : List (String × String)) (title : String) (ps : List Parameter) :
    String :=
  let widest := (ps.map fun p => (usage p).length).foldl max 0
  title ++ ":\n" ++ "\n".intercalate (ps.map (entry long env widest))

/-- The help text of the runner. It shows the values that the environment variables have. -/
def text (long : Bool) (env : List (String × String)) : String :=
  "test-runner 0.0.1\n\nUSAGE:\n    test-runner [FLAGS] [OPTIONS]\n\n"
    ++ block long env "FLAGS" Runner.flags ++ "\n\n" ++ block long env "OPTIONS" Runner.options

end SuiteTree.CommandLine.Help
