import SuiteTree.Settings.Yaml.Cursor

/-!
# Tags and directives in YAML

A tag says what the value after it is. It consists of a handle, such as `!!`, and a suffix; a tag in
angle brackets has no handle. Directives are lines before a document, and have no effect on it.
-/

namespace SuiteTree.Yaml

/-- What a value is said to be. -/
structure Tag where
  handle : String
  suffix : String
  deriving Repr, DecidableEq

/-- A part of a tag or a directive, and what follows it. -/
abbrev Piece := List Char × Cursor

/-- A character of the suffix of a tag. -/
def isTagChar (c : Char) : Bool :=
  isNameChar c || ";/?:@&=+$,.!~*'()[]%".toList.contains c

/-- The value of two hexadecimal digits after a percent sign. -/
def octet? (k : Cursor) : Option Nat :=
  match k.rest with
  | '%' :: a :: b :: _ => Digits.toNat? 16 [a, b]
  | _ => none

/-- The character that is given by bytes after percent signs. Beyond ASCII, the code is that of both
bytes in a row; three bytes and more give no character. -/
def escapedChar? (k : Cursor) : Option (Char × Cursor) := do
  let first ← octet? k
  let k := k.advance 3
  if first < 0x80 then some (Char.ofNat first, k)
  else if 0xC0 ≤ first ∧ first < 0xE0 then
    let second ← octet? k
    if 0x80 ≤ second ∧ second < 0xC0 then
      some (← Digits.charOf? (0x100 * first + second), k.advance 3)
    else none
  else none

/-- The longest front of characters of a suffix. -/
def tagChars (k : Cursor) : (fuel : Nat) → Option Piece
  | 0 => none
  | fuel + 1 =>
    match k.peek with
    | some '%' => do
      let (c, k) ← escapedChar? k
      let (cs, k) ← tagChars k fuel
      some (c :: cs, k)
    | some c =>
      if isTagChar c then do
        let (cs, k) ← tagChars k.step fuel
        some (c :: cs, k)
      else some ([], k)
    | none => some ([], k)

/-- The suffix of a tag. -/
def tagSuffix (k : Cursor) : Option Piece :=
  tagChars k (k.rest.length + 1)

/-- A suffix that is not empty. -/
def fullSuffix (k : Cursor) : Option Piece := do
  let (cs, k) ← tagSuffix k
  if cs.isEmpty then none else some (cs, k)

/-- A name and the exclamation mark after it, if there is one. -/
def handleRest (k : Cursor) : Piece :=
  let name := k.rest.takeWhile isNameChar
  let k := k.advance name.length
  if k.peek == some '!' then (name ++ ['!'], k.step) else (name, k)

/-- A tag after its exclamation mark. -/
def tagAfterMark (k : Cursor) : Option (Tag × Cursor) := do
  if k.peek == some '<' then
    let (suffix, k) ← fullSuffix k.step
    if k.peek == some '>' then some (⟨"", String.ofList suffix⟩, k.step) else none
  else
    let (name, k) := handleRest k
    if name.getLast? == some '!' then
      let (suffix, k) ← fullSuffix k
      some (⟨String.ofList ('!' :: name), String.ofList suffix⟩, k)
    else
      let (more, k) ← tagSuffix k
      let suffix := name ++ more
      if suffix.isEmpty then some (⟨"", "!"⟩, k)
      else some (⟨"!", String.ofList suffix⟩, k)

/-- A tag, which comes next and is followed by a blank or a line end. -/
def tag? (k : Cursor) : Option (Tag × Cursor) := do
  let (tag, k) ← tagAfterMark k.step
  if endsWord k.rest then some (tag, k) else none

/-- A number of a version, of at most nine digits. -/
def versionNumber (k : Cursor) : Option Cursor :=
  let digits := k.rest.takeWhile Char.isDigit
  if digits.isEmpty || 9 < digits.length then none else some (k.advance digits.length)

/-- The value of a directive about the version: two numbers and a point between them. -/
def versionValue (k : Cursor) : Option Cursor := do
  let k ← versionNumber (k.skipWhile isBlank)
  if k.peek == some '.' then versionNumber k.step else none

/-- The value of a directive about tags: a handle, and the start of the tags it stands for. -/
def tagValue (k : Cursor) : Option Cursor := do
  let k := k.skipWhile isBlank
  if k.peek != some '!' then none
  else
    let (name, k) := handleRest k.step
    if !name.isEmpty && name.getLast? != some '!' then none
    else
      let (_, k) ← fullSuffix (k.skipWhile isBlank)
      if endsWord k.rest then some k else none

/-- A directive after its percent sign, to the end of its line. Directives with other names are not
looked into. -/
def directive (k : Cursor) : Option Cursor := do
  let name := k.rest.takeWhile isNameChar
  let k := k.advance name.length
  if name.isEmpty || !endsWord k.rest then none
  else
    let k ← match String.ofList name with
      | "YAML" => versionValue k
      | "TAG" => tagValue k
      | _ => some k.skipLine
    k.endOfLine?

end SuiteTree.Yaml
