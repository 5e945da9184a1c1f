import SuiteTree.Settings.Document
import SuiteTree.Settings.Yaml.Tag

/-!
# Scalars in YAML

A scalar without quotes is read as null, a truth value or a number if it looks like one, and as a
text otherwise. A tag may say what it is.
-/

namespace SuiteTree.Yaml

/-- A whole number with an optional sign that fits. -/
def whole? (base : Nat) (cs : List Char) : Option Int :=
  (Digits.signed? base cs).filter fun n => Document.fitsInt n

/-- A double: a decimal with a digit before or after the point, or the name of an infinity or of
NaN. -/
def double? (text : String) : Option Float :=
  let (negative, body) := match text.toList with
    | '-' :: rest => (true, rest)
    | '+' :: rest => (false, rest)
    | cs => (false, cs)
  let signed (x : Float) : Float := if negative then -x else x
  match (String.ofList body).toLower with
  | "inf" => some (signed (1 / 0))
  | "infinity" => some (signed (1 / 0))
  | "nan" => some (0 / 0)
  | _ => do
    if body.head? = some '-' then none
    let d ← DecimalText.ofChars? body
    if d.whole.isEmpty && (d.fraction.getD []).isEmpty then none else some (signed d.toFloat)

/-- The value of a scalar without quotes and without a tag. -/
def plainValue (text : String) : Document :=
  let number (n : Option Int) (otherwise : Document) : Document :=
    match n with
    | some n => .int n
    | none => otherwise
  let decimal : Document :=
    match text with
    | "~" => .null
    | "null" => .null
    | "true" => .bool true
    | "false" => .bool false
    | _ => number (whole? 10 text.toList)
      (match double? text with
        | some x => .number x
        | none => .text text)
  match text.toList with
  | '+' :: rest => number (whole? 10 rest) decimal
  | '0' :: 'x' :: digits => number (whole? 16 digits) decimal
  | '0' :: 'o' :: digits => number (whole? 8 digits) decimal
  | _ => decimal

/-- The value of a scalar without quotes under a tag, if it fits the tag. -/
def taggedValue? (tag : Tag) (text : String) : Option Document :=
  if tag.handle = "!!" then
    match tag.suffix with
    | "bool" =>
      match text with
      | "true" => some (.bool true)
      | "false" => some (.bool false)
      | _ => none
    | "int" => (whole? 10 text.toList).map .int
    | "float" => (double? text).map .number
    | "null" => if text = "~" ∨ text = "null" then some .null else none
    | _ => some (.text text)
  else some (.text text)

/-- The value of a scalar without quotes, if it fits its tag. -/
def scalarValue? (tag : Option Tag) (text : String) : Option Document :=
  match tag with
  | some tag => taggedValue? tag text
  | none => some (plainValue text)

end SuiteTree.Yaml
