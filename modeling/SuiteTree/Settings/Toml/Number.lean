import SuiteTree.Settings.Document
import SuiteTree.Settings.Scan

/-!
# Numbers in TOML

Whole numbers of 64 bits in four bases, and finite doubles. Single underscores may stand between
digits.
-/

namespace SuiteTree.Toml

/-- The digits of a group without the underscores between them. -/
def ungroup (base : Nat) (cs : List Char) : Option (List Char) :=
  let digits := cs.filter (· != '_')
  let single := cs.zip (cs.drop 1) |>.all fun (a, b) => !(a == '_' && b == '_')
  if digits.isEmpty || !single || cs.head? == some '_' || cs.getLast? == some '_'
      || !digits.all (fun c => (Digits.value? base c).isSome) then none
  else some digits

/-- The digits before a point or of a whole number: only zero itself starts with a zero. -/
def ungroupWhole (cs : List Char) : Option (List Char) :=
  if cs.head? == some '0' && 1 < cs.length then none else ungroup 10 cs

/-- Take a minus sign from the front of a number. -/
def takeMinus (cs : List Char) : Bool × List Char :=
  match cs with
  | '-' :: rest => (true, rest)
  | _ => (false, cs)

/-- Take a plus sign from the front of a number. -/
def dropPlus (cs : List Char) : List Char :=
  match cs with
  | '+' :: rest => rest
  | _ => cs

/-- A whole number that fits. -/
def wholeNumber (value : Int) : Option Document :=
  if Document.fitsInt value then some (.int value) else none

/-- A whole number in a base that is marked, which has no sign. -/
def basedNumber (base : Nat) (cs : List Char) : Option Document := do
  wholeNumber (← Digits.toNat? base (← ungroup base cs))

/-- A whole number in base ten. -/
def decimalNumber (cs : List Char) : Option Document := do
  let (negative, body) := takeMinus cs
  let n ← Digits.toNat? 10 (← ungroupWhole body)
  wholeNumber (if negative then -(n : Int) else n)

/-- The mark before an exponent. -/
def isExponentMark (c : Char) : Bool :=
  c == 'e' || c == 'E'

/-- An exponent, with at most one sign. -/
def exponent (cs : List Char) : Option Int := do
  let (negative, body) := match cs with
    | '+' :: rest => (false, rest)
    | _ => takeMinus cs
  let n ← Digits.toNat? 10 (← ungroup 10 body)
  some (if negative then -(n : Int) else n)

/-- A number with a point or an exponent, which must be finite. -/
def pointNumber (cs : List Char) : Option Document := do
  let (negative, body) := takeMinus cs
  let mantissa := body.takeWhile (!isExponentMark ·)
  let whole ← ungroupWhole (mantissa.takeWhile (· != '.'))
  let fraction ← match mantissa.dropWhile (· != '.') with
    | [] => some []
    | _ :: digits => ungroup 10 digits
  let power ← match body.dropWhile (!isExponentMark ·) with
    | [] => some 0
    | _ :: digits => exponent digits
  let x := Digits.toFloat negative whole fraction power
  if x.isFinite then some (.number x) else none

/-- The value of a number. A plus sign may stand before it, whatever other sign it has. -/
def number? (cs : List Char) : Option Document :=
  let body := dropPlus cs
  match body with
  | '0' :: 'x' :: digits => basedNumber 16 digits
  | '0' :: 'o' :: digits => basedNumber 8 digits
  | '0' :: 'b' :: digits => basedNumber 2 digits
  | _ =>
    match String.ofList body with
    | "inf" => some (.number (1 / 0))
    | "-inf" => some (.number (-(1 / 0)))
    | "nan" => some (.number (0 / 0))
    | "-nan" => some (.number (0 / 0))
    | _ =>
      if body.any fun c => c == '.' || isExponentMark c then pointNumber body
      else decimalNumber body

end SuiteTree.Toml
