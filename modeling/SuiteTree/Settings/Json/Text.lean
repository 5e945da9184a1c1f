import SuiteTree.Settings.Scan

/-!
# Quoted texts in JSON

A text stands between double quotes, and a backslash starts an escape. Characters beyond the basic
plane are written as two codes, which only stand together.
-/

namespace SuiteTree.Json

/-- The character for a letter after a backslash. -/
def unescape? (c : Char) : Option Char :=
  match c with
  | '"' => some '"'
  | '\\' => some '\\'
  | '/' => some '/'
  | 'b' => some '\x08'
  | 'f' => some '\x0c'
  | 'n' => some '\n'
  | 'r' => some '\r'
  | 't' => some '\t'
  | _ => none

/-- The first code of a pair. -/
def isHighCode (n : Nat) : Bool :=
  decide (0xD800 ≤ n ∧ n < 0xDC00)

/-- The second code of a pair. -/
def isLowCode (n : Nat) : Bool :=
  decide (0xDC00 ≤ n ∧ n < 0xE000)

/-- A text after its opening quote, and what follows the closing one. Between the quotes characters
that satisfy `plain` stand for themselves. -/
def textAfterQuote (plain : Char → Bool) : List Char → Option (List Char × List Char)
  | [] => none
  | '"' :: rest => some ([], rest)
  | '\\' :: 'u' :: a :: b :: c :: d :: rest =>
    match Digits.toNat? 16 [a, b, c, d] with
    | none => none
    | some high =>
      if isHighCode high then
        match rest with
        | '\\' :: 'u' :: e :: f :: g :: h :: more =>
          match Digits.toNat? 16 [e, f, g, h] with
          | some low =>
            if isLowCode low then
              (textAfterQuote plain more).map fun (cs, after) =>
                (Char.ofNat (0x10000 + (high - 0xD800) * 0x400 + (low - 0xDC00)) :: cs, after)
            else none
          | none => none
        | _ => none
      else if isLowCode high then none
      else (textAfterQuote plain rest).map fun (cs, after) => (Char.ofNat high :: cs, after)
  | '\\' :: c :: rest =>
    match unescape? c with
    | some x => (textAfterQuote plain rest).map fun (cs, after) => (x :: cs, after)
    | none => none
  | c :: rest =>
    if c = '\\' ∨ !plain c then none
    else (textAfterQuote plain rest).map fun (cs, after) => (c :: cs, after)

end SuiteTree.Json
