import SuiteTree.Number.Layout
import SuiteTree.Text.Quoted

/-!
# Values that checks compare

A check compares two values and, if it fails, writes both into its failure record. Values of
different kinds are never the same.
-/

namespace SuiteTree

/-- A value of a check, or one that a hook remembers. -/
inductive Value
  | int (n : Int)
  | text (s : String)
  | number (x : Float)
  | bool (b : Bool)
  | list (items : List Value)
  | absent
  | present (item : Value)
  | unit
  deriving Inhabited

namespace Value

mutual

/-- The two values are equal. Doubles are compared as numbers: NaN differs from itself, and the two
zeros are equal. -/
def same : Value → Value → Bool
  | int a, int b => a == b
  | text a, text b => a == b
  | number x, number y => x == y
  | bool a, bool b => a == b
  | list as, list bs => sameAll as bs
  | absent, absent => true
  | present a, present b => same a b
  | unit, unit => true
  | _, _ => false

/-- The two lists have the same length and equal items in the same places. -/
def sameAll : List Value → List Value → Bool
  | [], [] => true
  | a :: as, b :: bs => same a b && sameAll as bs
  | _, _ => false

end

mutual

/-- The value as a failure record shows it. -/
def render : Value → String
  | int n => toString n
  | text s => Text.quote s
  | number x => Number.Layout.record.render x
  | bool b => if b then "true" else "false"
  | list items => "[" ++ ", ".intercalate (renderAll items) ++ "]"
  | absent => "None"
  | present item => "Some(" ++ render item ++ ")"
  | unit => "()"

/-- The items of a list, each as a failure record shows it. -/
def renderAll : List Value → List String
  | [] => []
  | a :: as => render a :: renderAll as

end

end Value

end SuiteTree
