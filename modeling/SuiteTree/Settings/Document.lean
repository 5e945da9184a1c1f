/-!
# Documents

What a settings file says, whatever its format.
-/

namespace SuiteTree

/-- A value in a settings file. -/
inductive Document
  | null
  | bool (b : Bool)
  | int (n : Int)
  | number (x : Float)
  | text (s : String)
  | list (items : List Document)
  | table (entries : List (String × Document))
  deriving Inhabited

namespace Document

/-- The whole numbers of a document have 64 bits. -/
def fitsInt (n : Int) : Bool :=
  decide (-9223372036854775808 ≤ n ∧ n ≤ 9223372036854775807)

/-- The entries of a table, and none of anything else. -/
def entries : Document → List (String × Document)
  | table entries => entries
  | _ => []

/-- Give a key of a table a value, in place of the one it has. -/
def insert (entries : List (String × Document)) (key : String) (value : Document) :
    List (String × Document) :=
  match entries with
  | [] => [(key, value)]
  | (k, v) :: rest => if k = key then (key, value) :: rest else (k, v) :: insert rest key value

end Document

end SuiteTree
