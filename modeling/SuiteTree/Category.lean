import SuiteTree.Error

/-!
# Categories of suites
-/

namespace SuiteTree

/-- What kind of tests a suite holds. As a filter, `all` admits every suite. -/
inductive Category
  | all
  | unit
  | system
  | examples
  | performance
  deriving Repr, DecidableEq, Inhabited

namespace Category

def name : Category → String
  | all => "ALL"
  | unit => "UNIT"
  | system => "SYSTEM"
  | examples => "EXAMPLE"
  | performance => "PERFORMANCE"

/-- The category as the first column of a listing, 21 characters wide. -/
def label : Category → String
  | all => "all                  "
  | unit => "unit                 "
  | system => "system               "
  | examples => "example-as-test      "
  | performance => "performance          "

/-- The category that a test type on the command line stands for. The empty type and `core` stand
for every category. -/
def ofTestType (text : String) : Except Error Category :=
  match text with
  | "" => .ok all
  | "core" => .ok all
  | "example" => .ok examples
  | "unit" => .ok unit
  | "system" => .ok system
  | "performance" => .ok performance
  | _ => .error (.unknownCategory text)

/-- As a filter, this category admits a suite of category `c`. -/
def admits (filter c : Category) : Bool :=
  filter == all || c == filter

end Category

end SuiteTree
