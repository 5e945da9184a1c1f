import SuiteTree.Error

/-!
# Duration classes

How long a case takes, ordered from shortest to longest. A run names the longest class it admits.
-/

namespace SuiteTree

/-- How long a case takes to run. -/
inductive Duration
  | quick
  | extensive
  | takesForever
  deriving Repr, DecidableEq, Inhabited

namespace Duration

/-- Position in the order from shortest to longest. -/
def rank : Duration → Nat
  | quick => 0
  | extensive => 1
  | takesForever => 2

instance : LE Duration := ⟨fun a b => a.rank ≤ b.rank⟩
instance : LT Duration := ⟨fun a b => a.rank < b.rank⟩
instance (a b : Duration) : Decidable (a ≤ b) := inferInstanceAs (Decidable (a.rank ≤ b.rank))
instance (a b : Duration) : Decidable (a < b) := inferInstanceAs (Decidable (a.rank < b.rank))

theorem not_le {a b : Duration} : ¬b ≤ a ↔ a < b :=
  Nat.not_le

/-- The shorter of two classes. -/
def shorter (a b : Duration) : Duration :=
  if a ≤ b then a else b

theorem le_shorter_iff {a b c : Duration} : c ≤ a.shorter b ↔ c ≤ a ∧ c ≤ b := by
  cases a <;> cases b <;> cases c <;> decide

theorem shorter_eq_right {a b : Duration} : b ≤ a → a.shorter b = b := by
  cases a <;> cases b <;> decide

def name : Duration → String
  | quick => "QUICK"
  | extensive => "EXTENSIVE"
  | takesForever => "TAKES_FOREVER"

/-- Names are read exactly as they are written. -/
def ofName (text : String) : Except Error Duration :=
  match text with
  | "QUICK" => .ok quick
  | "EXTENSIVE" => .ok extensive
  | "TAKES_FOREVER" => .ok takesForever
  | _ => .error (.unknownFullness text)

end Duration

end SuiteTree
