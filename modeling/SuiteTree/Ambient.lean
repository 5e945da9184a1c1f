import SuiteTree.Log

/-!
# The ambient state of a simulation

Attribute overrides on top of fixed defaults, and the counter that hands out random streams. Hooks
change it; the runner resets it around every node.
-/

namespace SuiteTree

/-- Attributes and the stream counter. Of several pairs with one key the first counts. -/
structure Ambient where
  defaults : List (String × String) := []
  overrides : List (String × String) := []
  /-- The index that the next stream will have. -/
  nextStream : Nat := 0
  deriving Repr, DecidableEq, Inhabited

namespace Ambient

/-- The value of an attribute: its override, or else its default. -/
def get (a : Ambient) (key : String) : Option String :=
  (a.overrides.lookup key).or (a.defaults.lookup key)

/-- Override an attribute. -/
def set (a : Ambient) (key value : String) : Ambient :=
  { a with overrides := (key, value) :: a.overrides.filter (·.1 != key) }

/-- Drop all overrides. -/
def reset (a : Ambient) : Ambient :=
  { a with overrides := [] }

/-- What dropping the overrides leaves in the log: nothing if there are none. -/
def resetRecords (a : Ambient) : List Record :=
  if a.overrides.isEmpty then []
  else [.trace ("Dropping " ++ toString a.overrides.length ++ " configuration overrides")]

/-- Let the next stream be the first one again. -/
def rewind (a : Ambient) : Ambient :=
  { a with nextStream := 0 }

/-- Hand out a stream index. -/
def draw (a : Ambient) : Nat × Ambient :=
  (a.nextStream, { a with nextStream := a.nextStream + 1 })

@[simp] theorem get_set_self (a : Ambient) (key value : String) :
    (a.set key value).get key = some value := by
  simp [get, set]

theorem get_set_of_ne (a : Ambient) {key other : String} (value : String) (h : other ≠ key) :
    (a.set key value).get other = a.get other := by
  have lookup_filter : ∀ l : List (String × String),
      (l.filter (·.1 != key)).lookup other = l.lookup other := by
    intro l
    induction l with
    | nil => rfl
    | cons p l ih =>
      obtain ⟨k, v⟩ := p
      by_cases hk : k = key
      · subst hk
        simp [List.lookup_cons, ih, beq_eq_false_iff_ne.2 h]
      · simp [hk, List.lookup_cons, ih]
  simp [get, set, List.lookup_cons, beq_eq_false_iff_ne.2 h, lookup_filter]

end Ambient

end SuiteTree
