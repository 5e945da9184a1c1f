import SuiteTree.Path

/-!
# Names as directories

Each node of a run has a directory of its own, named after the node. A name that a file system could
not hold, or could take apart, is written with underscores instead.
-/

namespace SuiteTree.Path

/-- Characters that are not written into a directory name. -/
def isHostile (c : Char) : Bool :=
  c == '<' || c == '>' || c == ':' || c == '"' || c == '/' || c == '\\' || c == '|' || c == '?'
    || c == '*' || c == ' '

/-- The characters of a directory name. -/
def fragmentText (cs : List Char) : List Char :=
  cs.map fun c => if isHostile c then '_' else c

/-- The directory name for the name of a node. -/
def fragment (name : String) : String :=
  String.ofList (fragmentText name.toList)

/-- The name holds a character that no node name should hold. Such a name is accepted all the
same, with a warning. -/
def isSuspect (name : String) : Bool :=
  name.toList.any fun c => c == '"' || c == '/' || c == '\\' || c == '|' || c == '?'

theorem slash_not_mem_fragmentText (cs : List Char) : '/' ∉ fragmentText cs := by
  simp only [fragmentText, List.mem_map, not_exists, not_and]
  intro c _
  split
  · decide
  · rename_i h
    intro hc
    exact h (by simp [hc, isHostile])

end SuiteTree.Path
