/-!
# Path texts

A path is a text in which `/` separates names. Appending works on texts; taking a path apart drops
what does not name anything: repeated separators, trailing ones, and every `.` but a leading one.
-/

namespace SuiteTree

/-- A path as it is written. -/
structure Path where
  text : String
  deriving Repr, DecidableEq, Inhabited

namespace Path

/-- The pieces of a text between separators, in order. There is always at least one. -/
def segments : List Char → List (List Char)
  | [] => [[]]
  | c :: cs =>
    if c = '/' then [] :: segments cs
    else
      match segments cs with
      | [] => [[c]]
      | s :: rest => (c :: s) :: rest

/-- Put separators between the pieces of a text. -/
def unsegments : List (List Char) → List Char
  | [] => []
  | [s] => s
  | s :: t :: rest => s ++ '/' :: unsegments (t :: rest)

theorem segments_ne_nil (cs : List Char) : segments cs ≠ [] := by
  cases cs with
  | nil => simp [segments]
  | cons c cs =>
    simp only [segments]
    split
    · simp
    · split <;> simp

/-- The text starts at the root. -/
def isAbsoluteText (cs : List Char) : Bool :=
  cs.head? == some '/'

/-- The text starts at the root. -/
def isAbsolute (p : Path) : Bool :=
  isAbsoluteText p.text.toList

/-- A piece that names nothing inside a path. -/
def isIdle (segment : List Char) : Bool :=
  segment == [] || segment == ['.']

/-- Append one text to another: an absolute text replaces what stands before it, and a separator is
set unless there is one, or nothing, before it. -/
def appendText (left right : List Char) : List Char :=
  if isAbsoluteText right then right
  else if left = [] ∨ left.getLast? = some '/' then left ++ right
  else left ++ '/' :: right

/-- The path of `right` seen from `left`. -/
def append (left right : Path) : Path :=
  ⟨String.ofList (appendText left.text.toList right.text.toList)⟩

instance : Append Path := ⟨append⟩

/-- The path with no text. -/
def empty : Path := ⟨""⟩

/-- Append all paths of a list from left to right. -/
def join (paths : List Path) : Path :=
  paths.foldl append empty

/-- The components of a text. The root is a component of its own, and so is a leading `.`. -/
def componentTexts (cs : List Char) : List (List Char) :=
  if isAbsoluteText cs then ['/'] :: (segments cs).filter (!isIdle ·)
  else
    match segments cs with
    | [] => []
    | first :: rest => (if first = [] then [] else [first]) ++ rest.filter (!isIdle ·)

/-- The components of a path. -/
def components (p : Path) : List Path :=
  (componentTexts p.text.toList).map fun cs => ⟨String.ofList cs⟩

/-- Drop pieces that name nothing from the end of a reversed list of pieces, but keep the leading
`.` of a relative text. -/
def dropIdle (absolute : Bool) : List (List Char) → List (List Char)
  | [] => []
  | [s] => if s = [] ∨ (absolute ∧ s = ['.']) then [] else [s]
  | s :: rest => if isIdle s then dropIdle absolute rest else s :: rest

/-- The text without its last component, and nothing for the root and the empty text. -/
def parentText (cs : List Char) : Option (List Char) :=
  let absolute := isAbsoluteText cs
  let body := if absolute then cs.drop 1 else cs
  match dropIdle absolute (segments body).reverse with
  | [] => none
  | _ :: rest =>
    let kept := unsegments (dropIdle absolute rest).reverse
    some (if absolute then '/' :: kept else kept)

/-- The path without its last component. -/
def parent (p : Path) : Option Path :=
  (parentText p.text.toList).map fun cs => ⟨String.ofList cs⟩

/-- The chain of parents of a text, the text itself first. Each parent has fewer characters, so as
many steps as there are characters reach the end. -/
def ancestorTexts : (steps : Nat) → List Char → List (List Char)
  | 0, cs => [cs]
  | steps + 1, cs =>
    match parentText cs with
    | some up => cs :: ancestorTexts steps up
    | none => [cs]

/-- The path itself, its parent, the parent's parent, and so on. -/
def ancestors (p : Path) : List Path :=
  (ancestorTexts p.text.toList.length p.text.toList).map fun cs => ⟨String.ofList cs⟩

/-- The last component, unless the path ends at the root, in `.` or in `..`. -/
def fileName (p : Path) : Option String :=
  match (componentTexts p.text.toList).getLast? with
  | some cs =>
    if cs = ['/'] ∨ cs = ['.'] ∨ cs = ['.', '.'] then none else some (String.ofList cs)
  | none => none

/-- Split a file name before its last point. A name that only starts with a point has no
extension. -/
def splitExtension (name : List Char) : List Char × Option (List Char) :=
  let reversed := name.reverse
  match reversed.dropWhile (· ≠ '.') with
  | [] => (name, none)
  | _ :: [] => (name, none)
  | _ :: stem => (stem.reverse, some (reversed.takeWhile (· ≠ '.')).reverse)

/-- The part of the file name after its last point. -/
def extension (p : Path) : Option String := do
  let name ← p.fileName
  let ext ← (splitExtension name.toList).2
  pure (String.ofList ext)

/-- Replace the extension of the file name, or add one. A path without a file name stays. -/
def withExtension (p : Path) (ext : String) : Path :=
  match p.fileName with
  | none => p
  | some name =>
    let stem := String.ofList (splitExtension name.toList).1
    let directory := (p.parent.getD empty)
    let base := (directory ++ ⟨stem⟩).text
    ⟨if ext = "" then base else base ++ "." ++ ext⟩

end Path

end SuiteTree
