import SuiteTree.Tree
import SuiteTree.World

/-!
# Where nodes keep their files

Data files are found under the data directory declared by the node or above it. Temporary files go
into a directory of the node's own, below the temporary directory of the run and named by the path
of the node.
-/

namespace SuiteTree

/-- The directory against which declared data directories are resolved: the one that the options
give, or else the top of the source tree that holds the program. -/
def World.dataRoot (w : World) (options : Options) : Except Error Path :=
  match options.dataDir with
  | some dir => .ok dir
  | none =>
    match w.files.sourceTop? w.host.programDir with
    | some top => .ok top
    | none => .error (.sourceDirNotFound w.host.programDir.text)

/-- A file in the data directory of a node. -/
def Tree.dataFile (t : Tree) (w : World) (options : Options) (n : NodeId) (file : String) :
    Except Error Path :=
  match t.dataDir n with
  | none => .error (.noDataDir (t.get n).name)
  | some dir => do
    let top ← w.dataRoot options
    pure (top ++ ⟨dir⟩ ++ ⟨file⟩)

/-- The directory for the temporary files of a node. -/
def Tree.tempDirectory (t : Tree) (options : Options) (n : NodeId) : Path :=
  options.tempDir ++ .join ((t.pathNames n).map fun name => ⟨Path.fragment name⟩)

/-- A file in the temporary directory of a node, which is made if it is missing. When reference data
are to be renewed the file is in the data directory instead. -/
def Tree.tempFile (t : Tree) (w : World) (options : Options) (n : NodeId) (file : String) :
    Except Error Path × World :=
  if options.updateData then (t.dataFile w options n file, w)
  else
    let dir := t.tempDirectory options n
    match w.files.makeDirectories dir with
    | (.ok (), files) => (.ok (dir ++ ⟨file⟩), { w with files })
    | (.error cause, files) => (.error (.io dir.text cause), { w with files })

end SuiteTree
