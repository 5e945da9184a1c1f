import SuiteTree.Check
import SuiteTree.Suite

/-!
# A suite on names and directories of nodes
-/

namespace SuiteTree.Builtin.Directories

/-- A place in the source of this suite. -/
def site (line : Nat) (actual limit : String) : Site :=
  ⟨actual, limit, "src/suites/system_path.rs", line⟩

def validFragment : Hooks where
  run := .steps [
    ((site 13 "create_valid_path_fragment(\"a: b\")" "\"a__b\"").expectEqual
      (.text (Path.fragment "a: b")) (.text "a__b") "colon and space").conduct,
    ((site 14 "create_valid_path_fragment(\"x<y>*\")" "\"x_y__\"").expectEqual
      (.text (Path.fragment "x<y>*")) (.text "x_y__") "angle brackets").conduct]

/-- The name of the temporary file of this suite. -/
def scratchFile : String := "scratch.txt"

/-- The failure of a case that cannot have a temporary file. -/
def unwritable (cause : Error) : Failure where
  condition := "temp_dir_filename(\"scratch.txt\")"
  actual := cause.message
  limit := "a writable path"
  message := "temp dir is writable"
  file := "src/suites/system_path.rs"
  line := 30

/-- A value that may be missing. -/
def optional : Option String → Value
  | none => .absent
  | some s => .present (.text s)

/-- Write a text and read it back. -/
def roundTrip (path : Path) (text : String) : Program (Option String) :=
  .ask (.writeFile path text) fun
    | .error _ => .pure none
    | .ok () => .ask (.readFile path) fun read => .pure read.toOption

def tempDirFilename : Hooks where
  run :=
    .ask (.tempFile scratchFile) fun
      | .error cause => .request (.fail (unwritable cause))
      | .ok path => (roundTrip path "scratch").bind fun written => .steps [
          ((site 36 "written.ok()" "Some(\"scratch\".to_owned())").expectEqual (optional written)
            (.present (.text "scratch")) "file round trip").require.conduct,
          ((site 37
            "path.parent().and_then(|p| p.file_name()).map(|n| n.to_string_lossy().into_owned())"
            "Some(\"temp-dir-filename\".to_owned())").expectEqual
            (optional (path.parent.bind Path.fileName)) (.present (.text "temp-dir-filename"))
            "per-case directory").conduct]

def plan : Plan where
  name := "system-path"
  category := .unit
  steps := [
    .add Tree.root "valid-fragment" .quick validFragment,
    .add Tree.root "temp-dir-filename" .quick tempDirFilename]

end SuiteTree.Builtin.Directories
