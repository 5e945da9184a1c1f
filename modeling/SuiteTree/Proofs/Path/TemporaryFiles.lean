import SuiteTree.DataFiles
import SuiteTree.Proofs.Path.Components
import SuiteTree.Proofs.Tree.WellFormed

/-!
# Where temporary files are

The temporary directory of a node is the one of the run, followed by a fragment for every name on the
way to the node. A fragment has no separator, so it is one piece and never absolute. Still it need not
name a directory: an empty name and `.` leave no component behind, and `..` leaves one that leads back
to the directory above. These three names are the only ones to do so.
-/

namespace SuiteTree

namespace Path

variable {name : String}

/-- A component that stands for an entry of a directory. -/
structure IsOrdinary (p : Path) : Prop extends p.IsName where
  ne_parent : p.text ≠ ".."

theorem fragment_eq_self (tame : name.toList.any isHostile = false) : fragment name = name := by
  have kept : fragmentText name.toList = name.toList := by
    refine (List.map_congr_left fun c mem => ?_).trans (List.map_id _)
    exact if_neg (List.any_eq_false.1 tame c mem)
  rw [fragment, kept, String.ofList_toList]

theorem underscore_mem_fragment (hostile : name.toList.any isHostile = true) :
    '_' ∈ (fragment name).toList := by
  obtain ⟨c, mem, replaced⟩ := List.any_eq_true.1 hostile
  rw [fragment, String.toList_ofList]
  exact List.mem_map.2 ⟨c, mem, if_pos replaced⟩

/-- A text without hostile characters and underscores is the fragment of itself and of nothing else. -/
theorem fragment_eq_iff {plain : String} (tame : plain.toList.any isHostile = false)
    (free : '_' ∉ plain.toList) : fragment name = plain ↔ name = plain := by
  constructor
  · rintro rfl
    -- No character was replaced, because the fragment holds no underscore.
    have clean := Bool.eq_false_iff.2 (mt underscore_mem_fragment free)
    exact (fragment_eq_self clean).symm
  · rintro rfl
    exact fragment_eq_self tame

theorem slash_not_mem_fragment (name : String) : '/' ∉ (fragment name).toList := by
  rw [fragment, String.toList_ofList]
  exact slash_not_mem_fragmentText name.toList

theorem isName_fragment_iff : (⟨fragment name⟩ : Path).IsName ↔ name ≠ "" ∧ name ≠ "." := by
  have none : fragment name = "" ↔ name = "" := fragment_eq_iff (by decide) (by decide)
  have dot : fragment name = "." ↔ name = "." := fragment_eq_iff (by decide) (by decide)
  constructor
  · intro isName
    exact ⟨mt none.2 isName.ne_empty, mt dot.2 isName.ne_dot⟩
  · rintro ⟨ne, ne'⟩
    exact ⟨mt none.1 ne, slash_not_mem_fragment name, mt dot.1 ne'⟩

theorem isOrdinary_fragment_iff :
    (⟨fragment name⟩ : Path).IsOrdinary ↔ name ≠ "" ∧ name ≠ "." ∧ name ≠ ".." := by
  have parent : fragment name = ".." ↔ name = ".." := fragment_eq_iff (by decide) (by decide)
  constructor
  · intro ordinary
    obtain ⟨ne, ne'⟩ := isName_fragment_iff.1 ordinary.toIsName
    exact ⟨ne, ne', mt parent.2 ordinary.ne_parent⟩
  · rintro ⟨ne, ne', up⟩
    exact ⟨isName_fragment_iff.2 ⟨ne, ne'⟩, mt parent.1 up⟩

end Path

namespace Tree

open SuiteTree.Path

variable {t : Tree} {w : World} {options : Options} {n p : NodeId} {file : String} {path : Path}

/-- The names on the way to a node, as they are written into a path. -/
def pathFragments (t : Tree) (n : NodeId) : List Path :=
  (t.pathNames n).map fun name => ⟨fragment name⟩

theorem no_slash_of_mem_pathFragments {x : Path} (mem : x ∈ t.pathFragments n) :
    '/' ∉ x.text.toList := by
  obtain ⟨name, -, rfl⟩ := List.mem_map.1 mem
  exact slash_not_mem_fragment name

theorem isAbsolute_join_pathFragments (t : Tree) (n : NodeId) :
    (join (t.pathFragments n)).isAbsolute = false :=
  isAbsolute_join fun _ mem => isAbsolute_of_no_slash (no_slash_of_mem_pathFragments mem)

theorem tempDirectory_ne_empty (given : options.tempDir.text ≠ "") (t : Tree) (n : NodeId) :
    (t.tempDirectory options n).text ≠ "" :=
  append_ne_empty given (t.isAbsolute_join_pathFragments n)

/-- The directory of a node has a component for every fragment that is a name. -/
theorem components_tempDirectory (given : options.tempDir.text ≠ "") (t : Tree) (n : NodeId) :
    (t.tempDirectory options n).components =
      options.tempDir.components ++ (t.pathFragments n).filter (·.IsName) := by
  have written : t.tempDirectory options n = options.tempDir ++ join (t.pathFragments n) := rfl
  rw [written, components_append_names given (t.isAbsolute_join_pathFragments n),
    names_join_of_no_slash fun _ => no_slash_of_mem_pathFragments]

theorem pathFragments_child (link : (t.get n).parent = some p) (down : p < n) :
    t.pathFragments n = t.pathFragments p ++ [⟨fragment (t.get n).name⟩] := by
  rw [pathFragments, pathNames, ancestors_of_lt link down, List.map_cons, List.reverse_cons,
    List.map_append]
  rfl

/-- A node shares the directory of its parent exactly if its name is empty or `.`. -/
theorem tempDirectory_eq_parent_iff (given : options.tempDir.text ≠ "")
    (link : (t.get n).parent = some p) (down : p < n) :
    (t.tempDirectory options n).components = (t.tempDirectory options p).components ↔
      (t.get n).name = "" ∨ (t.get n).name = "." := by
  rw [components_tempDirectory given, components_tempDirectory given, pathFragments_child link down,
    List.filter_append, ← List.append_assoc, List.append_right_eq_self, List.filter_eq_nil_iff]
  simp only [List.forall_mem_singleton, decide_eq_true_eq, isName_fragment_iff, not_and_or, not_not]

theorem tempFile_eq_ok_iff (kept : options.updateData = false) :
    (t.tempFile w options n file).1 = .ok path ↔
      (w.files.makeDirectories (t.tempDirectory options n)).1 = .ok () ∧
        t.tempDirectory options n ++ ⟨file⟩ = path := by
  simp only [tempFile, kept, Bool.false_eq_true, if_false]
  split
  · next made => rw [made, Except.ok.injEq, eq_self, true_and]
  · next failed =>
      rw [failed]
      exact ⟨nofun, nofun⟩

/-- The path leads from the temporary directory through one entry of a directory for every name on
the way to the node, and then to the file. -/
structure KeepsApart (t : Tree) (options : Options) (n : NodeId) (file : String) (path : Path) :
    Prop where
  components : path.components =
    options.tempDir.components ++ t.pathFragments n ++ (⟨file⟩ : Path).components
  ordinary : ∀ x ∈ t.pathFragments n, x.IsOrdinary

end Tree

/-- When data are not renewed, a temporary file is below the temporary directory of the run, and every
name on the way to its node gives one component, but for an empty one and `.`, which give none. So
the file is where it should be exactly if no name is empty, `.` or `..`, and a node has the directory
of its parent exactly if its name is empty or `.`. -/
theorem temporary_file_kept_apart {t : Tree} {w : World} {options : Options} {n : NodeId}
    {file : String} {path : Path} (kept : options.updateData = false)
    (given : options.tempDir.text ≠ "") (relative : (⟨file⟩ : Path).isAbsolute = false)
    (undotted : (⟨file⟩ : Path).Undotted) (made : (t.tempFile w options n file).1 = .ok path) :
    path.components = options.tempDir.components ++ (t.pathFragments n).filter (·.IsName) ++
      (⟨file⟩ : Path).components ∧
    (t.KeepsApart options n file path ↔
      ∀ name ∈ t.pathNames n, name ≠ "" ∧ name ≠ "." ∧ name ≠ "..") ∧
    ∀ p < n, (t.get n).parent = some p →
      ((t.tempDirectory options n).components = (t.tempDirectory options p).components ↔
        (t.get n).name = "" ∨ (t.get n).name = ".") := by
  have place : path.components = options.tempDir.components ++
      (t.pathFragments n).filter (·.IsName) ++ (⟨file⟩ : Path).components := by
    rw [← ((Tree.tempFile_eq_ok_iff kept).1 made).2,
      Path.components_append_names (Tree.tempDirectory_ne_empty given t n) relative,
      Tree.components_tempDirectory given, Path.components_eq_names relative undotted]
  have ordinary : (∀ x ∈ t.pathFragments n, x.IsOrdinary) ↔
      ∀ name ∈ t.pathNames n, name ≠ "" ∧ name ≠ "." ∧ name ≠ ".." := by
    rw [Tree.pathFragments, List.forall_mem_map]
    simp only [Path.isOrdinary_fragment_iff]
  refine ⟨place, ⟨fun apart => ordinary.1 apart.ordinary, fun names => ?_⟩, fun p down link =>
    Tree.tempDirectory_eq_parent_iff given link down⟩
  have entries := ordinary.2 names
  refine ⟨?_, entries⟩
  have all : (t.pathFragments n).filter (·.IsName) = t.pathFragments n :=
    List.filter_eq_self.2 fun x mem => decide_eq_true (entries x mem).toIsName
  rw [place, all]

/-- A case whose name holds separators has one directory, in the one of its suite. -/
theorem case_kept_apart :
    let t := ((Tree.new "suite").add 0 "case: a/b" .quick).2
    let options : Options := { tempDir := ⟨"tmp"⟩ }
    let path : Path := ⟨"tmp/suite/case__a_b/out.txt"⟩
    (t.tempFile {} options 1 "out.txt").1 = .ok path ∧ t.KeepsApart options 1 "out.txt" path ∧
      (t.tempDirectory options 1).components ≠ (t.tempDirectory options 0).components := by
  intro t options path
  have made : (t.tempFile {} options 1 "out.txt").1 = .ok path := by
    have directory : t.tempDirectory options 1 = ⟨"tmp/suite/case__a_b"⟩ := by decide +kernel
    rw [Tree.tempFile_eq_ok_iff rfl, directory]
    exact ⟨rfl, by decide⟩
  obtain ⟨-, apart, shared⟩ :=
    temporary_file_kept_apart (by decide) (by decide) (by decide) (by decide) made
  exact ⟨made, apart.2 (by decide +kernel), mt (shared 0 (by decide) (by decide)).1 (by decide)⟩

/-- The file of a suite that is named `..` is beside the temporary directory. -/
theorem suite_not_kept_apart :
    let t := Tree.new ".."
    let options : Options := { tempDir := ⟨"tmp"⟩ }
    let path : Path := ⟨"tmp/../out.txt"⟩
    options.updateData = false ∧ options.tempDir.text ≠ "" ∧
      (⟨"out.txt"⟩ : Path).isAbsolute = false ∧ (⟨"out.txt"⟩ : Path).Undotted ∧
      (t.tempFile {} options 0 "out.txt").1 = .ok path ∧ ¬ t.KeepsApart options 0 "out.txt" path := by
  intro t options path
  refine ⟨by decide, by decide, by decide, by decide, ?_, fun apart => ?_⟩
  · have directory : t.tempDirectory options 0 = ⟨"tmp/.."⟩ := by decide +kernel
    rw [Tree.tempFile_eq_ok_iff rfl, directory]
    exact ⟨rfl, by decide⟩
  · have mem : (⟨".."⟩ : Path) ∈ t.pathFragments 0 := by decide +kernel
    exact (apart.ordinary _ mem).ne_parent rfl

end SuiteTree
