import SuiteTree.Proofs.Run.Lockstep
import SuiteTree.Suite

/-!
# Runs that leave the files alone

Only hooks come into touch with the files in a run. If no hook of a suite does, a run of the suite
neither depends on the files nor changes them, and it does not depend on where its report goes.
-/

namespace SuiteTree

/-- The request is answered without a look at the files, and leaves them alone. The place of a data
file is known without a look if the options name the directory of the data; and if the node has no
data directory, there is nothing to look for. -/
def Request.FileFree (options : Options) (declared : Option String) : Request → Prop
  | .readFile _ => False
  | .writeFile _ _ => False
  | .dataFile _ => declared = none ∨ options.dataDir ≠ none
  | .tempFile _ => options.updateData = true ∧ (declared = none ∨ options.dataDir ≠ none)
  | _ => True

/-- The hooks that a run of the suite may call do not touch the files. -/
def Suite.FileFree (options : Options) (suite : Suite) : Prop :=
  ∀ n ∈ suite.tree.preorder Tree.root, ∀ phase,
    ((suite.hooksOf n).at phase).All (Request.FileFree options (suite.tree.dataDir n))

/-- The state with other files. -/
def State.onFiles (s : State) (files : Files) : State :=
  { s with world := { s.world with files } }

/-- The second of two runs of the tree `t` is where the first one is, but it has other files. Both
have the files with which they began. -/
structure Elsewhere (t : Tree) (files files' : Files) (s u : State) : Prop where
  pristine : s.tree.pristine = t.pristine
  kept : s.world.files = files
  moved : u = s.onFiles files'

section

variable {options : Options} {t : Tree} {files files' : Files} {s u : State} {n : NodeId}

/-- The place of a data file does not depend on the files. -/
theorem Tree.dataFile_onFiles {w : World}
    (free : t.dataDir n = none ∨ options.dataDir ≠ none) (output : Output) (file : String) :
    t.dataFile { w with files } { options with output } n file = t.dataFile w options n file := by
  unfold Tree.dataFile
  obtain none | given := free
  · rw [none]
  · obtain ⟨dir, given⟩ := Option.ne_none_iff_exists'.1 given
    simp only [World.dataRoot, given]

/-- Where reference data are renewed, a temporary file is a data file. -/
theorem Request.reply_tempFile_of_updateData (renewed : options.updateData = true) (name : String)
    (s : State) : (Request.tempFile name).reply options n s =
      .ok (s.tree.dataFile s.world options n name) s := by
  have result : (Request.tempFile name).reply options n s =
      .ok (s.tree.tempFile s.world options n name).1
        { s with world := (s.tree.tempFile s.world options n name).2 } := rfl
  rw [result, Tree.tempFile, if_pos renewed]

namespace Elsewhere

/-- Requests that do not touch the files get the same answers. -/
theorem reply (elsewhere : Elsewhere t files files' s u) (output : Output) {r : Request}
    (free : r.FileFree options (t.dataDir n)) :
    (r.reply options n).Together (r.reply { options with output } n) s u
      (fun a b s' u' => b = a ∧ Elsewhere t files files' s' u') (Elsewhere t files files') := by
  obtain ⟨pristine, kept, rfl⟩ := elsewhere
  rw [← Tree.dataDir_eq_of_pristine pristine] at free
  cases r with
  | fail failure =>
      have reported : Elsewhere t files files' (s.reportFailure n failure)
          ((s.onFiles files').reportFailure n failure) :=
        ⟨(Tree.pristine_reportFailure s.tree n failure).trans pristine, kept, rfl⟩
      refine .modify_bind ?_
      dsimp only
      cases options.assertOnFailure with
      | false => exact .pure ⟨rfl, reported⟩
      | true => exact .modify_bind (.throw ⟨reported.pristine, reported.kept, rfl⟩)
  | dataFile name =>
      exact .of_ok rfl rfl ⟨Tree.dataFile_onFiles free output name, pristine, kept, rfl⟩
  | tempFile name =>
      obtain ⟨renewed, free⟩ := free
      have renewed' : ({ options with output } : Options).updateData = true := renewed
      exact .of_ok (Request.reply_tempFile_of_updateData renewed name s)
        (Request.reply_tempFile_of_updateData renewed' name _)
        ⟨Tree.dataFile_onFiles free output name, pristine, kept, rfl⟩
  | readFile path => exact free.elim
  | writeFile path text => exact free.elim
  | exit cause => exact .modify_bind (.throw ⟨pristine, kept, rfl⟩)
  | _ => exact .of_ok rfl rfl ⟨rfl, pristine, kept, rfl⟩

theorem answer (elsewhere : Elsewhere t files files' s u) (output : Output) {r : Request}
    (free : r.FileFree options (t.dataDir n)) :
    (r.answer options n).Together (r.answer { options with output } n) s u
      (fun a b s' u' => b = a ∧ Elsewhere t files files' s' u') (Elsewhere t files files') := by
  refine .bind (elsewhere.reply output free) ?_
  rintro reply _ s' _ ⟨rfl, pristine, kept, rfl⟩
  exact .modify_bind (.pure ⟨rfl, pristine, kept, rfl⟩)

variable {hooks : NodeId → Hooks} {nodes : NodeId → Prop}

/-- A run of the nodes whose hooks do not touch the files. -/
theorem lockstep (output : Output) (free : ∀ n, nodes n → ∀ phase,
      ((hooks n).at phase).All (Request.FileFree options (t.dataDir n))) :
    Lockstep options { options with output } hooks hooks id nodes Eq (Elsewhere t files files')
      (Elsewhere t files files') where
  enter {s u n} _ := by
    rintro ⟨pristine, kept, rfl⟩
    exact ⟨(Tree.pristine_beginResult s.tree n).trans pristine, kept, rfl⟩
  call {s u n} phase inside := by
    rintro ⟨pristine, kept, rfl⟩
    have staged : Elsewhere t files files' (s.setStage n phase.stage)
        ((s.onFiles files').setStage n phase.stage) :=
      ⟨(Tree.pristine_setStage s.tree n phase.stage).trans pristine, kept, rfl⟩
    refine together_callHook staged rfl fun _ => ?_
    refine (Program.together_conduct _ (free n inside phase)
      (fun r own s u elsewhere => elsewhere.answer output own) ?_).mono fun _ _ _ _ post => post.2
    exact ⟨staged.pristine, staged.kept, rfl⟩
  read := by
    rintro s u ⟨pristine, kept, rfl⟩
    exact ⟨rfl, pristine, kept, rfl⟩
  stage {s u n} stage _ := by
    rintro ⟨pristine, kept, rfl⟩
    exact ⟨(Tree.pristine_setStage s.tree n stage).trans pristine, kept, rfl⟩
  time {s u n a a' b b'} _ := by
    rintro rfl rfl ⟨pristine, kept, rfl⟩
    exact ⟨(Tree.pristine_setElapsed s.tree n _).trans pristine, kept, rfl⟩
  leave _ := by
    rintro ⟨pristine, kept, rfl⟩
    exact ⟨pristine, kept, rfl⟩
  rewind _ := by
    rintro ⟨pristine, kept, rfl⟩
    exact ⟨pristine, kept, rfl⟩
  failed _ := by
    rintro ⟨-, -, rfl⟩
    rfl
  skip _ _ := by
    rintro ⟨pristine, kept, rfl⟩
    exact ⟨pristine, kept, rfl⟩

end Elsewhere

/-- A run of a suite whose hooks do not touch the files keeps the files, and with other files, and
with another place for the report, it does the same. -/
theorem Suite.FileFree.together {suite : Suite} (free : suite.FileFree options) (output : Output)
    (world : World) (files : Files) :
    (runNode options suite.hooksOf Tree.root).Together
      (runNode { options with output } suite.hooksOf Tree.root) ⟨suite.tree, world⟩
      ⟨suite.tree, { world with files }⟩ (fun _ _ => Elsewhere suite.tree world.files files)
      (Elsewhere suite.tree world.files files) := by
  have lock : Lockstep options { options with output } suite.hooksOf suite.hooksOf id
      (· ∈ suite.tree.preorder Tree.root) Eq (Elsewhere suite.tree world.files files)
      (Elsewhere suite.tree world.files files) := Elsewhere.lockstep output free
  refine lock.runNode List.mem_cons_self ?_ (Forest.map_id _).symm ⟨rfl, rfl, rfl⟩
  exact fun m mem => List.mem_cons_of_mem _ mem

end

end SuiteTree
