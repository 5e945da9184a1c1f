import SuiteTree.Proofs.Run.Composition
import SuiteTree.Proofs.Tree.DataDirs

/-!
# Looking for data files

A hook asks for a data file while its node runs, so the answer comes from a tree in the middle of a
run. Runs change neither links nor declarations. Hence what an answer owes to these can be read off
the tree as it was before the run: a node that runs finds no data directory exactly if none was ever
declared on its way up.
-/

namespace SuiteTree

/-- An answer is what the request got from a state in which the tree has the links and declarations
of `t`. -/
def Event.Told (options : Options) (t : Tree) : Event → Prop
  | answered n r reply => ∃ s s' : State, s.tree.pristine = t.pristine ∧
      r.reply options n s = .ok reply s'
  | _ => True

section Told

variable {options : Options} {t : Tree} {s : State} {n : NodeId}

theorem Request.emits_told (r : Request) (links : s.tree.pristine = t.pristine) :
    (r.answer options n).Emits s (fun _ es => ∀ e ∈ es, e.Told options t)
      (fun _ es => ∀ e ∈ es, e.Told options t) := by
  have emits : (r.answer options n).Emits s _ _ := r.emits_answer
  unfold Run.Emits at emits ⊢
  cases result : r.reply options n s with
  | ok reply s' =>
      rw [Request.answer_of_ok result] at emits ⊢
      obtain ⟨_, ext, rfl⟩ := emits
      exact ⟨_, ext, List.forall_mem_singleton.2 ⟨s, s', links, result⟩⟩
  | error how s' =>
      rw [Request.answer_of_error result] at emits ⊢
      obtain ⟨_, events, rfl, -⟩ := emits
      exact ⟨_, events, List.forall_mem_nil _⟩

/-- All answers to a hook are told, since nothing that a hook asks for changes links or
declarations. -/
theorem Program.emits_told {α : Type} (p : Program α) (links : s.tree.pristine = t.pristine) :
    (p.conduct options n).Emits s (fun _ es => ∀ e ∈ es, e.Told options t)
      (fun _ es => ∀ e ∈ es, e.Told options t) := by
  induction p generalizing s with
  | pure a => exact .pure (List.forall_mem_nil _)
  | ask request next ih =>
      refine (request.emits_told links).bind ?_ fun _ _ => id
      intro reply es s' ext told
      exact (ih reply (ext.pristine.trans links)).mono
        (fun _ _ rest => List.forall_mem_append.2 ⟨told, rest⟩)
        (fun _ _ rest => List.forall_mem_append.2 ⟨told, rest⟩)

theorem composable_told (options : Options) (hooks : NodeId → Hooks) (t : Tree) :
    Composable options hooks t (fun es => ∀ e ∈ es, e.Told options t)
      (fun _ es => ∀ e ∈ es, e.Told options t) where
  nil := List.forall_mem_nil _
  append first second := List.forall_mem_append.2 ⟨first, second⟩
  halted first second := List.forall_mem_append.2 ⟨first, second⟩
  own {e} runners := by
    refine List.forall_mem_singleton.2 ?_
    cases e with
    | answered => cases runners
    | _ => trivial
  call phase links :=
    (Program.emits_told _ links).mono (fun _ _ told => List.forall_mem_cons.2 ⟨trivial, told⟩)
      (fun _ _ told => List.forall_mem_cons.2 ⟨trivial, told⟩)

/-- Whatever a hook is told in a run, its request got from a tree with the links and declarations
that were there before the run. -/
theorem Tree.told_afterRun (t : Tree) (options : Options) (hooks : NodeId → Hooks) (n : NodeId)
    (world : World) : t.AfterRun options hooks n world (fun _ es => ∀ e ∈ es, e.Told options t)
      (fun _ es => ∀ e ∈ es, e.Told options t) :=
  (composable_told options hooks t).afterRun world

end Told

/-- The place from where declared directories count can be missing in one way only. -/
theorem World.cause_of_dataRoot_error {w : World} {options : Options} {cause : Error}
    (missing : w.dataRoot options = .error cause) :
    cause = .sourceDirNotFound w.host.programDir.text := by
  unfold World.dataRoot at missing
  split at missing
  · cases missing
  · split at missing
    · cases missing
    · exact (Except.error.inj missing).symm

/-- A data file is not found for want of a data directory exactly if the node inherits none. -/
theorem Tree.dataFile_noDataDir_iff (t : Tree) (w : World) (options : Options) (n : NodeId)
    (file : String) : (∃ name, t.dataFile w options n file = .error (.noDataDir name)) ↔
      t.dataDir n = none := by
  unfold Tree.dataFile
  cases t.dataDir n with
  | none => simp
  | some dir =>
      cases top : w.dataRoot options with
      | ok top => simp [bind, Except.bind, pure, Except.pure]
      | error cause => simp [bind, Except.bind, World.cause_of_dataRoot_error top]

/-- Every answer to a request for a data file says that there is no data directory exactly if none
was ever declared on the way up of the node. -/
def Tree.MissesUndeclared (t : Tree) (ds : List (NodeId × String)) (es : List Event) : Prop :=
  ∀ m file reply, .answered m (.dataFile file) reply ∈ es →
    ((∃ name, reply = .error (.noDataDir name)) ↔ ∀ a ∈ t.ancestors m, ∀ dir, (a, dir) ∉ ds)

theorem Tree.MadeWith.missesUndeclared {t : Tree} {ds : List (NodeId × String)}
    {options : Options} {es : List Event} (made : t.MadeWith ds)
    (told : ∀ e ∈ es, e.Told options t) : t.MissesUndeclared ds es := by
  intro m file reply mem
  obtain ⟨s, s', same, result⟩ := told _ mem
  obtain rfl : s.tree.dataFile s.world options m file = reply := (EStateM.Result.ok.inj result).1
  rw [Tree.dataFile_noDataDir_iff, Tree.dataDir_eq_of_pristine same, made.dataDir_eq_none_iff]

/-- How changes of a tree change what its nodes inherit. -/
structure Tree.InheritsDataDirs (t : Tree) : Prop where
  /-- A declaration counts where its node lies on the way up and no other declaration lies below
  it. It changes nothing elsewhere. -/
  declared : ∀ x < t.size, ∀ dir y,
    (t.setDataDir x dir).dataDir y = if t.Governs x y then some dir else t.dataDir y
  /-- A new node has what its parent has. -/
  added : ∀ parent < t.size, ∀ name duration,
    (t.add parent name duration).2.dataDir (t.add parent name duration).1 = t.dataDir parent
  /-- A detached child takes what it inherited from the nodes below it that have no declaration on
  their ways up to the child, and from the child if it has none. It changes nothing elsewhere. -/
  detached : ∀ n < t.size, ∀ max y, (t.prune n max).dataDir y =
    if ∃ d ∈ (t.get n).children, max < (t.get d).duration ∧ t.Governs d y ∧
      (t.get d).dataDir = none then none else t.dataDir y

theorem Tree.WellFormed.inheritsDataDirs {t : Tree} (wf : t.WellFormed) : t.InheritsDataDirs where
  declared _ inside dir y := wf.dataDir_setDataDir inside dir y
  added parent inside name duration := by
    have new : (t.add parent name duration).1 = t.size := rfl
    rw [wf.dataDir_add inside, if_pos new]
  detached n inside max y := by
    simp only [wf.dataDir_pruned inside, Tree.Disinherits, Tree.mem_prunedChildren_iff,
      Duration.not_le, and_assoc]

/-- What nodes inherit, and what becomes of it. In a reachable tree a declaration of a data directory
counts for the nodes below its own as far down as no other one does, a new node starts with what its
parent has, and a child that is detached leaves without a data directory what inherited from above
it. So a data file is missed for want of a data directory, whenever it is asked for in whatever run,
exactly if no directory was ever declared on the way up of the node. -/
theorem data_dirs_inherited {t : Tree} (reach : t.Reachable) :
    t.InheritsDataDirs ∧ (∃ ds, t.MadeWith ds) ∧ ∀ ds, t.MadeWith ds →
      (∀ w options m file, (∃ name, t.dataFile w options m file = .error (.noDataDir name)) ↔
        ∀ a ∈ t.ancestors m, ∀ dir, (a, dir) ∉ ds) ∧
      ∀ options hooks n world, t.AfterRun options hooks n world
        (fun _ es => t.MissesUndeclared ds es) (fun _ es => t.MissesUndeclared ds es) := by
  refine ⟨reach.wellFormed.inheritsDataDirs, reach.exists_madeWith, fun ds made => ⟨?_, ?_⟩⟩
  · intro w options m file
    rw [t.dataFile_noDataDir_iff, made.dataDir_eq_none_iff]
  · intro options hooks n world
    exact (t.told_afterRun options hooks n world).mono (fun _ _ => made.missesUndeclared)
      (fun _ _ => made.missesUndeclared)

/-- A case that is too slow is detached. The case below it had the data directory of the suite and is
left without any, also in a run of the slow case. -/
theorem detached_case_has_no_data :
    let t := (((Tree.twoCases.add 0 "slow" .extensive).2.add 3 "inner" .quick).2.setDataDir 0
      "data").prune 0 .quick
    t.Reachable ∧ t.InheritsDataDirs ∧ t.MadeWith [(0, "data")] ∧ t.dataDir 1 = some "data" ∧
      (∀ w options file, ∃ name, t.dataFile w options 4 file = .error (.noDataDir name)) ∧
      ∀ options hooks world, t.AfterRun options hooks 3 world
        (fun _ es => t.MissesUndeclared [(0, "data")] es)
        (fun _ es => t.MissesUndeclared [(0, "data")] es) := by
  intro t
  have made : t.MadeWith [(0, "data")] := by
    refine .prune (.setDataDir (.add (.add (.add (.add (.new "suite") ?_ _ _) ?_ _ _) ?_ _ _) ?_ _ _)
      ?_ _) ?_ _
    all_goals decide
  have reach : t.Reachable := made.reachable
  have undeclared : ∀ a ∈ t.ancestors 4, ∀ dir, (a, dir) ∉ [(0, "data")] := by
    have way : t.ancestors 4 = [4, 3] := by decide +kernel
    rw [way]
    simp
  obtain ⟨inherits, -, missing⟩ := data_dirs_inherited reach
  obtain ⟨asked, run⟩ := missing _ made
  refine ⟨reach, inherits, made, by decide +kernel, ?_, fun options hooks world => ?_⟩
  · exact fun w options file => (asked w options 4 file).2 undeclared
  · exact run options hooks 3 world

end SuiteTree
