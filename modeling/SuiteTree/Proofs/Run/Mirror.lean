import Mathlib.Data.List.Perm.Subperm
import SuiteTree.Proofs.Report.Reading
import SuiteTree.Proofs.Report.Shown
import SuiteTree.Proofs.Run.Accounts
import SuiteTree.Proofs.Run.Entering

/-!
# Reports mirror the run

In a run of the root of a tree in which nothing has run or failed, a report of the root shows the
nodes that have been entered, in the order in which this happened. Something is known of exactly
these nodes: entering a node makes a result for it, and a failure makes one only for nodes on the
way up from a node that has been entered. And the nodes on the way up have been entered before, so
none of them is hidden together with the subtree of another one.

This holds at every moment of the run. When a hook is called, the setup hooks of all these nodes
have been called as well, so the order of the report is that of the setup hooks.
-/

namespace SuiteTree

open Report

/-- The reports of the root show the nodes `ns` in this order, each at its depth and with what is
known of it. The XML report reads as a printout with these nodes, whose statuses tell of the
failures inside, and the verbose text report has the lines of these nodes. -/
structure Tree.Mirrors (u : Tree) (ns : List NodeId) : Prop where
  once : ns.Nodup
  xml : readXml 0 (render .xml 0 (u.outline root)) = some (u.printout root)
  shown : (u.printout root).entries 0 = ns.map fun n => (u.depth n, u.printed n)
  telling : (u.printout root).Telling
  text : render (.text true) 0 (u.outline root) =
    unlines (ns.flatMap fun n => (u.printed n).textLines (u.depth n))

/-- Whenever a hook is called, the reports mirror the run so far, and the setup hooks of the nodes
in the reports have been called in the order of the reports. -/
def MirroredAtCalls (es : List Event) : Prop :=
  ∀ before n phase u later, es = before ++ .called n phase u :: later →
    u.Mirrors (visited before) ∧ setUp (before ++ [.called n phase u]) = visited before

theorem MirroredAtCalls.of_append {es more : List Event} (h : MirroredAtCalls (es ++ more)) :
    MirroredAtCalls es := by
  rintro before n phase u later rfl
  exact h before n phase u (later ++ more) (by simp)

/-- Among the members of a list without repetitions those of a sublist make up the sublist. -/
theorem filter_eq_of_sublist {s l : List NodeId} {p : NodeId → Bool} (sub : s.Sublist l)
    (nodup : l.Nodup) (mem : ∀ a ∈ l, p a = true ↔ a ∈ s) : l.filter p = s := by
  have kept : s.filter p = s := List.filter_eq_self.2 fun a h => (mem a (sub.mem h)).2 h
  have inner : s.Sublist (l.filter p) := kept ▸ sub.filter p
  have subset : l.filter p ⊆ s := by
    intro a h
    obtain ⟨h, pos⟩ := List.mem_filter.1 h
    exact (mem a h).1 pos
  have short := (List.subperm_of_subset (nodup.filter p) subset).length_le
  exact (inner.eq_of_length_le short).symm

namespace Tree

variable {t : Tree} {es : List Event}

/-- Reports mirror what is known of the tree, if it is known from above and the marks are right. -/
theorem WellFormed.mirrors (wf : t.WellFormed) (closed : t.KnownFromAbove)
    (marks : t.MarkedRightly) : t.Mirrors (t.known (t.preorder root)) where
  once := (wf.nodup_preorder root).filter _
  xml := readXml_render 0 (t.outline root)
  shown := by
    rw [← depth_root t]
    exact wf.entries_printout closed root
  telling := wf.telling_printout closed marks root
  text := by
    have shown := wf.entries_printout closed root
    rw [depth_root] at shown
    rw [render_text_eq_printout]
    have printed : (view (t.outline root)).printout = t.printout root := rfl
    rw [printed, Printout.textLines_eq_flatMap, shown, List.flatMap_map]

/-- What happens below a node says nothing of the nodes that are not below it. -/
theorem get_replay_of_outside (scope : ∀ e ∈ es, root ∈ t.ancestors e.node) {m : NodeId}
    (outside : root ∉ t.ancestors m) : (t.replay es).get m = t.get m := by
  apply get_replay_of_not_mem
  intro e mem up
  obtain h | h := mem_ancestors_total (scope e mem) up
  · exact outside h
  · rw [eq_root_of_mem_ancestors h] at outside
    exact outside (mem_ancestors_self t root)

/-- In an untouched tree, something is known of exactly the nodes that have been entered. -/
theorem Untouched.known_replay_iff (untouched : t.Untouched) (wf : t.WellFormed)
    (scope : ∀ e ∈ es, root ∈ t.ancestors e.node) (grounded : Grounded t root es) (m : NodeId) :
    ((t.replay es).get m).result.isSome = true ↔ m ∈ visited es := by
  by_cases up : root ∈ t.ancestors m
  · apply isSome_result_replay_iff grounded up (untouched m).2
    intro e mem
    exact lt_size_of_mem_ancestors (scope e mem) wf.root_lt_size
  · rw [get_replay_of_outside scope up, (untouched m).2]
    constructor
    · intro known
      cases known
    · intro mem
      exact absurd (scope _ (mem_visited_iff.1 mem)) up

/-- Nodes are entered after those above them. -/
theorem Untouched.knownFromAbove_replay (untouched : t.Untouched) (wf : t.WellFormed)
    (scope : ∀ e ∈ es, root ∈ t.ancestors e.node) (grounded : Grounded t root es) :
    (t.replay es).KnownFromAbove := by
  intro m known k up
  rw [ancestors_replay] at up
  rw [untouched.known_replay_iff wf scope grounded, mem_visited_iff] at known ⊢
  have attached : root ∈ t.ancestors k := by
    obtain h | h := mem_ancestors_total (scope _ known) up
    · exact h
    · rw [eq_root_of_mem_ancestors h]
      exact mem_ancestors_self t root
  exact grounded _ known rfl k up attached

end Tree

/-- At any moment of a run of the root of an untouched tree, the reports mirror the run so far. -/
theorem Visit.mirrors {t : Tree} {before later : List Event}
    (visit : Visit t Tree.root (before ++ later)) (wf : t.WellFormed) (untouched : t.Untouched) :
    (t.replay before).Mirrors (visited before) := by
  have scope : ∀ e ∈ before, Tree.root ∈ t.ancestors e.node := fun e mem =>
    visit.scope wf wf.root_lt_size e (List.mem_append_left _ mem)
  have grounded : Grounded t Tree.root before := by
    have sofar := visit.grounded wf wf.root_lt_size before.length
    rwa [List.take_left] at sofar
  have orderly := visit.orderly wf wf.root_lt_size (untouched.dormant _)
  have tracks := untouched.tracks.replay ((Tree.along_append _ _ _ _).1 orderly).1 fun e mem =>
    Tree.lt_size_of_mem_ancestors (scope e mem) wf.root_lt_size
  have wf' := wf.replay before
  have order : (visited before).Sublist (t.preorder Tree.root) := by
    have whole := visit.visited_sublist wf wf.root_lt_size
    rw [visited_append] at whole
    exact (List.sublist_append_left _ _).trans whole
  have known : (t.replay before).known ((t.replay before).preorder Tree.root) = visited before := by
    have same : (t.replay before).preorder Tree.root = t.preorder Tree.root := by
      rw [Tree.preorder, Tree.preorder, Tree.below_eq_of_pristine (Tree.pristine_replay t before)]
    rw [same]
    apply filter_eq_of_sublist order (wf.nodup_preorder _)
    intro m _
    exact untouched.known_replay_iff wf scope grounded m
  rw [← known]
  apply wf'.mirrors
  · exact untouched.knownFromAbove_replay wf scope grounded
  · exact (tracks.accounts wf').childrenFailed_iff

/-- So they do whenever a hook is called. -/
theorem Visit.mirroredAtCalls {t : Tree} {es : List Event} (visit : Visit t Tree.root es)
    (wf : t.WellFormed) (untouched : t.Untouched) (calls : SetUpAtCalls es) :
    MirroredAtCalls es := by
  rintro before n phase u later rfl
  have same : u = t.replay before :=
    (visit.orderly wf wf.root_lt_size (untouched.dormant _)).at_event
  refine ⟨same ▸ visit.mirrors wf untouched, ?_⟩
  have upTo : (before ++ .called n phase u :: later).take (before.length + 1) =
      before ++ [.called n phase u] := by
    rw [List.take_append, List.take_of_length_le (Nat.le_succ _), Nat.add_sub_cancel_left]
    rfl
  have entered : visited (before ++ [.called n phase u]) = visited before := by
    rw [visited_append]
    exact List.append_nil _
  rw [← entered, ← upTo]
  apply calls _ n phase u
  rw [upTo, List.getLast?_concat]

/-- In a run of the root of a tree in which nothing has run or failed, whatever the hooks do, the
reports mirror the run whenever a hook is called and when the run is over. -/
theorem reports_mirror_run {t : Tree} (reach : t.Reachable) (untouched : t.Untouched)
    (options : Options) (hooks : NodeId → Hooks) (world : World) :
    t.AfterRun options hooks Tree.root world
      (fun u es => MirroredAtCalls es ∧ u.Mirrors (visited es) ∧ setUp es = visited es)
      (fun halt es => EndsInHook options hooks halt es ∧ MirroredAtCalls es) := by
  have wf := reach.wellFormed
  have setUps : ∀ es, Visit t Tree.root es → SetUpAtCalls es ∧ setUp es = visited es := by
    intro es visit
    exact visit.setUpAtCalls wf wf.root_lt_size fun m up => reach.hooked_of_attached up
  apply wf.afterRun
  · intro es visit
    obtain ⟨calls, all⟩ := setUps es visit
    refine ⟨visit.mirroredAtCalls wf untouched calls, ?_, all⟩
    exact Visit.mirrors ((List.append_nil es).symm ▸ visit) wf untouched
  · rintro halt es ⟨ends, more, -, visit⟩
    exact ⟨ends, (visit.mirroredAtCalls wf untouched (setUps _ visit).1).of_append⟩

/-- The first of two cases fails while it is set up, so the second one is never shown. -/
theorem failing_setup_mirrored :
    let failing : Program Unit := .request (.fail ⟨"a < b", "2", "1", "", "suite.rs", 7⟩)
    let hooks : NodeId → Hooks := fun n => if n = 1 then { setup := failing } else .idle
    Tree.twoCases.Reachable ∧ Tree.twoCases.Untouched ∧
      Tree.twoCases.AfterRun {} hooks Tree.root {}
        (fun u es => MirroredAtCalls es ∧ u.Mirrors (visited es) ∧ setUp es = visited es)
        (fun halt es => EndsInHook {} hooks halt es ∧ MirroredAtCalls es) := by
  intro failing hooks
  have reach := Tree.twoCases_reachable
  have untouched := Tree.twoCases_untouched
  exact ⟨reach, untouched, reports_mirror_run reach untouched {} hooks {}⟩

end SuiteTree
