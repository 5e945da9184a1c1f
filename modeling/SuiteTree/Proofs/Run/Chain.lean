import SuiteTree.Proofs.Run.Accounts
import SuiteTree.Proofs.Run.Settled

/-!
# The failed nodes after a run

After a run of the root of an untouched tree the failed nodes are those on the way up from one of
them, if there are any. A failure fails all nodes above it, so the failed nodes are closed upwards;
and since a failed child is the last one that is run, no node has two failed children.
-/

namespace SuiteTree

/-- The shape of a tree after a run with the events `es`. -/
structure Tree.Shape (u : Tree) (es : List Event) : Prop where
  /-- The children of a node that was entered were run in order, the last of them being the only one
  that may have failed, and the others were left out because the node is failed. -/
  split : ∀ n, .entered n ∈ es → ∃ ran rest, u.Split n ran rest
  one_failed_child : ∀ n, ∀ c ∈ (u.get n).children, ∀ d ∈ (u.get n).children,
    u.isFailed c = true → u.isFailed d = true → c = d
  /-- The failed nodes are the way up from one of them to the root. -/
  chain : (∀ n, u.isFailed n = false) ∨
    ∃ d, Tree.root ∈ u.ancestors d ∧ ∀ n, u.isFailed n = true ↔ n ∈ u.ancestors d
  passed_below_run : ∀ n v, .called n .run v ∈ es → ∀ d ∈ (u.below n).preorder, u.isFailed d = false

namespace Tree

variable {t : Tree} {c m n : NodeId} {es : List Event} {rs : List (NodeId × Failure)}

/-- A node that is not below the root is not above anything that is. -/
theorem root_mem_ancestors (mem : n ∈ t.ancestors m) (attached : root ∈ t.ancestors m) :
    root ∈ t.ancestors n := by
  obtain up | up := mem_ancestors_total mem attached
  · rw [eq_root_of_mem_ancestors up]
    exact mem_ancestors_self t root
  · exact up

/-- A set of nodes that is closed upwards and holds at most one child of every node is a way up, as
far as it is at or below one of its nodes. The induction goes from younger nodes to older ones. -/
theorem WellFormed.exists_chain (wf : t.WellFormed) {failed : NodeId → Prop}
    (up : ∀ m n, m ∈ t.ancestors n → failed n → failed m)
    (unique : ∀ n, ∀ c ∈ (t.get n).children, ∀ d ∈ (t.get n).children, failed c → failed d → c = d)
    (inside : n < t.size) (hn : failed n) :
    ∃ d, n ∈ t.ancestors d ∧ ∀ m, n ∈ t.ancestors m → (failed m ↔ m ∈ t.ancestors d) := by
  induction room : t.size - n using Nat.strongRecOn generalizing n with
  | ind k ih =>
      by_cases some : ∃ c ∈ (t.get n).children, failed c
      · obtain ⟨c, child, hc⟩ := some
        have less : t.size - c < k := by
          rw [← room]
          exact Nat.sub_lt_sub_left inside (wf.lt_child n c child)
        obtain ⟨d, below, chain⟩ := ih _ less (wf.child_lt_size n c child) hc rfl
        have above : n ∈ t.ancestors d := mem_ancestors_trans (wf.mem_ancestors_child child) below
        refine ⟨d, above, ?_⟩
        intro m mem
        obtain rfl | ⟨c', child', mem'⟩ := wf.mem_ancestors_iff.1 mem
        · exact ⟨fun _ => above, fun _ => hn⟩
        by_cases same : c' = c
        · exact chain m (same ▸ mem')
        · constructor
          · intro hm
            exact absurd (unique n c' child' c child (up c' m mem' hm) hc) same
          · intro mem_d
            exact absurd (wf.child_eq_of_mem_ancestors child' child
              (mem_ancestors_trans mem' mem_d) below) same
      · refine ⟨n, mem_ancestors_self t n, ?_⟩
        intro m mem
        obtain rfl | ⟨c, child, mem'⟩ := wf.mem_ancestors_iff.1 mem
        · exact ⟨fun _ => mem_ancestors_self t m, fun _ => hn⟩
        · constructor
          · intro hm
            exact absurd ⟨c, child, up c m mem' hm⟩ some
          · intro mem_n
            exact absurd (mem_ancestors_trans mem' mem_n) (wf.not_mem_ancestors_parent child)

theorem Tracks.isFailed_iff (tracks : t.Tracks rs) :
    t.isFailed n = true ↔ ∃ r ∈ rs, n ∈ t.ancestors r.1 := by
  rw [Tree.isFailed_iff, tracks.childrenFailed_iff, tracks.failures_eq]
  constructor
  · rintro (⟨r, mem, up, -⟩ | some)
    · exact ⟨r, mem, up⟩
    · obtain ⟨failure, mem⟩ := List.exists_mem_of_ne_nil _ some
      exact ⟨(n, failure), mem_reportsBy_iff.1 mem, mem_ancestors_self t n⟩
  · rintro ⟨⟨k, failure⟩, mem, up⟩
    by_cases same : n = k
    · exact .inr (List.ne_nil_of_mem (mem_reportsBy_iff.2 (same ▸ mem)))
    · exact .inl ⟨_, mem, up, same⟩

/-- A failure fails all nodes above it. -/
theorem Tracks.isFailed_up (tracks : t.Tracks rs) (up : m ∈ t.ancestors n)
    (failed : t.isFailed n = true) : t.isFailed m = true := by
  obtain ⟨r, mem, up'⟩ := tracks.isFailed_iff.1 failed
  exact tracks.isFailed_iff.2 ⟨r, mem, mem_ancestors_trans up up'⟩

/-- The failed nodes are a way up to the root if they all are below the root and no node has two
failed children. -/
theorem WellFormed.chain (wf : t.WellFormed) (tracks : t.Tracks rs)
    (attached : ∀ n, t.isFailed n = true → root ∈ t.ancestors n)
    (unique : ∀ n, ∀ c ∈ (t.get n).children, ∀ d ∈ (t.get n).children,
      t.isFailed c = true → t.isFailed d = true → c = d) :
    (∀ n, t.isFailed n = false) ∨
      ∃ d, root ∈ t.ancestors d ∧ ∀ n, t.isFailed n = true ↔ n ∈ t.ancestors d := by
  by_cases some : ∃ n, t.isFailed n = true
  · obtain ⟨n, failed⟩ := some
    have rootFailed := tracks.isFailed_up (attached n failed) failed
    obtain ⟨d, below, chain⟩ := wf.exists_chain (fun _ _ => tracks.isFailed_up) unique
      wf.root_lt_size rootFailed
    refine .inr ⟨d, below, fun n => ?_⟩
    constructor
    · intro failed
      exact (chain n (attached n failed)).1 failed
    · intro up
      exact (chain n (root_mem_ancestors up below)).2 up
  · refine .inl fun n => ?_
    rw [Bool.eq_false_iff]
    exact fun failed => some ⟨n, failed⟩

/-- Of two failed children one would not be the last that was run. -/
theorem Split.eq_of_isFailed {ran rest : List NodeId} (split : t.Split n ran rest) {d : NodeId}
    (hc : c ∈ (t.get n).children) (hd : d ∈ (t.get n).children) (failedC : t.isFailed c = true)
    (failedD : t.isFailed d = true) : c = d := by
  have last : ∀ k ∈ (t.get n).children, t.isFailed k = true → ∀ init l, ran = init ++ [l] →
      k = l := by
    rintro k mem failed init l rfl
    rw [split.children, List.append_assoc, List.mem_append] at mem
    obtain mem | mem := mem
    · exact absurd (split.passed k (by simpa using mem)) (by simp [failed])
    obtain mem | mem := List.mem_append.1 mem
    · exact List.mem_singleton.1 mem
    · exact absurd (split.dormant k mem).self.isFailed (by simp [failed])
  obtain none | ⟨init, l, some⟩ := List.eq_nil_or_concat ran
  · rw [split.children, none] at hc
    exact absurd (split.dormant c hc).self.isFailed (by simp [failedC])
  · rw [List.concat_eq_append] at some
    exact (last c hc failedC init l some).trans (last d hd failedD init l some).symm

end Tree

variable {t : Tree} {es : List Event}

/-- The tree after a visit of the root of an untouched tree. -/
theorem Visit.shape (visit : Visit t Tree.root es) (wf : t.WellFormed) (untouched : t.Untouched) :
    (t.replay es).Shape es := by
  have dormant := untouched.dormant Tree.root
  have scope := visit.scope wf wf.root_lt_size
  have inside : ∀ e ∈ es, e.node < t.size := fun e mem =>
    Tree.lt_size_of_mem_ancestors (scope e mem) wf.root_lt_size
  have tracks : (t.replay es).Tracks (reports es) :=
    untouched.tracks.replay (visit.orderly wf wf.root_lt_size dormant) inside
  have attached : ∀ n, (t.replay es).isFailed n = true → Tree.root ∈ t.ancestors n := by
    intro n failed
    obtain ⟨r, mem, up⟩ := tracks.isFailed_iff.1 failed
    obtain ⟨e, he, -, node⟩ := exists_of_mem_reports mem
    exact Tree.root_mem_ancestors (by simpa using up) (node ▸ scope e he)
  have settled : ∀ n, Tree.root ∈ t.ancestors n →
      (t.replay es).Dormant n ∨ (t.replay es).Settled n :=
    (visit.settled wf wf.root_lt_size dormant).2
  have unique : ∀ n, ∀ c ∈ ((t.replay es).get n).children, ∀ d ∈ ((t.replay es).get n).children,
      (t.replay es).isFailed c = true → (t.replay es).isFailed d = true → c = d := by
    intro n c hc d hd failedC failedD
    have child : c ∈ (t.get n).children := by simpa using hc
    have up : Tree.root ∈ t.ancestors n :=
      Tree.root_mem_ancestors (wf.mem_ancestors_child child) (attached c failedC)
    obtain rest | ⟨-, ran, rest, split⟩ := settled n up
    · have idle := (rest.below ((wf.replay es).mem_ancestors_child hc)).self
      exact absurd idle.isFailed (by simp [failedC])
    · exact split.eq_of_isFailed hc hd failedC failedD
  refine ⟨?_, unique, ?_, ?_⟩
  · intro n mem
    obtain rest | ⟨-, split⟩ := settled n (scope _ mem)
    · have known := Tree.isSome_result_of_entered inside mem
      rw [rest.self.2] at known
      cases known
    · exact split
  · exact (wf.replay es).chain tracks (fun n failed => by simpa using attached n failed) unique
  · intro n v called d below
    obtain ⟨up, ne⟩ := (wf.replay es).mem_below_iff.1 below
    exact visit.passed_below_run wf wf.root_lt_size called d (by simpa using up) ne

/-- Whatever the hooks do, a run of the root of a tree in which nothing has run or failed leaves the
failed nodes in one chain from the root, below which and beside which nothing more was run. -/
theorem runNode_shape (reach : t.Reachable) (untouched : t.Untouched) (options : Options)
    (hooks : NodeId → Hooks) (world : World) :
    t.AfterRun options hooks Tree.root world (fun u es => u.Shape es)
      (fun halt es => EndsInHook options hooks halt es) := by
  have wf := reach.wellFormed
  apply wf.afterRun
  · intro es visit
    exact visit.shape wf untouched
  · intro halt es breaks
    exact breaks.1

/-- The first of two cases fails while it is torn down. -/
theorem failing_teardown_shape :
    let failing : Program Unit := .request (.fail ⟨"a < b", "2", "1", "", "suite.rs", 7⟩)
    let hooks : NodeId → Hooks := fun n => if n = 1 then { teardown := failing } else .idle
    Tree.twoCases.Reachable ∧ Tree.twoCases.Untouched ∧
      Tree.twoCases.AfterRun {} hooks Tree.root {} (fun u es => u.Shape es)
        (fun halt es => EndsInHook {} hooks halt es) := by
  intro failing hooks
  have reach := Tree.twoCases_reachable
  have untouched := Tree.twoCases_untouched
  exact ⟨reach, untouched, runNode_shape reach untouched {} hooks {}⟩

end SuiteTree
