import SuiteTree.Proofs.Run.Scope

/-!
# What a run leaves behind

A visit of an untouched subtree leaves every node of it either run to its end or untouched together
with everything below it. Of the children of a node that was run, some first ones were run too; all
of them but the last have passed, and none is missing unless the node is failed. If nothing was
reported, all nodes of the subtree have passed.
-/

namespace SuiteTree

namespace Tree

/-- The node has been run to its end. -/
def Finished (t : Tree) (n : NodeId) : Prop :=
  (t.get n).stage = .done ∧ (t.get n).result.isSome

/-- The node has been run to its end, and no failure was reported at or below it. -/
def Passed (t : Tree) (n : NodeId) : Prop :=
  (t.get n).stage = .done ∧ t.isFailed n = false

/-- The children of node `n` are those in `ran`, which were run, and those in `rest`, which were
not because the node was failed. All children that were run but the last one have passed. -/
structure Split (t : Tree) (n : NodeId) (ran rest : List NodeId) : Prop where
  children : (t.get n).children = ran ++ rest
  finished : ∀ c ∈ ran, t.Finished c
  dormant : ∀ c ∈ rest, t.Dormant c
  passed : ∀ c ∈ ran.dropLast, t.isFailed c = false
  abandoned : rest ≠ [] → t.isFailed n = true

/-- The node has been run to its end, and its children in order up to one of them. -/
def Settled (t : Tree) (n : NodeId) : Prop :=
  t.Finished n ∧ ∃ ran rest, t.Split n ran rest

section Agreement

variable {t u : Tree} {n : NodeId}

theorem SameBelow.self (same : t.SameBelow u n) : u.get n = t.get n :=
  same.get n (mem_ancestors_self t n)

theorem Finished.congr (finished : t.Finished n) (same : t.SameBelow u n) : u.Finished n := by
  rwa [Finished, same.self]

theorem Passed.congr (passed : t.Passed n) (same : t.SameBelow u n) : u.Passed n := by
  rwa [Passed, same.self, isFailed_congr same.self]

theorem Settled.congr (settled : t.Settled n) (wf : t.WellFormed) (same : t.SameBelow u n) :
    u.Settled n := by
  obtain ⟨finished, ran, rest, split⟩ := settled
  have child : ∀ c ∈ ran ++ rest, t.SameBelow u c := by
    intro c mem
    rw [← split.children] at mem
    exact same.below (wf.mem_ancestors_child mem)
  refine ⟨finished.congr same, ran, rest, ?_, ?_, ?_, ?_, ?_⟩
  · rw [same.self]
    exact split.children
  · intro c mem
    exact (split.finished c mem).congr (child c (List.mem_append_left _ mem))
  · intro c mem
    exact (split.dormant c mem).congr (child c (List.mem_append_right _ mem))
  · intro c mem
    have ran_c : c ∈ ran ++ rest := List.mem_append_left _ (List.dropLast_subset ran mem)
    rw [isFailed_congr (child c ran_c).self]
    exact split.passed c mem
  · intro some
    rw [isFailed_congr same.self]
    exact split.abandoned some

end Agreement

end Tree

variable {t : Tree} {c n : NodeId} {cs : List NodeId} {a b d es : List Event} {abandoned : Bool}

section OwnNode

theorem Visit.finished (visit : Visit t n es) (wf : t.WellFormed) (inside : n < t.size) :
    (t.replay es).Finished n := by
  constructor
  · cases visit with
    | mk _ _ _ leaving =>
        have done := leaving.stage (by simpa using inside)
        rwa [← Tree.replay_append, List.append_assoc, List.append_assoc] at done
  · have scope := visit.scope wf inside
    obtain ⟨tail, rfl, -⟩ := visit.eq_cons wf inside
    refine Tree.isSome_result_of_entered ?_ List.mem_cons_self
    intro e mem
    exact Tree.lt_size_of_mem_ancestors (scope e mem) inside

/-- After a visit in which nothing is reported the node has passed. -/
theorem Visit.passed_self (visit : Visit t n es) (wf : t.WellFormed) (inside : n < t.size)
    (none : reports es = []) : (t.replay es).Passed n := by
  refine ⟨(visit.finished wf inside).1, ?_⟩
  rw [Bool.eq_false_iff, ne_eq, visit.isFailed_self wf inside]
  exact not_not_intro none

end OwnNode

section Subtree

private theorem abandoned_stepwise : Stepwise (fun _ _ _ => True)
    (fun t n _ es abandoned => abandoned = true → (t.replay es).isFailed n = true) where
  visit _ _ _ _ _ _ _ := trivial
  done _ _ := by simp
  stopped _ _ _ _ _ failed := fun _ => failed
  next {t n c rest a b abandoned} _ _ _ _ _ _ _ beside := by
    rw [Tree.replay_cons, Tree.replay_append]
    exact beside

/-- Children are abandoned only below a failed node. -/
theorem Descent.isFailed_of_abandoned (descent : Descent t n cs es true) (wf : t.WellFormed)
    (inside : n < t.size) (last : cs <:+ (t.get n).children) :
    (t.replay es).isFailed n = true :=
  abandoned_stepwise.of_descent wf inside last descent rfl

/-- If nothing is reported up to the end of a descent, no child was abandoned. -/
theorem Descent.not_abandoned (opening : Opening t n a)
    (descent : Descent (t.replay a) n (t.get n).children b abandoned) (wf : t.WellFormed)
    (inside : n < t.size) (quietA : reports a = []) (quietB : reports b = []) :
    abandoned = false := by
  have all := Tree.suffix_replay t a n List.suffix_rfl
  have inside' : n < (t.replay a).size := by rwa [Tree.size_replay]
  cases abandoned with
  | false => rfl
  | true =>
      have failed := descent.isFailed_of_abandoned (wf.replay a) inside' all
      rw [descent.isFailed_parent (wf.replay a) inside' all, opening.isFailed_self inside] at failed
      exact absurd failed (by simp [quietA, quietB])

/-- When the loop goes on after a child, nothing was reported in the run of the child. -/
theorem Visit.quiet_of_passed (visit : Visit t c a) (wf : t.WellFormed)
    (child : c ∈ (t.get n).children) (passed : (t.replay a).isFailed n = false) :
    reports a = [] := by
  have reach := visit.isFailed_above wf (wf.child_lt_size n c child) (wf.mem_ancestors_child child)
    (Nat.ne_of_lt (wf.lt_child n c child))
  rw [passed] at reach
  by_contra some
  exact Bool.false_ne_true (reach.2 (.inr some))

private theorem passed_stepwise : Stepwise
    (fun t n es => reports es = [] → ∀ m, n ∈ t.ancestors m → (t.replay es).Passed m)
    (fun t _ cs es abandoned => abandoned = false →
      ∀ c ∈ cs, ∀ m, c ∈ t.ancestors m → (t.replay es).Passed m) where
  visit {t n a b c d abandoned} wf inside opening descent below own leaving := by
    have visit := Visit.mk opening descent own leaving
    intro none m up
    by_cases same : m = n
    · subst same
      exact visit.passed_self wf inside none
    obtain ⟨k, child, below_k⟩ := wf.exists_child_of_mem_ancestors up (Ne.symm same)
    simp only [reports_append, List.append_eq_nil_iff] at none
    obtain ⟨quietA, quietB, -, -⟩ := none
    have whole := descent.not_abandoned opening wf inside quietA quietB
    have passed := below whole k child m (by simpa using below_k)
    have frame := Tree.sameBelow_of_node (wf.replay (a ++ b)) (by simpa using child)
      (own.node_append_leaving leaving)
    rw [← Tree.replay_append] at passed
    have last := passed.congr (frame.below (by simpa using below_k))
    simpa using last
  done _ _ := by simp
  stopped _ _ _ _ _ _ := by simp
  next {t n c rest a b abandoned} wf inside last visit below passed descent beside := by
    have child : c ∈ (t.get n).children := last.mem List.mem_cons_self
    have later := Tree.suffix_replay t a n ((List.suffix_cons c rest).trans last)
    intro whole k mem m up
    rw [Tree.replay_cons, Tree.replay_append]
    obtain rfl | mem := List.mem_cons.1 mem
    · have first := below (visit.quiet_of_passed wf child passed) m up
      have frame := descent.sameBelow_sibling (wf.replay a) (by simpa using inside) later
        (by simpa using child) (wf.not_mem_later last)
      exact first.congr (frame.below (by simpa using up))
    · exact beside whole k mem m (by simpa using up)

/-- If nothing is reported in a visit, all nodes of the subtree have passed after it. -/
theorem Visit.passed (visit : Visit t n es) (wf : t.WellFormed) (inside : n < t.size)
    (none : reports es = []) : ∀ m, n ∈ t.ancestors m → (t.replay es).Passed m :=
  passed_stepwise.of_visit wf inside visit none

/-- If no child is abandoned, all nodes below have passed. -/
theorem Descent.passed (descent : Descent t n cs es false) (wf : t.WellFormed) (inside : n < t.size)
    (last : cs <:+ (t.get n).children) :
    ∀ c ∈ cs, ∀ m, c ∈ t.ancestors m → (t.replay es).Passed m :=
  passed_stepwise.of_descent wf inside last descent rfl

end Subtree

section WhichRan

/-- Of the children `cs` those in `ran` were run and those in `rest` were not, because the first
ones were abandoned. -/
structure Ran (u : Tree) (cs : List NodeId) (abandoned : Bool) (ran rest : List NodeId) : Prop where
  children : cs = ran ++ rest
  settled : ∀ c ∈ ran, u.Settled c
  dormant : ∀ c ∈ rest, u.Dormant c
  passed : ∀ c ∈ ran.dropLast, u.isFailed c = false
  abandoned : rest ≠ [] → abandoned = true

/-- A child that has passed comes before those that were run after it. -/
theorem Ran.cons {u : Tree} {ran rest : List NodeId} (later : Ran u cs abandoned ran rest)
    (settled : u.Settled c) (passed : u.isFailed c = false) :
    Ran u (c :: cs) abandoned (c :: ran) rest where
  children := congrArg (c :: ·) later.children
  settled := by
    intro d mem
    obtain rfl | mem := List.mem_cons.1 mem
    · exact settled
    · exact later.settled d mem
  dormant := later.dormant
  passed := by
    intro d mem
    cases ran with
    | nil => cases mem
    | cons e ran =>
        obtain rfl | mem := List.mem_cons.1 mem
        · exact passed
        · exact later.passed d mem
  abandoned := later.abandoned

/-- What happened to its children decides how they are split when the node itself is done. -/
theorem Ran.split {u v : Tree} {ran rest : List NodeId} (parts : Ran u cs abandoned ran rest)
    (children : (v.get n).children = cs) (frame : ∀ c ∈ cs, u.SameBelow v c)
    (failed : abandoned = true → v.isFailed n = true) : v.Split n ran rest := by
  have same : ∀ c ∈ ran ++ rest, u.SameBelow v c := fun c mem => frame c (parts.children ▸ mem)
  refine ⟨children.trans parts.children, ?_, ?_, ?_, fun some => failed (parts.abandoned some)⟩
  · intro c mem
    exact (parts.settled c mem).1.congr (same c (List.mem_append_left _ mem))
  · intro c mem
    exact (parts.dormant c mem).congr (same c (List.mem_append_right _ mem))
  · intro c mem
    have ran_c : c ∈ ran ++ rest := List.mem_append_left _ (List.dropLast_subset ran mem)
    rw [Tree.isFailed_congr (same c ran_c).self]
    exact parts.passed c mem

/-- A node that is failed after its children stays so to its end. -/
theorem Leaving.isFailed_self {u : Tree} (own : OwnRun u n abandoned a) (leaving : Leaving t n d)
    (inside : n < u.size) (failed : u.isFailed n = true) :
    (u.replay (a ++ d)).isFailed n = true := by
  have node := own.node_append_leaving leaving
  refine (Tree.isFailed_replay ?_ ?_ ?_).2 (.inl failed)
  · intro e mem
    exact (node e mem).symm ▸ inside
  · intro e mem
    rw [node e mem]
    exact Tree.mem_ancestors_self u n
  · simp [own.not_entered, leaving.not_entered]

private theorem settled_stepwise : Stepwise
    (fun t n es => t.Dormant n → (t.replay es).Settled n ∧
      ∀ m, n ∈ t.ancestors m → (t.replay es).Dormant m ∨ (t.replay es).Settled m)
    (fun t _ cs es abandoned => (∀ c ∈ cs, t.Dormant c) →
      (∃ ran rest, Ran (t.replay es) cs abandoned ran rest) ∧
      ∀ c ∈ cs, ∀ m, c ∈ t.ancestors m → (t.replay es).Dormant m ∨ (t.replay es).Settled m) where
  visit {t n a b c d abandoned} wf inside opening descent below own leaving := by
    have visit := Visit.mk opening descent own leaving
    intro dormant
    obtain ⟨⟨ran, rest, parts⟩, everywhere⟩ := below (opening.dormant_children wf dormant)
    rw [← Tree.replay_append] at parts everywhere
    have wf' := wf.replay (a ++ b)
    have frame : ∀ k ∈ (t.get n).children, (t.replay (a ++ b)).SameBelow
        ((t.replay (a ++ b)).replay (c ++ d)) k := fun k child =>
      Tree.sameBelow_of_node wf' (by simpa using child) (own.node_append_leaving leaving)
    have failed : abandoned = true →
        ((t.replay (a ++ b)).replay (c ++ d)).isFailed n = true := by
      rintro rfl
      have stopped := descent.isFailed_of_abandoned (wf.replay a) (by simpa using inside)
        (Tree.suffix_replay t a n List.suffix_rfl)
      rw [← Tree.replay_append] at stopped
      exact leaving.isFailed_self own (by simpa using inside) stopped
    have tree : t.replay (a ++ (b ++ (c ++ d))) = (t.replay (a ++ b)).replay (c ++ d) := by simp
    have finished := visit.finished wf inside
    rw [tree] at finished ⊢
    have split := parts.split (by simp) frame failed
    refine ⟨⟨finished, ran, rest, split⟩, ?_⟩
    intro m up
    by_cases same : m = n
    · subst same
      exact .inr ⟨finished, ran, rest, split⟩
    · obtain ⟨k, child, below_k⟩ := wf.exists_child_of_mem_ancestors up (Ne.symm same)
      have frame_m := (frame k child).below (m := m) (by simpa using below_k)
      exact (everywhere k child m (by simpa using below_k)).imp (·.congr frame_m)
        (·.congr wf' frame_m)
  done _ _ _ := by
    refine ⟨⟨[], [], rfl, ?_, ?_, ?_, ?_⟩, ?_⟩
    all_goals simp
  stopped {t n c rest a} wf _ last visit below _ := by
    intro dormant
    have later := visit.dormant_later wf last dormant
    obtain ⟨settled, everywhere⟩ := below (dormant c List.mem_cons_self)
    refine ⟨⟨[c], rest, rfl, ?_, later, ?_, fun _ => rfl⟩, ?_⟩
    · intro k mem
      rw [List.mem_singleton.1 mem]
      exact settled
    · simp
    · intro k mem m up
      obtain rfl | mem := List.mem_cons.1 mem
      · exact everywhere m up
      · exact .inl ((later k mem).below (by simpa using up))
  next {t n c rest a b abandoned} wf inside last visit below passed descent beside := by
    have child : c ∈ (t.get n).children := last.mem List.mem_cons_self
    have suffix := Tree.suffix_replay t a n ((List.suffix_cons c rest).trans last)
    have frame := descent.sameBelow_sibling (wf.replay a) (by simpa using inside) suffix
      (by simpa using child) (wf.not_mem_later last)
    intro dormant
    obtain ⟨settled, everywhere⟩ := below (dormant c List.mem_cons_self)
    obtain ⟨⟨ran, rest', parts⟩, others⟩ := beside (visit.dormant_later wf last dormant)
    have quiet := visit.quiet_of_passed wf child passed
    have inside_c := wf.child_lt_size n c child
    have own := (visit.passed_self wf inside_c quiet).congr frame
    rw [Tree.replay_cons, Tree.replay_append]
    refine ⟨⟨_, _, parts.cons (settled.congr (wf.replay a) frame) own.2⟩, ?_⟩
    intro k mem m up
    obtain rfl | mem := List.mem_cons.1 mem
    · have frame_m := frame.below (m := m) (by simpa using up)
      exact (everywhere m up).imp (·.congr frame_m) (·.congr (wf.replay a) frame_m)
    · exact others k mem m (by simpa using up)

/-- A visit of an untouched subtree settles its node, and every node below is either settled as well
or untouched together with what is below it. -/
theorem Visit.settled (visit : Visit t n es) (wf : t.WellFormed) (inside : n < t.size)
    (dormant : t.Dormant n) : (t.replay es).Settled n ∧
      ∀ m, n ∈ t.ancestors m → (t.replay es).Dormant m ∨ (t.replay es).Settled m :=
  settled_stepwise.of_visit wf inside visit dormant

/-- Running untouched children settles some of them, and the others stay untouched. -/
theorem Descent.settled (descent : Descent t n cs es abandoned) (wf : t.WellFormed)
    (inside : n < t.size) (last : cs <:+ (t.get n).children) (dormant : ∀ c ∈ cs, t.Dormant c) :
    ∀ c ∈ cs, ∀ m, c ∈ t.ancestors m → (t.replay es).Dormant m ∨ (t.replay es).Settled m :=
  (settled_stepwise.of_descent wf inside last descent dormant).2

end WhichRan

section RanThemselves

private theorem run_stepwise : Stepwise
    (fun t _ es => ∀ m u, .called m .run u ∈ es →
      ∀ d, m ∈ t.ancestors d → d ≠ m → (t.replay es).isFailed d = false)
    (fun t _ _ es _ => ∀ m u, .called m .run u ∈ es →
      ∀ d, m ∈ t.ancestors d → d ≠ m → (t.replay es).isFailed d = false) where
  visit {t n a b c d abandoned} wf inside opening descent below own leaving := by
    intro m u mem k up ne
    have all := Tree.suffix_replay t a n List.suffix_rfl
    have ownEvents := own.node_append_leaving leaving
    -- Before the node went on by itself, `k` was not failed; and `k` is below one of its children.
    have before : (t.replay (a ++ b)).isFailed k = false ∧
        ∃ c' ∈ (t.get n).children, c' ∈ t.ancestors k := by
      simp only [List.mem_append] at mem
      obtain mem | mem | mem | mem := mem
      · obtain ⟨-, phase, -⟩ := opening.eq_of_called mem
        cases phase
      · obtain ⟨c', child, up'⟩ := descent.scope (wf.replay a) (by simpa using inside) all _ mem
        rw [Tree.ancestors_replay] at up'
        rw [Tree.replay_append]
        exact ⟨below m u mem k (by simpa using up) ne, c', child, Tree.mem_ancestors_trans up' up⟩
      · obtain ⟨rfl, rfl, -, -⟩ := own.eq_of_called mem
        obtain ⟨c', child, up'⟩ := wf.exists_child_of_mem_ancestors up (Ne.symm ne)
        have passed := descent.passed (wf.replay a) (by simpa using inside) all c' child k
          (by simpa using up')
        rw [Tree.replay_append]
        exact ⟨passed.2, c', child, up'⟩
      · obtain ⟨-, phase, -⟩ := leaving.eq_of_called mem
        cases phase
    obtain ⟨passed, c', child, up'⟩ := before
    have frame := (Tree.sameBelow_of_node (wf.replay (a ++ b)) (by simpa using child)
      ownEvents).below (m := k) (by simpa using up')
    have tree : t.replay (a ++ (b ++ (c ++ d))) = (t.replay (a ++ b)).replay (c ++ d) := by simp
    rw [tree, Tree.isFailed_congr frame.self]
    exact passed
  done _ _ := by simp
  stopped {t n c rest a} _ _ _ _ below _ := by
    intro m u mem
    simp only [List.mem_cons, reduceCtorEq, false_or] at mem
    exact below m u mem
  next {t n c rest a b abandoned} wf inside last visit below _ descent beside := by
    have child : c ∈ (t.get n).children := last.mem List.mem_cons_self
    have suffix := Tree.suffix_replay t a n ((List.suffix_cons c rest).trans last)
    intro m u mem k up ne
    simp only [List.mem_cons, reduceCtorEq, false_or, List.mem_append] at mem
    rw [Tree.replay_cons, Tree.replay_append]
    obtain mem | mem := mem
    · have scope := visit.scope wf (wf.child_lt_size n c child) _ mem
      have frame := (descent.sameBelow_sibling (wf.replay a) (by simpa using inside) suffix
        (by simpa using child) (wf.not_mem_later last)).below (m := k)
          (by simpa using Tree.mem_ancestors_trans scope up)
      exact (Tree.isFailed_congr frame.self).trans (below m u mem k up ne)
    · exact beside m u mem k (by simpa using up) ne

/-- Below a node that ran itself nothing is failed at the end. -/
theorem Visit.passed_below_run (visit : Visit t n es) (wf : t.WellFormed) (inside : n < t.size)
    {m : NodeId} {u : Tree} (called : .called m .run u ∈ es) :
    ∀ d, m ∈ t.ancestors d → d ≠ m → (t.replay es).isFailed d = false :=
  run_stepwise.of_visit wf inside visit m u called

end RanThemselves

end SuiteTree
