import SuiteTree.Proofs.Run.Accounts
import SuiteTree.Proofs.Run.Settled

/-!
# Stages during a run

While a run of the root of an untouched tree calls a hook of a node, the nodes above are running
their children. What comes before the node or before one of these is done and has passed; what comes
after is untouched. Every node that is entered goes through its stages in one fixed order, and the
stage that a tree shows is always the last one that the node came into.
-/

namespace SuiteTree

namespace Tree

/-- Node `a` comes before node `b` in a list of children. -/
def Precedes (t : Tree) (a b : NodeId) : Prop :=
  ∃ p, [a, b].Sublist (t.get p).children

/-- The run has got to node `n`: the nodes above are running their children, the siblings before
this point have passed, and those after it are untouched. -/
structure Around (t : Tree) (n : NodeId) : Prop where
  above : ∀ a ∈ t.ancestors n, a ≠ n → (t.get a).stage = .runningChildren
  earlier : ∀ a ∈ t.ancestors n, ∀ b, t.Precedes b a → t.Passed b
  later : ∀ a ∈ t.ancestors n, ∀ b, t.Precedes a b → t.Dormant b

/-- What a hook finds of the nodes below its node. -/
def BelowAt (t : Tree) (n : NodeId) : Phase → Prop
  | .setup => ∀ d ∈ (t.below n).preorder, t.Idle d
  | .run => ∀ d ∈ (t.below n).preorder, t.Passed d
  | .teardown => ∀ d ∈ (t.below n).preorder, t.Finished d ∨ t.Idle d

/-- What a hook of node `n` finds when it is called. -/
structure Live (t : Tree) (n : NodeId) (phase : Phase) : Prop where
  own : (t.get n).stage = phase.stage
  around : t.Around n
  below : t.BelowAt n phase

/-- The stages that the nodes came into last are those that the tree shows. -/
def Shows (t : Tree) (es : List Event) : Prop :=
  ∀ n < t.size, (t.get n).stage = ((stagesOf n es).getLast?).getD .idle

end Tree

/-- Every hook is called in order, and finds the stages that the nodes came into last. -/
def LiveAtCalls (es : List Event) : Prop :=
  ∀ before n phase u later, es = before ++ .called n phase u :: later →
    u.Live n phase ∧ u.Shows before

/-- The stages that a node comes into in its run. -/
def Stage.course (own : Bool) : List Stage :=
  [.settingUp, .runningChildren] ++ ((if own then [.runningSelf] else []) ++ [.tearingDown, .done])

/-- The stages are those of a whole run, or the node stays idle. -/
def Stage.IsCourse (stages : List Stage) : Prop :=
  stages = [] ∨ ∃ own, stages = course own

namespace Tree

variable {t : Tree} {a b c n : NodeId} {es : List Event} {phase : Phase} {rest : List NodeId}

@[simp] theorem precedes_replay : (t.replay es).Precedes a b ↔ t.Precedes a b := by
  simp [Precedes]

theorem Precedes.siblings (precedes : t.Precedes a b) (wf : t.WellFormed) :
    ∃ p, a ∈ (t.get p).children ∧ b ∈ (t.get p).children ∧ a < b := by
  obtain ⟨p, sublist⟩ := precedes
  refine ⟨p, sublist.mem (by simp), sublist.mem (by simp), ?_⟩
  exact (List.pairwise_cons.1 ((wf.increasing p).sublist sublist)).1 b (by simp)

/-- What happens at or below a node does not change its surroundings. -/
theorem Around.replay (around : t.Around n) (wf : t.WellFormed) (inside : n < t.size)
    (scope : ∀ e ∈ es, n ∈ t.ancestors e.node) : (t.replay es).Around n := by
  have frame : ∀ {a b p}, a ∈ t.ancestors n → a ∈ (t.get p).children → b ∈ (t.get p).children →
      b ≠ a → t.SameBelow (t.replay es) b := by
    intro a b p up ha hb ne
    exact sameBelow_of_scope wf ha hb ne fun e mem => mem_ancestors_trans up (scope e mem)
  constructor
  · intro a up ne
    rw [ancestors_replay] at up
    have inside_a : a < t.size := Nat.lt_of_le_of_lt (le_of_mem_ancestors up) inside
    rw [stage_replay_of_stagesOf_eq_nil inside_a (stagesOf_eq_nil ?_), around.above a up ne]
    rintro e mem rfl
    exact ne (eq_of_mem_ancestors up (scope e mem))
  · intro a up b precedes
    rw [ancestors_replay] at up
    rw [precedes_replay] at precedes
    obtain ⟨p, hb, ha, less⟩ := precedes.siblings wf
    exact (around.earlier a up b precedes).congr (frame up ha hb (Nat.ne_of_lt less))
  · intro a up b precedes
    rw [ancestors_replay] at up
    rw [precedes_replay] at precedes
    obtain ⟨p, ha, hb, less⟩ := precedes.siblings wf
    exact (around.later a up b precedes).congr (frame up ha hb (Nat.ne_of_gt less))

/-- The loop over the children has got to child `c`. -/
theorem Around.child (around : t.Around n) (wf : t.WellFormed)
    (running : (t.get n).stage = .runningChildren) (last : c :: rest <:+ (t.get n).children)
    (passed : ∀ b ∈ (t.get n).children, b ∉ c :: rest → t.Passed b)
    (dormant : ∀ b ∈ rest, t.Dormant b) : t.Around c := by
  have child : c ∈ (t.get n).children := last.mem List.mem_cons_self
  have up : t.ancestors c = c :: t.ancestors n := wf.ancestors_child child
  have order := wf.increasing n
  have same : ∀ {p}, c ∈ (t.get p).children → p = n := fun mem =>
    Option.some.inj (((wf.parent_iff _ c).2 mem).symm.trans ((wf.parent_iff n c).2 child))
  obtain ⟨ran, split⟩ := last
  rw [← split] at order
  obtain ⟨-, sorted, before⟩ := List.pairwise_append.1 order
  constructor
  · intro a mem ne
    rw [up] at mem
    have above := (List.mem_cons.1 mem).resolve_left ne
    by_cases self : a = n
    · exact self ▸ running
    · exact around.above a above self
  · intro a mem b precedes
    rw [up] at mem
    obtain rfl | mem := List.mem_cons.1 mem
    · obtain ⟨p, hb, ha, less⟩ := precedes.siblings wf
      obtain rfl := same ha
      apply passed b hb
      intro later
      obtain rfl | later := List.mem_cons.1 later
      · exact Nat.lt_irrefl b less
      · exact Nat.lt_asymm less ((List.pairwise_cons.1 sorted).1 b later)
    · exact around.earlier a mem b precedes
  · intro a mem b precedes
    rw [up] at mem
    obtain rfl | mem := List.mem_cons.1 mem
    · obtain ⟨p, ha, hb, less⟩ := precedes.siblings wf
      obtain rfl := same ha
      rw [← split] at hb
      obtain hb | hb := List.mem_append.1 hb
      · exact absurd less (Nat.lt_asymm (before b hb a List.mem_cons_self))
      obtain rfl | hb := List.mem_cons.1 hb
      · exact absurd less (Nat.lt_irrefl b)
      · exact dormant b hb
    · exact around.later a mem b precedes

/-- What a node does itself does not change what it finds below. -/
theorem BelowAt.replay (below : t.BelowAt n phase) (wf : t.WellFormed)
    (own : ∀ e ∈ es, e.node = n) : (t.replay es).BelowAt n phase := by
  have frame : ∀ d ∈ (t.below n).preorder, t.SameBelow (t.replay es) d := by
    intro d mem
    obtain ⟨up, ne⟩ := wf.mem_below_iff.1 mem
    obtain ⟨k, child, up'⟩ := wf.exists_child_of_mem_ancestors up (Ne.symm ne)
    exact (sameBelow_of_node wf child own).below up'
  have same : (t.replay es).below n = t.below n :=
    below_eq_of_pristine (pristine_replay t es) n
  cases phase with
  | setup =>
      intro d mem
      rw [same] at mem
      exact (idle_congr (frame d mem).self).2 (below d mem)
  | run =>
      intro d mem
      rw [same] at mem
      exact (below d mem).congr (frame d mem)
  | teardown =>
      intro d mem
      rw [same] at mem
      exact (below d mem).imp (·.congr (frame d mem)) (idle_congr (frame d mem).self).2

/-- A hook finds its own node in the stage of the hook, and the rest as its node left it. -/
theorem Live.of_own (es : List Event) (wf : t.WellFormed) (inside : n < t.size)
    (around : t.Around n) (below : t.BelowAt n phase) (own : ∀ e ∈ es, e.node = n) :
    (t.replay (es ++ [.staged n phase.stage])).Live n phase := by
  have own' : ∀ e ∈ es ++ [.staged n phase.stage], e.node = n := by
    intro e mem
    obtain mem | mem := List.mem_append.1 mem
    · exact own e mem
    · rw [List.mem_singleton.1 mem]
      rfl
  refine ⟨?_, around.replay wf inside ?_, below.replay wf own'⟩
  · rw [replay_append]
    exact stage_setStage_self _ (by simpa using inside)
  · intro e mem
    rw [own' e mem]
    exact mem_ancestors_self t n

end Tree

section

variable {t : Tree} {m n : NodeId} {es : List Event} {phase : Phase} {abandoned : Bool}

/-- What is below a node is below one of its children. -/
private theorem exists_child_of_mem_below (wf : t.WellFormed) {d : NodeId}
    (below : d ∈ (t.below n).preorder) : ∃ k ∈ (t.get n).children, k ∈ t.ancestors d := by
  obtain ⟨up, ne⟩ := wf.mem_below_iff.1 below
  exact wf.exists_child_of_mem_ancestors up (Ne.symm ne)

/-- If no child was abandoned, a node finds everything below passed. -/
theorem Descent.belowAt_run (descent : Descent t n (t.get n).children es false)
    (wf : t.WellFormed) (inside : n < t.size) : (t.replay es).BelowAt n .run := by
  intro d below
  obtain ⟨k, child, up⟩ := exists_child_of_mem_below (wf.replay es) below
  rw [Tree.children_replay] at child
  rw [Tree.ancestors_replay] at up
  exact descent.passed wf inside List.suffix_rfl k child d up

/-- After its children a node finds everything below run to its end or untouched. -/
theorem Descent.belowAt_teardown (descent : Descent t n (t.get n).children es abandoned)
    (wf : t.WellFormed) (inside : n < t.size) (dormant : ∀ c ∈ (t.get n).children, t.Dormant c) :
    (t.replay es).BelowAt n .teardown := by
  intro d below
  obtain ⟨k, child, up⟩ := exists_child_of_mem_below (wf.replay es) below
  rw [Tree.children_replay] at child
  rw [Tree.ancestors_replay] at up
  obtain rest | settled := descent.settled wf inside List.suffix_rfl dormant k child d up
  · exact .inr rest.self
  · exact .inl settled.1

variable {k : Phase} {u : Tree}

theorem Opening.live (opening : Opening t n es) (wf : t.WellFormed) (inside : n < t.size)
    (around : t.Around n) (dormant : t.Dormant n) (mem : .called m k u ∈ es) : u.Live m k := by
  obtain ⟨rfl, rfl, rfl⟩ := opening.eq_of_called mem
  have idle : t.BelowAt m .setup := fun d below => dormant d (wf.mem_below_iff.1 below).1
  exact Tree.Live.of_own [.entered m] wf inside around idle (by simp [Event.node])

theorem OwnRun.live (own : OwnRun t n abandoned es) (wf : t.WellFormed) (inside : n < t.size)
    (around : t.Around n) (passed : abandoned = false → t.BelowAt n .run)
    (mem : .called m k u ∈ es) : u.Live m k := by
  obtain ⟨whole, rfl, rfl, rfl⟩ := own.eq_of_called mem
  exact Tree.Live.of_own [] wf inside around (passed whole) (by simp)

theorem Leaving.live {c : List Event} (own : OwnRun t n abandoned c)
    (leaving : Leaving (t.replay c) n es) (wf : t.WellFormed) (inside : n < t.size)
    (around : t.Around n) (settled : t.BelowAt n .teardown) (mem : .called m k u ∈ es) :
    u.Live m k := by
  obtain ⟨rfl, rfl, elapsed, rfl⟩ := leaving.eq_of_called mem
  have ownEvents : ∀ e ∈ c ++ [.timed m elapsed], e.node = m := by
    intro e he
    obtain he | he := List.mem_append.1 he
    · exact own.node e he
    · rw [List.mem_singleton.1 he]
      rfl
  have live := Tree.Live.of_own _ wf inside around settled ownEvents
  simpa [Tree.after, Phase.stage] using live

private theorem live_stepwise : Stepwise
    (fun t n es => t.Around n → t.Dormant n → ∀ m k u, .called m k u ∈ es → u.Live m k)
    (fun t n cs es _ => t.Around n → (t.get n).stage = .runningChildren →
      (∀ b ∈ (t.get n).children, b ∉ cs → t.Passed b) → (∀ c ∈ cs, t.Dormant c) →
      ∀ m k u, .called m k u ∈ es → u.Live m k) where
  visit {t n a b c d abandoned} wf inside opening descent below own leaving := by
    intro around dormant m k u mem
    have wfA := wf.replay a
    have wfB := wfA.replay b
    have insideA : n < (t.replay a).size := by rwa [Tree.size_replay]
    have insideB : n < ((t.replay a).replay b).size := by rwa [Tree.size_replay]
    have untouched := opening.dormant_children wf dormant
    have aroundA : (t.replay a).Around n := by
      apply around.replay wf inside
      intro e he
      rw [opening.node e he]
      exact Tree.mem_ancestors_self t n
    have aroundB : ((t.replay a).replay b).Around n := by
      apply aroundA.replay wfA insideA
      intro e he
      have all := Tree.suffix_replay t a n List.suffix_rfl
      obtain ⟨k, child, up⟩ := descent.scope wfA insideA all e he
      exact Tree.mem_ancestors_trans (wfA.mem_ancestors_child (all.mem child)) up
    have ownB : OwnRun ((t.replay a).replay b) n abandoned c := by simpa using own
    have leavingB : Leaving (((t.replay a).replay b).replay c) n d := by simpa using leaving
    have descentA : Descent (t.replay a) n ((t.replay a).get n).children b abandoned := by
      rwa [Tree.children_replay]
    simp only [List.mem_append] at mem
    obtain mem | mem | mem | mem := mem
    · exact opening.live wf inside around dormant mem
    · refine below aroundA (opening.stage inside) ?_ untouched m k u mem
      intro b hb other
      exact absurd (by simpa using hb) other
    · refine ownB.live wfB insideB aroundB ?_ mem
      rintro rfl
      exact descentA.belowAt_run wfA insideA
    · have settled := descentA.belowAt_teardown wfA insideA (by simpa using untouched)
      exact leavingB.live ownB wfB insideB aroundB settled mem
  done _ _ := by simp
  stopped {t n c rest a} wf _ last _ below _ := by
    intro around running passed dormant m k u mem
    have aroundC := around.child wf running last passed fun b later =>
      dormant b (List.mem_cons_of_mem c later)
    simp only [List.mem_cons, reduceCtorEq, false_or] at mem
    exact below aroundC (dormant c List.mem_cons_self) m k u mem
  next {t n c rest a b abandoned} wf inside last visit below goesOn descent beside := by
    intro around running passed dormant m k u mem
    have child : c ∈ (t.get n).children := last.mem List.mem_cons_self
    have inside_c := wf.child_lt_size n c child
    have aroundC := around.child wf running last passed fun b later =>
      dormant b (List.mem_cons_of_mem c later)
    have aroundA : (t.replay a).Around n := by
      apply around.replay wf inside
      intro e he
      exact Tree.mem_ancestors_trans (wf.mem_ancestors_child child) (visit.scope wf inside_c e he)
    have runningA : ((t.replay a).get n).stage = .runningChildren := by
      rw [visit.stage_above wf inside_c (wf.mem_ancestors_child child)
        (Nat.ne_of_lt (wf.lt_child n c child)), running]
    have passedA : ∀ b ∈ ((t.replay a).get n).children, b ∉ rest → (t.replay a).Passed b := by
      intro b hb other
      rw [Tree.children_replay] at hb
      by_cases same : b = c
      · exact same ▸ visit.passed_self wf inside_c (visit.quiet_of_passed wf child goesOn)
      · exact (passed b hb (by simp [same, other])).congr
          (visit.sameBelow_sibling wf child hb same)
    simp only [List.mem_cons, reduceCtorEq, false_or, List.mem_append] at mem
    obtain mem | mem := mem
    · exact below aroundC (dormant c List.mem_cons_self) m k u mem
    · exact beside aroundA runningA passedA (visit.dormant_later wf last dormant) m k u mem

/-- In a visit of an untouched subtree whose surroundings are in order, every hook is called in
order. -/
theorem Visit.live (visit : Visit t n es) (wf : t.WellFormed) (inside : n < t.size)
    (around : t.Around n) (dormant : t.Dormant n) :
    ∀ m k u, .called m k u ∈ es → u.Live m k :=
  live_stepwise.of_visit wf inside visit around dormant

private theorem course_stepwise : Stepwise
    (fun _ _ es => ∀ m, Stage.IsCourse (stagesOf m es))
    (fun _ _ _ es _ => ∀ m, Stage.IsCourse (stagesOf m es)) where
  visit {t n a b c d abandoned} wf inside opening descent below own leaving := by
    intro m
    have all := Tree.suffix_replay t a n List.suffix_rfl
    by_cases same : m = n
    · subst same
      have none : stagesOf m b = [] := by
        apply Tree.stagesOf_eq_nil
        rintro e mem rfl
        obtain ⟨k, child, up⟩ := descent.scope (wf.replay a) (by simpa using inside) all e mem
        exact (wf.replay a).not_mem_ancestors_parent (all.mem child) up
      refine .inr ⟨!abandoned, ?_⟩
      rw [stagesOf_append, stagesOf_append, stagesOf_append, opening.stagesOf_self, none,
        own.stagesOf_self, leaving.stagesOf_self]
      cases abandoned <;> rfl
    · have elsewhere : ∀ es : List Event, (∀ e ∈ es, e.node = n) → stagesOf m es = [] := by
        intro es node
        apply Tree.stagesOf_eq_nil
        rintro e mem rfl
        exact same (node e mem)
      rw [stagesOf_append, stagesOf_append, elsewhere a opening.node,
        elsewhere (c ++ d) (own.node_append_leaving leaving), List.nil_append, List.append_nil]
      exact below m
  done _ _ := fun _ => .inl rfl
  stopped {t n c rest a} _ _ _ _ below _ := by
    intro m
    rw [stagesOf_cons_of_none rfl]
    exact below m
  next {t n c rest a b abandoned} wf inside last visit below _ descent beside := by
    intro m
    have child : c ∈ (t.get n).children := last.mem List.mem_cons_self
    have later := Tree.suffix_replay t a n ((List.suffix_cons c rest).trans last)
    rw [stagesOf_cons_of_none rfl, stagesOf_append]
    by_cases up : c ∈ t.ancestors m
    · have none : stagesOf m b = [] := by
        apply Tree.stagesOf_eq_nil
        rintro e mem rfl
        obtain ⟨d, hd, up'⟩ := descent.scope (wf.replay a) (by simpa using inside) later e mem
        rw [Tree.ancestors_replay] at up'
        have same := wf.child_eq_of_mem_ancestors child (last.mem (.tail _ hd)) up up'
        exact wf.not_mem_later last (same ▸ hd)
      rw [none, List.append_nil]
      exact below m
    · have none : stagesOf m a = [] := by
        apply Tree.stagesOf_eq_nil
        rintro e mem rfl
        exact up (visit.scope wf (wf.child_lt_size n c child) e mem)
      rw [none, List.nil_append]
      exact beside m

/-- In a visit every node goes through its stages once and in order, or stays idle. -/
theorem Visit.course (visit : Visit t n es) (wf : t.WellFormed) (inside : n < t.size) :
    ∀ m, Stage.IsCourse (stagesOf m es) :=
  course_stepwise.of_visit wf inside visit

/-- What a tree shows in the course of a run that began untouched. -/
theorem Tree.Untouched.shows (untouched : t.Untouched) (es : List Event) :
    (t.replay es).Shows es := by
  intro m inside
  rw [Tree.size_replay] at inside
  rw [Tree.stage_replay inside, (untouched m).1]

theorem Tree.Untouched.around (untouched : t.Untouched) (wf : t.WellFormed) :
    t.Around Tree.root := by
  constructor
  · intro a mem ne
    exact absurd (Tree.eq_root_of_mem_ancestors mem) ne
  · intro a mem b precedes
    obtain ⟨p, -, child, -⟩ := precedes.siblings wf
    rw [Tree.eq_root_of_mem_ancestors mem] at child
    exact absurd (wf.lt_child p _ child) (Nat.not_lt_zero p)
  · intro a _ b _
    exact untouched.dormant b

theorem Visit.liveAtCalls (visit : Visit t Tree.root es) (wf : t.WellFormed)
    (untouched : t.Untouched) : LiveAtCalls es := by
  have dormant := untouched.dormant Tree.root
  have live := visit.live wf wf.root_lt_size (untouched.around wf) dormant
  have orderly := visit.orderly wf wf.root_lt_size dormant
  rintro before n phase u later rfl
  have same : u = t.replay before := orderly.at_event
  refine ⟨live n phase u (by simp), ?_⟩
  rw [same]
  exact untouched.shows before

end

theorem LiveAtCalls.of_append {es more : List Event} (h : LiveAtCalls (es ++ more)) :
    LiveAtCalls es := by
  rintro before n phase u later rfl
  exact h before n phase u (later ++ more) (by simp)

/-- In a run of the root of a tree in which nothing has run or failed, whatever the hooks do, every
hook finds its node and all nodes around it in the stages that belong to its phase. Every node goes
through its stages once and in order, or stays idle; if a hook ends the process, it has gone through
the first ones of them. -/
theorem runNode_stages {t : Tree} (reach : t.Reachable) (untouched : t.Untouched)
    (options : Options) (hooks : NodeId → Hooks) (world : World) :
    t.AfterRun options hooks Tree.root world
      (fun u es => LiveAtCalls es ∧ u.Shows es ∧ ∀ n, Stage.IsCourse (stagesOf n es))
      (fun halt es => EndsInHook options hooks halt es ∧ LiveAtCalls es ∧
        ∀ n, ∃ more, Stage.IsCourse (stagesOf n es ++ more)) := by
  have wf := reach.wellFormed
  apply wf.afterRun
  · intro es visit
    exact ⟨visit.liveAtCalls wf untouched, untouched.shows es, visit.course wf wf.root_lt_size⟩
  · rintro halt es ⟨ends, more, -, visit⟩
    refine ⟨ends, (visit.liveAtCalls wf untouched).of_append, ?_⟩
    intro n
    have course := visit.course wf wf.root_lt_size n
    rw [stagesOf_append] at course
    exact ⟨_, course⟩

/-- The second of two cases fails while it is run, so that the suite does not run itself. -/
theorem failing_case_stages :
    let failing : Program Unit := .request (.fail ⟨"a < b", "2", "1", "", "suite.rs", 7⟩)
    let hooks : NodeId → Hooks := fun n => if n = 2 then { run := failing } else .idle
    Tree.twoCases.Reachable ∧ Tree.twoCases.Untouched ∧
      Tree.twoCases.AfterRun {} hooks Tree.root {}
        (fun u es => LiveAtCalls es ∧ u.Shows es ∧ ∀ n, Stage.IsCourse (stagesOf n es))
        (fun halt es => EndsInHook {} hooks halt es ∧ LiveAtCalls es ∧
          ∀ n, ∃ more, Stage.IsCourse (stagesOf n es ++ more)) := by
  intro failing hooks
  have reach := Tree.twoCases_reachable
  have untouched := Tree.twoCases_untouched
  exact ⟨reach, untouched, runNode_stages reach untouched {} hooks {}⟩

end SuiteTree
