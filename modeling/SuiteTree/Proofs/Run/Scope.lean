import SuiteTree.Proofs.Run.Course

/-!
# Where a run happens

All events of a visit are at its node or below it, and all events of a descent are at the children
it is about or below them. So a visit leaves every node alone that is neither above its node nor in
the subtree, and of the nodes above it changes only the marks of failures. The loop over the
children can therefore tell from its own node whether anything was reported below.

Visits and descents are defined by each other, and so facts about them are proved together.
`Stepwise` collects what there is to prove.
-/

namespace SuiteTree

/-- Two statements about visits and descents pass from the parts of a run to the whole. All trees
are well-formed, and a descent is about the last ones of the children of its node. -/
structure Stepwise (visits : Tree → NodeId → List Event → Prop)
    (descents : Tree → NodeId → List NodeId → List Event → Bool → Prop) : Prop where
  visit : ∀ {t : Tree} {n : NodeId} {a b c d : List Event} {abandoned : Bool}, t.WellFormed →
    n < t.size → Opening t n a → Descent (t.replay a) n (t.get n).children b abandoned →
    descents (t.replay a) n (t.get n).children b abandoned →
    OwnRun (t.replay (a ++ b)) n abandoned c → Leaving (t.replay (a ++ (b ++ c))) n d →
    visits t n (a ++ (b ++ (c ++ d)))
  done : ∀ {t : Tree} {n : NodeId}, t.WellFormed → n < t.size → descents t n [] [] false
  stopped : ∀ {t : Tree} {n c : NodeId} {rest : List NodeId} {a : List Event}, t.WellFormed →
    n < t.size → c :: rest <:+ (t.get n).children → Visit t c a → visits t c a →
    (t.replay a).isFailed n = true → descents t n (c :: rest) (.rewound c :: a) true
  next : ∀ {t : Tree} {n c : NodeId} {rest : List NodeId} {a b : List Event} {abandoned : Bool},
    t.WellFormed → n < t.size → c :: rest <:+ (t.get n).children → Visit t c a → visits t c a →
    (t.replay a).isFailed n = false → Descent (t.replay a) n rest b abandoned →
    descents (t.replay a) n rest b abandoned →
    descents t n (c :: rest) (.rewound c :: (a ++ b)) abandoned

section Induction

variable {visits : Tree → NodeId → List Event → Prop}
  {descents : Tree → NodeId → List NodeId → List Event → Bool → Prop}

/-- What holds of the visits of all children holds of descents to them. -/
private theorem Stepwise.of_children (steps : Stepwise visits descents) {n : NodeId}
    (cs : List NodeId) {t : Tree}
    (below : ∀ {u : Tree} {c : NodeId} {a : List Event}, u.pristine = t.pristine → n < c →
      c < u.size → Visit u c a → visits u c a)
    {es : List Event} {abandoned : Bool} (wf : t.WellFormed) (inside : n < t.size)
    (last : cs <:+ (t.get n).children) (h : Descent t n cs es abandoned) :
    descents t n cs es abandoned := by
  induction cs generalizing t es with
  | nil =>
      cases h
      exact steps.done wf inside
  | cons c rest ih =>
      have down : n < c := wf.lt_child n c (last.mem List.mem_cons_self)
      have inside_c : c < t.size := wf.child_lt_size n c (last.mem List.mem_cons_self)
      cases h with
      | stopped visit failed =>
          exact steps.stopped wf inside last visit (below rfl down inside_c visit) failed
      | @next _ _ _ _ a _ _ visit passed descent =>
          have inside' : n < (t.replay a).size := by rwa [Tree.size_replay]
          have later := Tree.suffix_replay t a n ((List.suffix_cons c rest).trans last)
          have beside := ih (fun same => below (same.trans (Tree.pristine_replay t a)))
            (wf.replay a) inside' later descent
          exact steps.next wf inside last visit (below rfl down inside_c visit) passed descent
            beside

/-- What passes from the parts of a run to the whole holds of all visits. The induction goes from
the youngest nodes to the oldest one, because children are younger than their parents. -/
theorem Stepwise.of_visit (steps : Stepwise visits descents) {t : Tree} {n : NodeId}
    {es : List Event} (wf : t.WellFormed) (inside : n < t.size) (h : Visit t n es) :
    visits t n es := by
  induction room : t.size - n using Nat.strongRecOn generalizing t n es with
  | ind k ih =>
      cases h with
      | @mk _ _ a _ _ _ _ opening descent own leaving =>
          have inside' : n < (t.replay a).size := by rwa [Tree.size_replay]
          have all := Tree.suffix_replay t a n List.suffix_rfl
          refine steps.visit wf inside opening descent ?_ own leaving
          refine steps.of_children _ ?_ (wf.replay a) inside' all descent
          intro u c b same down inside_c visit
          have same' : u.pristine = t.pristine := same.trans (Tree.pristine_replay t a)
          have size : u.size = t.size := Tree.size_eq_of_pristine same'
          have less : u.size - c < k := by
            rw [size, ← room]
            exact Nat.sub_lt_sub_left inside down
          exact ih _ less (wf.of_pristine same'.symm) inside_c visit rfl

/-- What passes from the parts of a run to the whole holds of all descents. -/
theorem Stepwise.of_descent (steps : Stepwise visits descents) {t : Tree} {n : NodeId}
    {cs : List NodeId} {es : List Event} {abandoned : Bool} (wf : t.WellFormed)
    (inside : n < t.size) (last : cs <:+ (t.get n).children) (h : Descent t n cs es abandoned) :
    descents t n cs es abandoned := by
  refine steps.of_children cs ?_ wf inside last h
  intro u c a same _ inside_c visit
  exact steps.of_visit (wf.of_pristine same.symm) inside_c visit

end Induction

variable {t : Tree} {c m n p : NodeId} {es : List Event} {phase : Phase} {abandoned : Bool}

section OwnEvents

theorem HookCall.node (call : HookCall t n phase es) : ∀ e ∈ es, e.node = n := by
  cases call with
  | called _ own =>
      intro e mem
      obtain rfl | mem := List.mem_cons.1 mem
      · rfl
      obtain rfl | mem := List.mem_cons.1 mem
      · rfl
      exact (own e mem).node
  | silent => simp [Event.node]

theorem Opening.node (opening : Opening t n es) : ∀ e ∈ es, e.node = n := by
  cases opening with
  | mk call =>
      have setup := call.node
      simp only [List.mem_cons, List.mem_append, List.not_mem_nil, or_false]
      rintro e (rfl | mem | rfl)
      · rfl
      · exact setup e mem
      · rfl

theorem OwnRun.node (own : OwnRun t n abandoned es) : ∀ e ∈ es, e.node = n := by
  cases own with
  | skipped => simp
  | reached call => exact call.node

theorem Leaving.node (leaving : Leaving t n es) : ∀ e ∈ es, e.node = n := by
  cases leaving with
  | mk call =>
      have teardown := call.node
      simp only [List.mem_cons, List.mem_append, List.not_mem_nil, or_false]
      rintro e (rfl | mem | rfl | rfl)
      · rfl
      · exact teardown e mem
      · rfl
      · rfl

/-- What a node does after its children. -/
theorem OwnRun.node_append_leaving {u : Tree} {c d : List Event} (own : OwnRun t n abandoned c)
    (leaving : Leaving u n d) : ∀ e ∈ c ++ d, e.node = n := by
  intro e mem
  obtain mem | mem := List.mem_append.1 mem
  · exact own.node e mem
  · exact leaving.node e mem

theorem HookCall.eq_of_called (call : HookCall t n phase es) {k : Phase} {u : Tree}
    (mem : .called m k u ∈ es) : m = n ∧ k = phase ∧ u = t.setStage n phase.stage := by
  cases call with
  | called _ own =>
      obtain same | mem := List.mem_cons.1 mem
      · cases same
      obtain same | mem := List.mem_cons.1 mem
      · cases same
        exact ⟨rfl, rfl, rfl⟩
      · exact (own _ mem).elim
  | silent =>
      obtain same | mem := List.mem_cons.1 mem
      · cases same
      · cases mem

theorem Opening.eq_of_called (opening : Opening t n es) {k : Phase} {u : Tree}
    (mem : .called m k u ∈ es) :
    m = n ∧ k = .setup ∧ u = (t.beginResult n).setStage n .settingUp := by
  cases opening with
  | mk call =>
      simp only [List.mem_cons, reduceCtorEq, false_or, List.mem_append, List.not_mem_nil,
        or_false] at mem
      exact call.eq_of_called mem

theorem OwnRun.eq_of_called (own : OwnRun t n abandoned es) {k : Phase} {u : Tree}
    (mem : .called m k u ∈ es) :
    abandoned = false ∧ m = n ∧ k = .run ∧ u = t.setStage n .runningSelf := by
  cases own with
  | skipped => cases mem
  | reached call => exact ⟨rfl, call.eq_of_called mem⟩

theorem Leaving.eq_of_called (leaving : Leaving t n es) {k : Phase} {u : Tree}
    (mem : .called m k u ∈ es) : m = n ∧ k = .teardown ∧
      ∃ elapsed, u = (t.setElapsed n elapsed).setStage n .tearingDown := by
  cases leaving with
  | @mk elapsed _ call =>
      simp only [List.mem_cons, reduceCtorEq, false_or, List.mem_append, List.not_mem_nil,
        or_false] at mem
      obtain ⟨node, kind, tree⟩ := call.eq_of_called mem
      exact ⟨node, kind, elapsed, tree⟩

end OwnEvents

section OwnStages

/-- Hooks do not bring any node into a stage. -/
theorem stagesOf_answers (own : ∀ e ∈ es, e.AnswerOf n) : stagesOf m es = [] := by
  apply List.filterMap_eq_nil_iff.2
  intro e mem
  have answer := own e mem
  cases e with
  | answered => rfl
  | _ => exact answer.elim

theorem HookCall.stagesOf_self (call : HookCall t n phase es) : stagesOf n es = [phase.stage] := by
  cases call with
  | called _ own => rw [stagesOf_staged, stagesOf_cons_of_none rfl, stagesOf_answers own]
  | silent => exact stagesOf_staged n _ []

theorem Opening.stagesOf_self (opening : Opening t n es) :
    stagesOf n es = [.settingUp, .runningChildren] := by
  cases opening with
  | mk call =>
      rw [stagesOf_cons_of_none rfl, stagesOf_append, call.stagesOf_self, stagesOf_staged]
      rfl

theorem OwnRun.stagesOf_self (own : OwnRun t n abandoned es) :
    stagesOf n es = if abandoned then [] else [.runningSelf] := by
  cases own with
  | skipped => rfl
  | reached call => exact call.stagesOf_self

theorem Leaving.stagesOf_self (leaving : Leaving t n es) :
    stagesOf n es = [.tearingDown, .done] := by
  cases leaving with
  | mk call =>
      rw [stagesOf_cons_of_none rfl, stagesOf_append, call.stagesOf_self,
        stagesOf_cons_of_none rfl, stagesOf_staged]
      rfl

theorem Opening.stage (opening : Opening t n es) (inside : n < t.size) :
    ((t.replay es).get n).stage = .runningChildren := by
  rw [Tree.stage_replay inside, opening.stagesOf_self]
  rfl

theorem Leaving.stage (leaving : Leaving t n es) (inside : n < t.size) :
    ((t.replay es).get n).stage = .done := by
  rw [Tree.stage_replay inside, leaving.stagesOf_self]
  rfl

end OwnStages

section SubtreeEvents

private theorem scope_stepwise : Stepwise (fun t n es => ∀ e ∈ es, n ∈ t.ancestors e.node)
    (fun t _ cs es _ => ∀ e ∈ es, ∃ c ∈ cs, c ∈ t.ancestors e.node) where
  visit {t n a b c d abandoned} wf _ opening _ below own leaving := by
    have self : ∀ e : Event, e.node = n → n ∈ t.ancestors e.node := fun e same =>
      same ▸ Tree.mem_ancestors_self t _
    simp only [List.mem_append]
    rintro e (mem | mem | mem | mem)
    · exact self e (opening.node e mem)
    · obtain ⟨c, child, up⟩ := below e mem
      rw [Tree.ancestors_replay] at up
      exact Tree.mem_ancestors_trans (wf.mem_ancestors_child child) up
    · exact self e (own.node e mem)
    · exact self e (leaving.node e mem)
  done := by simp
  stopped {t n c rest a} _ _ _ _ below _ := by
    intro e mem
    refine ⟨c, List.mem_cons_self, ?_⟩
    obtain rfl | mem := List.mem_cons.1 mem
    · exact Tree.mem_ancestors_self t c
    · exact below e mem
  next {t n c rest a b abandoned} _ _ _ _ below _ _ beside := by
    intro e mem
    obtain rfl | mem := List.mem_cons.1 mem
    · exact ⟨c, List.mem_cons_self, Tree.mem_ancestors_self t c⟩
    obtain mem | mem := List.mem_append.1 mem
    · exact ⟨c, List.mem_cons_self, below e mem⟩
    · obtain ⟨d, later, up⟩ := beside e mem
      rw [Tree.ancestors_replay] at up
      exact ⟨d, List.mem_cons_of_mem _ later, up⟩

/-- All events of a visit are at its node or below. -/
theorem Visit.scope (visit : Visit t n es) (wf : t.WellFormed) (inside : n < t.size) :
    ∀ e ∈ es, n ∈ t.ancestors e.node :=
  scope_stepwise.of_visit wf inside visit

/-- All events of a descent are at the children that it is about or below. -/
theorem Descent.scope {cs : List NodeId} (descent : Descent t n cs es abandoned)
    (wf : t.WellFormed) (inside : n < t.size) (last : cs <:+ (t.get n).children) :
    ∀ e ∈ es, ∃ c ∈ cs, c ∈ t.ancestors e.node :=
  scope_stepwise.of_descent wf inside last descent

/-- All events of a run are at its node or below it, whether or not it comes to its end. -/
theorem emits_runNode_scope {options : Options} {hooks : NodeId → Hooks} {s : State}
    (wf : s.tree.WellFormed) (inside : n < s.tree.size) :
    (runNode options hooks n).Emits s (fun _ es => ∀ e ∈ es, n ∈ s.tree.ancestors e.node)
      (fun _ es => ∀ e ∈ es, n ∈ s.tree.ancestors e.node) := by
  apply (emits_runNode wf).mono
  · exact fun _ _ visit => visit.scope wf inside
  · exact fun _ _ breaks => breaks.forall fun _ visit => visit.scope wf inside

end SubtreeEvents

section Elsewhere

/-- Events at one node leave all nodes alone that are not above it. -/
theorem Tree.get_replay_of_node (own : ∀ e ∈ es, e.node = n) (apart : m ∉ t.ancestors n) :
    (t.replay es).get m = t.get m :=
  Tree.get_replay_of_not_mem fun e mem => (own e mem).symm ▸ apart

theorem Descent.get_of_apart {cs : List NodeId} (descent : Descent t n cs es abandoned)
    (wf : t.WellFormed) (inside : n < t.size) (last : cs <:+ (t.get n).children)
    (apart : ∀ c ∈ cs, m ∉ t.ancestors c ∧ c ∉ t.ancestors m) :
    (t.replay es).get m = t.get m := by
  apply Tree.get_replay_of_not_mem
  intro e mem
  obtain ⟨c, hc, up⟩ := descent.scope wf inside last e mem
  exact Tree.not_mem_ancestors_of_apart (apart c hc).1 (apart c hc).2 up

/-- Trees with the same links agree on node `n` and on all nodes below it. -/
structure Tree.SameBelow (t u : Tree) (n : NodeId) : Prop where
  pristine : u.pristine = t.pristine
  get : ∀ m, n ∈ t.ancestors m → u.get m = t.get m

theorem Tree.SameBelow.below {u : Tree} (same : t.SameBelow u n) (up : n ∈ t.ancestors m) :
    t.SameBelow u m where
  pristine := same.pristine
  get k below := same.get k (Tree.mem_ancestors_trans up below)

/-- What a node does itself leaves what is below it alone. -/
theorem Tree.sameBelow_of_node (wf : t.WellFormed) (child : c ∈ (t.get n).children)
    (own : ∀ e ∈ es, e.node = n) : t.SameBelow (t.replay es) c where
  pristine := Tree.pristine_replay t es
  get m up := by
    apply Tree.get_replay_of_node own
    intro above
    exact wf.not_mem_ancestors_parent child (Tree.mem_ancestors_trans up above)

/-- Events at or below one child leave what is at or below another one alone. -/
theorem Tree.sameBelow_of_scope (wf : t.WellFormed) (child : c ∈ (t.get p).children) {d : NodeId}
    (sibling : d ∈ (t.get p).children) (ne : d ≠ c) (scope : ∀ e ∈ es, c ∈ t.ancestors e.node) :
    t.SameBelow (t.replay es) d where
  pristine := Tree.pristine_replay t es
  get m up := by
    obtain ⟨above, below⟩ := wf.apart_of_children sibling child ne up
    exact Tree.get_replay_of_not_mem fun e mem =>
      Tree.not_mem_ancestors_of_apart above below (scope e mem)

/-- The visit of one child leaves what is at or below another one alone. -/
theorem Visit.sameBelow_sibling (visit : Visit t c es) (wf : t.WellFormed)
    (child : c ∈ (t.get p).children) {d : NodeId} (sibling : d ∈ (t.get p).children) (ne : d ≠ c) :
    t.SameBelow (t.replay es) d :=
  Tree.sameBelow_of_scope wf child sibling ne (visit.scope wf (wf.child_lt_size p c child))

/-- Running some of the children leaves what is at or below another one alone. -/
theorem Descent.sameBelow_sibling {cs : List NodeId} (descent : Descent t n cs es abandoned)
    (wf : t.WellFormed) (inside : n < t.size) (last : cs <:+ (t.get n).children) {d : NodeId}
    (sibling : d ∈ (t.get n).children) (other : d ∉ cs) : t.SameBelow (t.replay es) d where
  pristine := Tree.pristine_replay t es
  get m mem := by
    apply descent.get_of_apart wf inside last
    intro c hc
    exact wf.apart_of_children sibling (last.mem hc) (fun same => other (same ▸ hc)) mem

/-- The child that is run first is none of the later ones. -/
theorem Tree.WellFormed.not_mem_later (wf : t.WellFormed) {rest : List NodeId}
    (last : c :: rest <:+ (t.get n).children) : c ∉ rest := by
  intro mem
  have distinct := List.pairwise_cons.1 ((wf.increasing n).sublist last.sublist)
  exact Nat.lt_irrefl c (distinct.1 c mem)

/-- The nodes above a visited node stay in their stages. -/
theorem Visit.stage_above (visit : Visit t n es) (wf : t.WellFormed) (inside : n < t.size)
    (up : p ∈ t.ancestors n) (ne : p ≠ n) : ((t.replay es).get p).stage = (t.get p).stage := by
  have inside' : p < t.size := Nat.lt_of_le_of_lt (Tree.le_of_mem_ancestors up) inside
  refine Tree.stage_replay_of_stagesOf_eq_nil inside' (Tree.stagesOf_eq_nil ?_)
  rintro e mem rfl
  exact ne (Tree.eq_of_mem_ancestors up (visit.scope wf inside e mem))

end Elsewhere

section Above

theorem HookCall.not_entered (call : HookCall t n phase es) : .entered m ∉ es := by
  cases call with
  | called _ own =>
      simp only [List.mem_cons, reduceCtorEq, false_or]
      exact fun mem => own _ mem
  | silent => simp

theorem OwnRun.not_entered (own : OwnRun t n abandoned es) : .entered m ∉ es := by
  cases own with
  | skipped => simp
  | reached call => exact call.not_entered

theorem Leaving.not_entered (leaving : Leaving t n es) : .entered m ∉ es := by
  cases leaving with
  | mk call =>
      have teardown := call.not_entered (m := m)
      simp [teardown]

/-- No child of a node is the node itself or above it, so a descent does not enter these. -/
theorem Descent.not_entered {cs : List NodeId} (descent : Descent t n cs es abandoned)
    (wf : t.WellFormed) (inside : n < t.size) (last : cs <:+ (t.get n).children)
    (up : p ∈ t.ancestors n) : .entered p ∉ es := by
  intro mem
  obtain ⟨c, hc, below⟩ := descent.scope wf inside last _ mem
  exact wf.not_mem_ancestors_parent (last.mem hc) (Tree.mem_ancestors_trans below up)

/-- A node is entered once in its visit, and that is how the visit begins. -/
theorem Visit.eq_cons (visit : Visit t n es) (wf : t.WellFormed) (inside : n < t.size) :
    ∃ tail, es = .entered n :: tail ∧ .entered n ∉ tail := by
  cases visit with
  | @mk _ _ a b c d _ opening descent own leaving =>
      have below : .entered n ∉ b := by
        have all := Tree.suffix_replay t a n List.suffix_rfl
        exact descent.not_entered (wf.replay a) (by rwa [Tree.size_replay]) all
          (Tree.mem_ancestors_self _ n)
      cases opening with
      | @mk setup call =>
          refine ⟨setup ++ [.staged n .runningChildren] ++ (b ++ (c ++ d)), by simp, ?_⟩
          simp [call.not_entered, below, own.not_entered, leaving.not_entered]

/-- Whatever is reported in a visit, the nodes above are failed from then on. -/
theorem Visit.isFailed_above (visit : Visit t n es) (wf : t.WellFormed) (inside : n < t.size)
    (up : p ∈ t.ancestors n) (ne : p ≠ n) :
    (t.replay es).isFailed p = true ↔ t.isFailed p = true ∨ reports es ≠ [] := by
  have scope := visit.scope wf inside
  apply Tree.isFailed_replay
  · intro e mem
    exact Tree.lt_size_of_mem_ancestors (scope e mem) inside
  · intro e mem
    exact Tree.mem_ancestors_trans up (scope e mem)
  · intro mem
    exact ne (Tree.eq_of_mem_ancestors up (scope _ mem))

/-- While everything that happens after the entering of a node is at the node or below it, the node
is failed exactly if anything is reported. -/
theorem Tree.isFailed_replay_entered {tail : List Event} (inside : n < t.size)
    (below : ∀ e ∈ tail, n ∈ t.ancestors e.node) (once : .entered n ∉ tail) :
    (t.replay (.entered n :: tail)).isFailed n = true ↔ reports tail ≠ [] := by
  have begun : (t.after (.entered n)).isFailed n = false := by
    rw [Tree.after, Tree.isFailed, Tree.result_beginResult_self inside]
    rfl
  rw [Tree.replay_cons, Tree.isFailed_replay _ _ once, begun]
  · simp
  · intro e mem
    rw [Tree.size_after]
    exact Tree.lt_size_of_mem_ancestors (below e mem) inside
  · intro e mem
    rw [Tree.ancestors_after]
    exact below e mem

/-- A node is failed when its children come up exactly if its setup hook reported anything. -/
theorem Opening.isFailed_self (opening : Opening t n es) (inside : n < t.size) :
    (t.replay es).isFailed n = true ↔ reports es ≠ [] := by
  have own := opening.node
  cases opening with
  | mk call =>
      refine Tree.isFailed_replay_entered inside ?_ (by simp [call.not_entered])
      intro e mem
      rw [own e (List.mem_cons_of_mem _ mem)]
      exact Tree.mem_ancestors_self t n

/-- A node is failed after its visit exactly if anything was reported in the visit. -/
theorem Visit.isFailed_self (visit : Visit t n es) (wf : t.WellFormed) (inside : n < t.size) :
    (t.replay es).isFailed n = true ↔ reports es ≠ [] := by
  have scope := visit.scope wf inside
  obtain ⟨tail, rfl, once⟩ := visit.eq_cons wf inside
  exact Tree.isFailed_replay_entered inside (fun e mem => scope e (List.mem_cons_of_mem _ mem)) once

/-- Running some children leaves their parent failed if it was so before or anything is reported. -/
theorem Descent.isFailed_parent {cs : List NodeId} (descent : Descent t n cs es abandoned)
    (wf : t.WellFormed) (inside : n < t.size) (last : cs <:+ (t.get n).children) :
    (t.replay es).isFailed n = true ↔ t.isFailed n = true ∨ reports es ≠ [] := by
  have below : ∀ e ∈ es, n ∈ t.ancestors e.node := by
    intro e mem
    obtain ⟨c, hc, up⟩ := descent.scope wf inside last e mem
    exact Tree.mem_ancestors_trans (wf.mem_ancestors_child (last.mem hc)) up
  refine Tree.isFailed_replay ?_ below ?_
  · intro e mem
    exact Tree.lt_size_of_mem_ancestors (below e mem) inside
  · exact descent.not_entered wf inside last (Tree.mem_ancestors_self t n)

end Above

section Untouched

/-- Nothing has happened at node `n` or below it. -/
def Tree.Dormant (t : Tree) (n : NodeId) : Prop :=
  ∀ m, n ∈ t.ancestors m → t.Idle m

theorem Tree.Untouched.dormant (untouched : t.Untouched) (n : NodeId) : t.Dormant n :=
  fun m _ => untouched m

theorem Tree.Dormant.self (dormant : t.Dormant n) : t.Idle n :=
  dormant n (Tree.mem_ancestors_self t n)

theorem Tree.Dormant.below (dormant : t.Dormant n) (up : n ∈ t.ancestors m) : t.Dormant m :=
  fun k below => dormant k (Tree.mem_ancestors_trans up below)

theorem Tree.Dormant.congr {u : Tree} (dormant : t.Dormant n) (same : t.SameBelow u n) :
    u.Dormant n := by
  intro m up
  rw [Tree.ancestors_eq_of_pristine same.pristine] at up
  exact (Tree.idle_congr (same.get m up)).2 (dormant m up)

/-- When the children come up they are as untouched as their parent was. -/
theorem Opening.dormant_children (opening : Opening t n es) (wf : t.WellFormed)
    (dormant : t.Dormant n) : ∀ c ∈ (t.get n).children, (t.replay es).Dormant c := by
  intro c child
  have frame := Tree.sameBelow_of_node wf child opening.node
  exact (dormant.below (wf.mem_ancestors_child child)).congr frame

/-- The visit of a child leaves the subtrees of the later ones untouched. -/
theorem Visit.dormant_later {rest : List NodeId} (visit : Visit t c es) (wf : t.WellFormed)
    (last : c :: rest <:+ (t.get n).children) (dormant : ∀ d ∈ c :: rest, t.Dormant d) :
    ∀ d ∈ rest, (t.replay es).Dormant d := by
  intro d hd
  have child : c ∈ (t.get n).children := last.mem List.mem_cons_self
  have later : d ∈ c :: rest := List.mem_cons_of_mem c hd
  have ne : d ≠ c := fun same => wf.not_mem_later last (same ▸ hd)
  exact (dormant d later).congr (visit.sameBelow_sibling wf child (last.mem later) ne)

end Untouched

end SuiteTree
