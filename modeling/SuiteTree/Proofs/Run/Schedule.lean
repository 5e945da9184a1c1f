import Mathlib.Data.List.TakeWhile
import SuiteTree.Proofs.Run.Scope
import SuiteTree.Proofs.Tree.Reachable

/-!
# The schedule of a run

The marks of a run are its calls of hooks and what the runner itself does to the overrides and to
the random streams. Once it is known which of the calls report a failure, the marks are determined:
they are the schedule of the node, a function of the nested children. Every hook is called at most
once in a run, so that the outcomes of the calls are a function of node and phase.
-/

namespace SuiteTree

/-- What the runner does to the overrides and to the random streams, and the hooks that it calls.
The mark of a call says whether the hook reported a failure. -/
inductive Mark
  | entered (node : NodeId)
  | left (node : NodeId)
  | rewound (child : NodeId)
  | called (node : NodeId) (phase : Phase) (failing : Bool)
  deriving Repr, DecidableEq

namespace Mark

/-- The mark is that of a call in which a failure was reported. -/
def isFailing : Mark → Bool
  | called _ _ failing => failing
  | _ => false

/-- The hook that was called. -/
def call? : Mark → Option (NodeId × Phase)
  | called n phase _ => some (n, phase)
  | _ => none

end Mark

/-- The hook that was called. -/
def Event.call? : Event → Option (NodeId × Phase)
  | called n phase _ => some (n, phase)
  | _ => none

/-- The hook that goes on at the beginning of these events reports a failure. -/
def failsAtOnce (es : List Event) : Bool :=
  !(reports (es.takeWhile Event.isAnswer)).isEmpty

/-- The marks of some events. -/
def marks : List Event → List Mark
  | [] => []
  | .entered n :: es => .entered n :: marks es
  | .left n :: es => .left n :: marks es
  | .rewound c :: es => .rewound c :: marks es
  | .called n phase _ :: es => .called n phase (failsAtOnce es) :: marks es
  | _ :: es => marks es

section Schedule

variable (calls : NodeId → Phase → List Mark)

/-- The marks of running node `n`, given those of its children and whether these were abandoned. -/
def visitMarks (n : NodeId) (below : List Mark) (abandoned : Bool) : List Mark :=
  .entered n :: (calls n .setup ++ (below ++ ((if abandoned then [] else calls n .run) ++
    (calls n .teardown ++ [.left n]))))

/-- The marks of running the trees of a forest in order, and whether the rest of them was abandoned.
This happens after the first one by which a call has failed: one of those in `before` or one in the
trees so far. -/
def childMarks (before : List Mark) : Forest → List Mark × Bool
  | .nil => ([], false)
  | .node c below beside =>
    let inner := childMarks (calls c .setup) below
    let visit := visitMarks calls c inner.1 inner.2
    if (before ++ visit).any Mark.isFailing then (.rewound c :: visit, true)
    else
      let later := childMarks (before ++ visit) beside
      (.rewound c :: (visit ++ later.1), later.2)

end Schedule

namespace Tree

/-- The mark of a call, if `fails` says which calls fail. A node that has lost its hooks is not
called. -/
def calls (t : Tree) (fails : NodeId → Phase → Bool) (n : NodeId) (phase : Phase) : List Mark :=
  if (t.get n).hooked then [.called n phase (fails n phase)] else []

/-- The marks of a run of node `n`, if `fails` says which calls fail. -/
def schedule (t : Tree) (fails : NodeId → Phase → Bool) (n : NodeId) : List Mark :=
  let inner := childMarks (t.calls fails) (t.calls fails n .setup) (t.below n)
  visitMarks (t.calls fails) n inner.1 inner.2

variable {t : Tree} {fails : NodeId → Phase → Bool} {n : NodeId}

@[simp] theorem calls_replay (es : List Event) : (t.replay es).calls fails = t.calls fails := by
  funext n phase
  rw [calls, calls, hooked_replay]

/-- A node without children runs itself, whatever its setup hook reports. -/
theorem schedule_of_no_children (none : (t.get n).children = []) :
    t.schedule fails n = .entered n :: (t.calls fails n .setup ++ (t.calls fails n .run ++
      (t.calls fails n .teardown ++ [.left n]))) := by
  simp [schedule, below, none, belowAll, childMarks, visitMarks]

/-- After a setup hook that fails exactly one child is run, and the node does not run itself. -/
theorem schedule_of_failing_setup (wf : t.WellFormed) {c : NodeId} {rest : List NodeId}
    (children : (t.get n).children = c :: rest) (hooked : (t.get n).hooked = true)
    (failing : fails n .setup = true) :
    t.schedule fails n = .entered n :: .called n .setup true :: .rewound c ::
      (t.schedule fails c ++ [.called n .teardown (fails n .teardown), .left n]) := by
  have child : c ∈ (t.get n).children := by simp [children]
  have setup : t.calls fails n .setup = [.called n .setup true] := by simp [calls, hooked, failing]
  have teardown : t.calls fails n .teardown = [.called n .teardown (fails n .teardown)] := by
    simp [calls, hooked]
  have first : childMarks (t.calls fails) [.called n .setup true] (t.below n) =
      (.rewound c :: t.schedule fails c, true) := by
    rw [below, children, wf.belowAll_cons_child child, childMarks]
    simp [Mark.isFailing, schedule]
  rw [schedule, setup, first, visitMarks, setup, teardown]
  simp

end Tree

section Marks

variable {t : Tree} {n : NodeId} {phase : Phase} {abandoned : Bool} {a b es : List Event}

theorem takeWhile_append_of_fresh (fresh : Fresh b) :
    (a ++ b).takeWhile Event.isAnswer = a.takeWhile Event.isAnswer := by
  induction a with
  | nil =>
      cases b with
      | nil => rfl
      | cons e b => simp [fresh e (by simp)]
  | cons e a ih =>
      rw [List.cons_append, List.takeWhile_cons, List.takeWhile_cons, ih]

/-- The marks of two parts of a run, unless a hook goes on from the first part to the second. -/
theorem marks_append (fresh : Fresh b) : marks (a ++ b) = marks a ++ marks b := by
  induction a with
  | nil => rfl
  | cons e a ih =>
      have same : failsAtOnce (a ++ b) = failsAtOnce a := by
        rw [failsAtOnce, takeWhile_append_of_fresh fresh, failsAtOnce]
      cases e <;> simp [marks, ih, same]

theorem filterMap_call_marks (es : List Event) :
    (marks es).filterMap Mark.call? = es.filterMap Event.call? := by
  induction es with
  | nil => rfl
  | cons e es ih => cases e <;> simp [marks, List.filterMap_cons, Mark.call?, Event.call?, ih]

theorem marks_answers (own : ∀ e ∈ es, e.AnswerOf n) : marks es = [] := by
  induction es with
  | nil => rfl
  | cons e es ih =>
      have rest := ih fun e' mem => own e' (List.mem_cons_of_mem _ mem)
      have first := own e List.mem_cons_self
      cases e with
      | answered m request reply => exact rest
      | _ => exact first.elim

theorem failsAtOnce_answers (own : ∀ e ∈ es, e.AnswerOf n) :
    failsAtOnce es = !(reports es).isEmpty := by
  have all : es.takeWhile Event.isAnswer = es := by
    apply List.takeWhile_eq_self_iff.2
    intro e mem
    have answer := own e mem
    cases e with
    | answered m request reply => rfl
    | _ => exact answer.elim
  rw [failsAtOnce, all]

/-- The calls among some marks fail as `fails` says. -/
def Agrees (fails : NodeId → Phase → Bool) (ms : List Mark) : Prop :=
  ∀ m phase failing, .called m phase failing ∈ ms → fails m phase = failing

theorem agrees_append {fails : NodeId → Phase → Bool} {x y : List Mark} :
    Agrees fails (x ++ y) ↔ Agrees fails x ∧ Agrees fails y := by
  constructor
  · intro agrees
    constructor
    · intro m phase failing mem
      exact agrees m phase failing (List.mem_append_left _ mem)
    · intro m phase failing mem
      exact agrees m phase failing (List.mem_append_right _ mem)
  · rintro ⟨first, second⟩ m phase failing mem
    obtain mem | mem := List.mem_append.1 mem
    · exact first m phase failing mem
    · exact second m phase failing mem

theorem agrees_cons_rewound {fails : NodeId → Phase → Bool} {c : NodeId} {x : List Mark} :
    Agrees fails (.rewound c :: x) ↔ Agrees fails x := by
  simp [Agrees]

variable {fails : NodeId → Phase → Bool}

/-- A call leaves one mark, whatever the hook asks for. -/
theorem marks_call {u : Tree} {stage : Stage} (own : ∀ e ∈ es, e.AnswerOf n) :
    marks (.staged n stage :: .called n phase u :: es) =
      [.called n phase (!(reports es).isEmpty)] := by
  have first : marks (.staged n stage :: .called n phase u :: es) =
      .called n phase (failsAtOnce es) :: marks es := rfl
  rw [first, marks_answers own, failsAtOnce_answers own]

theorem HookCall.marks_eq (call : HookCall t n phase es) (agrees : Agrees fails (marks es)) :
    marks es = t.calls fails n phase := by
  cases call with
  | called hooked own =>
      rw [marks_call own] at agrees ⊢
      rw [Tree.calls, if_pos hooked, agrees n phase _ List.mem_cons_self]
  | silent bare => simp [marks, Tree.calls, bare]

theorem marks_opening (setup : List Event) :
    marks (.entered n :: (setup ++ [.staged n .runningChildren])) = .entered n :: marks setup := by
  rw [marks, marks_append (by simp [Fresh, Event.isAnswer])]
  simp [marks]

theorem marks_leaving {elapsed : Time.Elapsed} (teardown : List Event) :
    marks (.timed n elapsed :: (teardown ++ [.left n, .staged n .done])) =
      marks teardown ++ [.left n] := by
  have first : marks (.timed n elapsed :: (teardown ++ [.left n, .staged n .done])) =
      marks (teardown ++ [.left n, .staged n .done]) := rfl
  rw [first, marks_append (by simp [Fresh, Event.isAnswer])]
  rfl

theorem Opening.marks_eq (opening : Opening t n es) (agrees : Agrees fails (marks es)) :
    marks es = .entered n :: t.calls fails n .setup := by
  have same : (t.beginResult n).calls fails = t.calls fails := Tree.calls_replay [.entered n]
  cases opening with
  | mk call =>
      rw [marks_opening] at agrees ⊢
      rw [call.marks_eq fun m phase failing mem => agrees m phase failing (.tail _ mem), same]

theorem OwnRun.marks_eq (own : OwnRun t n abandoned es) (agrees : Agrees fails (marks es)) :
    marks es = if abandoned then [] else t.calls fails n .run := by
  cases own with
  | skipped => rfl
  | reached call => exact call.marks_eq agrees

theorem Leaving.marks_eq (leaving : Leaving t n es) (agrees : Agrees fails (marks es)) :
    marks es = t.calls fails n .teardown ++ [.left n] := by
  cases leaving with
  | @mk elapsed teardown call =>
      have same : (t.setElapsed n elapsed).calls fails = t.calls fails :=
        Tree.calls_replay [.timed n elapsed]
      rw [marks_leaving] at agrees ⊢
      rw [call.marks_eq (agrees_append.1 agrees).1, same]

/-- The marks of some events tell whether a failure was reported in them. -/
def Tells (es : List Event) : Prop :=
  (marks es).any Mark.isFailing = true ↔ reports es ≠ []

theorem Tells.append (first : Tells a) (second : Tells b) (fresh : Fresh b) : Tells (a ++ b) := by
  unfold Tells at first second ⊢
  rw [marks_append fresh, List.any_append, Bool.or_eq_true, first, second, reports_append]
  simp only [ne_eq, List.append_eq_nil_iff, not_and_or]

theorem HookCall.tells (call : HookCall t n phase es) : Tells es := by
  unfold Tells
  cases call with
  | called hooked own =>
      rw [marks_call own]
      simp [Mark.isFailing, reports, Event.report?]
  | silent bare => simp [marks, reports, Event.report?]

theorem Opening.tells (opening : Opening t n es) : Tells es := by
  cases opening with
  | @mk setup call =>
      have inner := call.tells
      have same : reports (.entered n :: (setup ++ [.staged n .runningChildren])) =
          reports setup := by
        rw [reports_cons_of_none rfl, reports_append, reports_cons_of_none rfl]
        exact List.append_nil _
      unfold Tells at inner ⊢
      rw [marks_opening, same, ← inner]
      rfl

theorem OwnRun.tells (own : OwnRun t n abandoned es) : Tells es := by
  cases own with
  | skipped => simp [Tells, marks, reports]
  | reached call => exact call.tells

theorem Leaving.tells (leaving : Leaving t n es) : Tells es := by
  cases leaving with
  | @mk elapsed teardown call =>
      have inner := call.tells
      have same : reports (.timed n elapsed :: (teardown ++ [.left n, .staged n .done])) =
          reports teardown := by
        rw [reports_cons_of_none rfl, reports_append, reports_cons_of_none rfl]
        exact List.append_nil _
      unfold Tells at inner ⊢
      rw [marks_leaving, same, ← inner, List.any_append]
      simp [Mark.isFailing]

private theorem tells_stepwise :
    Stepwise (fun _ _ es => Tells es) (fun _ _ _ es _ => Tells es) where
  visit _ _ opening descent below own leaving := by
    refine opening.tells.append (below.append (own.tells.append leaving.tells leaving.fresh) ?_) ?_
    · exact own.fresh.append leaving.fresh
    · exact descent.fresh.append (own.fresh.append leaving.fresh)
  done _ _ := by simp [Tells, marks, reports]
  stopped {t n c rest a} _ _ _ _ below _ := below
  next {t n c rest a b abandoned} _ _ _ _ below _ descent beside :=
    below.append beside descent.fresh

theorem Visit.tells (visit : Visit t n es) (wf : t.WellFormed) (inside : n < t.size) : Tells es :=
  tells_stepwise.of_visit wf inside visit

theorem HookCall.calls_sublist (call : HookCall t n phase es) :
    (es.filterMap Event.call?).Sublist [(n, phase)] := by
  cases call with
  | called _ own =>
      rw [← filterMap_call_marks, marks_call own]
      exact .refl _
  | silent => exact List.nil_sublist _

theorem Opening.calls_sublist (opening : Opening t n es) :
    (es.filterMap Event.call?).Sublist [(n, .setup)] := by
  cases opening with
  | @mk setup call =>
      rw [← filterMap_call_marks, marks_opening]
      exact (filterMap_call_marks setup).symm ▸ call.calls_sublist

theorem OwnRun.calls_sublist (own : OwnRun t n abandoned es) :
    (es.filterMap Event.call?).Sublist [(n, .run)] := by
  cases own with
  | skipped => exact List.nil_sublist _
  | reached call => exact call.calls_sublist

theorem Leaving.calls_sublist (leaving : Leaving t n es) :
    (es.filterMap Event.call?).Sublist [(n, .teardown)] := by
  cases leaving with
  | @mk elapsed teardown call =>
      have same : (.timed n elapsed :: (teardown ++ [.left n, .staged n .done])).filterMap
          Event.call? = teardown.filterMap Event.call? := by
        rw [← filterMap_call_marks, marks_leaving, List.filterMap_append, filterMap_call_marks]
        exact List.append_nil _
      rw [same]
      exact call.calls_sublist

theorem exists_of_mem_calls {k : NodeId × Phase} (mem : k ∈ es.filterMap Event.call?) :
    ∃ e ∈ es, e.node = k.1 := by
  obtain ⟨e, he, same⟩ := List.mem_filterMap.1 mem
  cases e with
  | called m phase u => exact ⟨_, he, congrArg Prod.fst (Option.some.inj same)⟩
  | _ => cases same

private theorem calls_stepwise : Stepwise (fun _ _ es => (es.filterMap Event.call?).Nodup)
    (fun _ _ _ es _ => (es.filterMap Event.call?).Nodup) where
  visit {t n a b c d abandoned} wf inside opening descent below own leaving := by
    have strictly : ∀ phase, (n, phase) ∉ b.filterMap Event.call? := by
      intro phase mem
      obtain ⟨e, he, node⟩ := exists_of_mem_calls mem
      have all := Tree.suffix_replay t a n List.suffix_rfl
      obtain ⟨c', child, up⟩ := descent.scope (wf.replay a) (by simpa using inside) all e he
      rw [node] at up
      exact (wf.replay a).not_mem_ancestors_parent (all.mem child) up
    have whole : ((n, Phase.setup) :: (b.filterMap Event.call? ++
        [(n, Phase.run), (n, Phase.teardown)])).Nodup := by
      refine List.nodup_cons.2 ⟨by simp [strictly], List.nodup_append.2 ⟨below, by simp, ?_⟩⟩
      rintro k mem k' mem' rfl
      obtain rfl | mem' := List.mem_cons.1 mem'
      · exact strictly _ mem
      · exact strictly _ (List.mem_singleton.1 mem' ▸ mem)
    have parts : ((a ++ (b ++ (c ++ d))).filterMap Event.call?).Sublist
        ([(n, Phase.setup)] ++ (b.filterMap Event.call? ++
          ([(n, Phase.run)] ++ [(n, Phase.teardown)]))) := by
      simp only [List.filterMap_append]
      exact opening.calls_sublist.append ((List.Sublist.refl _).append
        (own.calls_sublist.append leaving.calls_sublist))
    exact whole.sublist parts
  done _ _ := List.nodup_nil
  stopped {t n c rest a} _ _ _ _ below _ := below
  next {t n c rest a b abandoned} wf inside last visit below _ descent beside := by
    have later := Tree.suffix_replay t a n ((List.suffix_cons c rest).trans last)
    have child : c ∈ (t.get n).children := last.mem List.mem_cons_self
    have apart : ∀ k ∈ a.filterMap Event.call?, ∀ k' ∈ b.filterMap Event.call?, k ≠ k' := by
      rintro k mem _ mem' rfl
      obtain ⟨e, he, node⟩ := exists_of_mem_calls mem
      obtain ⟨e', he', node'⟩ := exists_of_mem_calls mem'
      have up := visit.scope wf (wf.child_lt_size n c child) e he
      obtain ⟨d, hd, up'⟩ := descent.scope (wf.replay a) (by simpa using inside) later e' he'
      rw [node] at up
      rw [node', Tree.ancestors_replay] at up'
      have same : c = d := wf.child_eq_of_mem_ancestors child (last.mem (.tail _ hd)) up up'
      exact wf.not_mem_later last (same ▸ hd)
    have split : (.rewound c :: (a ++ b)).filterMap Event.call? =
        a.filterMap Event.call? ++ b.filterMap Event.call? := by
      rw [← List.filterMap_append]
      rfl
    rw [split]
    exact List.nodup_append.2 ⟨below, beside, apart⟩

/-- No hook is called twice in a run. -/
theorem Visit.nodup_calls (visit : Visit t n es) (wf : t.WellFormed) (inside : n < t.size) :
    (es.filterMap Event.call?).Nodup :=
  calls_stepwise.of_visit wf inside visit

/-- When a child has come back, the calls so far tell whether the parent is failed. -/
private theorem told_after_child {before : List Mark} {c : NodeId} (visit : Visit t c a)
    (wf : t.WellFormed) (child : c ∈ (t.get n).children)
    (told : before.any Mark.isFailing = true ↔ t.isFailed n = true) :
    (before ++ marks a).any Mark.isFailing = true ↔ (t.replay a).isFailed n = true := by
  have inside : c < t.size := wf.child_lt_size n c child
  have tells : (marks a).any Mark.isFailing = true ↔ reports a ≠ [] := visit.tells wf inside
  have ne : n ≠ c := Nat.ne_of_lt (wf.lt_child n c child)
  rw [visit.isFailed_above wf inside (wf.mem_ancestors_child child) ne, List.any_append,
    Bool.or_eq_true, told, tells]

private theorem schedule_stepwise : Stepwise
    (fun t n es => Agrees fails (marks es) → marks es = t.schedule fails n)
    (fun t n cs es abandoned => Agrees fails (marks es) → ∀ before : List Mark,
      (before.any Mark.isFailing = true ↔ t.isFailed n = true) →
      childMarks (t.calls fails) before (t.belowAll n cs) = (marks es, abandoned)) where
  visit {t n a b c d abandoned} wf inside opening descent below own leaving := by
    have freshD := leaving.fresh
    have freshC := own.fresh.append freshD
    have freshB := descent.fresh.append freshC
    rw [marks_append freshB, marks_append freshC, marks_append freshD]
    intro agrees
    obtain ⟨agreesA, agrees⟩ := agrees_append.1 agrees
    obtain ⟨agreesB, agrees⟩ := agrees_append.1 agrees
    obtain ⟨agreesC, agreesD⟩ := agrees_append.1 agrees
    have eqA := opening.marks_eq agreesA
    have setup : (t.calls fails n .setup).any Mark.isFailing = true ↔
        (t.replay a).isFailed n = true := by
      have tells := opening.tells
      unfold Tells at tells
      rw [opening.isFailed_self inside, ← tells, eqA]
      simp [Mark.isFailing]
    have eqB := below agreesB _ setup
    rw [Tree.calls_replay, Tree.belowAll_replay, ← Tree.below] at eqB
    have eqC := own.marks_eq agreesC
    have eqD := leaving.marks_eq agreesD
    rw [Tree.calls_replay] at eqC eqD
    rw [Tree.schedule, eqB, visitMarks, eqA, eqC, eqD]
    rfl
  done {t n} _ _ _ before _ := by
    rw [Tree.belowAll, childMarks]
    rfl
  stopped {t n c rest a} wf _ last visit below failed := by
    have child : c ∈ (t.get n).children := last.mem List.mem_cons_self
    intro agrees before told
    have own : visitMarks (t.calls fails) c
        (childMarks (t.calls fails) (t.calls fails c .setup) (t.below c)).1
        (childMarks (t.calls fails) (t.calls fails c .setup) (t.below c)).2 = marks a :=
      (below (agrees_cons_rewound.1 agrees)).symm
    have stop : (before ++ marks a).any Mark.isFailing = true :=
      (told_after_child visit wf child told).2 failed
    rw [wf.belowAll_cons_child child, childMarks]
    simp only [own, stop, if_true]
    rfl
  next {t n c rest a b abandoned} wf inside last visit below passed descent beside := by
    have child : c ∈ (t.get n).children := last.mem List.mem_cons_self
    have split : marks (.rewound c :: (a ++ b)) = .rewound c :: (marks a ++ marks b) := by
      rw [marks, marks_append descent.fresh]
    rw [split]
    intro agrees before told
    obtain ⟨agreesA, agreesB⟩ := agrees_append.1 (agrees_cons_rewound.1 agrees)
    have own : visitMarks (t.calls fails) c
        (childMarks (t.calls fails) (t.calls fails c .setup) (t.below c)).1
        (childMarks (t.calls fails) (t.calls fails c .setup) (t.below c)).2 = marks a :=
      (below agreesA).symm
    have told' := told_after_child visit wf child told
    have later := beside agreesB _ told'
    rw [Tree.calls_replay, Tree.belowAll_replay] at later
    have go_on : ¬ (before ++ marks a).any Mark.isFailing = true := by
      rw [told', passed]
      exact Bool.false_ne_true
    rw [wf.belowAll_cons_child child, childMarks]
    simp only [own, later, if_neg go_on]

/-- The marks of a visit are the schedule of its node, for the outcomes of its calls. -/
theorem Visit.marks_eq (visit : Visit t n es) (wf : t.WellFormed) (inside : n < t.size)
    (agrees : Agrees fails (marks es)) : marks es = t.schedule fails n :=
  schedule_stepwise.of_visit wf inside visit agrees

/-- Which calls fail according to some marks. -/
def outcomes (ms : List Mark) (n : NodeId) (phase : Phase) : Bool :=
  decide (.called n phase true ∈ ms)

/-- Where no hook is called twice, the marks agree with the outcomes read off them. -/
theorem agrees_outcomes {ms : List Mark} (once : (ms.filterMap Mark.call?).Nodup) :
    Agrees (outcomes ms) ms := by
  have unique : ∀ {m phase}, .called m phase false ∈ ms → .called m phase true ∉ ms := by
    intro m phase mem mem'
    induction ms with
    | nil => cases mem
    | cons x ms ih =>
        have later : ∀ {failing}, .called m phase failing ∈ ms →
            (m, phase) ∈ ms.filterMap Mark.call? := fun mem =>
          List.mem_filterMap.2 ⟨_, mem, rfl⟩
        have once' := once.sublist ((List.sublist_cons_self x ms).filterMap Mark.call?)
        obtain rfl | below := List.mem_cons.1 mem
        · obtain same | below' := List.mem_cons.1 mem'
          · cases same
          · exact (List.nodup_cons.1 once).1 (later below')
        · obtain rfl | below' := List.mem_cons.1 mem'
          · exact (List.nodup_cons.1 once).1 (later below)
          · exact ih once' below below'
  intro m phase failing mem
  cases failing with
  | true => exact decide_eq_true mem
  | false => exact decide_eq_false (unique mem)

namespace Tree

/-- The marks of a finished run of node `n`: they are the schedule, for the outcomes that they show.
If the setup hook fails, exactly one child is run and the node does not run itself; it does so all
the same if it has no children. -/
structure Follows (t : Tree) (n : NodeId) (ms : List Mark) : Prop where
  marks_eq : ms = t.schedule (outcomes ms) n
  one_child : ∀ c rest, (t.get n).children = c :: rest → (t.get n).hooked = true →
    .called n .setup true ∈ ms →
    ms = .entered n :: .called n .setup true :: .rewound c :: (t.schedule (outcomes ms) c ++
      [.called n .teardown (outcomes ms n .teardown), .left n])
  no_child : (t.get n).children = [] → (t.get n).hooked = true →
    ms = [.entered n, .called n .setup (outcomes ms n .setup), .called n .run (outcomes ms n .run),
      .called n .teardown (outcomes ms n .teardown), .left n]

/-- The marks of a run of node `n` that ended the process: they are the beginning of a schedule, and
the hook that was called last ended the process by a request of its own. -/
structure FollowsUntil (t : Tree) (options : Options) (hooks : NodeId → Hooks) (n : NodeId)
    (halt : Halt) (ms : List Mark) : Prop where
  beginning : ∃ fails, Agrees fails ms ∧ ms <+: t.schedule fails n
  last_call : ∃ before m phase failing, ms = before ++ [.called m phase failing] ∧
    ((hooks m).at phase).Halts options halt

end Tree

theorem Visit.follows (visit : Visit t n es) (wf : t.WellFormed) (inside : n < t.size) :
    t.Follows n (marks es) := by
  have once := visit.nodup_calls wf inside
  rw [← filterMap_call_marks] at once
  have agrees := agrees_outcomes once
  have eq := visit.marks_eq wf inside agrees
  refine ⟨eq, ?_, ?_⟩
  · intro c rest children hooked failing
    have setup : outcomes (marks es) n .setup = true := decide_eq_true failing
    rw [← Tree.schedule_of_failing_setup wf children hooked setup]
    exact eq
  · intro none hooked
    have whole : t.schedule (outcomes (marks es)) n = _ := Tree.schedule_of_no_children none
    rw [← eq] at whole
    simpa [Tree.calls, hooked] using whole

theorem BreaksOff.follows {options : Options} {hooks : NodeId → Hooks} {halt : Halt}
    (breaks : BreaksOff options hooks (Visit t n) halt es) (wf : t.WellFormed)
    (inside : n < t.size) : t.FollowsUntil options hooks n halt (marks es) := by
  obtain ⟨⟨before, m, phase, u, answers, rfl, own, halts⟩, more, fresh, visit⟩ := breaks
  have once := visit.nodup_calls wf inside
  rw [← filterMap_call_marks] at once
  have agrees := agrees_outcomes once
  have eq := visit.marks_eq wf inside agrees
  rw [marks_append fresh] at agrees eq
  refine ⟨⟨_, (agrees_append.1 agrees).1, marks more, eq⟩, marks before, m, phase, ?_, ?_, halts⟩
  · exact failsAtOnce answers
  · have call : marks (.called m phase u :: answers) =
        .called m phase (failsAtOnce answers) :: marks answers := rfl
    rw [marks_append (by simp [Fresh, Event.isAnswer]), call, marks_answers own]

end Marks

/-- The law of the events of a run. Whatever the hooks do, a run of a node of a reachable tree
leaves the marks of its schedule, either all of them or those up to a call of a hook that ended the
process. -/
theorem runNode_follows_schedule {t : Tree} (reach : t.Reachable) {n : NodeId} (inside : n < t.size)
    (options : Options) (hooks : NodeId → Hooks) (world : World) :
    t.AfterRun options hooks n world (fun _ es => t.Follows n (marks es))
      (fun halt es => t.FollowsUntil options hooks n halt (marks es)) := by
  have wf := reach.wellFormed
  apply wf.afterRun
  · intro es visit
    exact visit.follows wf inside
  · intro halt es breaks
    exact breaks.follows wf inside

/-- When the setup of a suite with two cases fails, the first case is run and the second is not. -/
theorem failing_setup_follows_schedule :
    let failing : Program Unit := .request (.fail ⟨"a < b", "2", "1", "", "suite.rs", 7⟩)
    let hooks : NodeId → Hooks := fun n => if n = 0 then { setup := failing } else .idle
    Tree.twoCases.Reachable ∧ 0 < Tree.twoCases.size ∧
      Tree.twoCases.AfterRun {} hooks 0 {} (fun _ es => Tree.twoCases.Follows 0 (marks es))
        (fun halt es => Tree.twoCases.FollowsUntil {} hooks 0 halt (marks es)) := by
  intro failing hooks
  have reach := Tree.twoCases_reachable
  exact ⟨reach, by decide, runNode_follows_schedule reach (by decide) {} hooks {}⟩

end SuiteTree
