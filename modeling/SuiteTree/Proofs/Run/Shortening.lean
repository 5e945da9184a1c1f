import Mathlib.Data.List.Forall2
import SuiteTree.Proofs.Run.Matching
import SuiteTree.Proofs.Run.Script

/-!
# Stopping at failures

If all hooks are scripts, a run that goes on after failures and one that stops at them call the same
hooks; only what the hooks report may be cut short. The two runs agree on the stages, the times and
the marks of all nodes, and on which nodes have failures of their own, because a script that reports
anything does so in both runs. The state of the environment may differ, but nothing depends on it.
-/

namespace SuiteTree

/-- The stage of a node, its time, the mark of failures below, and whether it has no failures. -/
def Node.bearing (node : Node) : Stage × Option (Time.Elapsed × Bool × Bool) :=
  (node.stage, node.result.map fun r => (r.elapsed, r.childrenFailed, r.failures.isEmpty))

section Agreement

variable (x : Node)

/-- What a report makes of the bearing of a node does not depend on the failure. -/
theorem Node.bearing_recorded (failure : Failure) :
    (x.recorded failure).bearing = (x.bearing.1,
      some ((x.bearing.2.map fun r => (r.1, r.2.1, false)).getD (.zero, false, false))) := by
  cases result : x.result <;> simp [bearing, recorded, result]

theorem Node.bearing_recorded_twice (first second : Failure) :
    ((x.recorded first).recorded second).bearing = (x.recorded second).bearing := by
  rw [bearing_recorded, bearing_recorded]
  cases result : x.result <;> simp [bearing, recorded, result]

theorem Node.bearing_marked :
    x.marked.bearing = (x.bearing.1,
      some ((x.bearing.2.map fun r => (r.1, true, r.2.2)).getD (.zero, true, true))) := by
  cases result : x.result <;> simp [bearing, marked, result]

theorem Node.bearing_timed (elapsed : Time.Elapsed) :
    Node.bearing { x with result := x.result.map fun r => { r with elapsed } } =
      (x.bearing.1, x.bearing.2.map fun r => (elapsed, r.2)) := by
  cases result : x.result <;> simp [bearing, result]

theorem Node.isFailed_of_bearing :
    x.result.any Result.isFailed = x.bearing.2.any fun r => r.2.1 || !r.2.2 := by
  cases result : x.result <;> simp [bearing, Result.isFailed, result]

theorem Node.isPassing_of_bearing :
    x.result.all Result.isPassing = x.bearing.2.all fun r => r.2.2 := by
  cases result : x.result <;> simp [bearing, Result.isPassing, result]

end Agreement

/-- Without failures at or below it, the bearing of a node tells its whole result. -/
theorem Node.result_eq_of_bearing {x y : Node} (same : y.bearing = x.bearing)
    (passed : x.result.any Result.isFailed = false) : y.result = x.result := by
  have passed' : y.result.any Result.isFailed = false := by
    rw [y.isFailed_of_bearing, same, ← x.isFailed_of_bearing, passed]
  have none : ∀ r : Result, r.isFailed = false → r.failures = [] := by
    intro r quiet
    by_contra some
    exact Bool.false_ne_true (quiet.symm.trans (Result.isFailed_eq_true_iff.2 (.inr some)))
  have shown := congrArg Prod.snd same
  simp only [bearing] at shown
  cases hx : x.result with
  | none => simpa [hx] using shown
  | some r =>
      rw [hx] at shown passed
      cases hy : y.result with
      | none => simp [hy] at shown
      | some r' =>
          rw [hy] at shown passed'
          simp only [Option.map_some, Option.some.injEq, Prod.mk.injEq] at shown
          obtain ⟨elapsed, marked, -⟩ := shown
          have failures : r'.failures = r.failures := (none r' passed').trans (none r passed).symm
          exact congrArg some (by cases r; cases r'; simp_all)

theorem Node.bearing_steady : Node.Steady Node.bearing Eq where
  begun x y same := by
    have stage := congrArg Prod.fst same
    exact Prod.ext stage rfl
  staged stage x y same := by
    have result := congrArg Prod.snd same
    exact Prod.ext rfl result
  timed {a a' b b'} started ended x y same := by
    rw [Node.bearing_timed, Node.bearing_timed, same, started, ended]
  marked x y same := by rw [Node.bearing_marked, Node.bearing_marked, same]
  failed x y same := by rw [Node.isFailed_of_bearing, Node.isFailed_of_bearing, same]

/-- The clocks show the same in both runs. -/
theorem World.supply_steady : World.Steady World.supply Eq where
  log _ _ := rfl
  emit _ _ := rfl
  resetAttributes _ _ same := same
  rewindStreams _ _ same := same
  read w v same := by
    simp only [World.readClocks, same, and_self]

section OneHook

variable {t u : Tree} {n : NodeId} {es es' : List Event}

/-- The answers to a hook change the tree by what the hook reports. -/
theorem Tree.replay_answers (own : ∀ e ∈ es, e.AnswerOf n) :
    t.replay es = t.reportAll (reports es) := by
  induction es generalizing t with
  | nil => rfl
  | cons e es ih =>
      have answer := own e List.mem_cons_self
      have later := fun e' mem => own e' (List.mem_cons_of_mem e mem)
      cases e with
      | answered m request reply =>
          cases request with
          | fail failure => exact ih later
          | _ => exact ih later
      | _ => exact answer.elim

/-- As far as bearings go, several reports of a node are like one. -/
theorem Tree.bearing_reportAll (inside : n < t.size) {failures : List Failure}
    (some : failures ≠ []) (failure : Failure) (m : NodeId) :
    ((t.reportAll (failures.map (n, ·))).get m).bearing =
      ((t.reportFailure n failure).get m).bearing := by
  induction failures generalizing t with
  | nil => exact absurd rfl some
  | cons first failures ih =>
      have step : t.reportAll ((first :: failures).map (n, ·)) =
          (t.reportFailure n first).reportAll (failures.map (n, ·)) := rfl
      have same := Tree.pristine_reportFailure t n first
      have inside' : n < (t.reportFailure n first).size := by rwa [Tree.size_eq_of_pristine same]
      rw [step]
      by_cases last : failures = []
      · subst last
        rw [List.map_nil, Tree.reportAll, List.foldl_nil, Tree.get_reportFailure inside,
          Tree.get_reportFailure inside]
        split
        · rw [Node.bearing_recorded, Node.bearing_recorded]
        · rfl
      · rw [ih inside' last, Tree.get_reportFailure inside', Tree.get_reportFailure inside,
          Tree.get_reportFailure inside, Tree.ancestors_eq_of_pristine same]
        split
        · exact Node.bearing_recorded_twice _ first failure
        · split <;> rfl

/-- If hooks of one node report something in both runs, or nothing in both, the runs agree on the
bearings as before. -/
theorem Tree.Agree.answers {nodes : NodeId → Prop}
    (agree : Tree.Agree Node.bearing id nodes t u) (ren : Tree.Renames id nodes t u)
    (hn : nodes n) (own : ∀ e ∈ es, e.AnswerOf n) (own' : ∀ e ∈ es', e.AnswerOf n)
    {failures failures' : List Failure} (reported : reports es = failures.map (n, ·))
    (reported' : reports es' = failures'.map (n, ·)) (both : failures = [] ↔ failures' = []) :
    Tree.Agree Node.bearing id nodes (t.replay es) (u.replay es') := by
  rw [Tree.replay_answers own, Tree.replay_answers own', reported, reported']
  cases failures with
  | nil =>
      rw [both.1 rfl]
      exact agree
  | cons failure failures =>
      have some' : failures' ≠ [] := fun none => by simpa using both.2 none
      have first : Tree.Agree Node.bearing id nodes (t.reportFailure n failure)
          (u.reportFailure n failure) := agree.reportFailure ren hn
        (fun x y same => by rw [Node.bearing_recorded, Node.bearing_recorded, same])
        Node.bearing_steady.marked
      intro m hm
      have inside' : n < u.size := ren.inside' n hn
      rw [Tree.bearing_reportAll inside' some' failure,
        Tree.bearing_reportAll (ren.inside n hn) (List.cons_ne_nil _ _) failure]
      exact first m hm

end OneHook

/-- If the computation ends with a value, the clocks show what they showed before. -/
def Run.Timeless {α : Type} (x : Run α) : Prop :=
  ∀ s a s', x s = .ok a s' → s'.world.supply = s.world.supply

section Clocks

variable {options : Options} {n : NodeId}

theorem Run.Timeless.bind {α β : Type} {x : Run α} {f : α → Run β} (first : x.Timeless)
    (second : ∀ a, (f a).Timeless) : (x >>= f).Timeless := by
  intro s b s'' result
  cases middle : x s with
  | ok a s' =>
      rw [bind_of_ok middle] at result
      exact (second a s' b s'' result).trans (first s a s' middle)
  | error how s' =>
      rw [bind_of_error middle] at result
      cases result

theorem Request.timeless_reply (r : Request) : (r.reply options n).Timeless := by
  intro s a s' result
  cases r with
  | fail failure =>
      cases abort : options.assertOnFailure with
      | true =>
          simp only [Request.reply, abort, if_true] at result
          cases result
      | false =>
          simp only [Request.reply, abort] at result
          cases result
          rfl
  | tempFile name =>
      cases result
      show (s.tree.tempFile s.world options n name).2.supply = s.world.supply
      unfold Tree.tempFile
      split
      · rfl
      · dsimp only
        split <;> rfl
  | writeFile path text =>
      cases result
      dsimp only
      split <;> rfl
  | exit cause => cases result
  | _ =>
      cases result
      rfl

theorem Request.timeless_answer (r : Request) : (r.answer options n).Timeless := by
  refine r.timeless_reply.bind fun reply => ?_
  intro s a s' result
  cases result
  rfl

theorem Program.timeless_conduct {α : Type} (p : Program α) :
    (p.conduct options n).Timeless := by
  induction p with
  | pure a =>
      intro s b s' result
      cases result
      rfl
  | ask request next ih => exact request.timeless_answer.bind ih

end Clocks

/-- The hooks that were called, each with the failures that it reported. -/
def hookRecords : List Event → List ((NodeId × Phase) × List Failure)
  | [] => []
  | .called n phase _ :: es =>
    ((n, phase), (reports (es.takeWhile Event.isAnswer)).map (·.2)) :: hookRecords es
  | _ :: es => hookRecords es

section Records

variable {a b es : List Event} {n : NodeId} {phase : Phase}

theorem hookRecords_append (fresh : Fresh b) :
    hookRecords (a ++ b) = hookRecords a ++ hookRecords b := by
  induction a with
  | nil => rfl
  | cons e a ih => cases e <;> simp [hookRecords, ih, takeWhile_append_of_fresh fresh]

theorem map_fst_hookRecords (es : List Event) :
    (hookRecords es).map (·.1) = es.filterMap Event.call? := by
  induction es with
  | nil => rfl
  | cons e es ih => cases e <;> simp [hookRecords, List.filterMap_cons, Event.call?, ih]

theorem hookRecords_of_call_eq_none {e : Event} (none : e.call? = none) :
    hookRecords [e] = [] := by
  cases e with
  | called => cases none
  | _ => rfl

theorem hookRecords_answers (own : ∀ e ∈ es, e.AnswerOf n) : hookRecords es = [] := by
  induction es with
  | nil => rfl
  | cons e es ih =>
      have answer := own e List.mem_cons_self
      cases e with
      | answered => exact ih fun e' mem => own e' (List.mem_cons_of_mem _ mem)
      | _ => exact answer.elim

theorem filterMap_call_answers (own : ∀ e ∈ es, e.AnswerOf n) :
    es.filterMap Event.call? = [] := by
  rw [← map_fst_hookRecords, hookRecords_answers own, List.map_nil]

theorem hookRecords_call {t : Tree} (own : ∀ e ∈ es, e.AnswerOf n) :
    hookRecords (.called n phase t :: es) = [((n, phase), (reports es).map (·.2))] := by
  have all : es.takeWhile Event.isAnswer = es := by
    apply List.takeWhile_eq_self_iff.2
    intro e mem
    have answer := own e mem
    cases e with
    | answered => rfl
    | _ => exact answer.elim
  rw [hookRecords, all, hookRecords_answers own]

end Records

/-- The same hooks are called in both courses, and each of them reports what its script says. -/
def Shortened (scripts : NodeId → Phase → Script) (es es' : List Event) : Prop :=
  List.Forall₂ (fun full short => short.1 = full.1 ∧
    (scripts full.1.1 full.1.2).Shortens full.2 short.2) (hookRecords es) (hookRecords es')

section Shortened

variable {scripts : NodeId → Phase → Script} {es es' : List Event}

theorem Shortened.calls (shortened : Shortened scripts es es') :
    es'.filterMap Event.call? = es.filterMap Event.call? := by
  rw [← map_fst_hookRecords, ← map_fst_hookRecords]
  unfold Shortened at shortened
  generalize hookRecords es = full at shortened ⊢
  generalize hookRecords es' = short at shortened ⊢
  induction shortened with
  | nil => rfl
  | cons first _ ih => rw [List.map_cons, List.map_cons, first.1, ih]

theorem Shortened.append {more more' : List Event} (shortened : Shortened scripts es es')
    (further : Shortened scripts more more') (fresh : Fresh more) (fresh' : Fresh more') :
    Shortened scripts (es ++ more) (es' ++ more') := by
  unfold Shortened at shortened further ⊢
  rw [hookRecords_append fresh, hookRecords_append fresh']
  exact List.rel_append shortened further

theorem shortened_steady : CourseSteady id (Shortened scripts) := by
  intro es es' e e' shortened call call' answer answer' _
  refine shortened.append ?_ (by simpa [Fresh] using answer) (by simpa [Fresh] using answer')
  rw [Shortened, hookRecords_of_call_eq_none call, hookRecords_of_call_eq_none call']
  exact .nil

end Shortened

/-- The states of the two runs, since these were in the states `a` and `b`. -/
abbrev InStep (scripts : NodeId → Phase → Script) (a b : State) : State → State → Prop :=
  Matched Node.bearing World.supply id (· < a.tree.size) (Shortened scripts) a b

/-- Both processes were aborted at a report, as the options ask, and the same hooks were called. -/
def StoppedInStep (options : Options) (a b s u : State) : Prop :=
  options.assertOnFailure = true ∧ ∃ es es',
    s.world.events.toList = a.world.events.toList ++ es ∧
    u.world.events.toList = b.world.events.toList ++ es' ∧
    es'.filterMap Event.call? = es.filterMap Event.call?

section TwoRuns

variable {options : Options} {hooks : NodeId → Hooks} {scripts : NodeId → Phase → Script}
  {a b s u : State} {n : NodeId}

/-- A script that is carried out in both runs leaves them in step. -/
theorem InStep.conduct (phase : Phase) (ren : Tree.Renames id (· < a.tree.size) a.tree b.tree)
    (hn : n < a.tree.size) (inStep : InStep scripts a b s u) :
    ((scripts n phase).program.conduct { options with continueOnFailure := true } n).Together
      ((scripts n phase).program.conduct { options with continueOnFailure := false } n)
      (s.emit (.called n phase s.tree)) (u.emit (.called n phase u.tree))
      (fun _ _ => InStep scripts a b) (StoppedInStep options a b) := by
  have full : ((scripts n phase).program.conduct { options with continueOnFailure := true } n).Emits
      (s.emit (.called n phase s.tree)) _ _ := (scripts n phase).emits
  have short :
      ((scripts n phase).program.conduct { options with continueOnFailure := false } n).Emits
        (u.emit (.called n phase u.tree)) _ _ := (scripts n phase).emits
  have both := (scripts n phase).records_eq_nil_iff
  unfold Run.Emits at full short
  unfold Run.Together
  split at full
  · next s' left =>
    obtain ⟨es, ext, own, reported, stays⟩ := full
    split at short
    · next u' right =>
      obtain ⟨es', ext', own', reported', -⟩ := short
      rw [left, right]
      refine inStep.extend (State.extends_called.trans ext) (State.extends_called.trans ext')
        ?_ ?_ ?_
      · rw [ext.tree, ext'.tree]
        exact inStep.agree.answers (inStep.renames ren) hn own own' reported reported' both
      · rw [Program.timeless_conduct _ _ _ _ left, Program.timeless_conduct _ _ _ _ right]
        exact inStep.world
      · intro xs xs' sofar
        refine sofar.append ?_ (by simp [Fresh, Event.isAnswer]) (by simp [Fresh, Event.isAnswer])
        show List.Forall₂ _ _ _
        rw [List.singleton_append, List.singleton_append, hookRecords_call own,
          hookRecords_call own', reported, reported', List.map_map, List.map_map]
        refine .cons ⟨rfl, ?_⟩ .nil
        simpa [Function.comp_def] using (scripts n phase).shortens
    · next how u' right =>
      obtain ⟨es', _, -, -, aborts, some⟩ := short
      have unaborted := stays fun none => some (both.1 none)
      exact (Bool.false_ne_true (unaborted.symm.trans aborts)).elim
  · next how s' left =>
    obtain ⟨es, events, own, rfl, aborts, some⟩ := full
    split at short
    · next u' right =>
      obtain ⟨es', _, -, -, stays⟩ := short
      have unaborted := stays fun none => some (both.2 none)
      exact (Bool.false_ne_true (unaborted.symm.trans aborts)).elim
    · next how' u' right =>
      obtain ⟨es', events', own', rfl, -, -⟩ := short
      obtain ⟨xs, xs', ext, ext', sofar⟩ := inStep.course
      rw [left, right]
      refine ⟨rfl, aborts, xs ++ (.called n phase s.tree :: es),
        xs' ++ (.called n phase u.tree :: es'), ?_, ?_, ?_⟩
      · rw [events, (ext.trans State.extends_called).events]
        simp
      · rw [events', (ext'.trans State.extends_called).events]
        simp
      · simp only [List.filterMap_append, List.filterMap_cons, Event.call?, sofar.calls,
          filterMap_call_answers own, filterMap_call_answers own']

/-- A hook that is a script leaves the two runs in step. -/
theorem InStep.callHook (phase : Phase) (ren : Tree.Renames id (· < a.tree.size) a.tree b.tree)
    (same : b.tree.pristine = a.tree.pristine)
    (scripted : ∀ n phase, (hooks n).at phase = (scripts n phase).program)
    (hn : n < a.tree.size) (inStep : InStep scripts a b s u) :
    (callHook { options with continueOnFailure := true } hooks n phase).Together
      (SuiteTree.callHook { options with continueOnFailure := false } hooks (id n) phase) s u
      (fun _ _ => InStep scripts a b) (StoppedInStep options a b) := by
  have hooked : (u.tree.get n).hooked = (s.tree.get n).hooked := by
    obtain ⟨left, right⟩ := inStep.pristine
    exact Tree.hooked_eq_of_pristine (right.trans (same.trans left.symm)) n
  refine together_callHook ?_ hooked ?_
  · exact inStep.setStage Node.bearing_steady World.supply_steady shortened_steady ren hn
      phase.stage
  · intro staged
    simp only [scripted, id]
    exact staged.conduct phase ren hn

/-- All steps of the two runs keep them in step. -/
theorem InStep.lockstep (options : Options) (a b : State)
    (ren : Tree.Renames id (· < a.tree.size) a.tree b.tree)
    (same : b.tree.pristine = a.tree.pristine)
    (scripted : ∀ n phase, (hooks n).at phase = (scripts n phase).program) :
    Lockstep { options with continueOnFailure := true } { options with continueOnFailure := false }
      hooks hooks id (· < a.tree.size) Eq (InStep scripts a b) (StoppedInStep options a b) :=
  Matched.lockstep Node.bearing_steady World.supply_steady shortened_steady ren
    fun phase hn inStep => InStep.callHook phase ren same scripted hn inStep

/-- If all hooks are scripts, a run that goes on after failures and one that stops at them, in the
same tree and the same surroundings, stay in step to their end. -/
theorem together_runNode_of_scripts (options : Options) {t : Tree} (wf : t.WellFormed)
    (inside : n < t.size)
    (scripted : ∀ n phase, (hooks n).at phase = (scripts n phase).program) (world : World) :
    (runNode { options with continueOnFailure := true } hooks n).Together
      (runNode { options with continueOnFailure := false } hooks n) ⟨t, world⟩ ⟨t, world⟩
      (fun _ _ => InStep scripts ⟨t, world⟩ ⟨t, world⟩)
      (StoppedInStep options ⟨t, world⟩ ⟨t, world⟩) := by
  have lock := InStep.lockstep options ⟨t, world⟩ ⟨t, world⟩ (Tree.Renames.refl t) rfl scripted
  refine lock.runNode inside ?_ ?_ ⟨fun _ _ => rfl, rfl, [], [], .refl _, .refl _, .nil⟩
  · intro m mem
    exact Tree.lt_size_of_mem_ancestors (wf.mem_below_iff.1 mem).1 inside
  · exact (Forest.map_id _).symm

end TwoRuns

end SuiteTree
