import SuiteTree.Proofs.Tree.Failures
import SuiteTree.World

/-!
# Replaying the events of a run

Everything a run does to its tree is among its events, so the tree at any moment is the tree at the
beginning with the events so far replayed. What a run does can therefore be read off its events: the
stages that a node goes through, the failures reported to it, and the marks left by failures below
it. An event reaches its own node and, if it is the report of a failure, the nodes above; no other
node changes.
-/

namespace SuiteTree

namespace Event

/-- The node that an event is about. -/
def node : Event → NodeId
  | entered n => n
  | left n => n
  | rewound child => child
  | staged n _ => n
  | timed n _ => n
  | called n _ _ => n
  | answered n _ _ => n

/-- A request of a hook was answered. -/
def isAnswer : Event → Bool
  | answered _ _ _ => true
  | _ => false

/-- The node that reported a failure, and the failure. -/
def report? : Event → Option (NodeId × Failure)
  | answered n (.fail failure) _ => some (n, failure)
  | _ => none

/-- The stage that node `n` came into. -/
def stageOf? (n : NodeId) : Event → Option Stage
  | staged m stage => if m = n then some stage else none
  | _ => none

theorem node_of_report? {e : Event} {r : NodeId × Failure} (h : e.report? = some r) :
    e.node = r.1 := by
  cases e with
  | answered n request reply => cases request <;> cases h; rfl
  | _ => cases h

end Event

/-- The failures that were reported among some events, each with the node that reported it. -/
def reports (es : List Event) : List (NodeId × Failure) :=
  es.filterMap Event.report?

/-- The failures among some reports that node `n` made, in their order. -/
def reportsBy (n : NodeId) (rs : List (NodeId × Failure)) : List Failure :=
  (rs.filter (·.1 = n)).map (·.2)

/-- The stages that node `n` came into, in their order. -/
def stagesOf (n : NodeId) (es : List Event) : List Stage :=
  es.filterMap (Event.stageOf? n)

section

variable (a b : List Event) (n : NodeId) (rs rs' : List (NodeId × Failure))

@[simp] theorem reports_append : reports (a ++ b) = reports a ++ reports b :=
  List.filterMap_append

@[simp] theorem reportsBy_append : reportsBy n (rs ++ rs') = reportsBy n rs ++ reportsBy n rs' := by
  simp [reportsBy]

@[simp] theorem stagesOf_append : stagesOf n (a ++ b) = stagesOf n a ++ stagesOf n b :=
  List.filterMap_append

end

theorem reports_cons_of_none {e : Event} (none : e.report? = none) (es : List Event) :
    reports (e :: es) = reports es :=
  List.filterMap_cons_none none

theorem stagesOf_cons_of_none {e : Event} {n : NodeId} (none : e.stageOf? n = none)
    (es : List Event) : stagesOf n (e :: es) = stagesOf n es :=
  List.filterMap_cons_none none

theorem stagesOf_staged (n : NodeId) (stage : Stage) (es : List Event) :
    stagesOf n (.staged n stage :: es) = stage :: stagesOf n es :=
  List.filterMap_cons_some (if_pos rfl)

theorem mem_reportsBy_iff {n : NodeId} {failure : Failure} {rs : List (NodeId × Failure)} :
    failure ∈ reportsBy n rs ↔ (n, failure) ∈ rs := by
  simp [reportsBy]

/-- A report among some events was made by the node of one of them. -/
theorem exists_of_mem_reports {es : List Event} {r : NodeId × Failure} (mem : r ∈ reports es) :
    ∃ e ∈ es, e.report? = some r ∧ e.node = r.1 := by
  obtain ⟨e, he, report⟩ := List.mem_filterMap.1 mem
  exact ⟨e, he, report, Event.node_of_report? report⟩

namespace Tree

/-- What an event does to the tree. -/
def after (t : Tree) : Event → Tree
  | .entered n => t.beginResult n
  | .staged n stage => t.setStage n stage
  | .timed n elapsed => t.setElapsed n elapsed
  | .answered n (.fail failure) _ => t.reportFailure n failure
  | _ => t

/-- What some events do to the tree, one after the other. -/
def replay (t : Tree) (es : List Event) : Tree :=
  es.foldl after t

@[simp] theorem replay_nil (t : Tree) : t.replay [] = t := rfl

@[simp] theorem replay_cons (t : Tree) (e : Event) (es : List Event) :
    t.replay (e :: es) = (t.after e).replay es := rfl

@[simp] theorem replay_append (t : Tree) (a b : List Event) :
    t.replay (a ++ b) = (t.replay a).replay b :=
  List.foldl_append

/-- All that an event can do to the tree. -/
theorem after_cases (t : Tree) (e : Event) :
    (∃ n, e = .entered n ∧ t.after e = t.beginResult n) ∨
    (∃ n stage, e = .staged n stage ∧ t.after e = t.setStage n stage) ∨
    (∃ n elapsed, e = .timed n elapsed ∧ t.after e = t.setElapsed n elapsed) ∨
    (∃ n failure, e.report? = some (n, failure) ∧ e.node = n ∧
      t.after e = t.reportFailure n failure) ∨
    (e.report? = none ∧ (∀ n, e ≠ .entered n) ∧ (∀ n, e.stageOf? n = none) ∧ t.after e = t) := by
  cases e with
  | entered n => exact .inl ⟨n, rfl, rfl⟩
  | staged n stage => exact .inr (.inl ⟨n, stage, rfl, rfl⟩)
  | timed n elapsed => exact .inr (.inr (.inl ⟨n, elapsed, rfl, rfl⟩))
  | answered n request reply =>
      cases request with
      | fail failure => exact .inr (.inr (.inr (.inl ⟨n, failure, rfl, rfl, rfl⟩)))
      | _ => exact .inr (.inr (.inr (.inr ⟨rfl, by simp, fun _ => rfl, rfl⟩)))
  | _ => exact .inr (.inr (.inr (.inr ⟨rfl, by simp, fun _ => rfl, rfl⟩)))

/-- Every one of some events satisfies `P`, in the tree that it finds when those before it have
been replayed. -/
def Along (P : Tree → Event → Prop) : Tree → List Event → Prop
  | _, [] => True
  | t, e :: es => P t e ∧ (t.after e).Along P es

theorem along_append (P : Tree → Event → Prop) (t : Tree) (a b : List Event) :
    t.Along P (a ++ b) ↔ t.Along P a ∧ (t.replay a).Along P b := by
  induction a generalizing t with
  | nil => simp [Along]
  | cons e a ih => simp only [List.cons_append, Along, ih, replay_cons, and_assoc]

/-- What holds along some events can be read off where one of them stands. -/
theorem Along.at_event {P : Tree → Event → Prop} {t : Tree} {before later : List Event} {e : Event}
    (along : t.Along P (before ++ e :: later)) : P (t.replay before) e :=
  ((along_append P t before _).1 along).2.1

theorem along_of_forall {P : Tree → Event → Prop} {es : List Event} (t : Tree)
    (h : ∀ u, ∀ e ∈ es, P u e) : t.Along P es := by
  induction es generalizing t with
  | nil => trivial
  | cons e es ih =>
      exact ⟨h t e List.mem_cons_self, ih _ fun u e' mem => h u e' (List.mem_cons_of_mem _ mem)⟩

@[simp] theorem pristine_after (t : Tree) (e : Event) : (t.after e).pristine = t.pristine := by
  obtain ⟨n, -, h⟩ | ⟨n, stage, -, h⟩ | ⟨n, elapsed, -, h⟩ | ⟨n, failure, -, -, h⟩ | ⟨-, -, -, h⟩ :=
    t.after_cases e
  all_goals simp [h]

@[simp] theorem pristine_replay (t : Tree) (es : List Event) :
    (t.replay es).pristine = t.pristine := by
  induction es generalizing t with
  | nil => rfl
  | cons e es ih => rw [replay_cons, ih, pristine_after]

section Lasting

variable (t : Tree) (e : Event) (es : List Event) (n : NodeId)

@[simp] theorem size_after : (t.after e).size = t.size :=
  size_eq_of_pristine (pristine_after t e)

@[simp] theorem ancestors_after : (t.after e).ancestors n = t.ancestors n :=
  ancestors_eq_of_pristine (pristine_after t e) n

@[simp] theorem size_replay : (t.replay es).size = t.size :=
  size_eq_of_pristine (pristine_replay t es)

@[simp] theorem ancestors_replay : (t.replay es).ancestors n = t.ancestors n :=
  ancestors_eq_of_pristine (pristine_replay t es) n

@[simp] theorem children_replay : ((t.replay es).get n).children = (t.get n).children :=
  children_eq_of_pristine (pristine_replay t es) n

@[simp] theorem belowAll_replay (cs : List NodeId) :
    (t.replay es).belowAll n cs = t.belowAll n cs :=
  belowAll_eq_of_pristine (pristine_replay t es) n cs

/-- The last ones of the children of a node are so in every state of a run. -/
theorem suffix_replay {cs : List NodeId} (last : cs <:+ (t.get n).children) :
    cs <:+ ((t.replay es).get n).children := by
  rwa [children_replay]

@[simp] theorem hooked_replay : ((t.replay es).get n).hooked = (t.get n).hooked :=
  hooked_eq_of_pristine (pristine_replay t es) n

end Lasting

theorem WellFormed.replay {t : Tree} (wf : t.WellFormed) (es : List Event) :
    (t.replay es).WellFormed :=
  wf.of_pristine (pristine_replay t es).symm

variable {t : Tree} {e : Event} {es : List Event} {m n : NodeId}

/-- An event changes no node but its own and those above it. -/
theorem get_after_of_not_mem (apart : m ∉ t.ancestors e.node) : (t.after e).get m = t.get m := by
  have ne : m ≠ e.node := fun same => apart (same ▸ mem_ancestors_self t _)
  obtain ⟨n, rfl, h⟩ | ⟨n, stage, rfl, h⟩ | ⟨n, elapsed, rfl, h⟩ | ⟨n, failure, -, rfl, h⟩ |
    ⟨-, -, -, h⟩ := t.after_cases e
  · rw [h]
    exact get_beginResult_of_ne ne
  · rw [h]
    exact get_setStage_of_ne stage ne
  · rw [h]
    exact get_update_of_ne _ ne
  · rw [h]
    exact get_reportFailure_of_not_mem failure apart
  · rw [h]

theorem get_replay_of_not_mem (apart : ∀ e ∈ es, m ∉ t.ancestors e.node) :
    (t.replay es).get m = t.get m := by
  induction es generalizing t with
  | nil => rfl
  | cons e es ih =>
      have later : ∀ e' ∈ es, m ∉ (t.after e).ancestors e'.node := by
        intro e' mem
        rw [ancestors_after]
        exact apart e' (List.mem_cons_of_mem _ mem)
      rw [replay_cons, ih later, get_after_of_not_mem (apart e List.mem_cons_self)]

/-- The stage of a node is the one that it came into last. -/
theorem stage_replay (inside : m < t.size) (es : List Event) :
    ((t.replay es).get m).stage = ((stagesOf m es).getLast?).getD (t.get m).stage := by
  induction es generalizing t with
  | nil => rfl
  | cons e es ih =>
      have first : ((t.after e).get m).stage = (e.stageOf? m).getD (t.get m).stage := by
        obtain ⟨n, rfl, h⟩ | ⟨n, stage, rfl, h⟩ | ⟨n, elapsed, rfl, h⟩ |
          ⟨n, failure, report, -, h⟩ | ⟨-, -, stage, h⟩ := t.after_cases e
        · rw [h, stage_beginResult]
          rfl
        · rw [h, Event.stageOf?]
          by_cases same : n = m
          · subst same
            rw [stage_setStage_self stage inside, if_pos rfl]
            rfl
          · rw [get_setStage_of_ne stage (Ne.symm same), if_neg same]
            rfl
        · rw [h, stage_setElapsed]
          rfl
        · rw [h, stage_reportFailure]
          cases e with
          | staged => cases report
          | _ => rfl
        · rw [h, stage]
          rfl
      rw [replay_cons, ih (by rwa [size_after]), first]
      cases stage : e.stageOf? m with
      | none => simp [stagesOf, stage]
      | some s =>
          have split : stagesOf m (e :: es) = s :: stagesOf m es := by simp [stagesOf, stage]
          rw [split, List.getLast?_cons]
          simp

theorem stagesOf_eq_nil (elsewhere : ∀ e ∈ es, e.node ≠ m) : stagesOf m es = [] := by
  apply List.filterMap_eq_nil_iff.2
  intro e mem
  cases e with
  | staged n stage => exact if_neg (elsewhere _ mem)
  | _ => rfl

theorem stage_replay_of_stagesOf_eq_nil (inside : m < t.size) (none : stagesOf m es = []) :
    ((t.replay es).get m).stage = (t.get m).stage := by
  rw [stage_replay inside, none]
  rfl

/-- Once something is known of a node, something is known of it in the rest of the run. -/
theorem isSome_result_replay (inside : ∀ e ∈ es, e.node < t.size)
    (known : (t.get m).result.isSome) : ((t.replay es).get m).result.isSome := by
  induction es generalizing t with
  | nil => exact known
  | cons e es ih =>
      apply ih (t := t.after e)
      · intro e' mem
        rw [size_after]
        exact inside e' (List.mem_cons_of_mem _ mem)
      · obtain ⟨n, -, h⟩ | ⟨n, stage, -, h⟩ | ⟨n, elapsed, -, h⟩ | ⟨n, failure, -, same, h⟩ |
          ⟨-, -, -, h⟩ := t.after_cases e
        · rw [h]
          exact isSome_result_beginResult known
        · rwa [h, result_setStage]
        · rw [h]
          exact isSome_result_setElapsed elapsed known
        · rw [h]
          exact isSome_result_reportFailure (same ▸ inside e List.mem_cons_self) failure known
        · rwa [h]

/-- Something is known of every node that was entered. -/
theorem isSome_result_of_entered (inside : ∀ e ∈ es, e.node < t.size) (mem : .entered n ∈ es) :
    ((t.replay es).get n).result.isSome := by
  obtain ⟨before, later, rfl⟩ := List.append_of_mem mem
  rw [replay_append, replay_cons]
  have here : n < (t.replay before).size := by
    rw [size_replay]
    exact inside _ mem
  apply isSome_result_replay
  · intro e mem'
    rw [size_after, size_replay]
    exact inside e (by simp [mem'])
  · rw [after, result_beginResult_self here]
    rfl

/-- An event other than the entering of node `m` adds to the failures of `m` those that `m` reports
in it. -/
theorem failures_after (inside : e.node < t.size) (stays : e ≠ .entered m) :
    (t.after e).failures m = t.failures m ++ reportsBy m (reports [e]) := by
  obtain ⟨n, rfl, h⟩ | ⟨n, stage, rfl, h⟩ | ⟨n, elapsed, rfl, h⟩ | ⟨n, failure, report, rfl, h⟩ |
    ⟨report, -, -, h⟩ := t.after_cases e
  · have ne : m ≠ n := fun same => stays (same ▸ rfl)
    rw [h, failures_congr (get_beginResult_of_ne ne)]
    simp [reports, reportsBy, Event.report?]
  · simp [h, reports, reportsBy, Event.report?]
  · simp [h, reports, reportsBy, Event.report?]
  · rw [h, failures_reportFailure inside]
    by_cases same : m = e.node
    · simp [same, reports, reportsBy, report]
    · simp [same, Ne.symm same, reports, reportsBy, report]
  · simp [h, reports, reportsBy, report]

/-- An event other than the entering of node `m` marks `m` if a node below it reports a failure. -/
theorem childrenFailed_after (inside : e.node < t.size) (stays : e ≠ .entered m) :
    (t.after e).childrenFailed m = true ↔
      t.childrenFailed m = true ∨ ∃ r ∈ reports [e], m ∈ t.ancestors r.1 ∧ m ≠ r.1 := by
  obtain ⟨n, rfl, h⟩ | ⟨n, stage, rfl, h⟩ | ⟨n, elapsed, rfl, h⟩ | ⟨n, failure, report, rfl, h⟩ |
    ⟨report, -, -, h⟩ := t.after_cases e
  · have ne : m ≠ n := fun same => stays (same ▸ rfl)
    rw [h, childrenFailed_congr (get_beginResult_of_ne ne)]
    simp [reports, Event.report?]
  · simp [h, reports, Event.report?]
  · simp [h, reports, Event.report?]
  · rw [h, childrenFailed_reportFailure inside]
    simp [reports, report]
  · simp [h, reports, report]

/-- The failures of a node that is not entered are those it had and those it reports. -/
theorem failures_replay (inside : ∀ e ∈ es, e.node < t.size) (stays : .entered m ∉ es) :
    (t.replay es).failures m = t.failures m ++ reportsBy m (reports es) := by
  induction es generalizing t with
  | nil => simp [reports, reportsBy]
  | cons e es ih =>
      have first := failures_after (inside e List.mem_cons_self)
        (fun same => stays (same ▸ List.mem_cons_self))
      have rest := ih (t := t.after e)
        (fun e' mem => by rw [size_after]; exact inside e' (List.mem_cons_of_mem _ mem))
        (fun mem => stays (List.mem_cons_of_mem _ mem))
      rw [replay_cons, rest, first, List.append_assoc, ← reportsBy_append, ← reports_append]
      rfl

/-- A node that is not entered is marked if it was so before or a node below reports a failure. -/
theorem childrenFailed_replay (inside : ∀ e ∈ es, e.node < t.size) (stays : .entered m ∉ es) :
    (t.replay es).childrenFailed m = true ↔
      t.childrenFailed m = true ∨ ∃ r ∈ reports es, m ∈ t.ancestors r.1 ∧ m ≠ r.1 := by
  induction es generalizing t with
  | nil => simp [reports]
  | cons e es ih =>
      have first := childrenFailed_after (inside e List.mem_cons_self)
        (fun same => stays (same ▸ List.mem_cons_self))
      have rest := ih (t := t.after e)
        (fun e' mem => by rw [size_after]; exact inside e' (List.mem_cons_of_mem _ mem))
        (fun mem => stays (List.mem_cons_of_mem _ mem))
      have split : reports (e :: es) = reports [e] ++ reports es := reports_append [e] es
      rw [replay_cons, rest, first, split, or_assoc]
      simp only [ancestors_after, List.mem_append, or_and_right, exists_or]

/-- While everything that happens is at node `n` or below it and `n` is not entered, `n` is failed
exactly if it was so before or any failure is reported. -/
theorem isFailed_replay (inside : ∀ e ∈ es, e.node < t.size)
    (below : ∀ e ∈ es, n ∈ t.ancestors e.node) (stays : .entered n ∉ es) :
    (t.replay es).isFailed n = true ↔ t.isFailed n = true ∨ reports es ≠ [] := by
  rw [isFailed_iff, isFailed_iff, failures_replay inside stays, childrenFailed_replay inside stays]
  have reported : reports es ≠ [] ↔
      (∃ r ∈ reports es, n ∈ t.ancestors r.1 ∧ n ≠ r.1) ∨ reportsBy n (reports es) ≠ [] := by
    constructor
    · intro some
      obtain ⟨⟨k, failure⟩, mem⟩ := List.exists_mem_of_ne_nil _ some
      obtain ⟨e, he, -, node⟩ := exists_of_mem_reports mem
      by_cases same : n = k
      · exact .inr (List.ne_nil_of_mem (mem_reportsBy_iff.2 (same ▸ mem)))
      · exact .inl ⟨_, mem, node ▸ below e he, same⟩
    · rintro (⟨r, mem, -⟩ | some)
      · exact List.ne_nil_of_mem mem
      · obtain ⟨failure, mem⟩ := List.exists_mem_of_ne_nil _ some
        exact List.ne_nil_of_mem (mem_reportsBy_iff.1 mem)
  rw [reported]
  simp only [ne_eq, List.append_eq_nil_iff, not_and_or]
  exact or_or_or_comm

end Tree

end SuiteTree
