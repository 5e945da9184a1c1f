import SuiteTree.Proofs.Run.Frame
import SuiteTree.Proofs.Run.Isolation

/-!
# Stale results

What earlier runs and reports have left in a tree does not matter to a run. A run asks only whether
nodes are failed that are open at the time, and what was known of a node is forgotten when it is
opened. So a run of a tree and a run of the same tree with everything forgotten go together: they
agree on the nodes that are open, whatever the trees hold elsewhere.

What is known of a node after a run that entered it can be read off what was done since then. The
nodes that were not entered are as they were.
-/

namespace SuiteTree

/-- An event that tells of the deed. -/
def Deed.event : Deed NodeId → Event
  | entered n => .entered n
  | left n => .left n
  | rewound child => .rewound child
  | staged n stage => .staged n stage
  | called n phase => .called n phase default
  | answered n request reply => .answered n request reply

theorem sameDeeds_id {es es' : List Event} : SameDeeds id es es' ↔ deeds es' = deeds es := by
  have same : Deed.map id = (id : Deed NodeId → Deed NodeId) := by
    funext d
    cases d <;> rfl
  rw [SameDeeds, same, List.map_id]

/-- What is read off single events can be read off the deeds, if neither times nor the trees that
hooks found matter. -/
theorem filterMap_eq_of_deeds {α : Type} {f : Event → Option α} {es es' : List Event}
    (told : ∀ e, f e = e.deed?.bind fun d => f d.event) (same : deeds es' = deeds es) :
    es'.filterMap f = es.filterMap f := by
  have read : ∀ es, es.filterMap f = (deeds es).filterMap fun d => f d.event := by
    intro es
    rw [deeds, List.filterMap_filterMap]
    exact congrArg (es.filterMap ·) (funext told)
  rw [read, read, same]

section Deeds

variable {es es' before later : List Event} {m : NodeId}

theorem visited_eq_of_deeds (same : deeds es' = deeds es) : visited es' = visited es :=
  filterMap_eq_of_deeds (fun e => by cases e <;> rfl) same

theorem reports_eq_of_deeds (same : deeds es' = deeds es) : reports es' = reports es :=
  filterMap_eq_of_deeds (fun e => by cases e <;> rfl) same

theorem stagesOf_eq_of_deeds (m : NodeId) (same : deeds es' = deeds es) :
    stagesOf m es' = stagesOf m es :=
  filterMap_eq_of_deeds (fun e => by cases e <;> rfl) same

/-- If the same is done, a node is entered at the same place. -/
theorem exists_entered_of_deeds (same : deeds es' = deeds (before ++ .entered m :: later)) :
    ∃ before' later', es' = before' ++ .entered m :: later' ∧ deeds later' = deeds later := by
  have split : deeds es' = deeds before ++ .entered m :: deeds later := by
    rw [same, deeds_append]
    rfl
  obtain ⟨a, b, rfl, -, last⟩ := List.filterMap_eq_append_iff.1 split
  obtain ⟨c, e, later', rfl, -, told, rest⟩ := List.filterMap_eq_cons_iff.1 last
  have entered : e = .entered m := by
    cases e <;> cases told
    rfl
  subst entered
  exact ⟨a ++ c, later', (List.append_assoc _ _ _).symm, rest⟩

end Deeds

/-- Every node is set up next when it is entered. -/
def SetUpNext (es : List Event) : Prop :=
  ∀ before m later, es = before ++ .entered m :: later →
    later.head? = some (.staged m .settingUp)

theorem SetUpNext.append {a b : List Event} (first : SetUpNext a) (second : SetUpNext b) :
    SetUpNext (a ++ b) := by
  intro before m later split
  obtain ⟨c, rfl, rest⟩ | ⟨c, rfl, rest⟩ := List.append_eq_append_iff.1 split
  · exact second c m later rest
  · cases c with
    | nil => exact second [] m later rest.symm
    | cons e c =>
        obtain ⟨rfl, rfl⟩ := List.cons.inj rest
        show (c ++ b).head? = _
        rw [List.head?_append, first before m c rfl]
        rfl

theorem setUpNext_of_not_entered {es : List Event} (none : ∀ m, .entered m ∉ es) :
    SetUpNext es := by
  rintro before m later rfl
  exact absurd (by simp) (none m)

section Entering

variable {t : Tree} {m n : NodeId} {es more : List Event}

theorem Opening.setUpNext (opening : Opening t n es) : SetUpNext es := by
  cases opening with
  | @mk setup call =>
      have later : SetUpNext (setup ++ [.staged n .runningChildren]) :=
        setUpNext_of_not_entered fun m => by simp [call.not_entered]
      have next : (setup ++ [Event.staged n .runningChildren]).head? =
          some (.staged n .settingUp) := by
        cases call <;> rfl
      intro before m rest split
      cases before with
      | nil =>
          obtain ⟨same, rfl⟩ := List.cons.inj split
          cases same
          exact next
      | cons e before => exact later before m rest (List.cons.inj split).2

private theorem setUpNext_stepwise : Stepwise (fun _ _ es => SetUpNext es)
    (fun _ _ _ es _ => SetUpNext es) where
  visit {t n a b c d abandoned} _ _ opening _ below own leaving :=
    opening.setUpNext.append (below.append
      ((setUpNext_of_not_entered fun _ => own.not_entered).append
        (setUpNext_of_not_entered fun _ => leaving.not_entered)))
  done _ _ := setUpNext_of_not_entered (by simp)
  stopped {t n c rest a} _ _ _ _ visit _ := by
    have rewound : SetUpNext [.rewound c] := setUpNext_of_not_entered (by simp)
    exact rewound.append visit
  next {t n c rest a b abandoned} _ _ _ _ visit _ _ descent := by
    have rewound : SetUpNext [.rewound c] := setUpNext_of_not_entered (by simp)
    exact rewound.append (visit.append descent)

/-- At any moment of a visit but directly after entering a node, every node that was entered has
come into a stage. -/
theorem Visit.staged_of_entered (visit : Visit t n (es ++ more)) (wf : t.WellFormed)
    (inside : n < t.size) (last : es.getLast? ≠ some (.entered m)) (mem : .entered m ∈ es) :
    .staged m .settingUp ∈ es := by
  obtain ⟨before, later, rfl⟩ := List.append_of_mem mem
  cases later with
  | nil => exact absurd (by simp) last
  | cons e later =>
      have next := setUpNext_stepwise.of_visit wf inside visit before m (e :: (later ++ more))
        (by simp)
      obtain rfl := Option.some.inj next
      simp

/-- The events `es` are those of a run of node `n`, or of one up to the end of the process. -/
structure RunsAs (t : Tree) (n : NodeId) (es : List Event) : Prop where
  scope : ∀ e ∈ es, n ∈ t.ancestors e.node
  once : (visited es).Nodup
  grounded : Grounded t n es
  staged : ∀ m, .entered m ∈ es → .staged m .settingUp ∈ es

theorem Visit.runsAs_of_append (visit : Visit t n (es ++ more)) (wf : t.WellFormed)
    (inside : n < t.size) (last : ∀ m, es.getLast? ≠ some (.entered m)) : RunsAs t n es where
  scope e mem := visit.scope wf inside e (List.mem_append_left _ mem)
  once := by
    have once := visit.nodup_visited wf inside
    rw [visited_append] at once
    exact once.of_append_left
  grounded := by
    have grounded := visit.grounded wf inside es.length
    rwa [List.take_left] at grounded
  staged m := visit.staged_of_entered wf inside (last m)

theorem Visit.runsAs (visit : Visit t n es) (wf : t.WellFormed) (inside : n < t.size) :
    RunsAs t n es := by
  have whole : Visit t n (es ++ []) := by rwa [List.append_nil]
  refine whole.runsAs_of_append wf inside ?_
  intro m
  cases visit with
  | mk opening descent own leaving =>
      cases leaving
      simp [List.getLast?_cons, List.getLast?_append]

theorem BreaksOff.runsAs {options : Options} {hooks : NodeId → Hooks} {how : Halt}
    (breaks : BreaksOff options hooks (Visit t n) how es) (wf : t.WellFormed)
    (inside : n < t.size) : RunsAs t n es := by
  obtain ⟨⟨before, k, phase, u, answers, rfl, own, -⟩, more, -, visit⟩ := breaks
  refine visit.runsAs_of_append wf inside ?_
  intro m entered
  have mem := List.mem_of_getLast? (l := .called k phase u :: answers) (by simpa using entered)
  obtain same | mem := List.mem_cons.1 mem
  · cases same
  · exact own _ mem

/-- Two runs, of node `n` of tree `t` and of the same tree with everything forgotten, did the same:
the same hooks were called, with the same replies to their requests, and the same nodes were
entered. Of these the same has become known, and the others are as they were. -/
structure SameAsFresh (t : Tree) (n : NodeId) (es : List Event) (u : Tree) (es' : List Event)
    (u' : Tree) : Prop where
  deeds : deeds es' = deeds es
  visited : visited es' = visited es
  findings : ∀ m, .entered m ∈ es → (u'.get m).stage = (u.get m).stage ∧
    u'.failures m = u.failures m ∧ u'.childrenFailed m = u.childrenFailed m
  unentered : ∀ m, n ∈ t.ancestors m → .entered m ∉ es →
    (u.get m).stage = (t.get m).stage ∧ (u.get m).result = (t.get m).result ∧ u'.Idle m

variable {t' : Tree} {es' before later : List Event} {failure : Failure}

/-- What is known of a node that was entered once depends on the later reports alone. -/
theorem Tree.known_since_entered
    (bound : ∀ e ∈ before ++ .entered m :: later, e.node < t.size)
    (once : (visited (before ++ .entered m :: later)).Nodup) :
    (t.replay (before ++ .entered m :: later)).failures m = reportsBy m (reports later) ∧
      ((t.replay (before ++ .entered m :: later)).childrenFailed m = true ↔
        ∃ r ∈ reports later, m ∈ t.ancestors r.1 ∧ m ≠ r.1) := by
  have stays : .entered m ∉ later := by
    rw [visited_append] at once
    have fresh := (List.nodup_cons.1 once.of_append_right).1
    exact fun mem => fresh (mem_visited_iff.2 mem)
  have begun : (((t.replay before).beginResult m).get m).result = some {} := by
    apply Tree.result_beginResult_self
    rw [Tree.size_replay]
    exact bound (.entered m) (by simp)
  have bound' : ∀ e ∈ later, e.node < ((t.replay before).beginResult m).size := by
    intro e mem
    rw [Tree.beginResult, Tree.size_update, Tree.size_replay]
    exact bound e (by simp [mem])
  have links : ((t.replay before).beginResult m).pristine = t.pristine := by
    rw [Tree.pristine_beginResult, Tree.pristine_replay]
  rw [Tree.replay_append, Tree.replay_cons, Tree.after, Tree.failures_replay bound' stays,
    Tree.childrenFailed_replay bound' stays, Tree.failures, Tree.childrenFailed, begun]
  simp [Tree.ancestors_eq_of_pristine links]

/-- Whoever reports a failure in a run has been entered before. -/
theorem Visit.entered_of_report {e : Event} (visit : Visit t n (before ++ e :: later))
    (wf : t.WellFormed) (inside : n < t.size) (report : e.report? = some (m, failure)) :
    .entered m ∈ before := by
  obtain rfl : e.node = m := Event.node_of_report? report
  have up : n ∈ t.ancestors e.node := visit.scope wf inside e (by simp)
  have grounded := visit.grounded wf inside (before ++ [e]).length
  rw [List.append_cons before e later, List.take_left] at grounded
  cases e with
  | answered k r reply =>
      have last : .answered k r reply ∈ before ++ [.answered k r reply] := by simp
      have entered : .entered k ∈ before ++ [.answered k r reply] :=
        grounded _ last rfl k (Tree.mem_ancestors_self t k) up
      exact (List.mem_append.1 entered).resolve_right (by simp)
  | _ => cases report

/-- Whatever a node reports in a run is among its failures from then on, since it is not entered
again. -/
theorem Visit.mem_failures (visit : Visit t n (es ++ more)) (wf : t.WellFormed)
    (inside : n < t.size) (mem : (m, failure) ∈ reports es) :
    failure ∈ (t.replay es).failures m := by
  obtain ⟨e, he, report, -⟩ := exists_of_mem_reports mem
  obtain ⟨sofar, later, rfl⟩ := List.append_of_mem he
  have entered : .entered m ∈ sofar := by
    rw [List.append_assoc, List.cons_append] at visit
    exact visit.entered_of_report wf inside report
  obtain ⟨before, between, rfl⟩ := List.append_of_mem entered
  have split : before ++ .entered m :: between ++ e :: later =
      before ++ .entered m :: (between ++ e :: later) := by simp
  rw [split] at visit ⊢
  have bound : ∀ e' ∈ before ++ .entered m :: (between ++ e :: later), e'.node < t.size :=
    fun e' he' => Tree.lt_size_of_mem_ancestors
      (visit.scope wf inside e' (List.mem_append_left _ he')) inside
  have once := visit.nodup_visited wf inside
  rw [visited_append] at once
  rw [(Tree.known_since_entered bound once.of_append_left).1, mem_reportsBy_iff]
  exact List.mem_filterMap.2 ⟨e, by simp, report⟩

theorem RunsAs.lt_size (runs : RunsAs t n es) (inside : n < t.size) : ∀ e ∈ es, e.node < t.size :=
  fun e mem => Tree.lt_size_of_mem_ancestors (runs.scope e mem) inside

/-- If the same was done after node `m` was entered, the same is known of it. -/
theorem RunsAs.known_eq (runs : RunsAs t n es) (runs' : RunsAs t' n es')
    (links : t'.pristine = t.pristine) (inside : n < t.size) (same : deeds es' = deeds es)
    (mem : .entered m ∈ es) : (t'.replay es').failures m = (t.replay es).failures m ∧
      (t'.replay es').childrenFailed m = (t.replay es).childrenFailed m := by
  obtain ⟨before, later, rfl⟩ := List.append_of_mem mem
  obtain ⟨before', later', rfl, rest⟩ := exists_entered_of_deeds same
  have inside' : n < t'.size := by rwa [Tree.size_eq_of_pristine links]
  obtain ⟨failures, childrenFailed⟩ := Tree.known_since_entered (runs.lt_size inside) runs.once
  obtain ⟨failures', childrenFailed'⟩ :=
    Tree.known_since_entered (runs'.lt_size inside') runs'.once
  constructor
  · rw [failures', failures, reports_eq_of_deeds rest]
  · rw [Bool.eq_iff_iff, childrenFailed', childrenFailed, reports_eq_of_deeds rest]
    simp only [Tree.ancestors_eq_of_pristine links]

theorem RunsAs.stage_eq (runs : RunsAs t n es) (links : t'.pristine = t.pristine)
    (inside : n < t.size) (same : deeds es' = deeds es) (mem : .entered m ∈ es) :
    ((t'.replay es').get m).stage = ((t.replay es).get m).stage := by
  have bound : m < t.size := Tree.lt_size_of_mem_ancestors (runs.scope _ mem) inside
  have bound' : m < t'.size := by rwa [Tree.size_eq_of_pristine links]
  have some : stagesOf m es ≠ [] :=
    List.ne_nil_of_mem (List.mem_filterMap.2 ⟨_, runs.staged m mem, if_pos rfl⟩)
  rw [Tree.stage_replay bound, Tree.stage_replay bound', stagesOf_eq_of_deeds m same,
    List.getLast?_eq_some_getLast some]
  rfl

/-- A run that did the same as a run of the tree with everything forgotten. -/
theorem RunsAs.sameAsFresh (runs : RunsAs t n es) (runs' : RunsAs t.pristine n es')
    (inside : n < t.size) (same : deeds es' = deeds es) :
    SameAsFresh t n es (t.replay es) es' (t.pristine.replay es') := by
  have links : t.pristine.pristine = t.pristine := Tree.pristine_pristine t
  have visited := visited_eq_of_deeds same
  refine ⟨same, visited, ?_, ?_⟩
  · intro m mem
    exact ⟨runs.stage_eq links inside same mem, runs.known_eq runs' links inside same mem⟩
  · intro m up stays
    have up' : n ∈ t.pristine.ancestors m := by rwa [Tree.ancestors_eq_of_pristine links]
    have stays' : .entered m ∉ es' := by
      rwa [← mem_visited_iff, visited, mem_visited_iff]
    rw [Tree.get_replay_of_grounded runs.grounded up stays, Tree.Idle,
      Tree.get_replay_of_grounded runs'.grounded up' stays', Tree.get_pristine]
    exact ⟨rfl, rfl, rfl, rfl⟩

end Entering

section TwoRuns

variable {options : Options} {hooks : NodeId → Hooks} {a b s u : State} {top c : NodeId}
  {path : List NodeId}

/-- The two runs agree on certain nodes, since they were in the states `a` and `b`, and they have
done the same. -/
abbrev Abreast (a b : State) (path : List NodeId) : State → State → Prop :=
  Matched Node.findings World.ambient id (· ∈ path) (SameDeeds id) a b

/-- The two runs did the same and then ended the process. -/
abbrev AbreastToEnd (a b : State) : State → State → Prop :=
  MatchedToEnd Node.findings World.ambient id (· ∈ ([] : List NodeId)) (SameDeeds id) a b

/-- The two trees hold, under the same numbers, the same subtree at `top`, apart from what is known
of the nodes, and its hooks look no further than their own node and the environment. -/
structure Comparable (hooks : NodeId → Hooks) (a b : State) (top : NodeId) : Prop where
  links : b.tree.pristine = a.tree.pristine
  inside : top < a.tree.size
  confined : ∀ m phase, top ∈ a.tree.ancestors m → ((hooks m).at phase).All Request.Confined

/-- The nodes are in the subtree at `top`. -/
def Below (t : Tree) (top : NodeId) (path : List NodeId) : Prop :=
  ∀ m ∈ path, top ∈ t.ancestors m

theorem Comparable.renames (comparable : Comparable hooks a b top)
    (below : Below a.tree top path) : Tree.Renames id (· ∈ path) a.tree b.tree where
  inside m mem := Tree.lt_size_of_mem_ancestors (below m mem) comparable.inside
  inside' m mem := by
    rw [Tree.size_eq_of_pristine comparable.links]
    exact Tree.lt_size_of_mem_ancestors (below m mem) comparable.inside
  above m n _ _ := by
    rw [Tree.ancestors_eq_of_pristine comparable.links]
    exact Iff.rfl

/-- Requests are answered alike as long as the runs agree on the nodes that make them. -/
theorem Comparable.alike (comparable : Comparable hooks a b top) (below : Below a.tree top path)
    (options : Options) (r : Request) (confined : r.Confined) :
    r.Alike Node.findings World.ambient id (· ∈ path) options a b :=
  confined.alike Node.findings_steady Node.findings_telling World.ambient_steady
    World.ambient_shows (comparable.renames below)

/-- What the runs do at nodes on which they agree keeps them abreast. -/
theorem Comparable.lockstep (comparable : Comparable hooks a b top)
    (below : Below a.tree top path) (options : Options) :
    Lockstep options options hooks hooks id (· ∈ path) (fun _ _ => True) (Abreast a b path)
      (MatchedToEnd Node.findings World.ambient id (· ∈ path) (SameDeeds id) a b) :=
  Matched.lockstep_of_alike Node.findings_steady World.ambient_steady (comparable.renames below)
    (comparable.alike below options) (fun m _ => Tree.hooked_eq_of_pristine comparable.links m)
    (fun _ _ => rfl) fun m phase mem => comparable.confined m phase (below m mem)

/-- Once a node has been entered and is being set up, the runs agree on it, whatever was known of it
before. -/
theorem Comparable.staged (comparable : Comparable hooks a b top)
    (up : top ∈ a.tree.ancestors c) (abreast : Abreast a b path s u) :
    Abreast a b (c :: path) ((s.enter c).setStage c .settingUp)
      ((u.enter c).setStage c .settingUp) := by
  obtain ⟨left, right⟩ := abreast.pristine
  have inside : c < s.tree.size := by
    rw [Tree.size_eq_of_pristine left]
    exact Tree.lt_size_of_mem_ancestors up comparable.inside
  have inside' : c < u.tree.size := by
    rwa [Tree.size_eq_of_pristine (right.trans (comparable.links.trans left.symm))]
  have begun : ∀ {t : Tree}, c < t.size →
      (((t.beginResult c).setStage c .settingUp).get c).findings = (.settingUp, [], false) := by
    intro t inside
    rw [Tree.setStage, Tree.get_update_self _ (by rwa [Tree.beginResult, Tree.size_update]),
      Tree.beginResult, Tree.get_update_self _ inside]
    rfl
  have ambient : (u.enter c).world.ambient = (s.enter c).world.ambient :=
    congrArg Ambient.reset abreast.world
  refine abreast.extend (State.extends_enter.trans State.extends_setStage)
    (State.extends_enter.trans State.extends_setStage) ?_ ambient fun _ _ sofar => sofar.append rfl
  intro m mem
  show (((u.tree.beginResult c).setStage c .settingUp).get m).findings =
    (((s.tree.beginResult c).setStage c .settingUp).get m).findings
  by_cases same : m = c
  · subst same
    rw [begun inside, begun inside']
  · have among : m ∈ path := (List.mem_cons.1 mem).resolve_left same
    rw [Tree.get_setStage_of_ne _ same, Tree.get_setStage_of_ne _ same,
      Tree.get_beginResult_of_ne same, Tree.get_beginResult_of_ne same]
    exact abreast.agree m among

/-- A node is opened by both runs, and from then on they agree on it too. -/
theorem Comparable.opened (comparable : Comparable hooks a b top)
    (below : Below a.tree top path) (up : top ∈ a.tree.ancestors c) (options : Options)
    (abreast : Abreast a b path s u) :
    (openNode options hooks c).Together (openNode options hooks c) s u
      (fun _ _ s' u' => Below a.tree top (c :: path) ∧ Abreast a b (c :: path) s' u')
      (AbreastToEnd a b) := by
  have below' : Below a.tree top (c :: path) := List.forall_mem_cons.2 ⟨up, below⟩
  have lock := comparable.lockstep below' options
  obtain ⟨left, right⟩ := abreast.pristine
  have before : (s.enter c).tree.pristine = a.tree.pristine ∧
      (u.enter c).tree.pristine = b.tree.pristine :=
    ⟨(Tree.pristine_beginResult s.tree c).trans left,
      (Tree.pristine_beginResult u.tree c).trans right⟩
  have opened := lock.openNode_of_called List.mem_cons_self (Matched.together_callHook
    World.ambient_steady (comparable.alike below' options)
    (Tree.hooked_eq_of_pristine comparable.links c) rfl (comparable.confined c .setup up)
    List.mem_cons_self before (comparable.staged up abreast))
  refine (opened.mono ?_).mono_halts ?_
  · exact fun _ _ s' u' post => ⟨below', post.2⟩
  · exact fun s' u' ended => ended.on_fewer (by simp)

/-- The runs stay abreast on the nodes that are open at the time. -/
theorem Comparable.nested (comparable : Comparable hooks a b top) :
    Nested options options hooks hooks id (fun _ c => top ∈ a.tree.ancestors c) (fun _ _ => True)
      (fun path s u => Below a.tree top path ∧ Abreast a b path s u) (AbreastToEnd a b) where
  opened {s u n c path} up := by
    rintro ⟨below, abreast⟩
    have rewound := abreast.rewindFor World.ambient_steady (sameDeeds_steady id) (n := c)
    exact (comparable.opened below up options rewound).mono fun _ _ s' u' post => ⟨trivial, post⟩
  ran abandoned := by
    rintro ⟨below, abreast⟩
    have lock := comparable.lockstep below options
    refine ((lock.runSelf List.mem_cons_self abandoned abreast).mono ?_).mono_halts ?_
    · exact fun _ _ s' u' post => ⟨below, post⟩
    · exact fun s' u' ended => ended.on_fewer (by simp)
  closed _ := by
    rintro ⟨below, abreast⟩
    have lock := comparable.lockstep below options
    refine ((lock.closeNode List.mem_cons_self trivial abreast).mono ?_).mono_halts ?_
    · intro _ _ s' u' post
      exact ⟨(List.forall_mem_cons.1 below).2, post.on_fewer fun m => List.mem_cons_of_mem _⟩
    · exact fun s' u' ended => ended.on_fewer (by simp)
  failed related := by
    obtain ⟨below, abreast⟩ := related
    exact (comparable.lockstep below {}).failed List.mem_cons_self abreast
  skipped {s u n path} c related := by
    obtain ⟨below, abreast⟩ := related
    exact ⟨below, (comparable.lockstep below {}).skip n c abreast⟩

/-- The runs of node `top` do the same. -/
theorem Comparable.together (comparable : Comparable hooks a b top) (wf : a.tree.WellFormed)
    (ambient : b.world.ambient = a.world.ambient) (options : Options) :
    (runNode options hooks top).Together (runNode options hooks top) a b
      (fun _ _ => Abreast a b []) (AbreastToEnd a b) := by
  have none : Below a.tree top [] := List.forall_mem_nil _
  have start : Abreast a b [] a b :=
    ⟨List.forall_mem_nil _, ambient, [], [], .refl a, .refl b, rfl⟩
  have opening := comparable.opened none (Tree.mem_ancestors_self a.tree top) options start
  have under : (a.tree.below top).Under (fun _ c => top ∈ a.tree.ancestors c) top :=
    Forest.under_of_forall (fun _ _ => id) top _ fun m mem => (wf.mem_below_iff.1 mem).1
  have below : b.tree.below (id top) = (a.tree.below top).map id := by
    rw [Forest.map_id, id, Tree.below_eq_of_pristine comparable.links]
  refine (comparable.nested.runNode (opening.mono ?_) under below).mono ?_
  · exact fun _ _ s' u' post => ⟨trivial, post⟩
  · exact fun _ _ s' u' post => post.2

/-- Whatever is left in a reachable tree from earlier runs, reports and prunes, a run of a node does
the same as in the tree with all results removed and all stages idle, as long as the hooks of the
subtree look no further than their own node and the environment. Both runs end, or both end the
process in the same way. The nodes that were entered come out with the same failures and in the same
stages, and the other ones of the subtree as they were; the environment comes out the same. -/
theorem runNode_same_as_fresh {t : Tree} (reach : t.Reachable) {n : NodeId} (inside : n < t.size)
    {hooks : NodeId → Hooks}
    (confined : ∀ m phase, n ∈ t.ancestors m → ((hooks m).at phase).All Request.Confined)
    (options : Options) {world world' : World} (ambient : world'.ambient = world.ambient) :
    (runNode options hooks n).Together (runNode options hooks n) ⟨t, world⟩ ⟨t.pristine, world'⟩
      (fun _ _ s u => u.world.ambient = s.world.ambient ∧ ∃ es es',
        s.world.events.toList = world.events.toList ++ es ∧
        u.world.events.toList = world'.events.toList ++ es' ∧ SameAsFresh t n es s.tree es' u.tree)
      (fun s u => ∃ es es', s.world.events.toList = world.events.toList ++ es ∧
        u.world.events.toList = world'.events.toList ++ es' ∧
        SameAsFresh t n es (t.replay es) es' (t.pristine.replay es')) := by
  have links : t.pristine.pristine = t.pristine := Tree.pristine_pristine t
  have wf := reach.wellFormed
  have wf' : t.pristine.WellFormed := wf.of_pristine links.symm
  have inside' : n < t.pristine.size := by rwa [Tree.size_pristine]
  have comparable : Comparable hooks ⟨t, world⟩ ⟨t.pristine, world'⟩ n := ⟨links, inside, confined⟩
  have both := (comparable.together wf ambient options).with_emits (emits_runNode wf)
    (emits_runNode wf')
  refine (both.mono ?_).mono_halts ?_
  · rintro - - s u ⟨abreast, ⟨es, ext, visit⟩, es', ext', visit'⟩
    obtain ⟨xs, xs', left, right, same⟩ := abreast.course
    obtain rfl := List.append_cancel_left (left.events.symm.trans ext.events)
    obtain rfl := List.append_cancel_left (right.events.symm.trans ext'.events)
    have runs := (visit.runsAs wf inside).sameAsFresh (visit'.runsAs wf' inside') inside
      (sameDeeds_id.1 same)
    refine ⟨abreast.world, xs, xs', left.events, right.events, ?_⟩
    rw [left.tree, right.tree]
    exact runs
  · rintro s u ⟨ended, how, ⟨es, events, breaks⟩, es', events', breaks'⟩
    obtain ⟨xs, xs', left, right, same, -⟩ := ended.course
    obtain rfl := List.append_cancel_left (left.symm.trans events)
    obtain rfl := List.append_cancel_left (right.symm.trans events')
    have runs := (breaks.runsAs wf inside).sameAsFresh (breaks'.runsAs wf' inside') inside
      (sameDeeds_id.1 same)
    exact ⟨xs, xs', left, right, runs⟩

/-- A suite is run after a failure of its second case was reported. The first case looks whether it
is failed itself, and finds that it is not. -/
theorem stale_failure_forgotten :
    let looking : Program Unit := .ask .isFailed fun failed =>
      if failed then .request (.fail ⟨"!failed", "true", "false", "", "suite.rs", 7⟩) else .skip
    let hooks : NodeId → Hooks := fun n => if n = 1 then { setup := looking } else .idle
    let stale := Tree.twoCases.reportFailure 2 ⟨"c < d", "4", "3", "", "suite.rs", 9⟩
    let world : World := { ambient := { overrides := [("steps", "3")], nextStream := 5 } }
    let later : World := { world with memory := [("seed", .int 1)] }
    stale.Reachable ∧ Tree.root < stale.size ∧
      (∀ m phase, Tree.root ∈ stale.ancestors m → ((hooks m).at phase).All Request.Confined) ∧
      (runNode {} hooks Tree.root).Together (runNode {} hooks Tree.root) ⟨stale, world⟩
        ⟨stale.pristine, later⟩
        (fun _ _ s u => u.world.ambient = s.world.ambient ∧ ∃ es es',
          s.world.events.toList = world.events.toList ++ es ∧
          u.world.events.toList = later.events.toList ++ es' ∧
          SameAsFresh stale Tree.root es s.tree es' u.tree)
        (fun s u => ∃ es es', s.world.events.toList = world.events.toList ++ es ∧
          u.world.events.toList = later.events.toList ++ es' ∧
          SameAsFresh stale Tree.root es (stale.replay es) es' (stale.pristine.replay es')) := by
  intro looking hooks stale world later
  have reach : stale.Reachable := .reportFailure Tree.twoCases_reachable (by decide) _
  have inside : Tree.root < stale.size := reach.wellFormed.root_lt_size
  have confined : ∀ m phase, Tree.root ∈ stale.ancestors m →
      ((hooks m).at phase).All Request.Confined := by
    intro m phase _
    by_cases first : m = 1
    · have own : hooks m = { setup := looking } := if_pos first
      rw [own]
      cases phase with
      | setup =>
          refine ⟨trivial, fun failed => ?_⟩
          cases failed with
          | true => exact ⟨trivial, fun _ => trivial⟩
          | false => trivial
      | _ => trivial
    · have own : hooks m = .idle := if_neg first
      rw [own]
      cases phase <;> trivial
  exact ⟨reach, inside, confined, runNode_same_as_fresh reach inside confined {} rfl⟩

end TwoRuns

end SuiteTree
