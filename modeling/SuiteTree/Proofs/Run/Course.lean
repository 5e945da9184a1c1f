import SuiteTree.Proofs.Run.Emission

/-!
# The course of a run

Which events a run of a node may have, in which order, is given by two relations that follow the
nesting of the tree: a `Visit` of a node opens it, descends into its children, and leaves it; a
`Descent` visits children in order until one of them leaves the parent failed. Neither mentions what
hooks do beyond the answers they get, so facts about all runs are facts about these relations.

`emits_runNode` ties them to the program. A run that comes to its end is a visit. A run that ends
the process is the beginning of a visit and breaks off in the hook that was called last.
-/

namespace SuiteTree

/-- Node `n` comes into the stage of a hook, and the hook is called unless the node has lost it. -/
inductive HookCall (t : Tree) (n : NodeId) (phase : Phase) : List Event → Prop where
  | called {answers : List Event} (hooked : (t.get n).hooked = true)
      (own : ∀ e ∈ answers, e.AnswerOf n) :
      HookCall t n phase
        (.staged n phase.stage :: .called n phase (t.setStage n phase.stage) :: answers)
  | silent (bare : (t.get n).hooked = false) : HookCall t n phase [.staged n phase.stage]

/-- What happens from entering node `n` up to its children. -/
inductive Opening (t : Tree) (n : NodeId) : List Event → Prop where
  | mk {setup : List Event} (call : HookCall (t.beginResult n) n .setup setup) :
      Opening t n (.entered n :: (setup ++ [.staged n .runningChildren]))

/-- What happens from stopping the clock of node `n` to the end of its run. -/
inductive Leaving (t : Tree) (n : NodeId) : List Event → Prop where
  | mk {elapsed : Time.Elapsed} {teardown : List Event}
      (call : HookCall (t.setElapsed n elapsed) n .teardown teardown) :
      Leaving t n (.timed n elapsed :: (teardown ++ [.left n, .staged n .done]))

/-- Node `n` runs itself, unless its children were abandoned. -/
inductive OwnRun (t : Tree) (n : NodeId) : Bool → List Event → Prop where
  | skipped : OwnRun t n true []
  | reached {run : List Event} (call : HookCall t n .run run) : OwnRun t n false run

mutual

/-- The events of a complete run of node `n` that begins in tree `t`. -/
inductive Visit : Tree → NodeId → List Event → Prop where
  | mk {t : Tree} {n : NodeId} {a b c d : List Event} {abandoned : Bool} (opening : Opening t n a)
      (descent : Descent (t.replay a) n (t.get n).children b abandoned)
      (own : OwnRun (t.replay (a ++ b)) n abandoned c)
      (leaving : Leaving (t.replay (a ++ (b ++ c))) n d) : Visit t n (a ++ (b ++ (c ++ d)))

/-- The events of running some children of node `n` in order, beginning in tree `t`, and whether
the last of these runs left `n` failed. -/
inductive Descent : Tree → NodeId → List NodeId → List Event → Bool → Prop where
  | done {t : Tree} {n : NodeId} : Descent t n [] [] false
  | stopped {t : Tree} {n c : NodeId} {rest : List NodeId} {a : List Event} (visit : Visit t c a)
      (failed : (t.replay a).isFailed n = true) : Descent t n (c :: rest) (.rewound c :: a) true
  | next {t : Tree} {n c : NodeId} {rest : List NodeId} {a b : List Event} {abandoned : Bool}
      (visit : Visit t c a) (passed : (t.replay a).isFailed n = false)
      (descent : Descent (t.replay a) n rest b abandoned) :
      Descent t n (c :: rest) (.rewound c :: (a ++ b)) abandoned

end

/-- The process ended in the hook that was called last, by a request of that hook. -/
def EndsInHook (options : Options) (hooks : NodeId → Hooks) (halt : Halt) (es : List Event) :
    Prop :=
  ∃ before n phase t answers, es = before ++ .called n phase t :: answers ∧
    (∀ e ∈ answers, e.AnswerOf n) ∧ ((hooks n).at phase).Halts options halt

/-- No hook that was called before goes on in these events. -/
def Fresh (es : List Event) : Prop :=
  ∀ e ∈ es.head?, e.isAnswer = false

/-- A run broke off after the events `es`: the process ended in a hook, and there is a complete
run, as described by `P`, that begins like this and in which the hook does nothing more. -/
def BreaksOff (options : Options) (hooks : NodeId → Hooks) (P : List Event → Prop) (halt : Halt)
    (es : List Event) : Prop :=
  EndsInHook options hooks halt es ∧ ∃ more, Fresh more ∧ P (es ++ more)

theorem Fresh.append {a b : List Event} (first : Fresh a) (second : Fresh b) : Fresh (a ++ b) := by
  cases a with
  | nil => exact second
  | cons e a => exact first

section Existence

variable {t : Tree} {n : NodeId} {phase : Phase} {abandoned : Bool} {es : List Event}

theorem HookCall.fresh (call : HookCall t n phase es) : Fresh es := by
  cases call <;> simp [Fresh, Event.isAnswer]

theorem OwnRun.fresh (own : OwnRun t n abandoned es) : Fresh es := by
  cases own with
  | skipped => simp [Fresh]
  | reached call => exact call.fresh

theorem Leaving.fresh (leaving : Leaving t n es) : Fresh es := by
  cases leaving
  simp [Fresh, Event.isAnswer]

theorem Descent.fresh {cs : List NodeId} (descent : Descent t n cs es abandoned) : Fresh es := by
  cases descent <;> simp [Fresh, Event.isAnswer]

theorem HookCall.exists (t : Tree) (n : NodeId) (phase : Phase) : ∃ es, HookCall t n phase es := by
  cases h : (t.get n).hooked with
  | false => exact ⟨_, .silent h⟩
  | true =>
      have none : ∀ e ∈ ([] : List Event), e.AnswerOf n := by simp
      exact ⟨_, .called h none⟩

theorem Leaving.exists (t : Tree) (n : NodeId) : ∃ es, Leaving t n es := by
  obtain ⟨teardown, call⟩ := HookCall.exists (t.setElapsed n .zero) n .teardown
  exact ⟨_, .mk call⟩

theorem OwnRun.exists (t : Tree) (n : NodeId) (abandoned : Bool) :
    ∃ es, OwnRun t n abandoned es := by
  cases abandoned with
  | true => exact ⟨_, .skipped⟩
  | false =>
      obtain ⟨run, call⟩ := HookCall.exists t n .run
      exact ⟨run, .reached call⟩

/-- A visit whose children have been run can be completed. -/
theorem Visit.exists_of_descent {a b : List Event} (opening : Opening t n a)
    (descent : Descent (t.replay a) n (t.get n).children b abandoned) :
    ∃ d, Fresh d ∧ Visit t n (a ++ (b ++ d)) := by
  obtain ⟨c, own⟩ := OwnRun.exists (t.replay (a ++ b)) n abandoned
  obtain ⟨d, leaving⟩ := Leaving.exists (t.replay (a ++ (b ++ c))) n
  exact ⟨c ++ d, own.fresh.append leaving.fresh, .mk opening descent own leaving⟩

/-- Children the first of which has been run can be run to the last one. -/
theorem Descent.exists_of_visit {c : NodeId} {rest : List NodeId} {a : List Event}
    (visit : Visit t c a)
    (later : ∃ b abandoned, Descent (t.replay a) n rest b abandoned) :
    ∃ b abandoned, Fresh b ∧ Descent t n (c :: rest) (.rewound c :: (a ++ b)) abandoned := by
  cases failed : (t.replay a).isFailed n with
  | true => exact ⟨[], true, by simp [Fresh], by simpa using Descent.stopped visit failed⟩
  | false =>
      obtain ⟨b, abandoned, descent⟩ := later
      exact ⟨b, abandoned, descent.fresh, .next visit failed descent⟩

/-- The children of a node can be run from every state of the tree. The induction is on the links,
which are the same in all these states. -/
theorem Descent.exists (wf : t.WellFormed) (n : NodeId) (cs : List NodeId)
    (children : ∀ c ∈ cs, c ∈ (t.get n).children) :
    ∃ es abandoned, Descent t n cs es abandoned := by
  have everywhere : ∀ u : Tree, u.pristine = t.pristine →
      ∃ es abandoned, Descent u n cs es abandoned := by
    refine wf.children_induction
      (motive := fun n cs => ∀ u : Tree, u.pristine = t.pristine →
        ∃ es abandoned, Descent u n cs es abandoned) ?_ ?_ n cs children
    · intro n u _
      exact ⟨_, _, .done⟩
    · intro n c rest _ below beside u same
      obtain ⟨setup, call⟩ := HookCall.exists (u.beginResult c) c .setup
      have opening : Opening u c _ := .mk call
      obtain ⟨b, abandoned, descent⟩ := below (u.replay _) ((Tree.pristine_replay u _).trans same)
      rw [← Tree.children_eq_of_pristine same] at descent
      obtain ⟨d, -, visit⟩ := Visit.exists_of_descent opening descent
      obtain ⟨e, stop, -, whole⟩ := Descent.exists_of_visit visit
        (beside (u.replay _) ((Tree.pristine_replay u _).trans same))
      exact ⟨_, stop, whole⟩
  exact everywhere t rfl

end Existence

section Program

variable {options : Options} {hooks : NodeId → Hooks} {halt : Halt} {s : State} {n : NodeId}

/-- A longer run breaks off with its last part, if that part can be completed to a longer run. -/
theorem BreaksOff.after {P P' : List Event → Prop} {es : List Event}
    (breaks : BreaksOff options hooks P halt es) (a : List Event)
    (complete : ∀ xs, P xs → ∃ more, Fresh more ∧ P' (a ++ (xs ++ more))) :
    BreaksOff options hooks P' halt (a ++ es) := by
  obtain ⟨⟨before, n, phase, t, answers, rfl, own, halts⟩, more, fresh, h⟩ := breaks
  obtain ⟨more', fresh', h'⟩ := complete _ h
  refine ⟨⟨a ++ before, n, phase, t, answers, by simp, own, halts⟩, more ++ more', ?_, ?_⟩
  · exact fresh.append fresh'
  · simpa using h'

/-- A longer run breaks off with its last part, if that part also completes the longer run. -/
theorem BreaksOff.at_end {P P' : List Event → Prop} {es : List Event}
    (breaks : BreaksOff options hooks P halt es) (a : List Event)
    (complete : ∀ xs, P xs → P' (a ++ xs)) : BreaksOff options hooks P' halt (a ++ es) := by
  refine breaks.after a fun xs h => ⟨[], by simp [Fresh], ?_⟩
  rw [List.append_nil]
  exact complete xs h

/-- What holds of all events of a complete run holds of the events of a run that breaks off. -/
theorem BreaksOff.forall {P : List Event → Prop} {p : Event → Prop} {es : List Event}
    (breaks : BreaksOff options hooks P halt es) (whole : ∀ xs, P xs → ∀ e ∈ xs, p e) :
    ∀ e ∈ es, p e := by
  obtain ⟨-, more, -, complete⟩ := breaks
  exact fun e mem => whole _ complete e (List.mem_append_left _ mem)

theorem State.extends_enter : s.Extends [.entered n] (s.enter n) :=
  ⟨by simp [State.enter, World.resetAttributes, World.logAll, World.emit, World.log], rfl,
    .of_eq rfl rfl⟩

theorem State.extends_leave : s.Extends [.left n] (s.leave n) :=
  ⟨by simp [State.leave, World.resetAttributes, World.logAll, World.emit], rfl, .of_eq rfl rfl⟩

theorem State.extends_setStage {stage : Stage} :
    s.Extends [.staged n stage] (s.setStage n stage) :=
  ⟨by simp [State.setStage, World.logAll, World.emit], rfl, .of_eq rfl rfl⟩

theorem State.extends_setElapsed {elapsed : Time.Elapsed} :
    s.Extends [.timed n elapsed] (s.setElapsed n elapsed) :=
  ⟨by simp [State.setElapsed, World.emit], rfl, .of_eq rfl rfl⟩

theorem State.extends_rewindFor : s.Extends [.rewound n] (s.rewindFor n) :=
  ⟨by simp [State.rewindFor, World.rewindStreams, World.emit], rfl, .of_eq rfl rfl⟩

theorem State.extends_called {phase : Phase} :
    s.Extends [.called n phase s.tree] (s.emit (.called n phase s.tree)) :=
  ⟨by simp [State.emit, World.emit], rfl, .of_eq rfl rfl⟩

theorem emits_callHook (phase : Phase) :
    (callHook options hooks n phase).Emits s (fun _ es => HookCall s.tree n phase es)
      (BreaksOff options hooks (HookCall s.tree n phase)) := by
  refine Run.Emits.modify_bind State.extends_setStage (Run.Emits.get_bind ?_)
  have same : ((s.setStage n phase.stage).tree.get n).hooked = (s.tree.get n).hooked :=
    Tree.hooked_eq_of_pristine (Tree.pristine_setStage _ _ _) n
  cases hooked : (s.tree.get n).hooked with
  | false =>
      rw [if_neg (by simp [same, hooked])]
      exact .pure (.silent hooked)
  | true =>
      rw [if_pos (by rw [same, hooked])]
      refine Run.Emits.set_bind State.extends_called ((Program.emits_conduct _).mono ?_ ?_)
      · intro _ es own
        exact .called hooked own
      · rintro halt es ⟨own, halts⟩
        refine ⟨⟨[.staged n phase.stage], n, phase, _, es, rfl, own, halts⟩, [], ?_, ?_⟩
        · simp [Fresh]
        · rw [List.append_nil]
          exact .called hooked own

theorem emits_openNode :
    (openNode options hooks n).Emits s (fun _ es => Opening s.tree n es)
      (BreaksOff options hooks (Opening s.tree n)) := by
  apply Run.Emits.modify_bind State.extends_enter
  apply Run.Emits.bind (emits_callHook .setup)
  · rintro - setup s₁ - call
    apply Run.Emits.readClocks_bind
    intro started s₂ _ _
    exact Run.Emits.modify_bind State.extends_setStage (.pure (.mk call))
  · intro halt es breaks
    exact breaks.after [_] fun setup call => ⟨[_], by simp [Fresh, Event.isAnswer], .mk call⟩

theorem emits_runSelf (abandoned : Bool) :
    (runSelf options hooks n abandoned).Emits s (fun _ es => OwnRun s.tree n abandoned es)
      (BreaksOff options hooks (OwnRun s.tree n abandoned)) := by
  cases abandoned with
  | true => exact .pure .skipped
  | false =>
      apply (emits_callHook .run).mono
      · intro _ es call
        exact .reached call
      · intro halt es breaks
        exact breaks.at_end [] fun xs call => .reached call

theorem emits_closeNode (started : Time.Reading) :
    (closeNode options hooks n started).Emits s (fun _ es => Leaving s.tree n es)
      (BreaksOff options hooks (Leaving s.tree n)) := by
  apply Run.Emits.readClocks_bind
  intro ended s₁ tree _
  rw [← tree]
  apply Run.Emits.modify_bind State.extends_setElapsed
  apply Run.Emits.bind (emits_callHook .teardown)
  · rintro - teardown s₂ - call
    apply Run.Emits.modify_bind State.extends_leave
    exact Run.Emits.of_ok rfl State.extends_setStage (.mk call)
  · intro halt es breaks
    exact breaks.after [_] fun teardown call =>
      ⟨[_, _], by simp [Fresh, Event.isAnswer], .mk call⟩

/-- A node is run as a visit, given that its children are run as a descent. -/
theorem emits_runAround {kids : Run Bool} (wf : s.tree.WellFormed)
    (descends : ∀ s' : State, s'.tree.pristine = s.tree.pristine →
      kids.Emits s' (fun abandoned es => Descent s'.tree n (s.tree.get n).children es abandoned)
        (BreaksOff options hooks
          fun es => ∃ abandoned, Descent s'.tree n (s.tree.get n).children es abandoned)) :
    (runAround options hooks n kids).Emits s (fun _ es => Visit s.tree n es)
      (BreaksOff options hooks (Visit s.tree n)) := by
  apply Run.Emits.bind emits_openNode
  · intro started a s₁ ext₁ opening
    have descend := descends s₁ ext₁.pristine
    rw [ext₁.tree] at descend
    apply Run.Emits.bind descend
    · intro abandoned b s₂ ext₂ descent
      have tree₂ : s₂.tree = s.tree.replay (a ++ b) := (ext₁.trans ext₂).tree
      apply Run.Emits.bind (emits_runSelf abandoned)
      · rintro - c s₃ ext₃ own
        rw [tree₂] at own
        have tree₃ : s₃.tree = s.tree.replay (a ++ (b ++ c)) :=
          (ext₁.trans (ext₂.trans ext₃)).tree
        apply (emits_closeNode started).mono
        · intro _ d leaving
          rw [tree₃] at leaving
          exact .mk opening descent own leaving
        · intro halt d breaks
          rw [tree₃] at breaks
          have whole := breaks.at_end (a ++ (b ++ c)) fun d leaving => by
            simpa using Visit.mk opening descent own leaving
          simpa using whole
      · intro halt c breaks
        rw [tree₂] at breaks
        have whole : BreaksOff options hooks (Visit s.tree n) halt (a ++ b ++ c) := by
          refine breaks.after (a ++ b) fun c own => ?_
          obtain ⟨d, leaving⟩ := Leaving.exists (s.tree.replay (a ++ (b ++ c))) n
          exact ⟨d, leaving.fresh, by simpa using Visit.mk opening descent own leaving⟩
        simpa using whole
    · intro halt b breaks
      refine breaks.after a fun b descent => ?_
      obtain ⟨abandoned, descent⟩ := descent
      exact Visit.exists_of_descent opening descent
  · intro halt a breaks
    refine breaks.after [] fun a opening => ?_
    obtain ⟨b, abandoned, descent⟩ := Descent.exists (wf.replay a) n (s.tree.get n).children
      (by simp)
    obtain ⟨d, fresh, visit⟩ := Visit.exists_of_descent opening descent
    exact ⟨b ++ d, descent.fresh.append fresh, visit⟩

/-- Children are run as a descent. The links say which forest is run, and they are the same in
every state of the run. -/
theorem emits_runChildren {t : Tree} (wf : t.WellFormed) (n : NodeId) (cs : List NodeId)
    (children : ∀ c ∈ cs, c ∈ (t.get n).children) (same : s.tree.pristine = t.pristine) :
    (runChildren options hooks n (t.belowAll n cs)).Emits s
      (fun abandoned es => Descent s.tree n cs es abandoned)
      (BreaksOff options hooks fun es => ∃ abandoned, Descent s.tree n cs es abandoned) := by
  refine wf.children_induction
    (motive := fun n cs => ∀ s : State, s.tree.pristine = t.pristine →
      (runChildren options hooks n (t.belowAll n cs)).Emits s
        (fun abandoned es => Descent s.tree n cs es abandoned)
        (BreaksOff options hooks fun es => ∃ abandoned, Descent s.tree n cs es abandoned))
    ?_ ?_ n cs children s same
  · intro n s _
    rw [Tree.belowAll]
    exact .pure .done
  · intro n c rest children below beside s same
    have wf' : s.tree.WellFormed := wf.of_pristine same.symm
    rw [wf.belowAll_cons_child (children c List.mem_cons_self)]
    have around : (runAround options hooks c (runChildren options hooks c (t.below c))).Emits
        (s.rewindFor c) (fun _ es => Visit s.tree c es)
        (BreaksOff options hooks (Visit s.tree c)) := by
      have kids : ((s.rewindFor c).tree.get c).children = (t.get c).children :=
        Tree.children_eq_of_pristine same c
      apply emits_runAround (s := s.rewindFor c) wf'
      intro s' same'
      rw [kids, Tree.below]
      exact below s' (same'.trans same)
    refine Run.Emits.modify_bind State.extends_rewindFor (Run.Emits.bind around ?_ ?_)
    · rintro - a s₁ ext₁ visit
      have tree₁ : s₁.tree = s.tree.replay a := ext₁.tree
      apply Run.Emits.get_bind
      cases failed : s₁.tree.isFailed n with
      | true =>
          rw [if_pos rfl]
          rw [tree₁] at failed
          refine Run.Emits.modify_bind (.of_world rfl rfl (.of_eq rfl rfl)) (.pure ?_)
          exact (List.append_nil _).symm ▸ Descent.stopped visit failed
      | false =>
          rw [if_neg (by simp)]
          rw [tree₁] at failed
          apply (beside s₁ (by rw [tree₁, Tree.pristine_replay, same])).mono
          · intro abandoned b descent
            rw [tree₁] at descent
            have whole := Descent.next visit failed descent
            exact whole
          · intro halt b breaks
            rw [tree₁] at breaks
            refine breaks.at_end (.rewound c :: a) fun b descent => ?_
            obtain ⟨abandoned, descent⟩ := descent
            exact ⟨abandoned, .next visit failed descent⟩
    · intro halt a breaks
      refine breaks.after [.rewound c] fun a visit => ?_
      have later : ∀ d ∈ rest, d ∈ ((s.tree.replay a).get n).children := by
        intro d mem
        rw [Tree.children_replay, Tree.children_eq_of_pristine same]
        exact children d (List.mem_cons_of_mem _ mem)
      obtain ⟨b, abandoned, fresh, descent⟩ := Descent.exists_of_visit visit
        (Descent.exists (wf'.replay a) n rest later)
      exact ⟨b, fresh, abandoned, descent⟩

/-- A run of a node of a well-formed tree is a visit, or the beginning of one that breaks off in a
hook. -/
theorem emits_runNode (wf : s.tree.WellFormed) :
    (runNode options hooks n).Emits s (fun _ es => Visit s.tree n es)
      (BreaksOff options hooks (Visit s.tree n)) := by
  apply Run.Emits.get_bind
  apply emits_runAround wf
  intro s' same
  rw [Tree.below]
  exact emits_runChildren wf n _ (fun _ => id) same

/-- A run that comes to its end is a visit. -/
theorem exists_visit_of_ended (wf : s.tree.WellFormed) {s' : State}
    (ended : runNode options hooks n s = .ok () s') :
    ∃ es, s.Extends es s' ∧ Visit s.tree n es := by
  have emits : (runNode options hooks n).Emits s _ _ := emits_runNode wf
  unfold Run.Emits at emits
  rwa [ended] at emits

end Program

/-- What a run of node `n` comes to: `Q` holds of the tree and of the events if it ends, and `H` of
the events so far if it ends the process. -/
def Tree.AfterRun (t : Tree) (options : Options) (hooks : NodeId → Hooks) (n : NodeId)
    (world : World) (Q : Tree → List Event → Prop) (H : Halt → List Event → Prop) : Prop :=
  match runNode options hooks n ⟨t, world⟩ with
  | .ok () s => ∃ es, s.world.events.toList = world.events.toList ++ es ∧ Q s.tree es
  | .error halt s => ∃ es, s.world.events.toList = world.events.toList ++ es ∧ H halt es

theorem Tree.AfterRun.mono {t : Tree} {options : Options} {hooks : NodeId → Hooks} {n : NodeId}
    {world : World} {Q Q' : Tree → List Event → Prop} {H H' : Halt → List Event → Prop}
    (after : t.AfterRun options hooks n world Q H) (finished : ∀ u es, Q u es → Q' u es)
    (halted : ∀ halt es, H halt es → H' halt es) : t.AfterRun options hooks n world Q' H' := by
  unfold Tree.AfterRun at after ⊢
  split at after
  · obtain ⟨es, events, q⟩ := after
    exact ⟨es, events, finished _ es q⟩
  · obtain ⟨es, events, h⟩ := after
    exact ⟨es, events, halted _ es h⟩

/-- Two statements about one run. -/
theorem Tree.AfterRun.and {t : Tree} {options : Options} {hooks : NodeId → Hooks} {n : NodeId}
    {world : World} {Q Q' : Tree → List Event → Prop} {H H' : Halt → List Event → Prop}
    (first : t.AfterRun options hooks n world Q H)
    (second : t.AfterRun options hooks n world Q' H') :
    t.AfterRun options hooks n world (fun u es => Q u es ∧ Q' u es)
      (fun how es => H how es ∧ H' how es) := by
  unfold Tree.AfterRun at first second ⊢
  split at first
  all_goals
    next result =>
    rw [result] at second
    obtain ⟨es, events, post⟩ := first
    obtain ⟨es', events', post'⟩ := second
    obtain rfl : es' = es := List.append_cancel_left (events'.symm.trans events)
    exact ⟨es', events, post, post'⟩

/-- Statements about visits are statements about runs. -/
theorem Tree.WellFormed.afterRun {t : Tree} (wf : t.WellFormed) {options : Options}
    {hooks : NodeId → Hooks} {n : NodeId} {world : World} {Q : Tree → List Event → Prop}
    {H : Halt → List Event → Prop} (finished : ∀ es, Visit t n es → Q (t.replay es) es)
    (halted : ∀ halt es, BreaksOff options hooks (Visit t n) halt es → H halt es) :
    t.AfterRun options hooks n world Q H := by
  have emits : (runNode options hooks n).Emits ⟨t, world⟩ _ _ := emits_runNode wf
  unfold Run.Emits at emits
  unfold Tree.AfterRun
  split at emits
  · next s result =>
    obtain ⟨es, ext, visit⟩ := emits
    rw [result]
    exact ⟨es, ext.events, ext.tree ▸ finished es visit⟩
  · next halt s result =>
    obtain ⟨es, events, breaks⟩ := emits
    rw [result]
    exact ⟨es, events, halted halt es breaks⟩

/-- A run can be evaluated once the forest below its node is known. -/
theorem exists_ended_of_eval {options : Options} {hooks : NodeId → Hooks} {t : Tree} {n : NodeId}
    {world : World} {p : State → Bool} (forest : Forest) (shape : t.below n = forest)
    (eval : (match runAround options hooks n (runChildren options hooks n forest) ⟨t, world⟩ with
      | .ok _ s => p s
      | .error _ _ => false) = true) :
    ∃ s, runNode options hooks n ⟨t, world⟩ = .ok () s ∧ p s = true := by
  subst shape
  split at eval
  · next s result => exact ⟨s, result, eval⟩
  · cases eval

end SuiteTree
