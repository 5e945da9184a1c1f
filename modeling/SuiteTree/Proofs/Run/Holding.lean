import SuiteTree.Proofs.Run.Lockstep
import SuiteTree.Proofs.Tree.Rehooked

/-!
# Running with the hooks in hand

While a node runs its hooks can be kept out of the tree: they are taken out when the node is
entered, called from the hand, and put back when the node is left. `runNodeHolding` runs a node in
this way. During the run the trees differ, because the nodes between the one that runs and the one
that was run first have lost their hooks. In the end every node has got back what it had.

Nobody notices the difference. What a hook is told does not depend on the presence of hooks, and
whether a hook is called is decided by what is in the hand, which is what was in the tree.
-/

namespace SuiteTree

namespace State

/-- Take the hooks of a node out of the tree, or put them back. -/
def setHooked (s : State) (n : NodeId) (hooked : Bool) : State :=
  { s with tree := s.tree.setHooked n hooked }

end State

section Runner

variable (options : Options) (hooks : NodeId → Hooks)

/-- Call a hook of node `n` that is in the hand, if there is one. -/
def callHeld (n : NodeId) (phase : Phase) (held : Bool) : Run Unit := do
  modify (·.setStage n phase.stage)
  if held then
    let s ← get
    set (s.emit (.called n phase s.tree))
    ((hooks n).at phase).conduct options n

/-- Enter node `n`, take its hooks out of the tree and call the setup hook. The values say whether
there are hooks, and when the time of the node begins. -/
def openHolding (n : NodeId) : Run (Bool × Time.Reading) := do
  modify (·.enter n)
  let held := ((← get).tree.get n).hooked
  modify (·.setHooked n false)
  callHeld options hooks n .setup held
  let started ← Run.readClocks
  modify (·.setStage n .runningChildren)
  pure (held, started)

/-- Call the run hook that is in the hand, unless the children were abandoned. -/
def runSelfHolding (n : NodeId) (held abandoned : Bool) : Run Unit := do
  unless abandoned do callHeld options hooks n .run held

/-- Note the time of node `n`, call the teardown hook that is in the hand, leave the node and put
its hooks back. -/
def closeHolding (n : NodeId) (held : Bool) (started : Time.Reading) : Run Unit := do
  let ended ← Run.readClocks
  let clock := (Time.Clock.new.start started).stop ended
  modify (·.setElapsed n clock.elapsed)
  callHeld options hooks n .teardown held
  modify (·.leave n)
  modify (·.setHooked n held)
  modify (·.setStage n .done)

/-- Run node `n` with its hooks in the hand, given how its children are run. -/
def runAroundHolding (n : NodeId) (children : Run Bool) : Run Unit := do
  let (held, started) ← openHolding options hooks n
  let abandoned ← children
  runSelfHolding options hooks n held abandoned
  closeHolding options hooks n held started

/-- Run the children of node `n` in order, with their hooks in the hand, until one of them leaves
`n` failed. -/
def runChildrenHolding (n : NodeId) : Forest → Run Bool
  | .nil => pure false
  | .node child below beside => do
    modify (·.rewindFor child)
    runAroundHolding options hooks child (runChildrenHolding child below)
    let s ← get
    if s.tree.isFailed n then
      modify (·.log (.info ("'" ++ (s.tree.get child).name ++ "' failed below '"
        ++ (s.tree.get n).name ++ "', skipping the rest")))
      pure true
    else runChildrenHolding n beside

/-- Run node `n` and what is below it, with the hooks in the hand. -/
def runNodeHolding (n : NodeId) : Run Unit := do
  runAroundHolding options hooks n (runChildrenHolding options hooks n ((← get).tree.below n))

end Runner

/-- The event, with all hooks in the tree that a hook found. -/
def Event.rehooked : Event → Event
  | called n phase t => called n phase t.rehooked
  | e => e

def World.rehooked (w : World) : World :=
  { w with events := w.events.map Event.rehooked }

def State.rehooked (s : State) : State :=
  ⟨s.tree.rehooked, s.world.rehooked⟩

/-- The states are the same up to the presence of hooks. -/
def State.SameUpToHooks (s u : State) : Prop :=
  u.rehooked = s.rehooked

namespace World

variable (w : World)

@[simp] theorem rehooked_emit (e : Event) : (w.emit e).rehooked = w.rehooked.emit e.rehooked := by
  simp [rehooked, emit]

@[simp] theorem rehooked_log (r : Record) : (w.log r).rehooked = w.rehooked.log r := rfl

@[simp] theorem rehooked_logAll (rs : List Record) :
    (w.logAll rs).rehooked = w.rehooked.logAll rs := rfl

@[simp] theorem rehooked_resetAttributes :
    w.resetAttributes.rehooked = w.rehooked.resetAttributes := rfl

end World

namespace State

variable (s : State) (n : NodeId)

@[simp] theorem rehooked_log (r : Record) : (s.log r).rehooked = s.rehooked.log r := rfl

@[simp] theorem rehooked_setHooked (hooked : Bool) :
    (s.setHooked n hooked).rehooked = s.rehooked := by
  simp [rehooked, setHooked]

theorem rehooked_emit (e : Event) : (s.emit e).rehooked = s.rehooked.emit e.rehooked := by
  simp [rehooked, emit]

@[simp] theorem rehooked_reportFailure (failure : Failure) :
    (s.reportFailure n failure).rehooked = s.rehooked.reportFailure n failure := by
  simp [rehooked, reportFailure, Tree.reportFailureRecords, Node.rehooked]

@[simp] theorem rehooked_setStage (stage : Stage) :
    (s.setStage n stage).rehooked = s.rehooked.setStage n stage := by
  simp [rehooked, setStage, Tree.setStageRecords, Node.rehooked, Event.rehooked]

@[simp] theorem rehooked_setElapsed (elapsed : Time.Elapsed) :
    (s.setElapsed n elapsed).rehooked = s.rehooked.setElapsed n elapsed := by
  simp [rehooked, setElapsed, Event.rehooked]

@[simp] theorem rehooked_enter : (s.enter n).rehooked = s.rehooked.enter n := by
  simp [rehooked, enter, Node.rehooked, Event.rehooked]

@[simp] theorem rehooked_leave : (s.leave n).rehooked = s.rehooked.leave n := by
  simp [rehooked, leave, Event.rehooked]

@[simp] theorem rehooked_rewindFor : (s.rewindFor n).rehooked = s.rehooked.rewindFor n := by
  simp [rehooked, rewindFor, World.rewindStreams, World.emit, World.rehooked, Event.rehooked]

end State

/-- How a computation ends, up to the presence of hooks. -/
def Run.upToHooks {α : Type} : EStateM.Result Halt State α → EStateM.Result Halt State α
  | .ok a s => .ok a s.rehooked
  | .error halt s => .error halt s.rehooked

/-- The computation does not depend on the presence of hooks. -/
def Run.Blind {α : Type} (x : Run α) : Prop :=
  ∀ s, x s.rehooked = Run.upToHooks (x s)

namespace Run.Blind

variable {α β : Type}

theorem pure (a : α) : Run.Blind (Pure.pure a) := fun _ => rfl

theorem throw (halt : Halt) : Run.Blind (throw halt : Run α) := fun _ => rfl

theorem bind {x : Run α} {f : α → Run β} (first : x.Blind) (second : ∀ a, (f a).Blind) :
    (x >>= f).Blind := by
  intro s
  have now := first s
  cases result : x s with
  | ok a s' =>
      rw [result] at now
      rw [bind_of_ok result, bind_of_ok now]
      exact second a s'
  | error halt s' =>
      rw [result] at now
      rw [bind_of_error result, bind_of_error now]
      rfl

theorem modify {f : State → State} (keeps : ∀ s, (f s).rehooked = f s.rehooked) :
    Run.Blind (modify f) := fun s => congrArg (EStateM.Result.ok ()) (keeps s).symm

/-- A question that has the same answer whether hooks are present or not. -/
theorem ask {f : State → α} (same : ∀ s, f s.rehooked = f s) :
    Run.Blind (do Pure.pure (f (← get))) := fun s =>
  congrArg (EStateM.Result.ok · s.rehooked) (same s)

theorem onWorld {f : World → α × World}
    (same : ∀ w, f w.rehooked = ((f w).1, (f w).2.rehooked)) : Run.Blind (Run.onWorld f) := by
  intro s
  have result : ∀ s, Run.onWorld f s = .ok (f s.world).1 { s with world := (f s.world).2 } :=
    fun _ => rfl
  have now : f s.rehooked.world = _ := same s.world
  rw [result, result, now]
  rfl

end Run.Blind

section Told

variable (options : Options) (n : NodeId)

/-- A temporary file is made in the same way whether hooks are present or not. -/
theorem Tree.tempFile_rehooked (t : Tree) (options : Options) (n : NodeId) (w : World)
    (file : String) :
    t.rehooked.tempFile w.rehooked options n file =
      ((t.tempFile w options n file).1, (t.tempFile w options n file).2.rehooked) := by
  have data : t.rehooked.dataFile w.rehooked options n file = t.dataFile w options n file :=
    t.dataFile_rehooked n w.rehooked options file
  have files : w.rehooked.files = w.files := rfl
  rw [Tree.tempFile, Tree.tempFile, data, files, Tree.tempDirectory_rehooked]
  split
  · rfl
  · dsimp only
    split <;> rfl

/-- What a hook is told does not depend on the presence of hooks. -/
theorem Request.blind_reply (r : Request) : (r.reply options n).Blind := by
  cases r with
  | fail failure =>
      refine .bind (.modify fun s => s.rehooked_reportFailure n failure) fun _ => ?_
      split
      · refine .bind (.modify fun s => ?_) fun _ => .throw _
        simp [State.rehooked, State.log, Node.rehooked]
      · exact .pure ()
  | isFailed => exact .ask fun s => s.tree.isFailed_rehooked n
  | isPassing => exact .ask fun s => s.tree.isPassing_rehooked n
  | options => exact .pure _
  | tree => exact .ask fun s => s.tree.sight_rehooked n
  | assign key value => exact fun _ => rfl
  | lookup key => exact .ask fun _ => rfl
  | resetAttributes => exact fun _ => rfl
  | drawStream => exact fun _ => rfl
  | rewindStreams => exact fun _ => rfl
  | dataFile name =>
      apply Run.Blind.ask
      intro s
      exact s.tree.dataFile_rehooked n s.world.rehooked options name
  | tempFile name =>
      intro s
      have result : ∀ s : State, (tempFile name).reply options n s =
          .ok (s.tree.tempFile s.world options n name).1
            { s with world := (s.tree.tempFile s.world options n name).2 } := fun _ => rfl
      have now : s.rehooked.tree.tempFile s.rehooked.world options n name = _ :=
        s.tree.tempFile_rehooked options n s.world name
      rw [result, result, now]
      rfl
  | readFile path => exact .ask fun _ => rfl
  | writeFile path text =>
      unfold Request.reply
      apply Run.Blind.onWorld
      intro w
      cases written : w.files.writeText path text with
      | ok files => simp [World.rehooked, written]
      | error cause => simp [World.rehooked, written]
  | remembered key => exact .ask fun _ => rfl
  | remember key value => exact fun _ => rfl
  | log record => exact .modify fun _ => rfl
  | note text => exact .pure ()
  | exit cause => exact .bind (.modify fun _ => rfl) fun _ => .throw _

theorem Request.blind_answer (r : Request) : (r.answer options n).Blind := by
  refine .bind (r.blind_reply options n) fun reply => .bind (.modify fun s => ?_) fun _ => .pure _
  exact s.rehooked_emit _

/-- What a hook does is the same whether hooks are present or not. -/
theorem Program.blind_conduct {α : Type} (p : Program α) : (p.conduct options n).Blind := by
  induction p with
  | pure a => exact .pure a
  | ask request next ih => exact .bind (request.blind_answer options n) ih

end Told

/-- State `s` of a run of the tree `t`, and state `u` of the same run with the hooks in the hand,
where the nodes `held` are running. -/
structure Holding (t : Tree) (held : List NodeId) (s u : State) : Prop where
  same : u.rehooked = s.rehooked
  pristine : s.tree.pristine = t.pristine
  hooked : ∀ m, (u.tree.get m).hooked = ((t.get m).hooked && !decide (m ∈ held))

namespace Holding

variable {t : Tree} {held : List NodeId} {s u s' u' : State} {n : NodeId} {options : Options}
  {hooks : NodeId → Hooks} {phase : Phase}

theorem refl (s : State) : Holding s.tree [] s s := ⟨rfl, rfl, by simp⟩

theorem trees (holding : Holding t held s u) : u.tree.rehooked = s.tree.rehooked :=
  congrArg State.tree holding.same

theorem worlds (holding : Holding t held s u) : u.world.rehooked = s.world.rehooked :=
  congrArg State.world holding.same

/-- Both runs make a step that leaves the lasting part of the tree alone. -/
theorem step (holding : Holding t held s u) (same : u'.rehooked = s'.rehooked)
    (left : s'.tree.pristine = s.tree.pristine) (right : u'.tree.pristine = u.tree.pristine) :
    Holding t held s' u' where
  same := same
  pristine := left.trans holding.pristine
  hooked m := by rw [Tree.hooked_eq_of_pristine right, holding.hooked]

/-- Both runs change their states in the same way. -/
theorem change (holding : Holding t held s u) (f : State → State)
    (keeps : ∀ s, (f s).rehooked = f s.rehooked)
    (pristine : ∀ s, (f s).tree.pristine = s.tree.pristine) : Holding t held (f s) (f u) :=
  holding.step (by rw [keeps, keeps, holding.same]) (pristine s) (pristine u)

/-- In the end the trees are the same. -/
theorem tree_eq (holding : Holding t [] s u) : u.tree = s.tree := by
  apply Tree.eq_of_rehooked holding.trees
  intro m
  rw [holding.hooked, Tree.hooked_eq_of_pristine holding.pristine]
  simp

theorem isFailed_eq (holding : Holding t held s u) (n : NodeId) :
    u.tree.isFailed n = s.tree.isFailed n := by
  rw [← Tree.isFailed_rehooked, holding.trees, Tree.isFailed_rehooked]

theorem name_eq (holding : Holding t held s u) (n : NodeId) :
    (u.tree.get n).name = (s.tree.get n).name := by
  have node : (u.tree.get n).rehooked = (s.tree.get n).rehooked := by
    rw [← Tree.get_rehooked, holding.trees, Tree.get_rehooked]
  exact (congrArg Node.name node :)

theorem size_eq (holding : Holding t held s u) : u.tree.size = t.size := by
  rw [← Tree.size_rehooked, holding.trees, Tree.size_rehooked,
    Tree.size_eq_of_pristine holding.pristine]

/-- The hooks of one more node are taken out of the tree. -/
theorem take (holding : Holding t held s u) (inside : n < t.size) :
    Holding t (n :: held) s (u.setHooked n false) where
  same := by rw [State.rehooked_setHooked, holding.same]
  pristine := holding.pristine
  hooked m := by
    have get : ((u.setHooked n false).tree.get m) = _ := u.tree.get_setHooked n false m
    rw [get, holding.size_eq]
    by_cases own : m = n
    · simp [own, inside]
    · simp [own, holding.hooked]

/-- The hooks of the last node are put back. -/
theorem putBack (holding : Holding t (n :: held) s u) (inside : n < t.size) (fresh : n ∉ held) :
    Holding t held s (u.setHooked n (t.get n).hooked) where
  same := by rw [State.rehooked_setHooked, holding.same]
  pristine := holding.pristine
  hooked m := by
    have get : ((u.setHooked n (t.get n).hooked).tree.get m) = _ :=
      u.tree.get_setHooked n (t.get n).hooked m
    rw [get, holding.size_eq]
    by_cases own : m = n
    · simp [own, inside, fresh]
    · simp [own, holding.hooked]

/-- A hook that is called in both runs does the same. -/
theorem conduct (holding : Holding t held s u) (p : Program Unit) :
    (p.conduct options n).Together (p.conduct options n) s u (fun _ _ => Holding t held)
      State.SameUpToHooks := by
  have left : (p.conduct options n).Emits s _ _ := p.emits_conduct
  have right : (p.conduct options n).Emits u _ _ := p.emits_conduct
  have alike : Run.upToHooks (p.conduct options n u) = Run.upToHooks (p.conduct options n s) := by
    rw [← p.blind_conduct, ← p.blind_conduct, holding.same]
  unfold Run.Emits at left right
  unfold Run.Together
  cases first : p.conduct options n s with
  | ok a s' =>
      cases second : p.conduct options n u with
      | ok b u' =>
          simp only [first, second, Run.upToHooks, EStateM.Result.ok.injEq] at left right alike
          obtain ⟨_, extends_, -⟩ := left
          obtain ⟨_, extends', -⟩ := right
          exact holding.step alike.2 extends_.pristine extends'.pristine
      | error how' u' => simp [first, second, Run.upToHooks] at alike
  | error how s' =>
      cases second : p.conduct options n u with
      | ok b u' => simp [first, second, Run.upToHooks] at alike
      | error how' u' =>
          simp only [first, second, Run.upToHooks, EStateM.Result.error.injEq] at alike
          exact alike

theorem setStage (holding : Holding t held s u) (stage : Stage) :
    Holding t held (s.setStage n stage) (u.setStage n stage) :=
  holding.change (·.setStage n stage) (fun s => s.rehooked_setStage n stage)
    fun s => s.tree.pristine_setStage n stage

/-- A hook in the hand is called if and only if the node had it in the tree. -/
theorem callHook (holding : Holding t held s u) (phase : Phase) :
    (callHook options hooks n phase).Together (callHeld options hooks n phase (t.get n).hooked) s u
      (fun _ _ => Holding t held) State.SameUpToHooks := by
  have staged := holding.setStage (n := n) phase.stage
  have hooked : ((s.setStage n phase.stage).tree.get n).hooked = (t.get n).hooked :=
    Tree.hooked_eq_of_pristine staged.pristine n
  refine .modify_bind ?_
  cases own : (t.get n).hooked with
  | false =>
      refine .get_bind (g := fun _ => pure ()) ?_
      rw [if_neg (by simp [hooked, own])]
      exact .pure staged
  | true =>
      refine .get_bind ?_
      rw [if_pos (by rw [hooked, own])]
      refine .set_bind (conduct (staged.step ?_ ?_ ?_) _)
      · rw [State.rehooked_emit, State.rehooked_emit, Event.rehooked, Event.rehooked, staged.same,
          staged.trees]
      · rfl
      · rfl

/-- Both runs read the same from the clocks. -/
theorem readClocks (holding : Holding t held s u) :
    u.world.readClocks.1 = s.world.readClocks.1 ∧
      Holding t held { s with world := s.world.readClocks.2 }
        { u with world := u.world.readClocks.2 } := by
  have read : ∀ w : World, w.rehooked.readClocks = (w.readClocks.1, w.readClocks.2.rehooked) :=
    fun _ => rfl
  have both := congrArg World.readClocks holding.worlds
  rw [read, read, Prod.mk.injEq] at both
  exact ⟨both.1, holding.step (congrArg₂ State.mk holding.trees both.2) rfl rfl⟩

theorem openNode (holding : Holding t held s u) (inside : n < t.size) (fresh : n ∉ held) :
    (openNode options hooks n).Together (openHolding options hooks n) s u
      (fun a b s' u' => b = ((t.get n).hooked, a) ∧ Holding t (n :: held) s' u')
      State.SameUpToHooks := by
  have entered : Holding t held (s.enter n) (u.enter n) :=
    holding.change (·.enter n) (fun s => s.rehooked_enter n)
      fun s => s.tree.pristine_beginResult n
  have own : ((u.enter n).tree.get n).hooked = (t.get n).hooked := by
    rw [entered.hooked]
    simp [fresh]
  refine .modify_bind (.get_bind_right (.modify_bind_right ?_))
  rw [own]
  refine .bind ((entered.take inside).callHook .setup) ?_
  rintro - - s' u' called
  obtain ⟨started, read⟩ := called.readClocks
  exact .readClocks_bind (.modify_bind (.pure ⟨by rw [started], read.setStage _⟩))

theorem runSelf (holding : Holding t held s u) (abandoned : Bool) :
    (runSelf options hooks n abandoned).Together
      (runSelfHolding options hooks n (t.get n).hooked abandoned) s u (fun _ _ => Holding t held)
      State.SameUpToHooks := by
  cases abandoned with
  | true => exact .pure holding
  | false => exact holding.callHook .run

theorem closeNode (holding : Holding t (n :: held) s u) (inside : n < t.size) (fresh : n ∉ held)
    (started : Time.Reading) :
    (closeNode options hooks n started).Together
      (closeHolding options hooks n (t.get n).hooked started) s u (fun _ _ => Holding t held)
      State.SameUpToHooks := by
  obtain ⟨ended, read⟩ := holding.readClocks
  refine .readClocks_bind ?_
  rw [ended]
  have timed (elapsed : Time.Elapsed) := read.change (·.setElapsed n elapsed)
    (fun s => s.rehooked_setElapsed n elapsed) fun s => s.tree.pristine_setElapsed n elapsed
  refine .modify_bind (.bind ((timed _).callHook .teardown) ?_)
  rintro - - s' u' called
  have left : Holding t (n :: held) (s'.leave n) (u'.leave n) :=
    called.change (·.leave n) (fun s => s.rehooked_leave n) fun _ => rfl
  refine .modify_bind (.modify_bind_right (.modify ?_))
  exact (left.putBack inside fresh).setStage _

/-- Nodes are run together if their children are while their own hooks are in the hand. -/
theorem runAround (holding : Holding t held s u) (inside : n < t.size) (fresh : n ∉ held)
    {kids kids' : Run Bool}
    (children : ∀ s u, Holding t (n :: held) s u →
      kids.Together kids' s u (fun a b s' u' => b = a ∧ Holding t (n :: held) s' u')
        State.SameUpToHooks) :
    (runAround options hooks n kids).Together (runAroundHolding options hooks n kids') s u
      (fun _ _ => Holding t held) State.SameUpToHooks := by
  apply Run.Together.bind (holding.openNode inside fresh)
  rintro started _ s₁ u₁ ⟨rfl, holding₁⟩
  apply Run.Together.bind (children s₁ u₁ holding₁)
  rintro _ abandoned s₂ u₂ ⟨rfl, holding₂⟩
  apply Run.Together.bind (holding₂.runSelf _)
  rintro - - s₃ u₃ holding₃
  exact holding₃.closeNode inside fresh started

/-- The children of a node are run together, while the hooks of nodes at or above it are in the
hand. -/
theorem runChildren (wf : t.WellFormed) (options : Options) (hooks : NodeId → Hooks) (n : NodeId)
    (cs : List NodeId) (children : ∀ c ∈ cs, c ∈ (t.get n).children) :
    ∀ held s u, (∀ m ∈ held, m ∈ t.ancestors n) → Holding t held s u →
      (runChildren options hooks n (t.belowAll n cs)).Together
        (runChildrenHolding options hooks n (t.belowAll n cs)) s u
        (fun a b s' u' => b = a ∧ Holding t held s' u')
        State.SameUpToHooks := by
  refine wf.children_induction (motive := fun n cs => ∀ held s u,
    (∀ m ∈ held, m ∈ t.ancestors n) → Holding t held s u →
      (SuiteTree.runChildren options hooks n (t.belowAll n cs)).Together
        (runChildrenHolding options hooks n (t.belowAll n cs)) s u
        (fun a b s' u' => b = a ∧ Holding t held s' u')
        State.SameUpToHooks) ?_ ?_ n cs children
  · intro n held s u above holding
    rw [Tree.belowAll]
    exact .pure ⟨rfl, holding⟩
  · intro n c rest children below beside held s u above holding
    have child := children c List.mem_cons_self
    have inside := wf.child_lt_size n c child
    -- the hooks in the hand belong to nodes at or above `n`, so those of the child are in the tree
    have fresh : c ∉ held := fun mem => wf.not_mem_ancestors_parent child (above c mem)
    rw [wf.belowAll_cons_child child]
    have rewound : Holding t held (s.rewindFor c) (u.rewindFor c) :=
      holding.change (·.rewindFor c) (fun s => s.rehooked_rewindFor c) fun _ => rfl
    refine .modify_bind (.bind (rewound.runAround inside fresh ?_) ?_)
    · intro s' u' holding'
      rw [Tree.below]
      apply below (c :: held) s' u' _ holding'
      intro m mem
      obtain rfl | mem := List.mem_cons.1 mem
      · exact Tree.mem_ancestors_self t m
      · exact Tree.mem_ancestors_trans (above m mem) (wf.mem_ancestors_child child)
    · rintro - - s' u' holding'
      refine .get_bind ?_
      rw [holding'.isFailed_eq]
      cases s'.tree.isFailed n with
      | true =>
          rw [holding'.name_eq, holding'.name_eq]
          exact .modify_bind (.pure ⟨rfl, holding'.change (·.log _) (fun _ => rfl) fun _ => rfl⟩)
      | false => exact beside held s' u' above holding'

end Holding

/-- From the state `s` on it is the same to run node `n` with the hooks in the hand: both runs end
in the same way, with the same tree and the same events, up to the presence of hooks in the trees
that the hooks found. -/
def RunsHolding (options : Options) (hooks : NodeId → Hooks) (n : NodeId) (s : State) : Prop :=
  (runNode options hooks n).Together (runNodeHolding options hooks n) s s
    (fun _ _ s' u' => u'.tree = s'.tree ∧ u'.world.rehooked = s'.world.rehooked)
    State.SameUpToHooks

/-- The hooks can be kept in the hand while a node runs. -/
theorem runNode_holding {s : State} {n : NodeId} (wf : s.tree.WellFormed) (inside : n < s.tree.size)
    (options : Options) (hooks : NodeId → Hooks) : RunsHolding options hooks n s := by
  refine .get_bind (((Holding.refl s).runAround inside List.not_mem_nil ?_).mono ?_)
  · intro s' u' holding
    rw [Tree.below]
    apply Holding.runChildren wf options hooks n _ (fun _ => id) _ s' u' _ holding
    intro m mem
    rw [List.mem_singleton.1 mem]
    exact Tree.mem_ancestors_self s.tree n
  · intro _ _ s' u' holding
    exact ⟨holding.tree_eq, holding.worlds⟩

end SuiteTree
