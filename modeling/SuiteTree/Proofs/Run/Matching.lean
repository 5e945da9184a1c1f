import SuiteTree.Proofs.Run.Lockstep
import SuiteTree.Proofs.Run.Schedule

/-!
# Matching runs

Two runs match if they agree on a part of the nodes and on what is read off their surroundings, and
if what they have emitted so far corresponds. What is compared is a parameter; the conditions on it
are collected in `Node.Steady`, `World.Steady` and `CourseSteady`, and under these conditions every
step of the runner keeps two runs matching. Only the calls of hooks are left to the single
comparisons, and for hooks that get the same answers in both runs these are reduced to the replies
to single requests.
-/

namespace SuiteTree

/-- What happened to a node, without the times and without the tree that was found. -/
inductive Deed (ν : Type)
  | entered (node : ν)
  | left (node : ν)
  | rewound (child : ν)
  | staged (node : ν) (stage : Stage)
  | called (node : ν) (phase : Phase)
  | answered (node : ν) (request : Request) (reply : request.Reply)

/-- The same deed at another node. -/
def Deed.map {ν μ : Type} (f : ν → μ) : Deed ν → Deed μ
  | entered n => entered (f n)
  | left n => left (f n)
  | rewound child => rewound (f child)
  | staged n stage => staged (f n) stage
  | called n phase => called (f n) phase
  | answered n request reply => answered (f n) request reply

/-- The deed that an event tells of. -/
def Event.deed? : Event → Option (Deed NodeId)
  | entered n => some (.entered n)
  | left n => some (.left n)
  | rewound child => some (.rewound child)
  | staged n stage => some (.staged n stage)
  | timed _ _ => none
  | called n phase _ => some (.called n phase)
  | answered n request reply => some (.answered n request reply)

/-- What happened in some events. -/
def deeds (es : List Event) : List (Deed NodeId) :=
  es.filterMap Event.deed?

@[simp] theorem deeds_append (a b : List Event) : deeds (a ++ b) = deeds a ++ deeds b :=
  List.filterMap_append

theorem mem_deeds_iff {d : Deed NodeId} {es : List Event} :
    d ∈ deeds es ↔ ∃ e ∈ es, e.deed? = some d :=
  List.mem_filterMap

/-- The node to which it happened. -/
def Deed.node {ν : Type} : Deed ν → ν
  | entered n | left n | rewound n | staged n _ | called n _ | answered n _ _ => n

theorem Event.node_of_deed? {e : Event} {d : Deed NodeId} (told : e.deed? = some d) :
    d.node = e.node := by
  cases e <;> cases told <;> rfl

/-- With other numbers and other names in their place, the deed is the same as with the names. -/
theorem Deed.map_map_of_node {ν μ κ : Type} {d : Deed ν} {ρ : ν → μ} {f : μ → κ} {g : ν → κ}
    (same : f (ρ d.node) = g d.node) : (d.map ρ).map f = d.map g := by
  cases d <;> simp only [Deed.map, Deed.node] at same ⊢ <;> rw [same]

section Comparison

variable {α κ : Type}

/-- What the runner makes of a part of a node depends on that part alone. The times that are noted
are taken from readings that are related by `clocks`. -/
structure Node.Steady (part : Node → α) (clocks : Time.Reading → Time.Reading → Prop) : Prop where
  begun : ∀ x y : Node, part y = part x →
    part { y with result := some {} } = part { x with result := some {} }
  staged : ∀ (stage : Stage) (x y : Node), part y = part x →
    part { y with stage } = part { x with stage }
  timed : ∀ {a a' b b' : Time.Reading}, clocks a a' → clocks b b' →
    ∀ x y : Node, part y = part x →
      part { y with result := y.result.map fun r => { r with elapsed := b'.since a' } } =
        part { x with result := x.result.map fun r => { r with elapsed := b.since a } }
  marked : ∀ x y : Node, part y = part x → part y.marked = part x.marked
  failed : ∀ x y : Node, part y = part x →
    y.result.any Result.isFailed = x.result.any Result.isFailed

/-- What the runner makes of a part of the surroundings depends on that part alone. -/
structure World.Steady (key : World → κ) (clocks : Time.Reading → Time.Reading → Prop) :
    Prop where
  log : ∀ (w : World) (rs : List Record), key (w.logAll rs) = key w
  emit : ∀ (w : World) (e : Event), key (w.emit e) = key w
  resetAttributes : ∀ w v : World, key v = key w → key v.resetAttributes = key w.resetAttributes
  rewindStreams : ∀ w v : World, key v = key w → key v.rewindStreams = key w.rewindStreams
  read : ∀ w v : World, key v = key w →
    clocks w.readClocks.1 v.readClocks.1 ∧ key v.readClocks.2 = key w.readClocks.2

/-- A relation between courses of events that the steps of the runner itself keep. -/
def CourseSteady (ρ : NodeId → NodeId) (course : List Event → List Event → Prop) : Prop :=
  ∀ {es es' : List Event} {e e' : Event}, course es es' → e.call? = none → e'.call? = none →
    e.isAnswer = false → e'.isAnswer = false → e'.deed? = e.deed?.map (Deed.map ρ) →
    course (es ++ [e]) (es' ++ [e'])

end Comparison

theorem Tree.isFailed_eq_any (t : Tree) (n : NodeId) :
    t.isFailed n = (t.get n).result.any Result.isFailed := by
  rw [Tree.isFailed]
  cases (t.get n).result <;> rfl

theorem Tree.isPassing_eq_all (t : Tree) (n : NodeId) :
    t.isPassing n = (t.get n).result.all Result.isPassing := by
  rw [Tree.isPassing]
  cases (t.get n).result <;> rfl

/-- The states `s` and `u` of two runs, since these were in the states `a` and `b`. -/
structure Matched {α κ : Type} (part : Node → α) (key : World → κ) (ρ : NodeId → NodeId)
    (nodes : NodeId → Prop) (course : List Event → List Event → Prop) (a b s u : State) :
    Prop where
  agree : Tree.Agree part ρ nodes s.tree u.tree
  world : key u.world = key s.world
  course : ∃ es es', a.Extends es s ∧ b.Extends es' u ∧ course es es'

/-- The last states of two runs that ended their processes, since these were in the states `a` and
`b`. What the request that ended the process did to the tree is not compared. -/
structure MatchedToEnd {α κ : Type} (part : Node → α) (key : World → κ) (ρ : NodeId → NodeId)
    (nodes : NodeId → Prop) (course : List Event → List Event → Prop) (a b s u : State) :
    Prop where
  world : key u.world = key s.world
  course : ∃ es es', s.world.events.toList = a.world.events.toList ++ es ∧
    u.world.events.toList = b.world.events.toList ++ es' ∧ course es es' ∧
    Tree.Agree part ρ nodes (a.tree.replay es) (b.tree.replay es')

theorem MatchedToEnd.on_fewer {α κ : Type} {part : Node → α} {key : World → κ}
    {ρ : NodeId → NodeId} {nodes fewer : NodeId → Prop}
    {course : List Event → List Event → Prop} {a b s u : State}
    (matched : MatchedToEnd part key ρ nodes course a b s u) (sub : ∀ m, fewer m → nodes m) :
    MatchedToEnd part key ρ fewer course a b s u := by
  obtain ⟨world, es, es', left, right, same, agree⟩ := matched
  exact ⟨world, es, es', left, right, same, fun m hm => agree m (sub m hm)⟩

namespace Matched

variable {α κ : Type} {part : Node → α} {key : World → κ} {ρ : NodeId → NodeId}
  {nodes : NodeId → Prop} {course : List Event → List Event → Prop}
  {clocks : Time.Reading → Time.Reading → Prop} {a b s u s' u' : State} {n : NodeId}
  {options options' : Options} {hooks hooks' : NodeId → Hooks} {phase : Phase}

theorem pristine (matched : Matched part key ρ nodes course a b s u) :
    s.tree.pristine = a.tree.pristine ∧ u.tree.pristine = b.tree.pristine := by
  obtain ⟨es, es', left, right, -⟩ := matched.course
  exact ⟨left.pristine, right.pristine⟩

theorem renames (matched : Matched part key ρ nodes course a b s u)
    (ren : Tree.Renames ρ nodes a.tree b.tree) : Tree.Renames ρ nodes s.tree u.tree :=
  ren.of_pristine matched.pristine.1 matched.pristine.2

/-- Two runs that match on some nodes match on fewer. -/
theorem on_fewer {fewer : NodeId → Prop} (matched : Matched part key ρ nodes course a b s u)
    (sub : ∀ m, fewer m → nodes m) : Matched part key ρ fewer course a b s u :=
  { matched with agree := fun m hm => matched.agree m (sub m hm) }

/-- Two runs that match go on with events that correspond, and may come to agree on other nodes. -/
theorem extend {es es' : List Event} {nodes' : NodeId → Prop}
    (matched : Matched part key ρ nodes course a b s u)
    (left : s.Extends es s') (right : u.Extends es' u')
    (agree : Tree.Agree part ρ nodes' s'.tree u'.tree) (world : key u'.world = key s'.world)
    (further : ∀ xs xs', course xs xs' → course (xs ++ es) (xs' ++ es')) :
    Matched part key ρ nodes' course a b s' u' := by
  obtain ⟨xs, xs', before, before', sofar⟩ := matched.course
  exact ⟨agree, world, xs ++ es, xs' ++ es', before.trans left, before'.trans right,
    further xs xs' sofar⟩

/-- Two runs that match make the same step by themselves. -/
theorem step {e e' : Event} (matched : Matched part key ρ nodes course a b s u)
    (steady : CourseSteady ρ course) (left : s.Extends [e] s') (right : u.Extends [e'] u')
    (agree : Tree.Agree part ρ nodes s'.tree u'.tree) (world : key u'.world = key s'.world)
    (call : e.call? = none) (call' : e'.call? = none) (answer : e.isAnswer = false)
    (answer' : e'.isAnswer = false) (deed : e'.deed? = e.deed?.map (Deed.map ρ)) :
    Matched part key ρ nodes course a b s' u' :=
  matched.extend left right agree world fun _ _ sofar =>
    steady sofar call call' answer answer' deed

/-- Changes of the surroundings that are not compared. -/
theorem of_world (matched : Matched part key ρ nodes course a b s u)
    (left : s.Extends [] s') (right : u.Extends [] u') (trees : s'.tree = s.tree ∧ u'.tree = u.tree)
    (world : key u'.world = key s'.world) : Matched part key ρ nodes course a b s' u' := by
  refine matched.extend left right ?_ world ?_
  · rw [trees.1, trees.2]
    exact matched.agree
  · intro xs xs' sofar
    rwa [List.append_nil, List.append_nil]

theorem leave (matched : Matched part key ρ nodes course a b s u)
    (surroundings : World.Steady key clocks) (steps : CourseSteady ρ course) :
    Matched part key ρ nodes course a b (s.leave n) (u.leave (ρ n)) := by
  refine matched.step steps State.extends_leave State.extends_leave matched.agree ?_ rfl rfl rfl
    rfl rfl
  apply surroundings.resetAttributes
  rw [surroundings.emit, surroundings.emit]
  exact matched.world

theorem rewindFor (matched : Matched part key ρ nodes course a b s u)
    (surroundings : World.Steady key clocks) (steps : CourseSteady ρ course) :
    Matched part key ρ nodes course a b (s.rewindFor n) (u.rewindFor (ρ n)) := by
  refine matched.step steps State.extends_rewindFor State.extends_rewindFor matched.agree ?_ rfl rfl
    rfl rfl rfl
  apply surroundings.rewindStreams
  rw [surroundings.emit, surroundings.emit]
  exact matched.world

section

variable (node : Node.Steady part clocks) (surroundings : World.Steady key clocks)
  (steps : CourseSteady ρ course) (ren : Tree.Renames ρ nodes a.tree b.tree)

include node surroundings steps ren

theorem setStage (matched : Matched part key ρ nodes course a b s u) (hn : nodes n)
    (stage : Stage) :
    Matched part key ρ nodes course a b (s.setStage n stage) (u.setStage (ρ n) stage) := by
  refine matched.step steps State.extends_setStage State.extends_setStage ?_ ?_ rfl rfl rfl rfl rfl
  · exact matched.agree.update (matched.renames ren) hn (node.staged stage)
  · rw [State.setStage, State.setStage, surroundings.emit, surroundings.emit, surroundings.log,
      surroundings.log]
    exact matched.world

/-- Entering a node makes the runs match on it, whatever was known of it before. -/
theorem enter (matched : Matched part key ρ nodes course a b s u) (hn : nodes n) :
    Matched part key ρ nodes course a b (s.enter n) (u.enter (ρ n)) := by
  refine matched.step steps State.extends_enter State.extends_enter ?_ ?_ rfl rfl rfl rfl rfl
  · exact matched.agree.update (matched.renames ren) hn node.begun
  · apply surroundings.resetAttributes
    rw [surroundings.emit, surroundings.emit]
    exact (surroundings.log u.world [_]).trans
      (matched.world.trans (surroundings.log s.world [_]).symm)

theorem setElapsed (matched : Matched part key ρ nodes course a b s u) (hn : nodes n)
    {x x' y y' : Time.Reading} (started : clocks x x') (ended : clocks y y') :
    Matched part key ρ nodes course a b (s.setElapsed n (y.since x))
      (u.setElapsed (ρ n) (y'.since x')) := by
  refine matched.step steps State.extends_setElapsed State.extends_setElapsed ?_ ?_ rfl rfl rfl rfl
    rfl
  · exact matched.agree.update (matched.renames ren) hn (node.timed started ended)
  · rw [State.setElapsed, State.setElapsed, surroundings.emit, surroundings.emit]
    exact matched.world

/-- Two runs stay matched to their end, if the calls of hooks keep them so. -/
theorem lockstep {H : State → State → Prop}
    (call : ∀ {s u n} (phase : Phase), nodes n → Matched part key ρ nodes course a b s u →
      (callHook options hooks n phase).Together (callHook options' hooks' (ρ n) phase) s u
        (fun _ _ => Matched part key ρ nodes course a b) H) :
    Lockstep options options' hooks hooks' ρ nodes clocks (Matched part key ρ nodes course a b)
      H where
  enter hn matched := matched.enter node surroundings steps ren hn
  call := call
  read {s u} matched := by
    obtain ⟨related, same⟩ := surroundings.read s.world u.world matched.world
    exact ⟨related, matched.of_world (.of_world rfl rfl (.of_eq rfl rfl))
      (.of_world rfl rfl (.of_eq rfl rfl)) ⟨rfl, rfl⟩ same⟩
  stage stage hn matched := matched.setStage node surroundings steps ren hn stage
  time hn started ended matched :=
    matched.setElapsed node surroundings steps ren hn started ended
  leave _ matched := matched.leave surroundings steps
  rewind _ matched := matched.rewindFor surroundings steps
  failed {s u n} hn matched := by
    rw [Tree.isFailed_eq_any, Tree.isFailed_eq_any]
    exact node.failed _ _ (matched.agree n hn)
  skip {s u} n c matched := by
    refine matched.of_world (.of_world rfl rfl (.of_eq rfl rfl))
      (.of_world rfl rfl (.of_eq rfl rfl)) ⟨rfl, rfl⟩ ?_
    exact (surroundings.log u.world [_]).trans
      (matched.world.trans (surroundings.log s.world [_]).symm)

end

end Matched

/-- The events of two runs that stay matched to their end correspond, and the trees agree with these
events. -/
theorem Run.Together.of_leads {α κ β γ : Type} {part : Node → α} {key : World → κ}
    {ρ : NodeId → NodeId} {nodes : NodeId → Prop} {course : List Event → List Event → Prop}
    {a b : State} {x : Run β} {y : Run γ} {w w' : List Event}
    (together : x.Together y a b (fun _ _ => Matched part key ρ nodes course a b)
      (MatchedToEnd part key ρ nodes course a b)) (left : x.Leads a w) (right : y.Leads b w') :
    course w w' ∧ Tree.Agree part ρ nodes (a.tree.replay w) (b.tree.replay w') := by
  have unique : ∀ {xs ys zs : List Event}, xs ++ ys = xs ++ zs → ys = zs :=
    List.append_cancel_left
  unfold Run.Together at together
  unfold Run.Leads at left right
  split at together
  · next ran ran' =>
    rw [ran] at left
    rw [ran'] at right
    obtain ⟨xs, xs', ext, ext', same⟩ := together.course
    obtain rfl := unique (ext.events.symm.trans left.events)
    obtain rfl := unique (ext'.events.symm.trans right.events)
    refine ⟨same, ?_⟩
    rw [← left.tree, ← right.tree]
    exact together.agree
  · next ran ran' =>
    rw [ran] at left
    rw [ran'] at right
    obtain ⟨xs, xs', events, events', same, agree⟩ := together.2.course
    obtain rfl := unique (events.symm.trans left)
    obtain rfl := unique (events'.symm.trans right)
    exact ⟨same, agree⟩
  · exact together.elim

end SuiteTree
