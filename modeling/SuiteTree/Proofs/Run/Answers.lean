import SuiteTree.Check
import SuiteTree.Proofs.Run.Matching

/-!
# Hooks that get the same answers

If every request of the hooks is replied to in the same way in two runs, then the hooks do the same
in both, and the runs match to the letter: their deeds are the same up to the numbers of the nodes.
What has to be shown of a request is `Request.Alike`. It is shown here for the requests that look no
further than their own node and the environment.
-/

namespace SuiteTree

/-- The same was done in both courses, up to the numbers of the nodes. -/
def SameDeeds (ρ : NodeId → NodeId) (es es' : List Event) : Prop :=
  deeds es' = (deeds es).map (Deed.map ρ)

theorem SameDeeds.append {ρ : NodeId → NodeId} {a a' b b' : List Event} (first : SameDeeds ρ a a')
    (second : SameDeeds ρ b b') : SameDeeds ρ (a ++ b) (a' ++ b') := by
  unfold SameDeeds at first second ⊢
  rw [deeds_append, deeds_append, first, second, List.map_append]

theorem sameDeeds_singleton {ρ : NodeId → NodeId} {e e' : Event}
    (deed : e'.deed? = e.deed?.map (Deed.map ρ)) : SameDeeds ρ [e] [e'] := by
  unfold SameDeeds deeds
  cases done : e.deed? with
  | none =>
      rw [done, Option.map_none] at deed
      rw [List.filterMap_cons_none done, List.filterMap_cons_none deed]
      rfl
  | some d =>
      rw [done, Option.map_some] at deed
      rw [List.filterMap_cons_some done, List.filterMap_cons_some deed]
      rfl

theorem sameDeeds_steady (ρ : NodeId → NodeId) : CourseSteady ρ (SameDeeds ρ) :=
  fun same _ _ _ _ deed => same.append (sameDeeds_singleton deed)

section

variable {α κ : Type} {part : Node → α} {key : World → κ} {ρ : NodeId → NodeId}
  {nodes : NodeId → Prop} {options : Options} {a b s u : State} {n : NodeId}

/-- What the runs must agree on once a request has been replied to. -/
def RepliedAlike (part : Node → α) (key : World → κ) (ρ : NodeId → NodeId) (nodes : NodeId → Prop)
    (s u : State) : Prop :=
  Tree.Agree part ρ nodes s.tree u.tree ∧ key u.world = key s.world

/-- The request is replied to in the same way in two runs that match, and they agree afterwards. -/
def Request.Alike (part : Node → α) (key : World → κ) (ρ : NodeId → NodeId) (nodes : NodeId → Prop)
    (options : Options) (a b : State) (r : Request) : Prop :=
  ∀ {s u : State} {n : NodeId}, nodes n → Matched part key ρ nodes (SameDeeds ρ) a b s u →
    (r.reply options n).Together (r.reply options (ρ n)) s u
      (fun x y s' u' => y = x ∧ RepliedAlike part key ρ nodes s' u')
      (fun s' u' => key u'.world = key s'.world)

/-- The answer to such a request keeps the runs matching. -/
theorem Matched.answer {r : Request} (alike : r.Alike part key ρ nodes options a b)
    (emit : ∀ (w : World) (e : Event), key (w.emit e) = key w) (hn : nodes n)
    (matched : Matched part key ρ nodes (SameDeeds ρ) a b s u) :
    (r.answer options n).Together (r.answer options (ρ n)) s u
      (fun x y s' u' => y = x ∧ Matched part key ρ nodes (SameDeeds ρ) a b s' u')
      (MatchedToEnd part key ρ nodes (SameDeeds ρ) a b) := by
  have replied := alike hn matched
  have left : (r.answer options n).Emits s _ _ := r.emits_answer
  have right : (r.answer options (ρ n)).Emits u _ _ := r.emits_answer
  unfold Run.Together at replied ⊢
  unfold Run.Emits at left right
  split at replied
  · next x s' y u' first second =>
    rw [Request.answer_of_ok first] at left ⊢
    rw [Request.answer_of_ok second] at right ⊢
    obtain ⟨rfl, agree, world⟩ := replied
    obtain ⟨_, ext, rfl⟩ := left
    obtain ⟨_, ext', rfl⟩ := right
    refine ⟨rfl, matched.extend ext ext' agree ?_ fun _ _ sofar => ?_⟩
    · rw [State.emit, State.emit, emit, emit]
      exact world
    · exact sofar.append (sameDeeds_singleton rfl)
  · next how s' how' u' first second =>
    rw [Request.answer_of_error first] at left ⊢
    rw [Request.answer_of_error second] at right ⊢
    obtain ⟨rfl, world⟩ := replied
    obtain ⟨_, events, rfl, -⟩ := left
    obtain ⟨_, events', rfl, -⟩ := right
    obtain ⟨es, es', ext, ext', same⟩ := matched.course
    refine ⟨rfl, world, es, es', ?_, ?_, same, ?_⟩
    · rw [events, List.append_nil, ext.events]
    · rw [events', List.append_nil, ext'.events]
    · rw [← ext.tree, ← ext'.tree]
      exact matched.agree
  · exact replied.elim

/-- Hooks that ask only what is answered alike are called together, once the runs match with both
nodes in the stage of the hook. -/
theorem Matched.together_callHook {clocks : Time.Reading → Time.Reading → Prop}
    {hooks hooks' : NodeId → Hooks} {kind : Request → Prop} {phase : Phase}
    (surroundings : World.Steady key clocks)
    (alike : ∀ r : Request, kind r → r.Alike part key ρ nodes options a b)
    (hooked : (b.tree.get (ρ n)).hooked = (a.tree.get n).hooked) (same : hooks' (ρ n) = hooks n)
    (all : ((hooks n).at phase).All kind) (hn : nodes n)
    (before : s.tree.pristine = a.tree.pristine ∧ u.tree.pristine = b.tree.pristine)
    (staged : Matched part key ρ nodes (SameDeeds ρ) a b (s.setStage n phase.stage)
      (u.setStage (ρ n) phase.stage)) :
    (callHook options hooks n phase).Together (callHook options hooks' (ρ n) phase) s u
      (fun _ _ => Matched part key ρ nodes (SameDeeds ρ) a b)
      (MatchedToEnd part key ρ nodes (SameDeeds ρ) a b) := by
  have bare : (u.tree.get (ρ n)).hooked = (s.tree.get n).hooked := by
    rw [Tree.hooked_eq_of_pristine before.1, Tree.hooked_eq_of_pristine before.2]
    exact hooked
  refine SuiteTree.together_callHook staged bare ?_
  intro staged
  rw [same]
  apply (Program.together_conduct _ all ?_ ?_).mono
  · exact fun _ _ _ _ post => post.2
  · intro r ofKind s u matched
    exact matched.answer (alike r ofKind) surroundings.emit hn
  · refine staged.extend State.extends_called State.extends_called staged.agree ?_ ?_
    · rw [State.emit, State.emit, surroundings.emit, surroundings.emit]
      exact staged.world
    · exact fun _ _ sofar => sofar.append (sameDeeds_singleton rfl)

/-- If all hooks ask only what is answered alike, two runs of a tree stay matched to their end. -/
theorem Matched.lockstep_of_alike {clocks : Time.Reading → Time.Reading → Prop}
    {hooks hooks' : NodeId → Hooks} {kind : Request → Prop} (node : Node.Steady part clocks)
    (surroundings : World.Steady key clocks) (ren : Tree.Renames ρ nodes a.tree b.tree)
    (alike : ∀ r : Request, kind r → r.Alike part key ρ nodes options a b)
    (hooked : ∀ n, nodes n → (b.tree.get (ρ n)).hooked = (a.tree.get n).hooked)
    (same : ∀ n, nodes n → hooks' (ρ n) = hooks n)
    (all : ∀ n phase, nodes n → ((hooks n).at phase).All kind) :
    Lockstep options options hooks hooks' ρ nodes clocks
      (Matched part key ρ nodes (SameDeeds ρ) a b)
      (MatchedToEnd part key ρ nodes (SameDeeds ρ) a b) := by
  refine Matched.lockstep node surroundings (sameDeeds_steady ρ) ren ?_
  intro s u n phase hn matched
  exact together_callHook surroundings alike (hooked n hn) (same n hn) (all n phase hn) hn
    matched.pristine (matched.setStage node surroundings (sameDeeds_steady ρ) ren hn phase.stage)

end

/-- The request is about the running node itself or about the environment, or it asks for nothing
that could differ. -/
def Request.Confined : Request → Prop
  | fail _ | isFailed | isPassing | options | assign _ _ | lookup _ | resetAttributes | drawStream
  | rewindStreams | log _ | note _ => True
  | tree | dataFile _ | tempFile _ | readFile _ | writeFile _ _ | remembered _ | remember _ _
  | exit _ => False

/-- Checks ask for nothing else. -/
theorem Check.confined (c : Check) : c.conduct.All Request.Confined := by
  unfold Check.conduct
  split
  · trivial
  · refine ⟨trivial, fun _ => ?_⟩
    split
    · trivial
    · exact ⟨trivial, fun _ => trivial⟩

section OwnNode

variable {α κ : Type}

/-- A part of the nodes tells what hooks can learn of their own node, and reports keep it so. -/
structure Node.Telling (part : Node → α) : Prop where
  recorded : ∀ (failure : Failure) (x y : Node), part y = part x →
    part (y.recorded failure) = part (x.recorded failure)
  passing : ∀ x y : Node, part y = part x →
    y.result.all Result.isPassing = x.result.all Result.isPassing

/-- A part of the surroundings shows the environment, and whatever becomes of that. -/
structure World.ShowsAmbient (key : World → κ) : Prop where
  ambient : ∀ w v : World, key v = key w → v.ambient = w.ambient
  set : ∀ (w v : World) (ambient : Ambient), key v = key w →
    key { v with ambient } = key { w with ambient }

variable {part : Node → α} {key : World → κ} {ρ : NodeId → NodeId} {nodes : NodeId → Prop}
  {options : Options} {a b : State} {clocks : Time.Reading → Time.Reading → Prop}

/-- Requests about the own node and the environment are answered alike. -/
theorem Request.Confined.alike {r : Request} (confined : r.Confined)
    (node : Node.Steady part clocks) (telling : Node.Telling part)
    (surroundings : World.Steady key clocks) (shows : World.ShowsAmbient key)
    (ren : Tree.Renames ρ nodes a.tree b.tree) : r.Alike part key ρ nodes options a b := by
  intro s u n hn matched
  have agree := matched.agree
  have world := matched.world
  have ambient := shows.ambient _ _ world
  have logged : ∀ rs rs', key (u.world.logAll rs') = key (s.world.logAll rs) := by
    intro rs rs'
    rw [surroundings.log, surroundings.log]
    exact world
  cases r with
  | fail failure =>
      have reported := agree.reportFailure (matched.renames ren) hn (telling.recorded failure)
        node.marked
      refine .modify_bind ?_
      split
      · refine .modify_bind (.throw ?_)
        exact (surroundings.log _ [_]).trans ((logged _ _).trans (surroundings.log _ [_]).symm)
      · exact .pure ⟨rfl, reported, logged _ _⟩
  | isFailed =>
      refine .get_bind (.pure ⟨?_, agree, world⟩)
      rw [Tree.isFailed_eq_any, Tree.isFailed_eq_any]
      exact node.failed _ _ (agree n hn)
  | isPassing =>
      refine .get_bind (.pure ⟨?_, agree, world⟩)
      rw [Tree.isPassing_eq_all, Tree.isPassing_eq_all]
      exact telling.passing _ _ (agree n hn)
  | options => exact .pure ⟨rfl, agree, world⟩
  | assign name value =>
      refine Run.Together.of_ok rfl rfl ⟨rfl, agree, ?_⟩
      show key { u.world with ambient := u.world.ambient.set name value } = _
      rw [ambient]
      exact shows.set _ _ _ world
  | lookup name =>
      refine .get_bind (.pure ⟨?_, agree, world⟩)
      rw [ambient]
  | resetAttributes =>
      exact Run.Together.of_ok rfl rfl ⟨rfl, agree, surroundings.resetAttributes _ _ world⟩
  | drawStream =>
      refine Run.Together.of_ok rfl rfl ⟨?_, agree, ?_⟩
      · show u.world.ambient.nextStream = s.world.ambient.nextStream
        rw [ambient]
      · show key { u.world with ambient := u.world.ambient.draw.2 } = _
        rw [ambient]
        exact shows.set _ _ _ world
  | rewindStreams =>
      exact Run.Together.of_ok rfl rfl ⟨rfl, agree, surroundings.rewindStreams _ _ world⟩
  | log record => exact .modify ⟨rfl, agree, logged [record] [record]⟩
  | note text => exact .pure ⟨rfl, agree, world⟩
  | _ => exact confined.elim

end OwnNode

end SuiteTree
