import SuiteTree.Builtin.Sample
import SuiteTree.Proofs.Run.Answers
import SuiteTree.Proofs.Run.Passage
import SuiteTree.Proofs.Tree.Reachable

/-!
# Isolation of a subtree

What happens between entering and leaving a node does not depend on what happened before: not on
the siblings that were run earlier, nor on the setup hooks of the nodes above, nor on the overrides
and the stream index that the run began with. Two runs of different trees that come past the same
subtree do the same there, as long as the hooks of the subtree look no further than their own node
and the environment.

Before the node is entered the environments of the two runs have only their defaults in common. The
streams are rewound for the node and the overrides are dropped when it is entered, and from then on
the environments are the same.
-/

namespace SuiteTree

/-- What a run has found out about a node, apart from the time that it took. -/
def Node.findings (node : Node) : Stage × List Failure × Bool :=
  (node.stage, (node.result.getD {}).failures, (node.result.getD {}).childrenFailed)

theorem Node.findings_eq_iff {x y : Node} : y.findings = x.findings ↔ y.stage = x.stage ∧
    (y.result.getD {}).failures = (x.result.getD {}).failures ∧
    (y.result.getD {}).childrenFailed = (x.result.getD {}).childrenFailed := by
  simp [findings]

/-- The time that is noted for a node is no finding. -/
theorem Node.findings_steady : Node.Steady Node.findings (fun _ _ => True) where
  begun x y same := by
    rw [findings_eq_iff] at same ⊢
    exact ⟨same.1, rfl, rfl⟩
  staged stage x y same := by
    rw [findings_eq_iff] at same ⊢
    exact ⟨rfl, same.2⟩
  timed _ _ x y same := by
    have kept : ∀ (node : Node) (elapsed : Time.Elapsed), Node.findings
        { node with result := node.result.map fun r => { r with elapsed } } = node.findings := by
      intro node elapsed
      cases result : node.result <;> simp [findings, result]
    rw [kept, kept, same]
  marked x y same := by
    rw [findings_eq_iff] at same ⊢
    exact ⟨same.1, same.2.1, rfl⟩
  failed x y same := by
    have read : ∀ node : Node, node.result.any Result.isFailed =
        ((node.result.getD {}).childrenFailed || !(node.result.getD {}).failures.isEmpty) := by
      intro node
      cases result : node.result <;> simp [Result.isFailed]
    rw [findings_eq_iff] at same
    rw [read, read, same.2.1, same.2.2]

theorem Node.findings_telling : Node.Telling Node.findings where
  recorded failure x y same := by
    rw [findings_eq_iff] at same ⊢
    exact ⟨same.1, congrArg (· ++ [failure]) same.2.1, same.2.2⟩
  passing x y same := by
    have read : ∀ node : Node, node.result.all Result.isPassing =
        (node.result.getD {}).failures.isEmpty := by
      intro node
      cases result : node.result <;> simp [Result.isPassing]
    rw [findings_eq_iff] at same
    rw [read, read, same.2.1]

/-- The environment changes by itself, whatever the clocks show. -/
theorem World.ambient_steady : World.Steady World.ambient (fun _ _ => True) where
  log _ _ := rfl
  emit _ _ := rfl
  resetAttributes _ _ same := congrArg Ambient.reset same
  rewindStreams _ _ same := congrArg Ambient.rewind same
  read _ _ same := ⟨trivial, same⟩

theorem World.ambient_shows : World.ShowsAmbient World.ambient where
  ambient _ _ same := same
  set _ _ _ _ := rfl

/-- When a node is entered for which the streams were rewound, only the defaults of the environment
have lasted. -/
theorem State.ambient_enter_rewindFor (s : State) (n m : NodeId) :
    ((s.rewindFor n).enter m).world.ambient = { defaults := s.world.ambient.defaults } := rfl

/-- The deed is that node `c` is left. -/
def Deed.leaves (c : NodeId) : Deed NodeId → Bool
  | left n => n == c
  | _ => false

def Event.enters (c : NodeId) : Event → Bool
  | entered n => n == c
  | _ => false

def Event.leaves (c : NodeId) (e : Event) : Bool :=
  e.deed?.any (Deed.leaves c)

/-- What happened from entering node `c` until it was left. -/
def stay (c : NodeId) (es : List Event) : List Event :=
  (es.dropWhile fun e => !e.enters c).takeWhile fun e => !e.leaves c

section Stay

variable {c n : NodeId} {es before w after : List Event}

theorem Event.enters_iff {e : Event} : e.enters c = true ↔ e = .entered c := by
  cases e <;> simp [enters]

theorem Event.leaves_iff {e : Event} : e.leaves c = true ↔ e = .left c := by
  cases e <;> simp [leaves, deed?, Deed.leaves]

/-- What is taken of the events up to the leaving of a node is taken of the deeds. -/
theorem deeds_until_left (c : NodeId) (es : List Event) :
    deeds (es.takeWhile fun e => !e.leaves c) = (deeds es).takeWhile fun d => !d.leaves c := by
  induction es with
  | nil => rfl
  | cons e es ih =>
      unfold deeds at ih ⊢
      cases told : e.deed? with
      | none =>
          have stays : e.leaves c = false := by rw [Event.leaves, told, Option.any_none]
          simp [told, stays, ih]
      | some d =>
          have same : e.leaves c = d.leaves c := by rw [Event.leaves, told, Option.any_some]
          cases leaves : d.leaves c with
          | true => simp [told, same, leaves]
          | false => simp [told, same, leaves, ih]

theorem left_mem_deeds_iff : .left n ∈ deeds es ↔ .left n ∈ es := by
  rw [mem_deeds_iff]
  constructor
  · rintro ⟨e, mem, told⟩
    cases e <;> simp_all [Event.deed?]
  · exact fun mem => ⟨_, mem, rfl⟩

theorem stay_eq {t : Tree} (first : Avoids t c before) (begun : ∃ tail, w = .entered c :: tail)
    (ended : after = [] ∨ .left c ∈ w) :
    stay c (before ++ .rewound c :: (w ++ after)) = w.takeWhile fun e => !e.leaves c := by
  have outside : ∀ e ∈ before, (!e.enters c) = true := by
    intro e mem
    rw [Bool.not_eq_true', Bool.eq_false_iff]
    intro enters
    rw [Event.enters_iff] at enters
    exact first e mem (enters ▸ Tree.mem_ancestors_self t c)
  obtain ⟨tail, rfl⟩ := begun
  have entered : Event.enters c (.entered c) = true := Event.enters_iff.2 rfl
  rw [stay, List.dropWhile_append_of_pos outside,
    List.dropWhile_cons_of_pos (by rfl), List.cons_append,
    List.dropWhile_cons_of_neg (by simp [entered])]
  obtain rfl | left := ended
  · rw [List.append_nil]
  · -- The node is left before anything happens after its run.
    rw [← List.cons_append, List.takeWhile_append, if_neg]
    intro all
    have stays := List.takeWhile_eq_self_iff.1
      ((List.takeWhile_prefix fun e : Event => !e.leaves c).eq_of_length all) _ left
    simp [Event.leaves_iff.2] at stays

/-- With other numbers the node is left at the same place. -/
theorem map_until_left {ρ : NodeId → NodeId} (ds : List (Deed NodeId))
    (injective : ∀ n, .left n ∈ ds → ρ n = ρ c → n = c) :
    (ds.map (Deed.map ρ)).takeWhile (fun d => !d.leaves (ρ c)) =
      (ds.takeWhile fun d => !d.leaves c).map (Deed.map ρ) := by
  induction ds with
  | nil => rfl
  | cons d ds ih =>
      have rest := ih fun n mem => injective n (List.mem_cons_of_mem _ mem)
      have same : (d.map ρ).leaves (ρ c) = d.leaves c := by
        cases d with
        | left n =>
            have one := injective n List.mem_cons_self
            simp only [Deed.map, Deed.leaves]
            rw [Bool.eq_iff_iff, beq_iff_eq, beq_iff_eq]
            exact ⟨one, congrArg ρ⟩
        | _ => rfl
      cases leaves : d.leaves c with
      | true => simp [same, leaves]
      | false => simp [same, leaves, rest]

theorem SameDeeds.until_left {ρ : NodeId → NodeId} {w' : List Event} (same : SameDeeds ρ w w')
    (injective : ∀ n, .left n ∈ w → ρ n = ρ c → n = c) :
    SameDeeds ρ (w.takeWhile fun e => !e.leaves c) (w'.takeWhile fun e => !e.leaves (ρ c)) := by
  unfold SameDeeds at same ⊢
  rw [deeds_until_left, deeds_until_left, same]
  exact map_until_left _ fun n mem => injective n (left_mem_deeds_iff.1 mem)

/-- If the same is done, the same nodes are left. -/
theorem SameDeeds.left_iff {ρ : NodeId → NodeId} {w' : List Event} (same : SameDeeds ρ w w')
    (injective : ∀ n, .left n ∈ w → ρ n = ρ c → n = c) : .left (ρ c) ∈ w' ↔ .left c ∈ w := by
  rw [← left_mem_deeds_iff, ← left_mem_deeds_iff, same, List.mem_map]
  constructor
  · rintro ⟨d, mem, renamed⟩
    cases d with
    | left n =>
        obtain rfl := injective n (left_mem_deeds_iff.1 mem) (Deed.left.inj renamed)
        exact mem
    | _ => cases renamed
  · exact fun mem => ⟨_, mem, rfl⟩

end Stay

/-- The subtree at `c` is the same in both trees, up to the numbers of the nodes: its shape, the
hooks that its nodes have, and what has been found out about them, which is nothing if nothing has
run. -/
structure SameSubtree (ρ : NodeId → NodeId) (t : Tree) (hooks : NodeId → Hooks) (c : NodeId)
    (t' : Tree) (hooks' : NodeId → Hooks) : Prop where
  shape : Tree.Copies ρ t c t'
  hooks : ∀ m, c ∈ t.ancestors m → hooks' (ρ m) = hooks m
  hooked : ∀ m, c ∈ t.ancestors m → (t'.get (ρ m)).hooked = (t.get m).hooked
  findings : Tree.Agree Node.findings ρ (c ∈ t.ancestors ·) t t'

/-- Two runs did the same while they were at `c` in the one and at its counterpart in the other
tree. The trees are `u` and `u'` after the runs. -/
structure SameStay (ρ : NodeId → NodeId) (t : Tree) (c : NodeId) (u : Tree) (es : List Event)
    (u' : Tree) (es' : List Event) : Prop where
  /-- The calls of hooks, their requests and the replies, and the stages. -/
  deeds : SameDeeds ρ (stay c es) (stay (ρ c) es')
  /-- The node was left in both runs or in none. -/
  left : .left (ρ c) ∈ es' ↔ .left c ∈ es
  findings : ∀ m, c ∈ t.ancestors m → (u'.get (ρ m)).stage = (u.get m).stage ∧
    u'.failures (ρ m) = u.failures m ∧ u'.childrenFailed (ρ m) = u.childrenFailed m

/-- The events `w` are those of the run of node `c`, which begins in state `s₁`. -/
structure Past (options : Options) (hooks : NodeId → Hooks) (t : Tree) (c : NodeId) (s : State)
    (es : List Event) (s₁ : State) (w : List Event) : Prop where
  pristine : s₁.tree.pristine = s.tree.pristine
  defaults : s₁.world.ambient.defaults = s.world.ambient.defaults
  before : ∀ m, c ∈ t.ancestors m → s₁.tree.get m = s.tree.get m
  led : (runChild options hooks t c).Leads (s₁.rewindFor c) w
  scope : ∀ e ∈ w, c ∈ t.ancestors e.node
  stay : stay c es = w.takeWhile fun e => !e.leaves c
  left : .left c ∈ es ↔ .left c ∈ w
  after : ∀ m, c ∈ t.ancestors m → (s.tree.replay es).get m = (s₁.tree.replay w).get m

section Passing

variable {options : Options} {hooks : NodeId → Hooks} {t : Tree} {c n : NodeId} {s s₁ : State}
  {stop : Option Halt} {how : Halt} {es before w after : List Event}

theorem Visit.left_mem (visit : Visit t n es) : .left n ∈ es := by
  cases visit with
  | mk opening descent own leaving =>
      cases leaving with
      | mk call => simp

/-- A run that breaks off has entered its node. -/
theorem BreaksOff.eq_cons (breaks : BreaksOff options hooks (Visit t n) how es) (wf : t.WellFormed)
    (inside : n < t.size) : ∃ tail, es = .entered n :: tail := by
  obtain ⟨⟨first, m, phase, u, answers, rfl, -, -⟩, more, -, visit⟩ := breaks
  obtain ⟨tail, whole, -⟩ := visit.eq_cons wf inside
  cases first with
  | nil => cases whole
  | cons e first =>
      obtain ⟨rfl, -⟩ := List.cons.inj whole
      exact ⟨_, rfl⟩

theorem Past.of_parts (same : s.tree.pristine = t.pristine) (reached : s.Extends before s₁)
    (first : Avoids t c before) (last : Avoids t c after)
    (led : (runChild options hooks t c).Leads (s₁.rewindFor c) w)
    (scope : ∀ e ∈ w, c ∈ s₁.tree.ancestors e.node) (begun : ∃ tail, w = .entered c :: tail)
    (ended : after = [] ∨ .left c ∈ w) :
    Past options hooks t c s (before ++ .rewound c :: (w ++ after)) s₁ w := by
  have links := reached.pristine
  have elsewhere : ∀ {a : List Event}, Avoids t c a → ∀ {u : Tree}, u.pristine = t.pristine →
      ∀ m, c ∈ t.ancestors m → (u.replay a).get m = u.get m := by
    intro a avoids u links m up
    rw [← Tree.ancestors_eq_of_pristine links] at up
    refine Avoids.get_replay (fun e mem above => avoids e mem ?_) up
    rwa [← Tree.ancestors_eq_of_pristine links]
  refine ⟨links, reached.lasts.defaults, ?_, led, ?_, stay_eq first begun ended, ?_, ?_⟩
  · intro m up
    rw [reached.tree]
    exact elsewhere first same m up
  · intro e mem
    rw [← Tree.ancestors_eq_of_pristine (links.trans same)]
    exact scope e mem
  · have outside : ∀ {a : List Event}, Avoids t c a → .left c ∉ a := fun avoids mem =>
      avoids _ mem (Tree.mem_ancestors_self t c)
    simp [outside first, outside last]
  · intro m up
    rw [Tree.replay_append, ← reached.tree, Tree.replay_cons, Tree.replay_append]
    refine elsewhere last ?_ m up
    rw [Tree.pristine_replay, Tree.pristine_after, links, same]

/-- A run that enters the node has come past it. -/
theorem Passage.past (passage : Passage options hooks t c s stop es) (wf : t.WellFormed)
    (inside : c < t.size) (same : s.tree.pristine = t.pristine) (entered : .entered c ∈ es) :
    ∃ s₁ w, Past options hooks t c s es s₁ w := by
  have orderly : ∀ {before : List Event} {s₁ : State}, s.Extends before s₁ →
      s₁.tree.WellFormed ∧ c < s₁.tree.size := by
    intro before s₁ reached
    have links := reached.pristine.trans same
    exact ⟨wf.of_pristine links.symm, by rwa [Tree.size_eq_of_pristine links]⟩
  cases passage with
  | around avoids => exact absurd (Tree.mem_ancestors_self t c) (avoids _ entered)
  | @through _ before w after s₁ reached first led visit last =>
      obtain ⟨wf₁, inside₁⟩ := orderly reached
      obtain ⟨tail, begun, -⟩ := visit.eq_cons wf₁ inside₁
      exact ⟨s₁, w, .of_parts same reached first last led (visit.scope wf₁ inside₁) ⟨tail, begun⟩
        (.inr visit.left_mem)⟩
  | @broken how before w s₁ reached first led breaks =>
      obtain ⟨wf₁, inside₁⟩ := orderly reached
      have scope := breaks.forall fun _ visit => visit.scope wf₁ inside₁
      have last : Avoids t c [] := by simp [Avoids]
      have past := Past.of_parts same reached first last led scope (breaks.eq_cons wf₁ inside₁)
        (.inl rfl)
      rw [List.append_nil] at past
      exact ⟨s₁, w, past⟩

end Passing

section TwoRuns

variable {ρ : NodeId → NodeId} {options : Options} {hooks hooks' : NodeId → Hooks} {t t' : Tree}
  {c : NodeId} {s s₁ u u₁ : State} {es es' w w' : List Event}

/-- The runs of the subtree by itself do the same, wherever they begin. -/
theorem together_runChild (wf : t.WellFormed) (wf' : t'.WellFormed)
    (same : SameSubtree ρ t hooks c t' hooks')
    (confined : ∀ m phase, c ∈ t.ancestors m → ((hooks m).at phase).All Request.Confined)
    (left : s₁.tree.pristine = t.pristine) (right : u₁.tree.pristine = t'.pristine)
    (defaults : u₁.world.ambient.defaults = s₁.world.ambient.defaults)
    (agree : Tree.Agree Node.findings ρ (c ∈ t.ancestors ·) s₁.tree u₁.tree) :
    (runChild options hooks t c).Together (runChild options hooks' t' (ρ c)) (s₁.rewindFor c)
      (u₁.rewindFor (ρ c))
      (fun _ _ => Matched Node.findings World.ambient ρ (c ∈ t.ancestors ·) (SameDeeds ρ)
        (s₁.rewindFor c) (u₁.rewindFor (ρ c)))
      (MatchedToEnd Node.findings World.ambient ρ (c ∈ t.ancestors ·) (SameDeeds ρ)
        (s₁.rewindFor c) (u₁.rewindFor (ρ c))) := by
  have ren : Tree.Renames ρ (c ∈ t.ancestors ·) (s₁.rewindFor c).tree (u₁.rewindFor (ρ c)).tree :=
    (same.shape.renames wf wf').of_pristine left right
  have own : c ∈ t.ancestors c := Tree.mem_ancestors_self t c
  have hooked : ∀ m, c ∈ t.ancestors m →
      ((u₁.rewindFor (ρ c)).tree.get (ρ m)).hooked = ((s₁.rewindFor c).tree.get m).hooked := by
    intro m up
    rw [State.rewindFor, State.rewindFor, Tree.hooked_eq_of_pristine left,
      Tree.hooked_eq_of_pristine right]
    exact same.hooked m up
  have lock : Lockstep options options hooks hooks' ρ (c ∈ t.ancestors ·) _
      (Matched Node.findings World.ambient ρ _ (SameDeeds ρ) _ _)
      (MatchedToEnd Node.findings World.ambient ρ _ (SameDeeds ρ) _ _) :=
    Matched.lockstep_of_alike Node.findings_steady World.ambient_steady ren
      (fun r confined => confined.alike Node.findings_steady Node.findings_telling
        World.ambient_steady World.ambient_shows ren)
      hooked same.hooks fun m phase up => confined m phase up
  have entered : Matched Node.findings World.ambient ρ (c ∈ t.ancestors ·) (SameDeeds ρ)
      (s₁.rewindFor c) (u₁.rewindFor (ρ c)) ((s₁.rewindFor c).enter c)
      ((u₁.rewindFor (ρ c)).enter (ρ c)) := by
    refine ⟨agree.update ren own Node.findings_steady.begun, ?_, [_], [_], State.extends_enter,
      State.extends_enter, sameDeeds_singleton rfl⟩
    rw [State.ambient_enter_rewindFor, State.ambient_enter_rewindFor, defaults]
  unfold runChild
  apply lock.runAround own entered
  intro s' u' matched
  rw [same.shape.below_map wf wf' own]
  refine lock.runChildren own _ ?_ matched
  exact fun m mem => (wf.mem_below_iff.1 mem).1

/-- Two runs that come past the same subtree make the same stay there. -/
theorem Past.same_stay (past : Past options hooks t c s es s₁ w)
    (past' : Past options hooks' t' (ρ c) u es' u₁ w') (wf : t.WellFormed) (wf' : t'.WellFormed)
    (same : SameSubtree ρ t hooks c t' hooks')
    (confined : ∀ m phase, c ∈ t.ancestors m → ((hooks m).at phase).All Request.Confined)
    (left : s.tree = t) (right : u.tree = t')
    (defaults : u.world.ambient.defaults = s.world.ambient.defaults) :
    SameStay ρ t c (t.replay es) es (t'.replay es') es' := by
  subst left right
  have ren := same.shape.renames wf wf'
  have own : c ∈ s.tree.ancestors c := Tree.mem_ancestors_self _ c
  have below : ∀ m, c ∈ s.tree.ancestors m → ρ c ∈ u.tree.ancestors (ρ m) := fun m up =>
    (ren.above c m own up).2 up
  have agree : Tree.Agree Node.findings ρ (c ∈ s.tree.ancestors ·) s₁.tree u₁.tree := by
    intro m up
    rw [past.before m up, past'.before _ (below m up)]
    exact same.findings m up
  obtain ⟨deeds, after⟩ := (together_runChild wf wf' same confined past.pristine
    past'.pristine (past'.defaults.trans (defaults.trans past.defaults.symm)) agree).of_leads
    past.led past'.led
  have injective : ∀ n, .left n ∈ w → ρ n = ρ c → n = c := fun n mem eq =>
    ren.injective (past.scope _ mem) own eq
  refine ⟨?_, ?_, ?_⟩
  · rw [past.stay, past'.stay]
    exact deeds.until_left injective
  · rw [past.left, past'.left]
    exact deeds.left_iff injective
  · intro m up
    rw [Tree.failures, Tree.failures, Tree.childrenFailed, Tree.childrenFailed, past.after m up,
      past'.after _ (below m up)]
    exact Node.findings_eq_iff.1 (after m up)

end TwoRuns

/-- Whatever a run of node `n` comes to, `P` holds of its tree and its events. If it ends the
process, the tree is the one that the events so far lead to. -/
def Tree.AlwaysAfter (t : Tree) (options : Options) (hooks : NodeId → Hooks) (n : NodeId)
    (world : World) (P : Tree → List Event → Prop) : Prop :=
  t.AfterRun options hooks n world P fun _ es => P (t.replay es) es

theorem Passes.alwaysAfter {options : Options} {hooks : NodeId → Hooks} {t : Tree} {n c : NodeId}
    {world : World} {P : Tree → List Event → Prop}
    (passes : Passes (runNode options hooks n) options hooks t c ⟨t, world⟩)
    (post : ∀ stop es, Passage options hooks t c ⟨t, world⟩ stop es → P (t.replay es) es) :
    t.AlwaysAfter options hooks n world P := by
  unfold Passes Run.Emits at passes
  unfold Tree.AlwaysAfter Tree.AfterRun
  split at passes
  · next s result =>
    obtain ⟨es, ext, passage⟩ := passes
    rw [result]
    exact ⟨es, ext.events, ext.tree ▸ post none es passage⟩
  · next how s result =>
    obtain ⟨es, events, passage⟩ := passes
    rw [result]
    exact ⟨es, events, post (some how) es passage⟩

/-- The law of isolation. A subtree stands in two trees, under a node other than the root, and its
hooks look no further than their own node and the environment. The roots are run with the same
options in environments with the same defaults. If both runs enter the subtree, they do the same
there, with the same replies to the hooks, and the nodes of the subtree end with the same failures
and in the same stages. -/
theorem runNode_isolated {ρ : NodeId → NodeId} {t t' : Tree} (reach : t.Reachable)
    (reach' : t'.Reachable) {hooks hooks' : NodeId → Hooks} {c : NodeId} (ne : c ≠ Tree.root)
    (ne' : ρ c ≠ Tree.root) (same : SameSubtree ρ t hooks c t' hooks')
    (confined : ∀ m phase, c ∈ t.ancestors m → ((hooks m).at phase).All Request.Confined)
    (options : Options) {world world' : World}
    (defaults : world'.ambient.defaults = world.ambient.defaults) :
    t.AlwaysAfter options hooks Tree.root world fun u es =>
      t'.AlwaysAfter options hooks' Tree.root world' fun u' es' =>
        .entered c ∈ es → .entered (ρ c) ∈ es' → SameStay ρ t c u es u' es' := by
  have wf := reach.wellFormed
  have wf' := reach'.wellFormed
  have apart : ∀ (u : Tree) (d : NodeId), d ≠ Tree.root → d ∉ u.ancestors Tree.root :=
    fun u d ne up => ne (Tree.eq_root_of_mem_ancestors up)
  apply (passes_runNode wf wf.root_lt_size (apart t c ne) rfl).alwaysAfter
  intro stop es passage
  apply (passes_runNode wf' wf'.root_lt_size (apart t' (ρ c) ne') rfl).alwaysAfter
  intro stop' es' passage' entered entered'
  obtain ⟨s₁, w, past⟩ := passage.past wf same.shape.inside rfl entered
  obtain ⟨u₁, w', past'⟩ := passage'.past wf' same.shape.inside' rfl entered'
  exact past.same_stay past' wf wf' same confined rfl rfl defaults

/-- A run that comes to its end has entered what its events tell. -/
theorem exists_entered_of_eval {options : Options} {hooks : NodeId → Hooks} {t : Tree}
    {world : World} {c : NodeId} (forest : Forest) (shape : t.below Tree.root = forest)
    (eval : (match runAround options hooks Tree.root
        (runChildren options hooks Tree.root forest) ⟨t, world⟩ with
      | .ok _ s => s.world.events.toList.any (Event.enters c)
      | .error _ _ => false) = true) :
    ∃ s, runNode options hooks Tree.root ⟨t, world⟩ = .ok () s ∧
      .entered c ∈ s.world.events.toList := by
  obtain ⟨s, result, entered⟩ := exists_ended_of_eval
    (p := fun s => s.world.events.toList.any (Event.enters c)) forest shape eval
  obtain ⟨e, mem, enters⟩ := List.any_eq_true.1 entered
  exact ⟨s, result, Event.enters_iff.1 enters ▸ mem⟩

/-- The case of the sample suite that draws streams gets the first ones, after a case that has drawn
one as well as alone in a run that begins with a later one. -/
theorem substreams_isolated :
    let drawing : Program Unit :=
      .ask .drawStream fun _ => .ask (.assign "steps" "7") fun _ => .skip
    let hooks : NodeId → Hooks := fun n =>
      if n = 1 then { run := drawing } else if n = 2 then Builtin.Sample.substreams else .idle
    let hooks' : NodeId → Hooks := fun n =>
      if n = 1 then Builtin.Sample.substreams else .idle
    let alone : Tree := ((Tree.new "alone").add 0 "second" .quick).2
    let used : World := { ambient := { overrides := [("steps", "3")], nextStream := 5 } }
    (∃ s, runNode {} hooks Tree.root ⟨Tree.twoCases, {}⟩ = .ok () s ∧
        .entered 2 ∈ s.world.events.toList) ∧
      (∃ s, runNode {} hooks' Tree.root ⟨alone, used⟩ = .ok () s ∧
        .entered 1 ∈ s.world.events.toList) ∧
      Tree.twoCases.Reachable ∧ alone.Reachable ∧
      SameSubtree (fun _ => 1) Tree.twoCases hooks 2 alone hooks' ∧
      (∀ m phase, 2 ∈ Tree.twoCases.ancestors m → ((hooks m).at phase).All Request.Confined) ∧
      Tree.twoCases.AlwaysAfter {} hooks Tree.root {} fun u es =>
        alone.AlwaysAfter {} hooks' Tree.root used fun u' es' =>
          .entered 2 ∈ es → .entered 1 ∈ es' →
            SameStay (fun _ => 1) Tree.twoCases 2 u es u' es' := by
  intro drawing hooks hooks' alone used
  have reach := Tree.twoCases_reachable
  have reach' : alone.Reachable := .add (.new "alone") (by decide) "second" .quick
  have leaf : ∀ m, 2 ∈ Tree.twoCases.ancestors m → m = 2 := by
    intro m up
    have inside : m < 3 := Tree.lt_size_of_mem_ancestors up (by decide)
    exact Nat.le_antisymm (Nat.le_of_lt_succ inside) (Tree.le_of_mem_ancestors up)
  have same : SameSubtree (fun _ => 1) Tree.twoCases hooks 2 alone hooks' := by
    refine ⟨⟨by decide, by decide, ?_⟩, ?_, ?_, ?_⟩
    all_goals
      intro m up
      rw [leaf m up]
      rfl
  have confined : ∀ m phase, 2 ∈ Tree.twoCases.ancestors m →
      ((hooks m).at phase).All Request.Confined := by
    intro m phase up
    rw [leaf m up]
    cases phase with
    | run =>
        refine ⟨trivial, fun first => ⟨trivial, fun second => Program.all_steps ?_⟩⟩
        simp [Check.confined]
    | _ => trivial
  have shape : alone.below Tree.root = .node 1 .nil .nil := by
    simp [alone, Tree.below, Tree.belowAll, Tree.add, Tree.new, Tree.update, Tree.get, Tree.size,
      Tree.root]
  exact ⟨exists_entered_of_eval _ Tree.twoCases_below (by decide +kernel),
    exists_entered_of_eval _ shape (by decide +kernel), reach, reach', same, confined,
    runNode_isolated reach reach' (by decide) (by decide) same confined {} rfl⟩

end SuiteTree
