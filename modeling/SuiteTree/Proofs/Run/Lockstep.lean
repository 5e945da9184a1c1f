import SuiteTree.Proofs.Run.Emission
import SuiteTree.Proofs.Tree.Renaming

/-!
# Runs in lockstep

Two runs are compared step by step. `Run.Together` says that two computations end in the same way,
and what the states are like in which they end; its rules follow the construction of computations.
`Lockstep` collects what the steps of two runs must keep for a relation between their states to hold
all the way: the nodes of the first run are renamed in the second one, and nothing is assumed of the
relation itself. `Nested` is for relations that depend on which nodes are open at the time. The
induction over the forest below a node is done there, once for all relations.
-/

namespace SuiteTree

namespace Run

variable {α β γ δ : Type}

/-- Two computations that start in the states `s` and `u` both end with a value, and `Q` holds
then, or both end the process in the same way, and `H` holds then. -/
def Together (x : Run α) (y : Run β) (s u : State) (Q : α → β → State → State → Prop)
    (H : State → State → Prop) : Prop :=
  match x s, y u with
  | .ok a s', .ok b u' => Q a b s' u'
  | .error how s', .error how' u' => how' = how ∧ H s' u'
  | _, _ => False

namespace Together

variable {x : Run α} {y : Run β} {s u : State} {Q Q' : α → β → State → State → Prop}
  {H : State → State → Prop}

theorem mono (together : x.Together y s u Q H)
    (value : ∀ a b s' u', Q a b s' u' → Q' a b s' u') : x.Together y s u Q' H := by
  unfold Together at together ⊢
  cases first : x s with
  | ok a s' =>
      cases second : y u with
      | ok b u' =>
          simp only [first, second] at together ⊢
          exact value a b s' u' together
      | error how' u' => simp only [first, second] at together
  | error how s' =>
      cases second : y u with
      | ok b u' => simp only [first, second] at together
      | error how' u' =>
          simp only [first, second] at together ⊢
          exact together

theorem mono_halts {H' : State → State → Prop} (together : x.Together y s u Q H)
    (halts : ∀ s' u', H s' u' → H' s' u') : x.Together y s u Q H' := by
  unfold Together at together ⊢
  split at together
  · exact together
  · exact ⟨together.1, halts _ _ together.2⟩
  · exact together.elim

/-- What the two computations emit. -/
theorem with_emits {P : α → List Event → Prop} {P' : β → List Event → Prop}
    {I I' : Halt → List Event → Prop} (together : x.Together y s u Q H) (left : x.Emits s P I)
    (right : y.Emits u P' I') :
    x.Together y s u
      (fun a b s' u' => Q a b s' u' ∧ (∃ es, s.Extends es s' ∧ P a es) ∧
        ∃ es', u.Extends es' u' ∧ P' b es')
      (fun s' u' => H s' u' ∧ ∃ how,
        (∃ es, s'.world.events.toList = s.world.events.toList ++ es ∧ I how es) ∧
        ∃ es', u'.world.events.toList = u.world.events.toList ++ es' ∧ I' how es') := by
  unfold Together at together ⊢
  unfold Emits at left right
  split at together
  · next first second =>
    rw [first] at left
    rw [second] at right
    exact ⟨together, left, right⟩
  · next how s' how' u' first second =>
    rw [first] at left
    rw [second] at right
    obtain ⟨rfl, post⟩ := together
    exact ⟨rfl, post, how', left, right⟩
  · exact together.elim

/-- Two computations that end with known values in known states. -/
theorem of_ok {a : α} {b : β} {s' u' : State} (first : x s = .ok a s') (second : y u = .ok b u')
    (post : Q a b s' u') : x.Together y s u Q H := by
  unfold Together
  rw [first, second]
  exact post

theorem of_error {how : Halt} {s' u' : State} (first : x s = .error how s')
    (second : y u = .error how u') (post : H s' u') : x.Together y s u Q H := by
  unfold Together
  rw [first, second]
  exact ⟨rfl, post⟩

theorem pure {a : α} {b : β} (post : Q a b s u) :
    Together (Pure.pure a) (Pure.pure b) s u Q H :=
  of_ok rfl rfl post

theorem throw {how : Halt} (post : H s u) :
    Together (throw how : Run α) (throw how : Run β) s u Q H :=
  of_error rfl rfl post

/-- Two sequences of computations, the second parts of which start where the first ones end. -/
theorem bind {f : α → Run γ} {g : β → Run δ} {P : γ → δ → State → State → Prop}
    (first : x.Together y s u Q H)
    (second : ∀ a b s' u', Q a b s' u' → (f a).Together (g b) s' u' P H) :
    (x >>= f).Together (y >>= g) s u P H := by
  unfold Together at first
  cases left : x s with
  | ok a s' =>
      cases right : y u with
      | ok b u' =>
          simp only [left, right] at first
          have rest := second a b s' u' first
          unfold Together at rest ⊢
          rw [bind_of_ok left, bind_of_ok right]
          exact rest
      | error how' u' => simp only [left, right] at first
  | error how s' =>
      cases right : y u with
      | ok b u' => simp only [left, right] at first
      | error how' u' =>
          simp only [left, right] at first
          obtain ⟨rfl, post⟩ := first
          exact of_error (bind_of_error left) (bind_of_error right) post

theorem get_bind {f : State → Run γ} {g : State → Run δ} {P : γ → δ → State → State → Prop}
    (rest : (f s).Together (g u) s u P H) : Together (get >>= f) (get >>= g) s u P H := rest

theorem set_bind {s' u' : State} {f : Unit → Run γ} {g : Unit → Run δ}
    {P : γ → δ → State → State → Prop} (rest : (f ()).Together (g ()) s' u' P H) :
    Together (set s' >>= f) (set u' >>= g) s u P H := rest

theorem modify_bind {h k : State → State} {f : Unit → Run γ} {g : Unit → Run δ}
    {P : γ → δ → State → State → Prop} (rest : (f ()).Together (g ()) (h s) (k u) P H) :
    Together (modify h >>= f) (modify k >>= g) s u P H := rest

/-- Only the second computation changes its state first. -/
theorem modify_bind_right {k : State → State} {g : Unit → Run β}
    (rest : x.Together (g ()) s (k u) Q H) : x.Together (modify k >>= g) s u Q H := rest

theorem get_bind_right {g : State → Run β} (rest : x.Together (g u) s u Q H) :
    x.Together (get >>= g) s u Q H := rest

theorem modify {h k : State → State} {P : Unit → Unit → State → State → Prop}
    (post : P () () (h s) (k u)) : Together (modify h) (modify k) s u P H :=
  of_ok rfl rfl post

theorem onWorld {f : World → α × World} {g : World → β × World}
    (post : Q (f s.world).1 (g u.world).1 { s with world := (f s.world).2 }
      { u with world := (g u.world).2 }) : Together (Run.onWorld f) (Run.onWorld g) s u Q H :=
  of_ok rfl rfl post

theorem readClocks_bind {f : Time.Reading → Run γ} {g : Time.Reading → Run δ}
    {P : γ → δ → State → State → Prop}
    (rest : (f s.world.readClocks.1).Together (g u.world.readClocks.1)
      { s with world := s.world.readClocks.2 } { u with world := u.world.readClocks.2 } P H) :
    Together (readClocks >>= f) (readClocks >>= g) s u P H := rest

end Together

end Run

/-- All requests that the program may come to are of a certain kind. -/
def Program.All {α : Type} (kind : Request → Prop) : Program α → Prop
  | .pure _ => True
  | .ask request next => kind request ∧ ∀ reply, (next reply).All kind

theorem Program.all_of_forall {α : Type} {kind : Request → Prop} (all : ∀ r, kind r)
    (p : Program α) : p.All kind := by
  induction p with
  | pure a => trivial
  | ask request next ih => exact ⟨all request, ih⟩

theorem Program.All.bind {α β : Type} {kind : Request → Prop} {p : Program α} {f : α → Program β}
    (first : p.All kind) (second : ∀ a, (f a).All kind) : (p.bind f).All kind := by
  induction p with
  | pure a => exact second a
  | ask request next ih => exact ⟨first.1, fun reply => ih reply (first.2 reply)⟩

/-- A sequence of steps asks what the steps ask. -/
theorem Program.all_steps {kind : Request → Prop} {ps : List (Program Bool)}
    (each : ∀ p ∈ ps, p.All kind) : (Program.steps ps).All kind := by
  induction ps with
  | nil => trivial
  | cons p rest ih =>
      apply (each p List.mem_cons_self).bind
      intro goOn
      cases goOn with
      | true => exact ih fun q mem => each q (List.mem_cons_of_mem _ mem)
      | false => trivial

section Hooks

variable {options options' : Options} {hooks hooks' : NodeId → Hooks} {n m : NodeId}
  {R H : State → State → Prop} {s u : State}

/-- A hook that gets the same answers in both runs goes on in the same way. -/
theorem Program.together_conduct {α : Type} {kind : Request → Prop} (p : Program α)
    (all : p.All kind)
    (answer : ∀ r : Request, kind r → ∀ s u, R s u →
      (r.answer options n).Together (r.answer options' m) s u (fun a b s' u' => b = a ∧ R s' u') H)
    (related : R s u) :
    (p.conduct options n).Together (p.conduct options' m) s u
      (fun a b s' u' => b = a ∧ R s' u') H := by
  induction p generalizing s u with
  | pure a => exact .pure ⟨rfl, related⟩
  | ask request next ih =>
      apply Run.Together.bind (answer request all.1 s u related)
      rintro _ reply s' u' ⟨rfl, related'⟩
      exact ih reply (all.2 reply) related'

/-- Hooks are called together if both nodes still have theirs, or neither has. -/
theorem together_callHook {phase : Phase}
    (staged : R (s.setStage n phase.stage) (u.setStage m phase.stage))
    (hooked : (u.tree.get m).hooked = (s.tree.get n).hooked)
    (conduct : R (s.setStage n phase.stage) (u.setStage m phase.stage) →
      (((hooks n).at phase).conduct options n).Together
        (((hooks' m).at phase).conduct options' m)
        ((s.setStage n phase.stage).emit (.called n phase (s.setStage n phase.stage).tree))
        ((u.setStage m phase.stage).emit (.called m phase (u.setStage m phase.stage).tree))
        (fun _ _ => R) H) :
    (callHook options hooks n phase).Together (callHook options' hooks' m phase) s u
      (fun _ _ => R) H := by
  have keep : ∀ (s : State) (n : NodeId),
      ((s.setStage n phase.stage).tree.get n).hooked = (s.tree.get n).hooked := fun s n =>
    Tree.hooked_eq_of_pristine (Tree.pristine_setStage s.tree n phase.stage) n
  refine .modify_bind (.get_bind ?_)
  cases own : (s.tree.get n).hooked with
  | false =>
      rw [if_neg (by simp [keep, own]), if_neg (by simp [keep, hooked, own])]
      exact .pure staged
  | true =>
      rw [if_pos (by rw [keep, own]), if_pos (by rw [keep, hooked, own])]
      exact .set_bind (conduct staged)

end Hooks

/-- Every node of the forest is related to the node under which it stands, the first ones to `n`. -/
def Forest.Under (child : NodeId → NodeId → Prop) (n : NodeId) : Forest → Prop
  | .nil => True
  | .node c below beside => child n c ∧ below.Under child c ∧ beside.Under child n

theorem Forest.under_of_forall {child : NodeId → NodeId → Prop} {nodes : NodeId → Prop}
    (each : ∀ n c, nodes c → child n c) (n : NodeId) (forest : Forest)
    (members : ∀ m ∈ forest.preorder, nodes m) : forest.Under child n := by
  induction forest generalizing n with
  | nil => trivial
  | node c below beside ihBelow ihBeside =>
      simp only [preorder, List.mem_cons, List.mem_append] at members
      exact ⟨each n c (members c (.inl rfl)),
        ihBelow c fun m mem => members m (.inr (.inl mem)),
        ihBeside n fun m mem => members m (.inr (.inr mem))⟩

/-- What the log says when the children of node `n` after `c` are skipped. -/
def Tree.skipRecord (t : Tree) (n c : NodeId) : Record :=
  .info ("'" ++ (t.get c).name ++ "' failed below '" ++ (t.get n).name ++ "', skipping the rest")

/-- What the parts of two runs must keep for the relation `R` between their states to hold all the
way, if the relation depends on the nodes that are open: those that were opened and have not been
closed, the innermost one first. Node `n` of the first run is node `ρ n` of the second one, `child`
holds of a node and what stands under it, and `clocks` relates the readings that the runs take at
the same time. If a hook ends the processes, `H` holds of the last states. -/
structure Nested (options options' : Options) (hooks hooks' : NodeId → Hooks)
    (ρ : NodeId → NodeId) (child : NodeId → NodeId → Prop)
    (clocks : Time.Reading → Time.Reading → Prop) (R : List NodeId → State → State → Prop)
    (H : State → State → Prop) : Prop where
  opened : ∀ {s u n c path}, child n c → R (n :: path) s u →
    (openNode options hooks c).Together (openNode options' hooks' (ρ c)) (s.rewindFor c)
      (u.rewindFor (ρ c)) (fun a b s' u' => clocks a b ∧ R (c :: n :: path) s' u') H
  ran : ∀ {s u n path} (abandoned : Bool), R (n :: path) s u →
    (runSelf options hooks n abandoned).Together (runSelf options' hooks' (ρ n) abandoned) s u
      (fun _ _ => R (n :: path)) H
  closed : ∀ {s u n path a b}, clocks a b → R (n :: path) s u →
    (closeNode options hooks n a).Together (closeNode options' hooks' (ρ n) b) s u
      (fun _ _ => R path) H
  failed : ∀ {s u n path}, R (n :: path) s u → u.tree.isFailed (ρ n) = s.tree.isFailed n
  skipped : ∀ {s u n path} (c : NodeId), R (n :: path) s u →
    R (n :: path) (s.log (s.tree.skipRecord n c)) (u.log (u.tree.skipRecord (ρ n) (ρ c)))

namespace Nested

variable {options options' : Options} {hooks hooks' : NodeId → Hooks} {ρ : NodeId → NodeId}
  {child : NodeId → NodeId → Prop} {clocks : Time.Reading → Time.Reading → Prop}
  {R : List NodeId → State → State → Prop} {H : State → State → Prop} {s u : State} {n : NodeId}
  {path : List NodeId}

/-- Nodes are run together if they are opened together and their children are run together. -/
theorem runAround (nested : Nested options options' hooks hooks' ρ child clocks R H)
    (opening : (openNode options hooks n).Together (openNode options' hooks' (ρ n)) s u
      (fun a b s' u' => clocks a b ∧ R (n :: path) s' u') H) {kids kids' : Run Bool}
    (children : ∀ s u, R (n :: path) s u →
      kids.Together kids' s u (fun a b s' u' => b = a ∧ R (n :: path) s' u') H) :
    (runAround options hooks n kids).Together (SuiteTree.runAround options' hooks' (ρ n) kids') s u
      (fun _ _ => R path) H := by
  apply Run.Together.bind opening
  rintro a b s₁ u₁ ⟨started, related₁⟩
  apply Run.Together.bind (children s₁ u₁ related₁)
  rintro _ abandoned s₂ u₂ ⟨rfl, related₂⟩
  apply Run.Together.bind (nested.ran abandoned related₂)
  rintro - - s₃ u₃ related₃
  exact nested.closed started related₃

/-- The children of a node are run together. The induction is on the forest that is run. -/
theorem runChildren (nested : Nested options options' hooks hooks' ρ child clocks R H)
    (forest : Forest) (under : forest.Under child n) (related : R (n :: path) s u) :
    (runChildren options hooks n forest).Together
      (SuiteTree.runChildren options' hooks' (ρ n) (forest.map ρ)) s u
      (fun a b s' u' => b = a ∧ R (n :: path) s' u') H := by
  induction forest generalizing n path s u with
  | nil => exact .pure ⟨rfl, related⟩
  | node c below beside ihBelow ihBeside =>
      obtain ⟨down, underC, underN⟩ := under
      have opening := nested.opened down related
      refine .modify_bind (.bind (nested.runAround opening ?_) ?_)
      · exact fun s' u' related' => ihBelow underC related'
      · rintro - - s' u' related'
        refine .get_bind ?_
        have same := nested.failed related'
        cases failed : s'.tree.isFailed n with
        | true =>
            rw [if_pos rfl, if_pos (by rw [same, failed])]
            exact .modify_bind (.pure ⟨rfl, nested.skipped c related'⟩)
        | false =>
            rw [if_neg (by simp), if_neg (by simp [same, failed])]
            exact ihBeside underN related'

/-- Two nodes are run together if the forests below them are the same up to the numbers and the
nodes are opened together. -/
theorem runNode (nested : Nested options options' hooks hooks' ρ child clocks R H)
    (opening : (openNode options hooks n).Together (openNode options' hooks' (ρ n)) s u
      (fun a b s' u' => clocks a b ∧ R [n] s' u') H)
    (under : (s.tree.below n).Under child n)
    (below : u.tree.below (ρ n) = (s.tree.below n).map ρ) :
    (runNode options hooks n).Together (SuiteTree.runNode options' hooks' (ρ n)) s u
      (fun _ _ => R []) H := by
  refine .get_bind (nested.runAround opening ?_)
  intro s' u' related'
  rw [below]
  exact nested.runChildren _ under related'

end Nested

/-- What the steps of two runs must keep for the relation `R` between their states to hold all the
way. Node `n` of the first run is node `ρ n` of the second one, and `clocks` relates the readings
that the runs take at the same time. If a hook ends the processes, `H` holds of the last states. -/
structure Lockstep (options options' : Options) (hooks hooks' : NodeId → Hooks)
    (ρ : NodeId → NodeId) (nodes : NodeId → Prop) (clocks : Time.Reading → Time.Reading → Prop)
    (R H : State → State → Prop) : Prop where
  enter : ∀ {s u n}, nodes n → R s u → R (s.enter n) (u.enter (ρ n))
  call : ∀ {s u n} (phase : Phase), nodes n → R s u →
    (callHook options hooks n phase).Together (callHook options' hooks' (ρ n) phase) s u
      (fun _ _ => R) H
  read : ∀ {s u}, R s u → clocks s.world.readClocks.1 u.world.readClocks.1 ∧
    R { s with world := s.world.readClocks.2 } { u with world := u.world.readClocks.2 }
  stage : ∀ {s u n} (stage : Stage), nodes n → R s u →
    R (s.setStage n stage) (u.setStage (ρ n) stage)
  time : ∀ {s u n a a' b b'}, nodes n → clocks a a' → clocks b b' → R s u →
    R (s.setElapsed n (b.since a)) (u.setElapsed (ρ n) (b'.since a'))
  leave : ∀ {s u n}, nodes n → R s u → R (s.leave n) (u.leave (ρ n))
  rewind : ∀ {s u n}, nodes n → R s u → R (s.rewindFor n) (u.rewindFor (ρ n))
  failed : ∀ {s u n}, nodes n → R s u → u.tree.isFailed (ρ n) = s.tree.isFailed n
  skip : ∀ {s u} (n c : NodeId), R s u →
    R (s.log (s.tree.skipRecord n c)) (u.log (u.tree.skipRecord (ρ n) (ρ c)))

namespace Lockstep

variable {options options' : Options} {hooks hooks' : NodeId → Hooks} {ρ : NodeId → NodeId}
  {nodes : NodeId → Prop} {clocks : Time.Reading → Time.Reading → Prop}
  {R H : State → State → Prop} {s u : State} {n : NodeId}

/-- Nodes are opened together if their setup hooks are called together. -/
theorem openNode_of_called (lock : Lockstep options options' hooks hooks' ρ nodes clocks R H)
    (inside : nodes n)
    (called : (callHook options hooks n .setup).Together (callHook options' hooks' (ρ n) .setup)
      (s.enter n) (u.enter (ρ n)) (fun _ _ => R) H) :
    (openNode options hooks n).Together (SuiteTree.openNode options' hooks' (ρ n)) s u
      (fun a b s' u' => clocks a b ∧ R s' u') H := by
  refine .modify_bind (.bind called ?_)
  rintro - - s' u' related
  obtain ⟨started, related⟩ := lock.read related
  exact .readClocks_bind (.modify_bind (.pure ⟨started, lock.stage _ inside related⟩))

theorem openNode (lock : Lockstep options options' hooks hooks' ρ nodes clocks R H)
    (inside : nodes n) (entered : R (s.enter n) (u.enter (ρ n))) :
    (openNode options hooks n).Together (SuiteTree.openNode options' hooks' (ρ n)) s u
      (fun a b s' u' => clocks a b ∧ R s' u') H :=
  lock.openNode_of_called inside (lock.call .setup inside entered)

theorem runSelf (lock : Lockstep options options' hooks hooks' ρ nodes clocks R H)
    (inside : nodes n) (abandoned : Bool) (related : R s u) :
    (runSelf options hooks n abandoned).Together (SuiteTree.runSelf options' hooks' (ρ n) abandoned)
      s u (fun _ _ => R) H := by
  cases abandoned with
  | true => exact .pure related
  | false => exact lock.call .run inside related

theorem closeNode (lock : Lockstep options options' hooks hooks' ρ nodes clocks R H)
    (inside : nodes n) {a b : Time.Reading} (started : clocks a b) (related : R s u) :
    (closeNode options hooks n a).Together (SuiteTree.closeNode options' hooks' (ρ n) b) s u
      (fun _ _ => R) H := by
  obtain ⟨ended, related⟩ := lock.read related
  refine .readClocks_bind (.modify_bind (.bind (lock.call .teardown inside ?_) ?_))
  · exact lock.time inside started ended related
  · rintro - - s' u' related
    exact .modify_bind (.modify (lock.stage _ inside (lock.leave inside related)))

/-- A relation that holds all the way does so whichever nodes are open. -/
theorem nested (lock : Lockstep options options' hooks hooks' ρ nodes clocks R H) :
    Nested options options' hooks hooks' ρ (fun _ c => nodes c) clocks
      (fun path s u => (∀ m ∈ path, nodes m) ∧ R s u) H where
  opened {s u n c path} inside := by
    rintro ⟨all, related⟩
    refine (lock.openNode inside (lock.enter inside (lock.rewind inside related))).mono ?_
    exact fun a b s' u' post => ⟨post.1, List.forall_mem_cons.2 ⟨inside, all⟩, post.2⟩
  ran abandoned := by
    rintro ⟨all, related⟩
    refine (lock.runSelf (all _ List.mem_cons_self) abandoned related).mono ?_
    exact fun _ _ s' u' post => ⟨all, post⟩
  closed started := by
    rintro ⟨all, related⟩
    refine (lock.closeNode (all _ List.mem_cons_self) started related).mono ?_
    exact fun _ _ s' u' post => ⟨(List.forall_mem_cons.1 all).2, post⟩
  failed related := lock.failed (related.1 _ List.mem_cons_self) related.2
  skipped {s u n path} c related := ⟨related.1, lock.skip n c related.2⟩

/-- Nodes are run together if their children are and the relation holds once both are entered. -/
theorem runAround (lock : Lockstep options options' hooks hooks' ρ nodes clocks R H)
    (inside : nodes n) (entered : R (s.enter n) (u.enter (ρ n))) {kids kids' : Run Bool}
    (children : ∀ s u, R s u →
      kids.Together kids' s u (fun a b s' u' => b = a ∧ R s' u') H) :
    (runAround options hooks n kids).Together (SuiteTree.runAround options' hooks' (ρ n) kids') s u
      (fun _ _ => R) H := by
  have only : ∀ m ∈ [n], nodes m := List.forall_mem_singleton.2 inside
  have opening := (lock.openNode inside entered).mono fun a b s' u' post =>
    (⟨post.1, only, post.2⟩ : clocks a b ∧ (∀ m ∈ [n], nodes m) ∧ R s' u')
  refine (lock.nested.runAround opening ?_).mono fun _ _ _ _ post => post.2
  intro s' u' related
  exact (children s' u' related.2).mono fun a b s'' u'' post => ⟨post.1, only, post.2⟩

/-- The children of a node are run together. -/
theorem runChildren (lock : Lockstep options options' hooks hooks' ρ nodes clocks R H)
    (inside : nodes n) (forest : Forest) (members : ∀ m ∈ forest.preorder, nodes m)
    (related : R s u) :
    (runChildren options hooks n forest).Together
      (SuiteTree.runChildren options' hooks' (ρ n) (forest.map ρ)) s u
      (fun a b s' u' => b = a ∧ R s' u') H := by
  have under : forest.Under (fun _ c => nodes c) n :=
    Forest.under_of_forall (fun _ _ => id) n forest members
  have only : ∀ m ∈ [n], nodes m := List.forall_mem_singleton.2 inside
  exact (lock.nested.runChildren forest under ⟨only, related⟩).mono
    fun a b s' u' post => ⟨post.1, post.2.2⟩

/-- Two nodes are run together if the forests below them are the same up to the numbers. -/
theorem runNode (lock : Lockstep options options' hooks hooks' ρ nodes clocks R H)
    (inside : nodes n) (members : ∀ m ∈ (s.tree.below n).preorder, nodes m)
    (below : u.tree.below (ρ n) = (s.tree.below n).map ρ) (related : R s u) :
    (runNode options hooks n).Together (SuiteTree.runNode options' hooks' (ρ n)) s u
      (fun _ _ => R) H := by
  refine .get_bind (lock.runAround inside (lock.enter inside related) ?_)
  intro s' u' related'
  rw [below]
  exact lock.runChildren inside _ members related'

end Lockstep

end SuiteTree
