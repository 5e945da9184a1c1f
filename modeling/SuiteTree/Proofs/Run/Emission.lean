import SuiteTree.Proofs.Files
import SuiteTree.Proofs.Run.Replay
import SuiteTree.Run

/-!
# What a computation emits

`Run.Emits x s Q H` says what the computation `x` adds to the events when it starts in state `s`. If
it ends with a value, the events satisfy `Q` and the tree is the tree of `s` with these events
replayed; if it ends the process, the events up to that point satisfy `H`. Both endings are part of
the judgment, so nothing is left open about computations that do not come to their end.

The rules follow the construction of computations. They lead to the events of a hook: whatever the
hook does, it adds answers to requests of its own node and nothing else.
-/

namespace SuiteTree

/-- The surroundings `w'` are those that `w` can become: the defaults of the attributes are the
same, and what was a file is one. -/
structure World.Lasts (w w' : World) : Prop where
  defaults : w'.ambient.defaults = w.ambient.defaults
  files : ∀ location, w.files.HasFile location → w'.files.HasFile location

/-- Surroundings with the same defaults and the same files. -/
theorem World.Lasts.of_eq {w w' : World} (defaults : w'.ambient.defaults = w.ambient.defaults)
    (files : w'.files = w.files) : w.Lasts w' :=
  ⟨defaults, fun _ has => files ▸ has⟩

theorem World.Lasts.trans {w w' w'' : World} (first : w.Lasts w') (second : w'.Lasts w'') :
    w.Lasts w'' where
  defaults := second.defaults.trans first.defaults
  files location has := second.files location (first.files location has)

/-- State `s'` is state `s` after the events `es`. -/
structure State.Extends (s : State) (es : List Event) (s' : State) : Prop where
  events : s'.world.events.toList = s.world.events.toList ++ es
  tree : s'.tree = s.tree.replay es
  lasts : s.world.Lasts s'.world

theorem State.Extends.refl (s : State) : s.Extends [] s :=
  ⟨(List.append_nil _).symm, rfl, .of_eq rfl rfl⟩

theorem State.Extends.trans {s s' s'' : State} {a b : List Event} (first : s.Extends a s')
    (second : s'.Extends b s'') : s.Extends (a ++ b) s'' where
  events := by rw [second.events, first.events, List.append_assoc]
  tree := by rw [second.tree, first.tree, Tree.replay_append]
  lasts := first.lasts.trans second.lasts

/-- The links of the tree stay as they are. -/
theorem State.Extends.pristine {s s' : State} {es : List Event} (ext : s.Extends es s') :
    s'.tree.pristine = s.tree.pristine := by
  rw [ext.tree, Tree.pristine_replay]

/-- A change of the surroundings that adds no event. -/
theorem State.Extends.of_world {s s' : State} (tree : s'.tree = s.tree)
    (events : s'.world.events = s.world.events) (lasts : s.world.Lasts s'.world) :
    s.Extends [] s' :=
  ⟨by rw [events, List.append_nil], tree, lasts⟩

section

variable {ε σ α β : Type} {x : EStateM ε σ α} {f : α → EStateM ε σ β} {s s' : σ}

/-- What follows a computation that ends with a value. -/
theorem bind_of_ok {a : α} (result : x s = .ok a s') : (x >>= f) s = f a s' := by
  simp only [Bind.bind, EStateM.bind, result]

/-- Nothing follows a computation that ends without a value. -/
theorem bind_of_error {e : ε} (result : x s = .error e s') : (x >>= f) s = .error e s' := by
  simp only [Bind.bind, EStateM.bind, result]

end

namespace Run

variable {α β : Type}

/-- The events that a computation adds when it starts in state `s`: with `Q` if it ends with a
value, with `H` if it ends the process. -/
def Emits (x : Run α) (s : State) (Q : α → List Event → Prop) (H : Halt → List Event → Prop) :
    Prop :=
  match x s with
  | .ok a s' => ∃ es, s.Extends es s' ∧ Q a es
  | .error halt s' => ∃ es, s'.world.events.toList = s.world.events.toList ++ es ∧ H halt es

/-- The computation leads from state `s` to the events `es`, whether it ends with a value or ends
the process. -/
def Leads (x : Run α) (s : State) (es : List Event) : Prop :=
  match x s with
  | .ok _ s' => s.Extends es s'
  | .error _ s' => s'.world.events.toList = s.world.events.toList ++ es

namespace Emits

variable {x : Run α} {s : State} {Q Q' : α → List Event → Prop} {H H' : Halt → List Event → Prop}

theorem mono (h : x.Emits s Q H) (value : ∀ a es, Q a es → Q' a es)
    (halts : ∀ halt es, H halt es → H' halt es) : x.Emits s Q' H' := by
  unfold Emits at h ⊢
  split at h
  · obtain ⟨es, extends_, q⟩ := h
    exact ⟨es, extends_, value _ es q⟩
  · obtain ⟨es, events, q⟩ := h
    exact ⟨es, events, halts _ es q⟩

/-- The events that are spoken of are those to which the computation leads. -/
theorem with_leads (h : x.Emits s Q H) :
    x.Emits s (fun a es => Q a es ∧ x.Leads s es) (fun how es => H how es ∧ x.Leads s es) := by
  unfold Emits Leads at *
  cases result : x s with
  | ok a s' =>
      rw [result] at h
      obtain ⟨es, extends_, q⟩ := h
      exact ⟨es, extends_, q, extends_⟩
  | error how s' =>
      rw [result] at h
      obtain ⟨es, events, q⟩ := h
      exact ⟨es, events, q, events⟩

/-- What is emitted in both cases is what the computation leads to. -/
theorem exists_leads {P : List Event → Prop} (h : x.Emits s (fun _ es => P es) fun _ es => P es) :
    ∃ es, x.Leads s es ∧ P es := by
  unfold Emits at h
  unfold Leads
  cases result : x s with
  | ok a s' => rwa [result] at h
  | error how s' => rwa [result] at h

/-- What is known of the events of a computation that ends with a value. -/
theorem value {a : α} {s' : State} {es : List Event} (h : x.Emits s Q H) (result : x s = .ok a s')
    (extends_ : s.Extends es s') : Q a es := by
  unfold Emits at h
  rw [result] at h
  obtain ⟨es', extends', q⟩ := h
  obtain rfl : es' = es :=
    List.append_cancel_left (extends'.events.symm.trans extends_.events)
  exact q

/-- What is known of the events of a computation that ends the process. -/
theorem halt {how : Halt} {s' : State} {es : List Event} (h : x.Emits s Q H)
    (result : x s = .error how s')
    (events : s'.world.events.toList = s.world.events.toList ++ es) : H how es := by
  unfold Emits at h
  rw [result] at h
  obtain ⟨es', events', q⟩ := h
  obtain rfl : es' = es := List.append_cancel_left (events'.symm.trans events)
  exact q

/-- A computation that ends with a known value in a known state. -/
theorem of_ok {a : α} {s' : State} {es : List Event} (result : x s = .ok a s')
    (extends_ : s.Extends es s') (post : Q a es) : x.Emits s Q H := by
  unfold Emits
  rw [result]
  exact ⟨es, extends_, post⟩

theorem pure {a : α} (post : Q a []) : Emits (pure a) s Q H :=
  of_ok rfl (.refl s) post

/-- A first step that ends with a known value in a known state. -/
theorem ok_bind {f : α → Run β} {R : β → List Event → Prop} {a : α} {s' : State} {es : List Event}
    (result : x s = .ok a s') (extends_ : s.Extends es s')
    (rest : (f a).Emits s' (fun b es' => R b (es ++ es')) (fun halt es' => H halt (es ++ es'))) :
    (x >>= f).Emits s R H := by
  unfold Emits at rest ⊢
  rw [bind_of_ok result]
  cases result' : f a s' with
  | ok b s'' =>
      simp only [result'] at rest ⊢
      obtain ⟨es', extends_', r⟩ := rest
      exact ⟨es ++ es', extends_.trans extends_', r⟩
  | error halt s'' =>
      simp only [result'] at rest ⊢
      obtain ⟨es', events, r⟩ := rest
      exact ⟨es ++ es', by rw [events, extends_.events, List.append_assoc], r⟩

/-- The events of two computations in sequence, where the first one is known by what comes of it in
the state `s`. -/
theorem bind_of_result {f : α → Run β} {R : β → List Event → Prop} (first : x.Emits s Q H)
    (second : ∀ a es s', x s = .ok a s' → s.Extends es s' → Q a es →
      (f a).Emits s' (fun b es' => R b (es ++ es')) (fun halt es' => H' halt (es ++ es')))
    (halts : ∀ halt es s', x s = .error halt s' → H halt es → H' halt es) :
    (x >>= f).Emits s R H' := by
  unfold Emits at first
  cases result : x s with
  | ok a s' =>
      simp only [result] at first
      obtain ⟨es, extends_, q⟩ := first
      exact ok_bind result extends_ (second a es s' result extends_ q)
  | error halt s' =>
      simp only [result] at first
      obtain ⟨es, events, h⟩ := first
      unfold Emits
      rw [bind_of_error result]
      exact ⟨es, events, halts halt es s' result h⟩

/-- The events of two computations in sequence. The second one starts in the tree that the events
of the first one lead to, and either of them may end the process. -/
theorem bind {f : α → Run β} {R : β → List Event → Prop} (first : x.Emits s Q H)
    (second : ∀ a es s', s.Extends es s' → Q a es →
      (f a).Emits s' (fun b es' => R b (es ++ es')) (fun halt es' => H' halt (es ++ es')))
    (halts : ∀ halt es, H halt es → H' halt es) : (x >>= f).Emits s R H' :=
  first.bind_of_result (fun a es s' _ => second a es s') fun halt es _ _ => halts halt es

/-- The state that a computation asks for is the one in which it goes on. -/
theorem get_bind {f : State → Run β} {R : β → List Event → Prop} (rest : (f s).Emits s R H) :
    Emits (get >>= f) s R H := rest

theorem modify_bind {g : State → State} {f : Unit → Run β} {R : β → List Event → Prop}
    {es : List Event} (extends_ : s.Extends es (g s))
    (rest : (f ()).Emits (g s) (fun b es' => R b (es ++ es'))
      (fun halt es' => H halt (es ++ es'))) : Emits (modify g >>= f) s R H :=
  ok_bind rfl extends_ rest

theorem set_bind {s' : State} {f : Unit → Run β} {R : β → List Event → Prop} {es : List Event}
    (extends_ : s.Extends es s')
    (rest : (f ()).Emits s' (fun b es' => R b (es ++ es')) (fun halt es' => H halt (es ++ es'))) :
    Emits (set s' >>= f) s R H :=
  ok_bind rfl extends_ rest

/-- Reading the clocks adds no event, and nothing in the tree depends on what they show. -/
theorem readClocks_bind {f : Time.Reading → Run β} {R : β → List Event → Prop}
    (rest : ∀ reading s', s'.tree = s.tree → s.Extends [] s' → (f reading).Emits s' R H) :
    (Run.readClocks >>= f).Emits s R H :=
  have quiet : s.Extends [] { s with world := s.world.readClocks.2 } :=
    .of_world rfl rfl (.of_eq rfl rfl)
  ok_bind rfl quiet (rest _ _ rfl quiet)

end Emits

end Run

/-- The request ends the process in this way. -/
def Request.Halts (options : Options) : Request → Halt → Prop
  | .fail _, .aborted => options.assertOnFailure = true
  | .exit cause, .exited code => code = cause.exitCode
  | _, _ => False

/-- The program may come to a request that ends the process in this way. -/
inductive Program.Halts (options : Options) (halt : Halt) {α : Type} : Program α → Prop where
  | now {request : Request} {next : request.Reply → Program α} :
      request.Halts options halt → Halts options halt (.ask request next)
  | later {request : Request} {next : request.Reply → Program α} (reply : request.Reply) :
      (next reply).Halts options halt → Halts options halt (.ask request next)

/-- The event is the answer to a request of node `n`. -/
def Event.AnswerOf (n : NodeId) : Event → Prop
  | answered m _ _ => m = n
  | _ => False

theorem Event.AnswerOf.node {n : NodeId} {e : Event} (h : e.AnswerOf n) : e.node = n := by
  cases e with
  | answered m request reply => exact h
  | _ => exact h.elim

/-- Asking for a temporary file makes directories at most. -/
theorem Tree.lasts_tempFile (t : Tree) (w : World) (options : Options) (n : NodeId)
    (file : String) : (t.tempFile w options n file).2.events = w.events ∧
      w.Lasts (t.tempFile w options n file).2 := by
  unfold Tree.tempFile
  split
  · exact ⟨rfl, .of_eq rfl rfl⟩
  · have keeps : ∀ location, w.files.HasFile location →
        (w.files.makeDirectories (t.tempDirectory options n)).2.HasFile location :=
      fun _ has => has.makeChain _
    dsimp only
    split
    · next files made =>
      rw [made] at keeps
      exact ⟨rfl, rfl, keeps⟩
    · next cause files made =>
      rw [made] at keeps
      exact ⟨rfl, rfl, keeps⟩

section Hooks

variable {options : Options} {n : NodeId} {s : State}

/-- A request that is replied to is answered, and the answer is recorded. -/
theorem Request.answer_of_ok {r : Request} {reply : r.Reply} {s' : State}
    (result : r.reply options n s = .ok reply s') :
    r.answer options n s = .ok reply (s'.emit (.answered n r reply)) := by
  rw [Request.answer, bind_of_ok result]
  rfl

/-- A request that ends the process is not answered. -/
theorem Request.answer_of_error {r : Request} {how : Halt} {s' : State}
    (result : r.reply options n s = .error how s') : r.answer options n s = .error how s' := by
  rw [Request.answer, bind_of_error result]

/-- Answering a request adds one event, unless the request ends the process. -/
theorem Request.emits_answer (r : Request) :
    (r.answer options n).Emits s (fun reply es => es = [.answered n r reply])
      (fun halt es => es = [] ∧ r.Halts options halt) := by
  -- All requests but two leave the tree and the events alone before they are answered.
  have quietly : ∀ (a : r.Reply) (s' : State), r.reply options n s = .ok a s' →
      s'.tree = s.tree → s'.world.events = s.world.events → s.world.Lasts s'.world →
      (∀ reply, s.tree.after (.answered n r reply) = s.tree) →
      (r.answer options n).Emits s (fun reply es => es = [.answered n r reply])
        (fun halt es => es = [] ∧ r.Halts options halt) := by
    intro a s' result tree events lasts none
    refine Run.Emits.of_ok (Request.answer_of_ok result) ⟨?_, ?_, ?_⟩ rfl
    · simp [State.emit, World.emit, events]
    · simp [State.emit, tree, none]
    · exact ⟨lasts.defaults, lasts.files⟩
  cases r with
  | fail failure =>
      by_cases abort : options.assertOnFailure = true
      · have halted : ∃ s', (Request.fail failure).answer options n s = .error .aborted s' ∧
            s'.world.events = s.world.events := by
          simp only [Request.answer, Request.reply, abort, if_true]
          exact ⟨_, rfl, rfl⟩
        obtain ⟨s', result, events⟩ := halted
        unfold Run.Emits
        rw [result]
        exact ⟨[], by simp [events], rfl, abort⟩
      · have answered : (Request.fail failure).answer options n s =
            .ok () ((s.reportFailure n failure).emit (.answered n (.fail failure) ())) := by
          simp only [Request.answer, Request.reply, abort]
          rfl
        refine Run.Emits.of_ok answered ⟨?_, rfl, .of_eq rfl rfl⟩ rfl
        simp [State.emit, World.emit, State.reportFailure, World.logAll]
  | exit cause =>
      exact ⟨[], (List.append_nil _).symm, rfl, rfl⟩
  | tempFile name =>
      obtain ⟨events, lasts⟩ := s.tree.lasts_tempFile s.world options n name
      exact quietly _ _ rfl rfl events lasts (fun _ => rfl)
  | writeFile path text =>
      refine quietly _ _ rfl rfl ?_ ?_ (fun _ => rfl)
      · dsimp only
        split <;> rfl
      · dsimp only
        split
        · next files written => exact ⟨rfl, fun _ has => has.writeText written⟩
        · exact .of_eq rfl rfl
  | _ => exact quietly _ _ rfl rfl rfl (.of_eq rfl rfl) (fun _ => rfl)

/-- A hook adds only answers to requests of its node. It ends the process only by a request that
does. -/
theorem Program.emits_conduct {α : Type} (p : Program α) :
    (p.conduct options n).Emits s (fun _ es => ∀ e ∈ es, e.AnswerOf n)
      (fun halt es => (∀ e ∈ es, e.AnswerOf n) ∧ p.Halts options halt) := by
  induction p generalizing s with
  | pure a => exact Run.Emits.pure (by simp)
  | ask request next ih =>
      apply Run.Emits.bind request.emits_answer
      · rintro reply es s' - rfl
        apply (ih reply).mono
        · intro _ es answers
          simpa [Event.AnswerOf] using answers
        · rintro halt es ⟨answers, halts⟩
          exact ⟨by simpa [Event.AnswerOf] using answers, .later reply halts⟩
      · rintro halt es ⟨rfl, halts⟩
        exact ⟨by simp, .now halts⟩

end Hooks

end SuiteTree
