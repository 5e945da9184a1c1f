import Mathlib.Data.List.Induction
import SuiteTree.Proofs.Run.Course
import SuiteTree.Proofs.Run.Lockstep

/-!
# What hooks see of the ambient state

The ambient state at any moment is what the events so far have made of it. So what a hook is told
of an attribute or of a stream can be read off the events before: the value of an attribute is the
one that was assigned to it last since the overrides were dropped, and the index of a stream is the
number of streams that were drawn since they were rewound. Here this is said of the events alone,
without the state that answers the requests.

The nodes that are open at a moment are read off the events too. They tell why an override that a
node makes is still there when the node asks for it: unless a child was entered, nothing happened in
between but requests of hooks of the node itself.
-/

namespace SuiteTree

namespace Ambient

/-- What an event of a run of the root does to the ambient state. That the streams are rewound for a
child is counted as a part of entering the child. -/
def after (a : Ambient) : Event → Ambient
  | .entered n => if n = Tree.root then a.reset else a.reset.rewind
  | .left _ => a.reset
  | .answered _ (.assign key value) _ => a.set key value
  | .answered _ .resetAttributes _ => a.reset
  | .answered _ .drawStream _ => a.draw.2
  | .answered _ .rewindStreams _ => a.rewind
  | _ => a

/-- What some events do to the ambient state, one after the other. -/
def replay (a : Ambient) (es : List Event) : Ambient :=
  es.foldl after a

@[simp] theorem replay_nil (a : Ambient) : a.replay [] = a := rfl

@[simp] theorem replay_snoc (a : Ambient) (es : List Event) (e : Event) :
    a.replay (es ++ [e]) = (a.replay es).after e := by
  simp [replay]

theorem defaults_after (a : Ambient) (e : Event) : (a.after e).defaults = a.defaults := by
  unfold after
  split
  · split <;> rfl
  all_goals rfl

@[simp] theorem defaults_replay (a : Ambient) (es : List Event) :
    (a.replay es).defaults = a.defaults := by
  induction es using List.reverseRecOn with
  | nil => rfl
  | append_singleton es e ih => rw [replay_snoc, defaults_after, ih]

/-- The answer in the event is what the ambient state shows. Only the requests for an attribute and
for a stream ask for it. -/
def Shows (a : Ambient) : Event → Prop
  | .answered _ (.lookup key) reply => reply = a.get key
  | .answered _ .drawStream reply => reply = a.nextStream
  | _ => True

end Ambient

/-- The events after the last one of a kind, the latest one first. -/
def since (kind : Event → Bool) (es : List Event) : List Event :=
  es.reverse.takeWhile fun e => !kind e

theorem since_snoc (kind : Event → Bool) (es : List Event) (e : Event) :
    since kind (es ++ [e]) = if kind e then [] else e :: since kind es := by
  rw [since, List.reverse_concat, List.takeWhile_cons]
  cases kind e <;> rfl

namespace Event

/-- The event drops all overrides: a node is entered or left, or a hook drops them. -/
def drops : Event → Bool
  | entered _ | left _ | answered _ .resetAttributes _ => true
  | _ => false

/-- The value that the event gives to an attribute. -/
def assigned? (key : String) : Event → Option String
  | answered _ (.assign name value) _ => if name = key then some value else none
  | _ => none

/-- The streams begin anew: a node other than the root is entered, or a hook rewinds them. -/
def rewinds : Event → Bool
  | entered n => n != Tree.root
  | answered _ .rewindStreams _ => true
  | _ => false

/-- A hook was given a stream. -/
def draws : Event → Bool
  | answered _ .drawStream _ => true
  | _ => false

end Event

/-- The value that was given to an attribute last since the overrides were dropped. -/
def override (key : String) (es : List Event) : Option String :=
  (since Event.drops es).findSome? (Event.assigned? key)

/-- How many streams were drawn since they began anew; if they did not, those before count too. -/
def streams (initial : Nat) (es : List Event) : Nat :=
  (since Event.rewinds es).countP Event.draws + if es.any Event.rewinds then 0 else initial

section Since

variable {key : String} {es : List Event} {e : Event}

theorem override_snoc_of_drops (drops : e.drops = true) : override key (es ++ [e]) = none := by
  rw [override, since_snoc, if_pos drops]
  rfl

theorem override_snoc_of_keeps (keeps : e.drops = false) :
    override key (es ++ [e]) = (e.assigned? key).or (override key es) := by
  rw [override, since_snoc, if_neg (by simp [keeps]), List.findSome?_cons]
  cases e.assigned? key <;> rfl

theorem streams_snoc_of_rewinds (initial : Nat) (rewinds : e.rewinds = true) :
    streams initial (es ++ [e]) = 0 := by
  simp [streams, since_snoc, rewinds]

theorem streams_snoc_of_keeps (initial : Nat) (keeps : e.rewinds = false) :
    streams initial (es ++ [e]) = streams initial es + if e.draws then 1 else 0 := by
  simp [streams, since_snoc, keeps, List.countP_cons, Nat.add_right_comm]

end Since

namespace Ambient

/-- The value of an attribute is its last override. Where no override was dropped, those count that
were there before. -/
theorem get_replay (a : Ambient) (key : String) (es : List Event) :
    (a.replay es).get key = (override key es).or
      (if es.any Event.drops then a.defaults.lookup key else a.get key) := by
  induction es using List.reverseRecOn with
  | nil => rfl
  | append_singleton es e ih =>
      have reset : e.drops = true → ((a.replay es).after e).overrides = [] →
          (a.replay (es ++ [e])).get key = (override key (es ++ [e])).or
            (if (es ++ [e]).any Event.drops then a.defaults.lookup key else a.get key) := by
        intro drops none
        rw [override_snoc_of_drops drops, replay_snoc, get, none, defaults_after, defaults_replay]
        simp [drops]
      have kept : e.drops = false → e.assigned? key = none →
          ((a.replay es).after e).get key = (a.replay es).get key →
          (a.replay (es ++ [e])).get key = (override key (es ++ [e])).or
            (if (es ++ [e]).any Event.drops then a.defaults.lookup key else a.get key) := by
        intro keeps unassigned same
        rw [override_snoc_of_keeps keeps, unassigned, replay_snoc, same, ih]
        simp [keeps]
      cases e with
      | entered n =>
          refine reset rfl ?_
          rw [after]
          split <;> rfl
      | left n => exact reset rfl rfl
      | answered n request reply =>
          cases request with
          | resetAttributes => exact reset rfl rfl
          | assign name value =>
              by_cases same : name = key
              · subst same
                rw [override_snoc_of_keeps rfl, replay_snoc, after, get_set_self,
                  Event.assigned?, if_pos rfl]
                rfl
              · exact kept rfl (if_neg same) (get_set_of_ne _ value (Ne.symm same))
          | _ => exact kept rfl rfl rfl
      | _ => exact kept rfl rfl rfl

/-- The index of the next stream is the number of streams that were drawn. -/
theorem nextStream_replay (a : Ambient) (es : List Event) :
    (a.replay es).nextStream = streams a.nextStream es := by
  induction es using List.reverseRecOn with
  | nil => simp [streams, since]
  | append_singleton es e ih =>
      rw [replay_snoc]
      cases rewinds : e.rewinds with
      | true =>
          rw [streams_snoc_of_rewinds _ rewinds]
          cases e with
          | entered n =>
              have other : n ≠ Tree.root := bne_iff_ne.1 rewinds
              rw [after, if_neg other]
              rfl
          | answered n request reply =>
              cases request with
              | rewindStreams => rfl
              | _ => cases rewinds
          | _ => cases rewinds
      | false =>
          rw [streams_snoc_of_keeps _ rewinds, ← ih]
          cases e with
          | entered n =>
              have root : n = Tree.root := by simpa [Event.rewinds] using rewinds
              rw [after, if_pos root]
              rfl
          | answered n request reply =>
              cases request with
              | rewindStreams => cases rewinds
              | _ => rfl
          | _ => rfl

end Ambient

/-- The nodes that are open after an event, the innermost one first. -/
def Event.opens (path : List NodeId) : Event → List NodeId
  | entered n => n :: path
  | left _ => path.tail
  | _ => path

/-- The nodes that were entered and not left, the innermost one first. -/
def openNodes (es : List Event) : List NodeId :=
  es.foldl Event.opens []

@[simp] theorem openNodes_snoc (es : List Event) (e : Event) :
    openNodes (es ++ [e]) = e.opens (openNodes es) := by
  simp [openNodes]

/-- The event is in its place while the nodes `path` are open. Nodes are entered below older ones,
and the innermost node is the one that is left and whose hooks are answered. -/
def Event.InPlace (path : List NodeId) : Event → Prop
  | entered n => ∀ m ∈ path, m < n
  | left n | answered n _ _ => path.head? = some n
  | _ => True

/-- Every one of some events satisfies `P`, which depends on the events before it. -/
def EachAfter (P : List Event → Event → Prop) (es : List Event) : Prop :=
  ∀ before e later, es = before ++ e :: later → P before e

section OpenNodes

variable {P : List Event → Event → Prop} {a b es : List Event} {e : Event}

theorem eachAfter_nil : EachAfter P [] := by
  intro before e later split
  simp at split

theorem EachAfter.snoc (each : EachAfter P es) (last : P es e) : EachAfter P (es ++ [e]) := by
  intro before e' later split
  obtain rfl | ⟨later, last', rfl⟩ := later.eq_nil_or_concat
  · obtain ⟨rfl, same⟩ := List.append_inj' split rfl
    obtain rfl := List.singleton_inj.1 same
    exact last
  · rw [List.concat_eq_append, ← List.cons_append, ← List.append_assoc] at split
    obtain ⟨rfl, -⟩ := List.append_inj' split rfl
    exact each before e' later rfl

theorem EachAfter.of_append (each : EachAfter P (a ++ b)) : EachAfter P a := by
  rintro before e later rfl
  exact each before e (later ++ b) (by simp)

end OpenNodes

/-- The events are those of a run of the root that began in the ambient state `a`, as far as they
concern the ambient state. -/
def Ambient.Records (a : Ambient) (es : List Event) : Prop :=
  EachAfter (fun before e => e.InPlace (openNodes before) ∧ (a.replay before).Shows e) es

/-- The event drops the overrides because a hook asks for it. -/
def Event.resets : Event → Bool
  | answered _ .resetAttributes _ => true
  | _ => false

/-- A node is entered. -/
def Event.isEntry : Event → Bool
  | entered _ => true
  | _ => false

/-- A node is left. -/
def Event.isExit : Event → Bool
  | left _ => true
  | _ => false

section Telling

variable {key : String} {es es' : List Event} {e : Event}

theorem Event.drops_eq (e : Event) : e.drops = (e.isEntry || e.isExit || e.resets) := by
  cases e with
  | answered n request reply => cases request <;> rfl
  | _ => rfl

theorem override_append (key : String) (a b : List Event) : override key (a ++ b) =
    if b.any Event.drops then override key b else (override key b).or (override key a) := by
  induction b using List.reverseRecOn with
  | nil => simp [override, since]
  | append_singleton b e ih =>
      rw [← List.append_assoc]
      cases drops : e.drops with
      | true =>
          rw [override_snoc_of_drops drops, override_snoc_of_drops drops]
          simp [drops]
      | false =>
          rw [override_snoc_of_keeps drops, override_snoc_of_keeps drops, ih]
          cases dropped : b.any Event.drops with
          | true => simp [drops, dropped]
          | false => simp [drops, dropped, Option.or_assoc]

theorem override_eq_none (unassigned : ∀ e ∈ es, e.assigned? key = none) :
    override key es = none := by
  apply List.findSome?_eq_none_iff.2
  intro e mem
  exact unassigned e (List.mem_reverse.1 (List.takeWhile_subset _ mem))

/-- While no node is entered or left, none becomes open or is closed. -/
theorem openNodes_eq_nil (none : es.any Event.drops = false) : openNodes es = [] := by
  induction es using List.reverseRecOn with
  | nil => rfl
  | append_singleton es e ih =>
      rw [List.any_append, Bool.or_eq_false_iff] at none
      rw [openNodes_snoc, ih none.1]
      cases e with
      | entered n => simp [Event.drops] at none
      | _ => rfl

/-- As long as no node is entered, the open nodes are closed from the innermost one on. -/
theorem openNodes_append_of_no_entry (a b : List Event) (none : b.any Event.isEntry = false) :
    openNodes (a ++ b) = (openNodes a).drop (b.countP Event.isExit) := by
  induction b using List.reverseRecOn with
  | nil => simp
  | append_singleton b e ih =>
      rw [List.any_append, Bool.or_eq_false_iff] at none
      rw [← List.append_assoc, openNodes_snoc, ih none.1, List.countP_append]
      cases e with
      | entered n => simp [Event.isEntry] at none
      | left n => simp [Event.opens, Event.isExit]
      | _ => simp [Event.opens, Event.isExit]

namespace Ambient

variable {a : Ambient}

/-- Inner nodes are younger. -/
theorem Records.descending (records : a.Records es) :
    (openNodes es).Pairwise (· > ·) := by
  induction es using List.reverseRecOn with
  | nil => exact .nil
  | append_singleton es e ih =>
      have before := ih records.of_append
      obtain ⟨place, -⟩ := records es e [] rfl
      rw [openNodes_snoc]
      cases e with
      | entered n => exact List.pairwise_cons.2 ⟨place, before⟩
      | left n => exact before.tail
      | _ => exact before

/-- Between two requests of one node none is left, unless one is entered. -/
theorem Records.no_exit {before between later : List Event} {n : NodeId} {r r' : Request}
    {reply : r.Reply} {reply' : r'.Reply}
    (records : a.Records (before ++ .answered n r reply ::
      (between ++ .answered n r' reply' :: later)))
    (none : between.any Event.isEntry = false) : between.any Event.isExit = false := by
  obtain ⟨first, -⟩ := records _ _ _ rfl
  have whole : before ++ .answered n r reply :: (between ++ .answered n r' reply' :: later) =
      ((before ++ [.answered n r reply]) ++ between) ++ .answered n r' reply' :: later := by
    simp
  obtain ⟨second, -⟩ := records _ _ _ whole
  have descending := Records.descending (EachAfter.of_append records)
  rw [openNodes_append_of_no_entry _ _ none, openNodes_snoc] at second
  change (openNodes before).head? = some n at first
  change ((openNodes before).drop (between.countP Event.isExit)).head? = some n at second
  obtain ⟨path, opened⟩ := List.head?_eq_some_iff.1 first
  rw [opened] at second descending
  -- The node itself is not among the nodes above it, so it has not been closed.
  have stays : between.countP Event.isExit = 0 := by
    cases count : between.countP Event.isExit with
    | zero => rfl
    | succ k =>
        rw [count, List.drop_succ_cons] at second
        have again : n ∈ path := List.mem_of_mem_drop (List.mem_of_head? second)
        exact absurd ((List.pairwise_cons.1 descending).1 n again) (Nat.lt_irrefl n)
  rw [List.countP_eq_zero] at stays
  simpa using stays

/-- What hooks were told of the ambient state in a run of the root that began in the state `a`. -/
structure Seen (a : Ambient) (es : List Event) : Prop where
  /-- An attribute has the value that was given to it last since the overrides were dropped. -/
  lookup : ∀ {before later n key reply}, es = before ++ .answered n (.lookup key) reply :: later →
    reply = (override key before).or (a.defaults.lookup key)
  /-- The index of a stream is the number of streams that were drawn since they began anew. -/
  draw : ∀ {before later n reply}, es = before ++ .answered n .drawStream reply :: later →
    reply = streams a.nextStream before
  /-- An override of the same node, from this hook or from an earlier one, is there exactly if no
  node was entered since. -/
  own : ∀ {before between later n key value reply},
    es = before ++ .answered n (.assign key value) () ::
      (between ++ .answered n (.lookup key) reply :: later) →
    (∀ e ∈ between, e.assigned? key = none ∧ e.resets = false) →
    reply = if between.any Event.isEntry then a.defaults.lookup key else some value
  /-- No override outlasts the entering or the leaving of a node. -/
  fresh : ∀ {before e between later n key reply},
    es = before ++ e :: (between ++ .answered n (.lookup key) reply :: later) → e.drops = true →
    (∀ e ∈ between, e.assigned? key = none) → reply = a.defaults.lookup key

theorem Records.lookup (records : a.Records es) {before later : List Event} {n : NodeId}
    {reply : Option String} (split : es = before ++ .answered n (.lookup key) reply :: later) :
    reply = (override key before).or (a.defaults.lookup key) := by
  obtain ⟨place, shown⟩ := records _ _ _ split
  have begun : before.any Event.drops = true := by
    by_contra none
    rw [Bool.not_eq_true] at none
    change (openNodes before).head? = some n at place
    rw [openNodes_eq_nil none] at place
    cases place
  rw [(shown : reply = _), get_replay, if_pos begun]

theorem Records.seen (records : a.Records es) : a.Seen es where
  lookup split := records.lookup split
  draw split := by
    obtain ⟨-, shown⟩ := records _ _ _ split
    exact Eq.trans shown (nextStream_replay a _)
  own {before between later n key value reply} split undisturbed := by
    have unassigned : override key between = none :=
      override_eq_none fun e mem => (undisturbed e mem).1
    have whole : es = (before ++ [.answered n (.assign key value) ()]) ++ between ++
        .answered n (.lookup key) reply :: later := by simp [split]
    rw [records.lookup whole, override_append, unassigned]
    cases entry : between.any Event.isEntry with
    | true =>
        obtain ⟨e, mem, enters⟩ := List.any_eq_true.1 entry
        have dropped : between.any Event.drops = true :=
          List.any_eq_true.2 ⟨e, mem, by rw [Event.drops_eq, enters]; rfl⟩
        rw [if_pos dropped, if_pos rfl]
        rfl
    | false =>
        have kept : between.any Event.drops = false := by
          subst split
          have exits := records.no_exit entry
          rw [List.any_eq_false] at entry exits ⊢
          intro e mem
          simp [Event.drops_eq, entry e mem, exits e mem, (undisturbed e mem).2]
        rw [if_neg (by simp [kept]), if_neg (by simp), override_snoc_of_keeps rfl,
          Event.assigned?, if_pos rfl]
        rfl
  fresh {before e between later n key reply} split drops unassigned := by
    have whole : es = (before ++ [e]) ++ between ++ .answered n (.lookup key) reply :: later := by
      simp [split]
    rw [records.lookup whole, override_append, override_eq_none unassigned,
      override_snoc_of_drops drops]
    simp

/-- When all nodes are closed, no override is left. -/
theorem Records.overrides_eq_nil (records : a.Records es) (begun : es.any Event.drops = true)
    (closed : openNodes es = []) : (a.replay es).overrides = [] := by
  induction es using List.reverseRecOn with
  | nil => cases begun
  | append_singleton es e ih =>
      obtain ⟨place, -⟩ := records es e [] rfl
      rw [openNodes_snoc] at closed
      rw [replay_snoc]
      have quiet : e.drops = false → openNodes es = [] → (a.replay es).overrides = [] := by
        intro keeps closed
        rw [List.any_append, List.any_cons, keeps] at begun
        exact ih records.of_append (by simpa using begun) closed
      cases e with
      | entered n => cases closed
      | left n => rfl
      | answered n request reply =>
          change (openNodes es).head? = some n at place
          change openNodes es = [] at closed
          rw [closed] at place
          cases place
      | _ => exact quiet rfl closed

end Ambient

end Telling

/-- The events since the state `base` lead to the state `s`, with the nodes `path` open. -/
def Recorded (base : World) (path : List NodeId) (s : State) : Prop :=
  ∃ es, s.world.events.toList = base.events.toList ++ es ∧ es.any Event.drops = true ∧
    openNodes es = path ∧ s.world.ambient = base.ambient.replay es ∧ base.ambient.Records es

/-- The events since the state `base` up to the end of the process. -/
def RecordedToEnd (base : World) (s : State) : Prop :=
  ∃ es, s.world.events.toList = base.events.toList ++ es ∧ base.ambient.Records es

section Recording

variable {options : Options} {hooks : NodeId → Hooks} {base : World} {s s' : State} {n : NodeId}
  {path : List NodeId}

/-- One more event. -/
theorem Recorded.step (recorded : Recorded base path s) (e : Event)
    (events : s'.world.events.toList = s.world.events.toList ++ [e])
    (ambient : s'.world.ambient = s.world.ambient.after e) (place : e.InPlace path)
    (shown : s.world.ambient.Shows e) : Recorded base (e.opens path) s' := by
  obtain ⟨es, sofar, begun, rfl, now, records⟩ := recorded
  refine ⟨es ++ [e], ?_, ?_, openNodes_snoc es e, ?_, records.snoc ⟨place, now ▸ shown⟩⟩
  · rw [events, sofar, List.append_assoc]
  · rw [List.any_append, begun, Bool.true_or]
  · rw [ambient, now, Ambient.replay_snoc]

/-- Changes that concern neither the events nor the ambient state. -/
theorem Recorded.of_eq (recorded : Recorded base path s)
    (events : s'.world.events = s.world.events) (ambient : s'.world.ambient = s.world.ambient) :
    Recorded base path s' := by
  unfold Recorded
  rw [events, ambient]
  exact recorded

theorem Recorded.setStage (recorded : Recorded base path s) (n : NodeId) (stage : Stage) :
    Recorded base path (s.setStage n stage) :=
  recorded.step (.staged n stage) State.extends_setStage.events rfl trivial trivial

theorem Recorded.toEnd (recorded : Recorded base path s) : RecordedToEnd base s := by
  obtain ⟨es, events, -, -, -, records⟩ := recorded
  exact ⟨es, events, records⟩

/-- What a request does to the ambient state is what its answer tells. -/
theorem Request.ambient_reply (r : Request) (options : Options) (n : NodeId) (s : State) :
    match r.reply options n s with
    | .ok reply s' => s'.world.ambient = s.world.ambient.after (.answered n r reply) ∧
        s.world.ambient.Shows (.answered n r reply)
    | .error _ _ => True := by
  cases r with
  | fail failure =>
      by_cases abort : options.assertOnFailure = true
      · simp only [Request.reply, abort, if_true]
        trivial
      · simp only [Request.reply, abort]
        exact ⟨rfl, trivial⟩
  | tempFile file =>
      have kept : (s.tree.tempFile s.world options n file).2.ambient = s.world.ambient := by
        unfold Tree.tempFile
        split
        · rfl
        · dsimp only
          split <;> rfl
      exact ⟨kept, trivial⟩
  | writeFile path text =>
      refine ⟨?_, trivial⟩
      dsimp only
      split <;> rfl
  | exit cause => trivial
  | lookup key => exact ⟨rfl, rfl⟩
  | drawStream => exact ⟨rfl, rfl⟩
  | _ => exact ⟨rfl, trivial⟩

/-- A request of the innermost node is answered. -/
theorem Recorded.answer (recorded : Recorded base (n :: path) s) (r : Request) :
    (r.answer options n).Together (r.answer options n) s s
      (fun a b s' u' => b = a ∧ u' = s' ∧ Recorded base (n :: path) s')
      (fun s' u' => u' = s' ∧ RecordedToEnd base s') := by
  have told := r.ambient_reply options n s
  have emits : (r.answer options n).Emits s _ _ := r.emits_answer
  unfold Run.Emits at emits
  cases result : r.reply options n s with
  | ok reply s' =>
      rw [result] at told
      have answered := Request.answer_of_ok result
      rw [answered] at emits
      obtain ⟨_, ext, rfl⟩ := emits
      exact .of_ok answered answered
        ⟨rfl, rfl, recorded.step _ ext.events told.1 rfl told.2⟩
  | error how s' =>
      have ended := Request.answer_of_error result
      rw [ended] at emits
      obtain ⟨_, events, rfl, -⟩ := emits
      obtain ⟨es, sofar, records⟩ := recorded.toEnd
      refine .of_error ended ended ⟨rfl, es, ?_, records⟩
      rw [events, List.append_nil, sofar]

/-- A hook of the innermost node is called. -/
theorem Recorded.callHook (recorded : Recorded base (n :: path) s) (phase : Phase) :
    (callHook options hooks n phase).Together (callHook options hooks n phase) s s
      (fun _ _ s' u' => u' = s' ∧ Recorded base (n :: path) s')
      (fun s' u' => u' = s' ∧ RecordedToEnd base s') := by
  have staged := recorded.setStage n phase.stage
  refine together_callHook ⟨rfl, staged⟩ rfl fun _ => ?_
  refine (Program.together_conduct _ (Program.all_of_forall (fun _ => trivial) _) ?_ ⟨rfl, ?_⟩).mono
    fun _ _ _ _ post => post.2
  · rintro r - s _ ⟨rfl, recorded⟩
    exact recorded.answer r
  · exact staged.step (.called n phase _) State.extends_called.events rfl trivial trivial

/-- A node is opened once it has been entered. -/
theorem Recorded.openNode (entered : Recorded base (n :: path) (s.enter n)) :
    (openNode options hooks n).Together (openNode options hooks n) s s
      (fun a b s' u' => b = a ∧ u' = s' ∧ Recorded base (n :: path) s')
      (fun s' u' => u' = s' ∧ RecordedToEnd base s') := by
  refine .modify_bind (.bind (entered.callHook .setup) ?_)
  rintro - - s' _ ⟨rfl, recorded⟩
  refine .readClocks_bind (.modify_bind (.pure ⟨rfl, rfl, Recorded.setStage ?_ _ _⟩))
  exact recorded.of_eq rfl rfl

/-- The root is entered. -/
theorem recorded_enter_root (t : Tree) (base : World) :
    Recorded base [Tree.root] ((State.mk t base).enter Tree.root) := by
  refine ⟨[.entered Tree.root], State.extends_enter.events, rfl, rfl, rfl, ?_⟩
  exact eachAfter_nil.snoc ⟨List.forall_mem_nil _, trivial⟩

/-- A child is entered below the nodes that are open, for which the streams were rewound. -/
theorem Recorded.enter_child {c : NodeId} (recorded : Recorded base (n :: path) s) (down : n < c) :
    Recorded base (c :: n :: path) ((s.rewindFor c).enter c) := by
  obtain ⟨es, events, begun, opened, ambient, records⟩ := recorded
  have older : ∀ m ∈ n :: path, m < c := by
    have descending := records.descending
    rw [opened] at descending
    refine List.forall_mem_cons.2 ⟨down, fun m mem => ?_⟩
    exact Nat.lt_trans ((List.pairwise_cons.1 descending).1 m mem) down
  have other : c ≠ Tree.root := Nat.ne_of_gt (Nat.lt_of_le_of_lt (Nat.zero_le n) down)
  have rewound : base.ambient.Records (es ++ [.rewound c]) := records.snoc ⟨trivial, trivial⟩
  have place : (Event.entered c).InPlace (openNodes (es ++ [.rewound c])) := by
    rw [openNodes_snoc, opened]
    exact older
  have entered : base.ambient.Records (es ++ [.rewound c] ++ [.entered c]) :=
    rewound.snoc ⟨place, trivial⟩
  refine ⟨_, ?_, ?_, ?_, ?_, entered⟩
  · rw [State.extends_enter.events, State.extends_rewindFor.events, events]
    simp
  · simp [begun]
  · rw [openNodes_snoc, openNodes_snoc, opened]
    rfl
  · rw [Ambient.replay_snoc, Ambient.replay_snoc, ← ambient, Ambient.after, if_neg other]
    rfl

/-- The innermost node is closed. -/
theorem Recorded.closeNode (recorded : Recorded base (n :: path) s) (started : Time.Reading) :
    (closeNode options hooks n started).Together (closeNode options hooks n started) s s
      (fun _ _ s' u' => u' = s' ∧ Recorded base path s')
      (fun s' u' => u' = s' ∧ RecordedToEnd base s') := by
  refine .readClocks_bind (.modify_bind ?_)
  have read : Recorded base (n :: path) { s with world := s.world.readClocks.2 } :=
    recorded.of_eq rfl rfl
  have timed : ∀ elapsed, Recorded base (n :: path)
      (State.setElapsed { s with world := s.world.readClocks.2 } n elapsed) := fun elapsed =>
    read.step (.timed n elapsed) State.extends_setElapsed.events rfl trivial trivial
  refine .bind ((timed _).callHook .teardown) ?_
  rintro - - s' _ ⟨rfl, recorded⟩
  have left := recorded.step (.left n) State.extends_leave.events rfl rfl trivial
  exact .modify_bind (.modify ⟨rfl, left.setStage n .done⟩)

/-- A run of the root is recorded all the way. -/
theorem recorded_nested (options : Options) (hooks : NodeId → Hooks) (base : World) :
    Nested options options hooks hooks id (· < ·) (fun a b => b = a)
      (fun path s u => u = s ∧ Recorded base path s)
      (fun s u => u = s ∧ RecordedToEnd base s) where
  opened down := by
    rintro ⟨rfl, recorded⟩
    exact (recorded.enter_child down).openNode
  ran abandoned := by
    rintro ⟨rfl, recorded⟩
    cases abandoned with
    | true => exact .pure ⟨rfl, recorded⟩
    | false => exact recorded.callHook .run
  closed := by
    rintro s u n path a _ rfl ⟨rfl, recorded⟩
    exact recorded.closeNode _
  failed := by
    rintro s u n path ⟨rfl, -⟩
    rfl
  skipped c := by
    rintro ⟨rfl, recorded⟩
    exact ⟨rfl, recorded.of_eq rfl rfl⟩

end Recording

/-- Below a node, every node is younger than the one under which it stands. -/
theorem Tree.under_below (t : Tree) (n : NodeId) : (t.below n).Under (· < ·) n := by
  refine (Tree.below.mutual_induct t (fun n => (t.below n).Under (· < ·) n)
    (fun n cs => (t.belowAll n cs).Under (· < ·) n) ?_ ?_ ?_ ?_).1 n
  · intro n ih
    rwa [Tree.below]
  · intro n
    rw [Tree.belowAll]
    trivial
  · intro n c rest inside _ below beside
    rw [Tree.belowAll_cons, if_pos inside]
    exact ⟨inside.1, below, beside⟩
  · intro n c rest outside beside
    rwa [Tree.belowAll_cons, if_neg outside]

/-- What hooks see of the ambient state in a run of the root. Whatever the tree is and whatever the
hooks do, at every moment the value of an attribute is the one that was assigned to it last since a
node was entered or left or a hook dropped the overrides, and its default if there is none; and the
index of a stream is the number of streams that were drawn since a node other than the root was
entered or a hook rewound the streams. So an override that a node makes is there for its later hooks
exactly if no node was entered in between, and none outlasts a node. When the run is over, every
attribute has its default. -/
theorem runNode_root_seen (t : Tree) (options : Options) (hooks : NodeId → Hooks) (world : World) :
    match runNode options hooks Tree.root ⟨t, world⟩ with
    | .ok () s => ∃ es, s.world.events.toList = world.events.toList ++ es ∧
        world.ambient.Seen es ∧
        ∀ key, s.world.ambient.get key = world.ambient.defaults.lookup key
    | .error _ s => ∃ es, s.world.events.toList = world.events.toList ++ es ∧
        world.ambient.Seen es := by
  have nested := recorded_nested options hooks world
  have same : t.below (id Tree.root) = (t.below Tree.root).map id := by rw [Forest.map_id, id]
  have together :=
    nested.runNode (recorded_enter_root t world).openNode (t.under_below Tree.root) same
  unfold Run.Together at together
  cases result : runNode options hooks Tree.root ⟨t, world⟩ with
  | ok value s =>
      simp only [id, result] at together
      obtain ⟨-, es, events, begun, closed, ambient, records⟩ := together
      refine ⟨es, events, records.seen, fun key => ?_⟩
      rw [ambient, Ambient.get, records.overrides_eq_nil begun closed, Ambient.defaults_replay]
      rfl
  | error how s =>
      simp only [id, result] at together
      obtain ⟨-, -, es, events, records⟩ := together
      exact ⟨es, events, records.seen⟩

/-- The first stream of the root has the initial index. After a child has drawn one, the root goes
on from there. -/
example : (streams 5 [.entered 0], streams 5 [.entered 0, .answered 0 .drawStream 5],
    streams 5 [.entered 0, .answered 0 .drawStream 5, .answered 0 .drawStream 6, .rewound 1,
      .entered 1, .answered 1 .drawStream 0, .left 1]) = (5, 6, 1) := by
  decide

end SuiteTree
