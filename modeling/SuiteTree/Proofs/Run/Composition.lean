import SuiteTree.Proofs.Run.Course

/-!
# What the calls of hooks pass on to a run

Between the calls of hooks a run adds events of its own, and these are always of the same few kinds.
So a property of events holds of a whole run if it holds of what each call adds and of each event of
the runner, and if it is kept when events are put one after the other. `Composable` collects these
conditions. The hooks are the ones of the run, not arbitrary ones that obey the order of a run as in
a `Visit`, so the property may say what they do.
-/

namespace SuiteTree

/-- The runner itself adds the event, between the calls of hooks. -/
def Event.isRunners : Event → Bool
  | called _ _ _ | answered _ _ _ => false
  | _ => true

/-- `P` holds of the events of every part of a run, beginning in a tree with the links of `t`, and
`H` of those up to the end of the process. -/
structure Composable (options : Options) (hooks : NodeId → Hooks) (t : Tree)
    (P : List Event → Prop) (H : Halt → List Event → Prop) : Prop where
  nil : P []
  append : ∀ {a b}, P a → P b → P (a ++ b)
  halted : ∀ {a b how}, P a → H how b → H how (a ++ b)
  own : ∀ {e : Event}, e.isRunners = true → P [e]
  call : ∀ {s : State} {n : NodeId} (phase : Phase), s.tree.pristine = t.pristine →
    (((hooks n).at phase).conduct options n).Emits s
      (fun _ answers => P (.called n phase s.tree :: answers))
      (fun how answers => H how (.called n phase s.tree :: answers))

namespace Composable

variable {α β : Type} {options : Options} {hooks : NodeId → Hooks} {t : Tree}
  {P : List Event → Prop} {H : Halt → List Event → Prop} {s : State} {n : NodeId}

/-- Two computations in sequence. -/
theorem bind (comp : Composable options hooks t P H) {x : Run α} {f : α → Run β}
    (links : s.tree.pristine = t.pristine) (first : x.Emits s (fun _ => P) H)
    (second : ∀ a s', s'.tree.pristine = t.pristine → (f a).Emits s' (fun _ => P) H) :
    (x >>= f).Emits s (fun _ => P) H := by
  refine first.bind ?_ fun _ _ => id
  intro a es s' ext sofar
  exact (second a s' (ext.pristine.trans links)).mono (fun _ _ => comp.append sofar)
    (fun _ _ => comp.halted sofar)

/-- One event of the runner. -/
theorem step (comp : Composable options hooks t P H) {g : State → State} {e : Event}
    (ext : s.Extends [e] (g s)) (own : e.isRunners = true) :
    Run.Emits (modify g) s (fun _ => P) H :=
  .of_ok rfl ext (comp.own own)

theorem readClocks (comp : Composable options hooks t P H) :
    Run.readClocks.Emits s (fun _ => P) H :=
  .of_ok rfl (.of_world rfl rfl (.of_eq rfl rfl)) comp.nil

theorem callHook (comp : Composable options hooks t P H) (phase : Phase)
    (links : s.tree.pristine = t.pristine) :
    (callHook options hooks n phase).Emits s (fun _ => P) H := by
  refine comp.bind links (comp.step State.extends_setStage rfl) fun _ s' links' => ?_
  refine .get_bind ?_
  split
  · refine .set_bind State.extends_called ?_
    exact comp.call phase links'
  · exact .pure comp.nil

theorem openNode (comp : Composable options hooks t P H) (links : s.tree.pristine = t.pristine) :
    (openNode options hooks n).Emits s (fun _ => P) H := by
  refine comp.bind links (comp.step State.extends_enter rfl) fun _ _ links => ?_
  refine comp.bind links (comp.callHook .setup links) fun _ _ links => ?_
  refine comp.bind links comp.readClocks fun _ _ links => ?_
  exact comp.bind links (comp.step State.extends_setStage rfl) fun _ _ _ => .pure comp.nil

theorem runSelf (comp : Composable options hooks t P H) (abandoned : Bool)
    (links : s.tree.pristine = t.pristine) :
    (runSelf options hooks n abandoned).Emits s (fun _ => P) H := by
  cases abandoned with
  | true => exact .pure comp.nil
  | false => exact comp.callHook .run links

theorem closeNode (comp : Composable options hooks t P H) (started : Time.Reading)
    (links : s.tree.pristine = t.pristine) :
    (closeNode options hooks n started).Emits s (fun _ => P) H := by
  refine comp.bind links comp.readClocks fun _ _ links => ?_
  refine comp.bind links (comp.step State.extends_setElapsed rfl) fun _ _ links => ?_
  refine comp.bind links (comp.callHook .teardown links) fun _ _ links => ?_
  exact comp.bind links (comp.step State.extends_leave rfl) fun _ _ _ =>
    comp.step State.extends_setStage rfl

theorem runAround (comp : Composable options hooks t P H) {children : Run Bool}
    (below : ∀ s : State, s.tree.pristine = t.pristine → children.Emits s (fun _ => P) H)
    (links : s.tree.pristine = t.pristine) :
    (runAround options hooks n children).Emits s (fun _ => P) H := by
  refine comp.bind links (comp.openNode links) fun started _ links => ?_
  refine comp.bind links (below _ links) fun abandoned _ links => ?_
  exact comp.bind links (comp.runSelf abandoned links) fun _ _ => comp.closeNode started

/-- The children of a node. The induction is on the forest that is run. -/
theorem runChildren (comp : Composable options hooks t P H) (forest : Forest)
    (links : s.tree.pristine = t.pristine) :
    (runChildren options hooks n forest).Emits s (fun _ => P) H := by
  induction forest generalizing n s with
  | nil => exact .pure comp.nil
  | node c below beside ihBelow ihBeside =>
      refine comp.bind links (comp.step State.extends_rewindFor rfl) fun _ _ links => ?_
      refine comp.bind links (comp.runAround (fun _ => ihBelow) links) fun _ s' links => ?_
      refine .get_bind ?_
      split
      · exact .modify_bind (.of_world rfl rfl (.of_eq rfl rfl)) (.pure comp.nil)
      · exact ihBeside links

theorem runNode (comp : Composable options hooks t P H) (links : s.tree.pristine = t.pristine) :
    (runNode options hooks n).Emits s (fun _ => P) H :=
  .get_bind (comp.runAround (fun _ => comp.runChildren _) links)

/-- What the calls of hooks pass on to a run that begins in the tree. -/
theorem afterRun (comp : Composable options hooks t P H) (world : World) :
    t.AfterRun options hooks n world (fun _ => P) H := by
  have emits : (SuiteTree.runNode options hooks n).Emits ⟨t, world⟩ _ _ := comp.runNode rfl
  unfold Run.Emits at emits
  unfold Tree.AfterRun
  cases result : SuiteTree.runNode options hooks n ⟨t, world⟩ with
  | ok value s =>
      rw [result] at emits
      obtain ⟨es, ext, p⟩ := emits
      exact ⟨es, ext.events, p⟩
  | error how s =>
      rw [result] at emits
      exact emits

end Composable

end SuiteTree
