import SuiteTree.Proofs.Run.Composition
import SuiteTree.Proofs.Run.Renewal
import SuiteTree.Proofs.Run.Script

/-!
# Checks that hooks carry out

A procedure is a hook in which the checks are marked: it may do all that a hook can, and what it
does next may depend on everything it is told. A hook does not show which checks it has carried out,
since those that hold leave no trace. A procedure does. Whatever it does otherwise, each of its
checks that does not hold is reported, and in a run that comes to its end all these reports are
among the failures of their nodes.
-/

namespace SuiteTree

/-- A hook in which the checks are marked. A check says whether the hook is to go on. -/
inductive Procedure : Type
  | done
  | ask (request : Request) (next : request.Reply → Procedure)
  | check (c : Check) (next : Bool → Procedure)

namespace Procedure

/-- The procedure as a hook. -/
def program : Procedure → Program Unit
  | done => .skip
  | ask request next => .ask request fun reply => (next reply).program
  | check c next => c.conduct.bind fun goOn => (next goOn).program

/-- The checks that the procedure comes to as a hook of node `n` when it starts in a state, in their
order. -/
def checks (options : Options) (n : NodeId) : Procedure → State → List Check
  | done, _ => []
  | ask request next, s =>
    match request.answer options n s with
    | .ok reply s' => (next reply).checks options n s'
    | .error _ _ => []
  | check c next, s =>
    c :: match c.conduct.conduct options n s with
      | .ok goOn s' => (next goOn).checks options n s'
      | .error _ _ => []

/-- The hooks of a node whose procedures are given. -/
def hooks (procedures : Phase → Procedure) : Hooks where
  setup := (procedures .setup).program
  run := (procedures .run).program
  teardown := (procedures .teardown).program

@[simp] theorem hooks_at (procedures : Phase → Procedure) (phase : Phase) :
    (hooks procedures).at phase = (procedures phase).program := by
  cases phase <;> rfl

end Procedure

section OneHook

variable {options : Options} {n : NodeId} {s : State}

/-- A check is reported exactly if it does not hold. It ends the process if failures do so. -/
theorem Check.emits (c : Check) :
    (c.conduct.conduct options n).Emits s
      (fun _ es => reports es = if c.holds then [] else [(n, c.failure)])
      (fun how _ => c.holds = false ∧ how = .aborted ∧ options.assertOnFailure = true) := by
  apply (Move.check c).emits.mono
  · rintro goOn es ⟨-, reported, -, -⟩
    rw [reported, Move.record?]
    cases c.holds <;> rfl
  · rintro how es ⟨-, rfl, aborts, missed⟩
    refine ⟨?_, rfl, aborts⟩
    cases holds : c.holds with
    | true => simp [Move.record?, holds] at missed
    | false => rfl

/-- The failure of every check among `cs` that does not hold is among the reports of node `n`,
unless the process was aborted. -/
def Reported (n : NodeId) (cs : List Check) (es : List Event) (ended : Option Halt) : Prop :=
  ∀ c ∈ cs, c.holds = false → (n, c.failure) ∈ reports es ∨ ended = some .aborted

theorem Reported.append_left {cs : List Check} {b : List Event} {ended : Option Halt}
    (reported : Reported n cs b ended) (a : List Event) : Reported n cs (a ++ b) ended := by
  intro c mem fails
  rw [reports_append, List.mem_append]
  exact (reported c mem fails).imp_left .inr

/-- A procedure reports each of its checks that does not hold. -/
theorem Procedure.emits (p : Procedure) :
    (p.program.conduct options n).Emits s
      (fun _ es => Reported n (p.checks options n s) es none)
      (fun how es => Reported n (p.checks options n s) es (some how)) := by
  induction p generalizing s with
  | done => exact .pure (List.forall_mem_nil _)
  | ask request next ih =>
      refine request.emits_answer.bind_of_result ?_ ?_
      · intro reply es s' result _ _
        simp only [checks, result]
        exact (ih reply).mono (fun _ _ rest => rest.append_left es) fun _ _ rest =>
          rest.append_left es
      · intro how es s' result _
        simp only [checks, result]
        exact List.forall_mem_nil _
  | check c next ih =>
      rw [program, Program.conduct_bind]
      refine c.emits.bind_of_result ?_ ?_
      · intro goOn es s' result _ reported
        simp only [checks, result]
        have first : ∀ es' ended, Reported n [c] (es ++ es') ended := by
          intro es' ended
          refine List.forall_mem_singleton.2 fun fails => .inl ?_
          simp [reported, fails]
        refine (ih goOn).mono (fun _ es' rest => ?_) fun how es' rest => ?_
        all_goals exact List.forall_mem_append.2 ⟨first es' _, rest.append_left es⟩
      · rintro how es s' result ⟨-, rfl, -⟩
        exact fun _ _ _ => .inr rfl

end OneHook

/-- The events `es` are those of a run, from some moment on, that ends as `ended` says, and `cs` are
the checks that its hooks came to in them, with the nodes of the hooks. -/
inductive Performs (options : Options) (procedures : NodeId → Phase → Procedure) :
    Option Halt → List Event → List (NodeId × Check) → Prop where
  | nil : Performs options procedures none [] []
  | own {ended : Option Halt} {e : Event} {es : List Event} {cs : List (NodeId × Check)}
      (runners : e.isRunners = true) (rest : Performs options procedures ended es cs) :
      Performs options procedures ended (e :: es) cs
  | call {ended : Option Halt} {n : NodeId} {phase : Phase} {s s' : State}
      {answers es : List Event} {cs : List (NodeId × Check)}
      (result : (procedures n phase).program.conduct options n s = .ok () s')
      (extends_ : s.Extends answers s') (rest : Performs options procedures ended es cs) :
      Performs options procedures ended (.called n phase s.tree :: (answers ++ es))
        (((procedures n phase).checks options n s).map (n, ·) ++ cs)
  | last {how : Halt} {n : NodeId} {phase : Phase} {s s' : State} {answers : List Event}
      (result : (procedures n phase).program.conduct options n s = .error how s')
      (events : s'.world.events.toList = s.world.events.toList ++ answers) :
      Performs options procedures (some how) (.called n phase s.tree :: answers)
        (((procedures n phase).checks options n s).map (n, ·))

section Performing

variable {options : Options} {procedures : NodeId → Phase → Procedure} {ended : Option Halt}
  {a b es : List Event} {cs ds : List (NodeId × Check)}

theorem Performs.append (first : Performs options procedures none a cs)
    (second : Performs options procedures ended b ds) :
    Performs options procedures ended (a ++ b) (cs ++ ds) := by
  generalize unended : (none : Option Halt) = how at first
  induction first with
  | nil => exact second
  | own runners _ ih => exact .own runners (ih unended)
  | call result extends_ _ ih =>
      rw [List.cons_append, List.append_assoc, List.append_assoc]
      exact .call result extends_ (ih unended)
  | last => cases unended

/-- Every check that a hook came to and that does not hold is reported, unless the process was
aborted. -/
theorem Performs.reported (performs : Performs options procedures ended es cs) {n : NodeId}
    {c : Check} (mem : (n, c) ∈ cs) (fails : c.holds = false) :
    (n, c.failure) ∈ reports es ∨ ended = some .aborted := by
  induction performs with
  | nil => cases mem
  | @own ended e es cs runners _ ih =>
      have silent : e.report? = none := by
        cases e with
        | answered => cases runners
        | _ => rfl
      rw [reports_cons_of_none silent]
      exact ih mem
  | @call ended m phase s s' answers es cs result extends_ _ ih =>
      rw [reports_cons_of_none rfl, reports_append, List.mem_append, or_assoc]
      obtain mine | later := List.mem_append.1 mem
      · obtain ⟨c', came, same⟩ := List.mem_map.1 mine
        cases same
        have reported := (procedures n phase).emits.value result extends_ c came fails
        exact .inl (reported.resolve_right (by simp))
      · exact .inr (ih later)
  | @last how m phase s s' answers result events =>
      rw [reports_cons_of_none rfl]
      obtain ⟨c', came, same⟩ := List.mem_map.1 mem
      cases same
      exact (procedures n phase).emits.halt result events c came fails

/-- A check that a procedure comes to in any case is among those of a run that called it. -/
theorem Performs.mem_of_called (performs : Performs options procedures ended es cs) {n : NodeId}
    {phase : Phase} {u : Tree} {c : Check} (called : .called n phase u ∈ es)
    (comes : ∀ s, c ∈ (procedures n phase).checks options n s) : (n, c) ∈ cs := by
  induction performs with
  | nil => cases called
  | own runners _ ih =>
      obtain rfl | later := List.mem_cons.1 called
      · cases runners
      · exact ih later
  | @call ended m phase' s s' answers es cs result extends_ _ ih =>
      obtain same | later := List.mem_cons.1 called
      · cases same
        exact List.mem_append_left _ (List.mem_map_of_mem (comes s))
      · obtain answer | later := List.mem_append.1 later
        · exact ((Program.emits_conduct _).value result extends_ _ answer).elim
        · exact List.mem_append_right _ (ih later)
  | @last how m phase' s s' answers result events =>
      obtain same | answer := List.mem_cons.1 called
      · cases same
        exact List.mem_map_of_mem (comes s)
      · exact (((Program.emits_conduct _).halt result events).1 _ answer).elim

/-- Whatever its hooks do, a run is performed in this sense. -/
theorem composable_performs (options : Options) (procedures : NodeId → Phase → Procedure)
    (t : Tree) : Composable options (fun n => Procedure.hooks (procedures n)) t
      (fun es => ∃ cs, Performs options procedures none es cs)
      (fun how es => ∃ cs, Performs options procedures (some how) es cs) where
  nil := ⟨[], .nil⟩
  append := fun ⟨_, first⟩ ⟨_, second⟩ => ⟨_, first.append second⟩
  halted := fun ⟨_, first⟩ ⟨_, second⟩ => ⟨_, first.append second⟩
  own runners := ⟨[], .own runners .nil⟩
  call {s n} phase _ := by
    have emits : ((procedures n phase).program.conduct options n).Emits s _ _ :=
      Program.emits_conduct _
    rw [Procedure.hooks_at]
    unfold Run.Emits at emits ⊢
    cases result : (procedures n phase).program.conduct options n s with
    | ok value s' =>
        rw [result] at emits
        obtain ⟨answers, ext, -⟩ := emits
        have call :
            Performs options procedures none (.called n phase s.tree :: (answers ++ [])) _ :=
          .call result ext .nil
        rw [List.append_nil] at call
        exact ⟨answers, ext, _, call⟩
    | error how s' =>
        rw [result] at emits
        obtain ⟨answers, events, -⟩ := emits
        exact ⟨answers, events, _, .last result events⟩

end Performing

end SuiteTree
