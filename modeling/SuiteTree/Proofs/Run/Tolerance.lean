import SuiteTree.Proofs.Number.Distance
import SuiteTree.Proofs.Run.Procedure

/-!
# What a passed tolerance check says

A node that ends without failures has passed all checks that its hooks came to. For a tolerance
check on numbers this means that the two values agree. It means nothing where one of the three
doubles is no number, since such a check asks whether a distance is greater than the tolerance, and
no comparison with such a double holds.
-/

namespace SuiteTree

/-- A tolerance check on these doubles, as an expectation or as a requirement. -/
def Check.Tolerates (c : Check) (actual limit tolerance : Float) : Prop :=
  ∃ (site : Site) (words message : String),
    c = site.expectWithin words actual limit tolerance message ∨
      c = (site.expectWithin words actual limit tolerance message).require

/-- When the check holds, and when it holds for doubles that do not agree. -/
structure Check.Judges (c : Check) (actual limit tolerance : Float) : Prop where
  holds_iff : c.holds = true ↔ (actual - limit).abs ≤ tolerance ∨
    actual.isInf = true ∧ (actual == limit) = true ∨ Number.Undefined actual limit tolerance
  overlooks_iff : c.holds = true ∧ ¬ Number.Agree actual limit tolerance ↔
    actual.isNaN = true ∨ limit.isNaN = true ∨
      tolerance.isNaN = true ∧ (actual == limit) = false

section

variable {c : Check} {actual limit tolerance : Float}

theorem Check.Tolerates.holds_iff (tolerates : c.Tolerates actual limit tolerance) :
    c.holds = true ↔ Number.farther actual limit tolerance = false := by
  obtain ⟨site, words, message, rfl | rfl⟩ := tolerates
  all_goals exact Iff.of_eq (Bool.not_eq_true' _)

theorem Check.Tolerates.judges (tolerates : c.Tolerates actual limit tolerance) :
    c.Judges actual limit tolerance where
  holds_iff := tolerates.holds_iff.trans Number.farther_eq_false_iff
  overlooks_iff := by rw [tolerates.holds_iff, Number.overlooked_iff]

end

/-- The hooks of a run with the events `es`, which ended as `ended` says, came to certain checks,
and each of these that does not hold is among the failures of its node in `u`, unless the process
was aborted. -/
def ChecksRecorded (options : Options) (procedures : NodeId → Phase → Procedure)
    (ended : Option Halt) (u : Tree) (es : List Event) : Prop :=
  (∃ cs, Performs options procedures ended es cs) ∧
    ∀ cs, Performs options procedures ended es cs → ∀ n c, (n, c) ∈ cs → c.holds = false →
      c.failure ∈ u.failures n ∨ ended = some .aborted

section Recording

variable {options : Options} {procedures : NodeId → Phase → Procedure} {t : Tree} {top : NodeId}

theorem Visit.checksRecorded {ended : Option Halt} {es more : List Event}
    (visit : Visit t top (es ++ more)) (wf : t.WellFormed) (inside : top < t.size)
    (performed : ∃ cs, Performs options procedures ended es cs) :
    ChecksRecorded options procedures ended (t.replay es) es := by
  refine ⟨performed, fun cs performs n c mem fails => ?_⟩
  exact (performs.reported mem fails).imp_left (visit.mem_failures wf inside)

theorem Tree.checks_recorded (wf : t.WellFormed) (inside : top < t.size) (world : World) :
    t.AfterRun options (fun n => Procedure.hooks (procedures n)) top world
      (ChecksRecorded options procedures none)
      (fun how es => ChecksRecorded options procedures (some how) (t.replay es) es) := by
  have visited : t.AfterRun options (fun n => Procedure.hooks (procedures n)) top world
      (fun u es => u = t.replay es ∧ Visit t top es)
      (fun _ es => ∃ more, Visit t top (es ++ more)) :=
    wf.afterRun (fun es visit => ⟨rfl, visit⟩) fun _ es ⟨_, more, _, visit⟩ => ⟨more, visit⟩
  refine (visited.and ((composable_performs options procedures t).afterRun world)).mono ?_ ?_
  · rintro u es ⟨⟨rfl, visit⟩, performed⟩
    rw [← List.append_nil es] at visit
    exact visit.checksRecorded wf inside performed
  · rintro how es ⟨⟨more, visit⟩, performed⟩
    exact visit.checksRecorded wf inside performed

/-- A node that ends without failures has passed all its checks. -/
theorem ChecksRecorded.holds {u : Tree} {es : List Event} {cs : List (NodeId × Check)}
    {n : NodeId} {c : Check} (recorded : ChecksRecorded options procedures none u es)
    (performs : Performs options procedures none es cs) (mem : (n, c) ∈ cs)
    (passed : u.isFailed n = false) : c.holds = true := by
  rw [← Bool.not_eq_false]
  intro fails
  have failure := (recorded.2 cs performs n c mem fails).resolve_right (by simp)
  have failed : u.isFailed n = true := Tree.isFailed_iff.2 (.inr (List.ne_nil_of_mem failure))
  rw [passed] at failed
  cases failed

end Recording

/-- Passed tolerance checks, in runs of any node of a reachable tree and whatever the hooks do. A
tolerance check holds although its doubles do not agree exactly if the actual value or the limit is
no number, or the tolerance is none and the two differ. A check leaves a report exactly if it does
not hold, and unless the process is aborted the failure is there when the run ends. So if a node
ends without failures, every tolerance check that its hooks came to was on doubles that agree or of
which one is no number. -/
theorem passed_checks_agree_or_undefined {t : Tree} (reach : t.Reachable) {top : NodeId}
    (inside : top < t.size) (options : Options) (procedures : NodeId → Phase → Procedure)
    (world : World) :
    (∀ (c : Check) (actual limit tolerance : Float), c.Tolerates actual limit tolerance →
      c.Judges actual limit tolerance) ∧
    (∀ (c : Check) (n : NodeId) (s : State), (c.conduct.conduct options n).Emits s
      (fun _ es => reports es = if c.holds then [] else [(n, c.failure)])
      (fun how _ => c.holds = false ∧ how = .aborted ∧ options.assertOnFailure = true)) ∧
    t.AfterRun options (fun n => Procedure.hooks (procedures n)) top world
      (fun u es => ChecksRecorded options procedures none u es ∧
        ∀ cs, Performs options procedures none es cs → ∀ n c, (n, c) ∈ cs →
          u.isFailed n = false → c.holds = true ∧
            ∀ actual limit tolerance, c.Tolerates actual limit tolerance →
              Number.Agree actual limit tolerance ∨ Number.Undefined actual limit tolerance)
      (fun how es => ChecksRecorded options procedures (some how) (t.replay es) es) := by
  refine ⟨fun c _ _ _ tolerates => tolerates.judges, fun c n s => c.emits, ?_⟩
  refine (Tree.checks_recorded reach.wellFormed inside world).mono ?_ fun _ _ => id
  intro u es recorded
  refine ⟨recorded, fun cs performs n c mem passed => ?_⟩
  have holds := recorded.holds performs mem passed
  refine ⟨holds, fun actual limit tolerance tolerates => ?_⟩
  exact Number.agrees_or_undefined (tolerates.holds_iff.1 holds)

/-- The first case has a requirement that holds. The second one has an expectation that does not,
and goes on with one that does. -/
theorem distant_value_recorded :
    let site : Site := ⟨"speed", "limit", "suite.rs", 7⟩
    let near := (site.expectWithin "0.5" 1.25 1 0.5 "too far").require
    let far := site.expectWithin "0.5" 3 1 0.5 "too far"
    let procedures : NodeId → Phase → Procedure := fun n phase =>
      match n, phase with
      | 1, .run => .check near fun _ => .done
      | 2, .run => .check far fun _ => .check near fun _ => .done
      | _, _ => .done
    let t := Tree.twoCases
    t.Reachable ∧ Tree.root < t.size ∧ near.holds = true ∧ near.Judges 1.25 1 0.5 ∧
      far.holds = false ∧ far.Judges 3 1 0.5 ∧
      t.AfterRun {} (fun n => Procedure.hooks (procedures n)) Tree.root {}
        (fun u es => ChecksRecorded {} procedures none u es ∧
          ∀ cs, Performs {} procedures none es cs → ∀ n c, (n, c) ∈ cs →
            u.isFailed n = false → c.holds = true ∧
              ∀ actual limit tolerance, c.Tolerates actual limit tolerance →
                Number.Agree actual limit tolerance ∨ Number.Undefined actual limit tolerance)
        (fun how es => ChecksRecorded {} procedures (some how) (t.replay es) es) := by
  intro site near far procedures t
  have reach : t.Reachable := Tree.twoCases_reachable
  have inside : Tree.root < t.size := by decide
  obtain ⟨judges, -, run⟩ := passed_checks_agree_or_undefined reach inside {} procedures {}
  exact ⟨reach, inside, by decide +kernel, judges near _ _ _ ⟨site, _, _, .inr rfl⟩,
    by decide +kernel, judges far _ _ _ ⟨site, _, _, .inl rfl⟩, run⟩

/-- A value that is no number agrees with nothing, yet the suite that checks it is not failed. -/
theorem undefined_value_passes :
    let actual : Float := 0 / 0
    let site : Site := ⟨"speed", "limit", "suite.rs", 7⟩
    let c := site.expectWithin "0.5" actual 1 0.5 "too far"
    let procedures : NodeId → Phase → Procedure := fun _ phase =>
      if phase = .run then .check c fun _ => .done else .done
    c.Tolerates actual 1 0.5 ∧ ¬ Number.Agree actual 1 0.5 ∧
      (Tree.new "suite").AfterRun {} (fun n => Procedure.hooks (procedures n)) Tree.root {}
        (fun u es => u.isFailed Tree.root = false ∧
          ∃ cs, Performs {} procedures none es cs ∧ (Tree.root, c) ∈ cs)
        (fun _ _ => False) := by
  intro actual site c procedures
  refine ⟨⟨site, "0.5", "too far", .inl rfl⟩, by decide +kernel, ?_⟩
  let passedChecked (s : State) : Bool := !s.tree.isFailed Tree.root &&
    s.world.events.toList.any fun e => e.call? == some (Tree.root, .run)
  have shape : (Tree.new "suite").below Tree.root = .nil := by
    simp [Tree.below, Tree.belowAll, Tree.new, Tree.get, Tree.root]
  obtain ⟨s, result, eval⟩ : ∃ s, runNode {} (fun n => Procedure.hooks (procedures n)) Tree.root
      ⟨Tree.new "suite", {}⟩ = .ok () s ∧ passedChecked s = true :=
    exists_ended_of_eval .nil shape (by decide +kernel)
  have performed := (composable_performs {} procedures (Tree.new "suite")).afterRun
    (n := Tree.root) {}
  unfold Tree.AfterRun at performed ⊢
  rw [result] at performed ⊢
  obtain ⟨es, events, cs, performs⟩ := performed
  obtain ⟨passed, called⟩ := Bool.and_eq_true_iff.1 eval
  obtain ⟨e, mem, call⟩ := List.any_eq_true.1 called
  obtain ⟨u, rfl⟩ : ∃ u, e = .called Tree.root .run u := by
    cases e with
    | called n phase u =>
        obtain ⟨rfl, rfl⟩ := Prod.mk.inj (Option.some.inj (beq_iff_eq.1 call))
        exact ⟨u, rfl⟩
    | _ => cases call
  have mem : .called Tree.root .run u ∈ es := by rwa [events] at mem
  have comes : ∀ s, c ∈ (procedures Tree.root .run).checks {} Tree.root s := by
    intro s
    rw [show procedures Tree.root .run = .check c fun _ => .done from rfl, Procedure.checks]
    exact List.mem_cons_self
  exact ⟨es, events, by simpa using passed, cs, performs, performs.mem_of_called mem comes⟩

end SuiteTree
