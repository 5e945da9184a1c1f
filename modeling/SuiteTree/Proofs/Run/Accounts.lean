import SuiteTree.Proofs.Run.Scope
import SuiteTree.Proofs.Tree.Reachable

/-!
# Accounts of failures

In a run of the root of an untouched tree, what a node knows of its failures can be checked against
the reports so far: the failures of a node are those that it reported itself, and it is marked
exactly if a node below it has failures. This holds whenever a hook is called and after the run, and
further reports keep it.

The operation that could break it is to forget what is known of a node when it is entered. The
point is that nothing is known of a node at that time.
-/

namespace SuiteTree

/-- What the tree knows of failures is what was reported. A node passes or not by its own reports
alone. -/
structure Tree.Accounts (t : Tree) (rs : List (NodeId × Failure)) : Prop where
  failures_eq : ∀ n, t.failures n = reportsBy n rs
  isPassing_iff : ∀ n, t.isPassing n = true ↔ reportsBy n rs = []
  childrenFailed_iff : ∀ n, t.childrenFailed n = true ↔
    ∃ d ∈ (t.below n).preorder, t.failures d ≠ []

/-- Report several failures, one after the other. -/
def Tree.reportAll (t : Tree) (rs : List (NodeId × Failure)) : Tree :=
  rs.foldl (fun t r => t.reportFailure r.1 r.2) t

/-- Whenever a hook is called, it finds the reports so far accounted for. -/
def AccountsAtCalls (es : List Event) : Prop :=
  ∀ before n phase u later, es = before ++ .called n phase u :: later → u.Accounts (reports before)

namespace Tree

variable {t : Tree} {e : Event} {es : List Event} {rs : List (NodeId × Failure)} {n : NodeId}

/-- What the tree knows of failures, said of the way up from those who reported. -/
structure Tracks (t : Tree) (rs : List (NodeId × Failure)) : Prop where
  failures_eq : ∀ n, t.failures n = reportsBy n rs
  childrenFailed_iff : ∀ n, t.childrenFailed n = true ↔
    ∃ r ∈ rs, n ∈ t.ancestors r.1 ∧ n ≠ r.1

theorem Tracks.accounts (tracks : t.Tracks rs) (wf : t.WellFormed) : t.Accounts rs where
  failures_eq := tracks.failures_eq
  isPassing_iff n := by rw [Tree.isPassing_iff, tracks.failures_eq]
  childrenFailed_iff n := by
    rw [tracks.childrenFailed_iff]
    constructor
    · rintro ⟨⟨d, failure⟩, mem, up, ne⟩
      refine ⟨d, wf.mem_below_iff.2 ⟨up, Ne.symm ne⟩, ?_⟩
      rw [tracks.failures_eq]
      exact List.ne_nil_of_mem (mem_reportsBy_iff.2 mem)
    · rintro ⟨d, below, some⟩
      obtain ⟨up, ne⟩ := wf.mem_below_iff.1 below
      rw [tracks.failures_eq] at some
      obtain ⟨failure, mem⟩ := List.exists_mem_of_ne_nil _ some
      exact ⟨(d, failure), mem_reportsBy_iff.1 mem, up, Ne.symm ne⟩

theorem Untouched.tracks (untouched : t.Untouched) : t.Tracks [] where
  failures_eq n := (untouched n).failures
  childrenFailed_iff n := by simp [(untouched n).childrenFailed]

/-- An event keeps the accounts, if it does not enter a node of which anything is known. -/
theorem Tracks.after (tracks : t.Tracks rs) (inside : e.node < t.size)
    (clean : ∀ m, e = .entered m → t.Idle m) : (t.after e).Tracks (rs ++ reports [e]) := by
  have entered : ∀ m, e = .entered m → (t.after e).failures m = [] ∧
      (t.after e).childrenFailed m = false ∧ reports [e] = [] := by
    rintro m rfl
    have begun : ((t.after (.entered m)).get m).result = some {} := result_beginResult_self inside
    rw [Tree.failures, Tree.childrenFailed, begun]
    exact ⟨rfl, rfl, rfl⟩
  constructor
  · intro m
    rw [reportsBy_append, ← tracks.failures_eq]
    by_cases enters : e = .entered m
    · obtain ⟨none, -, quiet⟩ := entered m enters
      rw [none, (clean m enters).failures, quiet]
      rfl
    · exact failures_after inside enters
  · intro m
    simp only [ancestors_after, List.mem_append, or_and_right, exists_or]
    rw [← tracks.childrenFailed_iff]
    by_cases enters : e = .entered m
    · obtain ⟨-, unmarked, quiet⟩ := entered m enters
      rw [unmarked, (clean m enters).childrenFailed, quiet]
      simp
    · exact childrenFailed_after inside enters

theorem Tracks.reportFailure (tracks : t.Tracks rs) (inside : n < t.size) (failure : Failure) :
    (t.reportFailure n failure).Tracks (rs ++ [(n, failure)]) :=
  tracks.after (e := .answered n (.fail failure) ()) inside (by simp)

@[simp] theorem pristine_reportAll (t : Tree) (rs : List (NodeId × Failure)) :
    (t.reportAll rs).pristine = t.pristine := by
  induction rs generalizing t with
  | nil => rfl
  | cons r rs ih => exact (ih _).trans (pristine_reportFailure t r.1 r.2)

theorem Tracks.reportAll (later : List (NodeId × Failure)) (tracks : t.Tracks rs)
    (inside : ∀ r ∈ later, r.1 < t.size) : (t.reportAll later).Tracks (rs ++ later) := by
  induction later generalizing t rs with
  | nil => simpa [Tree.reportAll] using tracks
  | cons r later ih =>
      have first := tracks.reportFailure (inside r List.mem_cons_self) r.2
      have size : (t.reportFailure r.1 r.2).size = t.size :=
        size_eq_of_pristine (pristine_reportFailure t r.1 r.2)
      have rest := ih first fun r' mem => size ▸ inside r' (List.mem_cons_of_mem _ mem)
      simpa [Tree.reportAll] using rest

end Tree

/-- A node that is entered has not been touched before, and a hook finds the tree as it is. -/
def Orderly (t : Tree) : Event → Prop
  | .entered n => t.Idle n
  | .called _ _ u => u = t
  | _ => True

section Entering

variable {t : Tree} {n : NodeId} {phase : Phase} {abandoned : Bool} {es : List Event}

theorem HookCall.orderly (call : HookCall t n phase es) : t.Along Orderly es := by
  cases call with
  | called _ own =>
      refine ⟨trivial, rfl, Tree.along_of_forall _ ?_⟩
      intro u e mem
      have answer := own e mem
      cases e with
      | answered => trivial
      | _ => exact answer.elim
  | silent => exact ⟨trivial, trivial⟩

theorem Opening.orderly (opening : Opening t n es) (idle : t.Idle n) : t.Along Orderly es := by
  cases opening with
  | mk call => exact ⟨idle, (Tree.along_append _ _ _ _).2 ⟨call.orderly, trivial, trivial⟩⟩

theorem OwnRun.orderly (own : OwnRun t n abandoned es) : t.Along Orderly es := by
  cases own with
  | skipped => trivial
  | reached call => exact call.orderly

theorem Leaving.orderly (leaving : Leaving t n es) : t.Along Orderly es := by
  cases leaving with
  | mk call =>
      exact ⟨trivial, (Tree.along_append _ _ _ _).2 ⟨call.orderly, trivial, trivial, trivial⟩⟩

private theorem orderly_stepwise : Stepwise
    (fun t n es => t.Dormant n → t.Along Orderly es)
    (fun t _ cs es _ => (∀ c ∈ cs, t.Dormant c) → t.Along Orderly es) where
  visit {t n a b c d abandoned} wf _ opening _ below own leaving := by
    intro dormant
    have ownRun := own.orderly
    have left := leaving.orderly
    rw [Tree.replay_append] at ownRun left
    rw [Tree.replay_append] at left
    rw [Tree.along_append, Tree.along_append, Tree.along_append]
    exact ⟨opening.orderly dormant.self, below (opening.dormant_children wf dormant), ownRun, left⟩
  done _ _ _ := trivial
  stopped {t n c rest a} _ _ _ _ below _ := by
    intro dormant
    exact ⟨trivial, below (dormant c List.mem_cons_self)⟩
  next {t n c rest a b abandoned} wf _ last visit below _ _ beside := by
    intro dormant
    refine ⟨trivial, (Tree.along_append _ _ _ _).2 ⟨below (dormant c List.mem_cons_self), ?_⟩⟩
    exact beside (visit.dormant_later wf last dormant)

/-- In a visit of an untouched subtree every node is entered untouched. -/
theorem Visit.orderly (visit : Visit t n es) (wf : t.WellFormed) (inside : n < t.size)
    (dormant : t.Dormant n) : t.Along Orderly es :=
  orderly_stepwise.of_visit wf inside visit dormant

end Entering

variable {t : Tree} {es : List Event} {rs : List (NodeId × Failure)}

/-- An orderly course of events keeps the accounts. -/
theorem Tree.Tracks.replay (tracks : t.Tracks rs) (orderly : t.Along Orderly es)
    (inside : ∀ e ∈ es, e.node < t.size) : (t.replay es).Tracks (rs ++ reports es) := by
  induction es generalizing t rs with
  | nil => simpa [reports] using tracks
  | cons e es ih =>
      obtain ⟨first, rest⟩ := orderly
      have clean : ∀ m, e = .entered m → t.Idle m := by
        rintro m rfl
        exact first
      have next := ih (tracks.after (inside e List.mem_cons_self) clean) rest fun e' mem => by
        rw [Tree.size_after]
        exact inside e' (List.mem_cons_of_mem _ mem)
      rwa [List.append_assoc, ← reports_append] at next

/-- So every hook finds the accounts kept. -/
theorem Tree.Tracks.accountsAtCalls (tracks : t.Tracks []) (wf : t.WellFormed)
    (orderly : t.Along Orderly es) (inside : ∀ e ∈ es, e.node < t.size) : AccountsAtCalls es := by
  rintro before n phase u later rfl
  have same : u = t.replay before := orderly.at_event
  have sofar := tracks.replay ((along_append _ _ _ _).1 orderly).1 fun e mem =>
    inside e (List.mem_append_left _ mem)
  rw [same]
  exact sofar.accounts (wf.replay before)

theorem AccountsAtCalls.of_append {more : List Event} (h : AccountsAtCalls (es ++ more)) :
    AccountsAtCalls es := by
  rintro before n phase u later rfl
  exact h before n phase u (later ++ more) (by simp)

/-- While a run goes through a tree in which nothing has run or failed, whatever its hooks do, every
hook that is called finds what was reported so far accounted for, and so does everyone after the
run, also after further reports. -/
theorem runNode_accounts (reach : t.Reachable) (untouched : t.Untouched) (options : Options)
    (hooks : NodeId → Hooks) (world : World) :
    t.AfterRun options hooks Tree.root world
      (fun u es => AccountsAtCalls es ∧ ∀ later : List (NodeId × Failure),
        (∀ r ∈ later, r.1 < u.size) → (u.reportAll later).Accounts (reports es ++ later))
      (fun halt es => EndsInHook options hooks halt es ∧ AccountsAtCalls es) := by
  have wf := reach.wellFormed
  have tracks := untouched.tracks
  have course : ∀ es, Visit t Tree.root es → t.Along Orderly es ∧ ∀ e ∈ es, e.node < t.size := by
    intro es visit
    refine ⟨visit.orderly wf wf.root_lt_size (untouched.dormant _), ?_⟩
    intro e mem
    exact Tree.lt_size_of_mem_ancestors (visit.scope wf wf.root_lt_size e mem) wf.root_lt_size
  apply wf.afterRun
  · intro es visit
    obtain ⟨orderly, inside⟩ := course es visit
    refine ⟨tracks.accountsAtCalls wf orderly inside, ?_⟩
    intro later attached
    have whole := (tracks.replay orderly inside).reportAll later attached
    have same : t.pristine = ((t.replay es).reportAll later).pristine := by simp
    exact whole.accounts (wf.of_pristine same)
  · rintro halt es ⟨ends, more, -, visit⟩
    obtain ⟨orderly, inside⟩ := course _ visit
    exact ⟨ends, (tracks.accountsAtCalls wf orderly inside).of_append⟩

/-- The second of two cases fails while it is run. -/
theorem failing_case_accounts :
    let failing : Program Unit := .request (.fail ⟨"a < b", "2", "1", "", "suite.rs", 7⟩)
    let hooks : NodeId → Hooks := fun n => if n = 2 then { run := failing } else .idle
    Tree.twoCases.Reachable ∧ Tree.twoCases.Untouched ∧
      Tree.twoCases.AfterRun {} hooks Tree.root {}
        (fun u es => AccountsAtCalls es ∧ ∀ later : List (NodeId × Failure),
          (∀ r ∈ later, r.1 < u.size) → (u.reportAll later).Accounts (reports es ++ later))
        (fun halt es => EndsInHook {} hooks halt es ∧ AccountsAtCalls es) := by
  intro failing hooks
  have reach := Tree.twoCases_reachable
  have untouched := Tree.twoCases_untouched
  exact ⟨reach, untouched, runNode_accounts reach untouched {} hooks {}⟩

end SuiteTree
