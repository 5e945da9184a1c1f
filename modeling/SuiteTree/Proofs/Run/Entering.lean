import Mathlib.Data.List.Nodup
import SuiteTree.Proofs.Run.Scope
import SuiteTree.Proofs.Tree.Preorder

/-!
# Which nodes a run enters

A run enters nodes in the order of the subtree that it runs, and none twice. Apart from rewinding
the streams for a child that is about to come, everything that happens in a run happens at a node
that has been entered, and so have all nodes between it and the node that is run. This holds at any
moment, so it is said of the first events of a run, however many they are.

It follows that a run leaves every node alone that it does not enter, and that in a subtree of which
nothing was known something is known of exactly the nodes that were entered so far.
-/

namespace SuiteTree

namespace Event

/-- The node that was entered. -/
def entered? : Event → Option NodeId
  | entered n => some n
  | _ => none

/-- The node whose setup hook was called. -/
def setUp? : Event → Option NodeId
  | called n .setup _ => some n
  | _ => none

/-- The streams were rewound for a child. -/
def isRewind : Event → Bool
  | rewound _ => true
  | _ => false

end Event

/-- The nodes that were entered, in their order. -/
def visited (es : List Event) : List NodeId :=
  es.filterMap Event.entered?

/-- The nodes whose setup hooks were called, in the order of the calls. -/
def setUp (es : List Event) : List NodeId :=
  es.filterMap Event.setUp?

section

variable (a b : List Event)

@[simp] theorem visited_append : visited (a ++ b) = visited a ++ visited b :=
  List.filterMap_append

@[simp] theorem setUp_append : setUp (a ++ b) = setUp a ++ setUp b :=
  List.filterMap_append

end

theorem visited_cons_of_none {e : Event} (none : e.entered? = none) (es : List Event) :
    visited (e :: es) = visited es :=
  List.filterMap_cons_none none

theorem mem_visited_iff {m : NodeId} {es : List Event} : m ∈ visited es ↔ .entered m ∈ es := by
  constructor
  · intro mem
    obtain ⟨e, he, same⟩ := List.mem_filterMap.1 mem
    cases e with
    | entered k => exact Option.some.inj same ▸ he
    | _ => cases same
  · exact fun mem => List.mem_filterMap.2 ⟨_, mem, rfl⟩

variable {t : Tree} {c m n : NodeId} {es : List Event} {phase : Phase} {abandoned : Bool}

section Order

theorem visited_eq_nil (none : ∀ m, .entered m ∉ es) : visited es = [] := by
  apply List.eq_nil_iff_forall_not_mem.2
  exact fun m mem => none m (mem_visited_iff.1 mem)

theorem Opening.visited_eq (opening : Opening t n es) : visited es = [n] := by
  cases opening with
  | mk call =>
      have none := visited_eq_nil fun m => call.not_entered (m := m)
      have head : visited [.entered n] = [n] := rfl
      have last : visited [.staged n .runningChildren] = [] := rfl
      rw [← List.singleton_append, visited_append, visited_append, none, head, last]
      rfl

private theorem visited_stepwise : Stepwise
    (fun t n es => (visited es).Sublist (t.preorder n))
    (fun t n cs es _ => (visited es).Sublist (t.belowAll n cs).preorder) where
  visit {t n a b c d abandoned} wf inside opening _ below own leaving := by
    have ownRun := visited_eq_nil fun m => own.not_entered (m := m)
    have left := visited_eq_nil fun m => leaving.not_entered (m := m)
    rw [Tree.belowAll_replay, ← Tree.below] at below
    rw [visited_append, visited_append, visited_append, opening.visited_eq, ownRun, left]
    simpa [Tree.preorder] using below
  done _ _ := List.nil_sublist _
  stopped {t n c rest a} wf _ last _ below _ := by
    have first : (visited a).Sublist (c :: (t.below c).preorder) := below
    rw [wf.belowAll_cons_child (last.mem List.mem_cons_self), visited_cons_of_none rfl]
    exact first.trans ((List.sublist_append_left _ _).cons_cons c)
  next {t n c rest a b abandoned} wf _ last _ below _ _ beside := by
    have first : (visited a).Sublist (c :: (t.below c).preorder) := below
    rw [Tree.belowAll_replay] at beside
    rw [wf.belowAll_cons_child (last.mem List.mem_cons_self), visited_cons_of_none rfl,
      visited_append]
    exact first.append beside

/-- Nodes are entered in the order of the subtree. -/
theorem Visit.visited_sublist (visit : Visit t n es) (wf : t.WellFormed) (inside : n < t.size) :
    (visited es).Sublist (t.preorder n) :=
  visited_stepwise.of_visit wf inside visit

/-- No node is entered twice. -/
theorem Visit.nodup_visited (visit : Visit t n es) (wf : t.WellFormed) (inside : n < t.size) :
    (visited es).Nodup :=
  (visit.visited_sublist wf inside).nodup (wf.nodup_preorder n)

end Order

section EnteredNodes

/-- Whatever happened in the subtree of node `n`, beside rewinding, happened at a node that had been
entered, and so had the nodes between `n` and this one. -/
def Grounded (t : Tree) (n : NodeId) (es : List Event) : Prop :=
  ∀ e ∈ es, e.isRewind = false → ∀ k ∈ t.ancestors e.node, n ∈ t.ancestors k → .entered k ∈ es

private theorem grounded_stepwise : Stepwise
    (fun t n es => ∀ i, Grounded t n (es.take i))
    (fun t _ cs es _ => ∀ i, ∀ c ∈ cs, Grounded t c (es.take i)) where
  visit {t n a b c d abandoned} wf inside opening descent below own leaving := by
    have visit := Visit.mk opening descent own leaving
    intro i e he ground k up above
    -- Node `n` is entered first.
    by_cases same : k = n
    · obtain ⟨tail, eq, -⟩ := visit.eq_cons wf inside
      rw [eq, same] at *
      cases i with
      | zero => cases he
      | succ i => exact List.mem_cons_self
    have own_node : e.node ≠ n := by
      intro node
      exact same (Tree.eq_of_mem_ancestors (node ▸ up) above)
    obtain ⟨c', child, up'⟩ := wf.exists_child_of_mem_ancestors above (Ne.symm same)
    simp only [List.take_append, List.mem_append] at he ⊢
    obtain he | he | he | he := he
    · exact absurd (opening.node e (List.mem_of_mem_take he)) own_node
    · refine .inr (.inl (below _ c' child e he ground k ?_ ?_))
      · rwa [Tree.ancestors_replay]
      · rwa [Tree.ancestors_replay]
    · exact absurd (own.node e (List.mem_of_mem_take he)) own_node
    · exact absurd (leaving.node e (List.mem_of_mem_take he)) own_node
  done _ _ := by simp
  stopped {t n c rest a} wf _ last visit below _ := by
    have child : c ∈ (t.get n).children := last.mem List.mem_cons_self
    intro i c' hc' e he ground k up above
    cases i with
    | zero => cases he
    | succ i =>
        obtain rfl | he := List.mem_cons.1 he
        · cases ground
        have scope := visit.scope wf (wf.child_lt_size n c child) e (List.mem_of_mem_take he)
        have same : c' = c := wf.child_eq_of_mem_ancestors (last.mem hc') child
          (Tree.mem_ancestors_trans above up) scope
        exact List.mem_cons_of_mem _ (below i e he ground k up (same ▸ above))
  next {t n c rest a b abandoned} wf inside last visit below _ descent beside := by
    have child : c ∈ (t.get n).children := last.mem List.mem_cons_self
    have later := Tree.suffix_replay t a n ((List.suffix_cons c rest).trans last)
    intro i c' hc' e he ground k up above
    cases i with
    | zero => cases he
    | succ i =>
        have above' := Tree.mem_ancestors_trans above up
        simp only [List.take_succ_cons, List.take_append, List.mem_cons, List.mem_append] at he ⊢
        obtain rfl | he | he := he
        · cases ground
        · have scope := visit.scope wf (wf.child_lt_size n c child) e (List.mem_of_mem_take he)
          have same : c' = c := wf.child_eq_of_mem_ancestors (last.mem hc') child above' scope
          exact .inr (.inl (below i e he ground k up (same ▸ above)))
        · obtain ⟨d, hd, scope⟩ := descent.scope (wf.replay a) (by simpa using inside) later e
            (List.mem_of_mem_take he)
          rw [Tree.ancestors_replay] at scope
          have same : c' = d := wf.child_eq_of_mem_ancestors (last.mem hc')
            (last.mem (List.mem_cons_of_mem c hd)) above' scope
          refine .inr (.inr (beside _ d hd e he ground k ?_ ?_))
          · rwa [Tree.ancestors_replay]
          · rwa [Tree.ancestors_replay, ← same]

/-- At any moment of a visit, everything so far has happened at entered nodes. -/
theorem Visit.grounded (visit : Visit t n es) (wf : t.WellFormed) (inside : n < t.size) (i : Nat) :
    Grounded t n (es.take i) :=
  grounded_stepwise.of_visit wf inside visit i

end EnteredNodes

section NotEntered

/-- Rewinding does not change the tree. -/
theorem Tree.after_of_isRewind {e : Event} (rewind : e.isRewind = true) : t.after e = t := by
  cases e with
  | rewound => rfl
  | _ => cases rewind

/-- Grounded events leave a node of the subtree alone that they do not enter. -/
theorem Tree.get_replay_of_grounded (grounded : Grounded t n es) (up : n ∈ t.ancestors m)
    (stays : .entered m ∉ es) : (t.replay es).get m = t.get m := by
  have apart : ∀ e ∈ es, e.isRewind = false → m ∉ t.ancestors e.node := fun e he ground above =>
    stays (grounded e he ground m above up)
  clear grounded stays
  induction es generalizing t with
  | nil => rfl
  | cons e es ih =>
      have first : (t.after e).get m = t.get m := by
        cases rewind : e.isRewind with
        | true => rw [after_of_isRewind rewind]
        | false => exact get_after_of_not_mem (apart e List.mem_cons_self rewind)
      rw [replay_cons, ih (by rwa [ancestors_after]), first]
      intro e' he'
      rw [ancestors_after]
      exact apart e' (List.mem_cons_of_mem _ he')

/-- Where nothing was known, something is known of exactly the nodes that were entered. -/
theorem Tree.isSome_result_replay_iff (grounded : Grounded t n es) (up : n ∈ t.ancestors m)
    (unknown : (t.get m).result = none) (inside : ∀ e ∈ es, e.node < t.size) :
    ((t.replay es).get m).result.isSome = true ↔ m ∈ visited es := by
  rw [mem_visited_iff]
  constructor
  · intro known
    by_contra stays
    rw [get_replay_of_grounded grounded up stays, unknown] at known
    cases known
  · exact isSome_result_of_entered inside

end NotEntered

section SetupHooks

/-- Whenever a hook is called, the setup hooks of all nodes that were entered so far have been
called, in the order of entering. -/
def SetUpAtCalls (es : List Event) : Prop :=
  ∀ i n phase u, (es.take i).getLast? = some (.called n phase u) →
    setUp (es.take i) = visited (es.take i)

theorem SetUpAtCalls.append {a b : List Event} (first : SetUpAtCalls a)
    (all : setUp a = visited a) (second : SetUpAtCalls b) : SetUpAtCalls (a ++ b) := by
  intro i n phase u last
  rw [List.take_append] at last ⊢
  cases rest : (b.take (i - a.length)).getLast? with
  | none =>
      rw [List.getLast?_eq_none_iff.1 rest, List.append_nil] at last ⊢
      exact first i n phase u last
  | some e =>
      have whole : a.take i = a := by
        apply List.take_of_length_le
        by_contra short
        rw [Nat.sub_eq_zero_of_le (Nat.le_of_lt (Nat.lt_of_not_le short))] at rest
        cases rest
      rw [List.getLast?_append, rest] at last
      rw [whole, setUp_append, visited_append, all, second _ n phase u (rest.trans last)]

/-- Events that enter no node and call no setup hook. -/
theorem setUpAtCalls_of_none (none : ∀ e ∈ es, e.entered? = none ∧ e.setUp? = none) :
    SetUpAtCalls es ∧ setUp es = visited es := by
  have nil : ∀ xs : List Event, (∀ e ∈ xs, e ∈ es) → setUp xs = visited xs := by
    intro xs sub
    have noSetUp : setUp xs = [] := List.filterMap_eq_nil_iff.2 fun e mem => (none e (sub e mem)).2
    have noEntry : visited xs = [] :=
      List.filterMap_eq_nil_iff.2 fun e mem => (none e (sub e mem)).1
    rw [noSetUp, noEntry]
  exact ⟨fun i _ _ _ _ => nil _ fun e mem => List.mem_of_mem_take mem, nil es fun _ => id⟩

theorem HookCall.enters_none (call : HookCall t n phase es) (other : phase ≠ .setup) :
    ∀ e ∈ es, e.entered? = none ∧ e.setUp? = none := by
  cases call with
  | called _ own =>
      intro e mem
      obtain rfl | mem := List.mem_cons.1 mem
      · exact ⟨rfl, rfl⟩
      obtain rfl | mem := List.mem_cons.1 mem
      · cases phase with
        | setup => exact absurd rfl other
        | _ => exact ⟨rfl, rfl⟩
      · have answer := own e mem
        cases e with
        | answered => exact ⟨rfl, rfl⟩
        | _ => exact answer.elim
  | silent =>
      intro e mem
      rw [List.mem_singleton.1 mem]
      exact ⟨rfl, rfl⟩

theorem OwnRun.setUpAtCalls (own : OwnRun t n abandoned es) :
    SetUpAtCalls es ∧ setUp es = visited es := by
  apply setUpAtCalls_of_none
  cases own with
  | skipped => simp
  | reached call => exact call.enters_none (by simp)

theorem Leaving.setUpAtCalls (leaving : Leaving t n es) :
    SetUpAtCalls es ∧ setUp es = visited es := by
  apply setUpAtCalls_of_none
  cases leaving with
  | mk call =>
      have teardown := call.enters_none (by simp)
      simp only [List.mem_cons, List.mem_append, List.not_mem_nil, or_false]
      rintro e (rfl | mem | rfl | rfl)
      · exact ⟨rfl, rfl⟩
      · exact teardown e mem
      · exact ⟨rfl, rfl⟩
      · exact ⟨rfl, rfl⟩

theorem Opening.setUpAtCalls (opening : Opening t n es) (hooked : (t.get n).hooked = true) :
    SetUpAtCalls es ∧ setUp es = visited es := by
  cases opening with
  | mk call =>
      have same : ((t.beginResult n).get n).hooked = (t.get n).hooked :=
        Tree.hooked_eq_of_pristine (Tree.pristine_beginResult t n) n
      cases call with
      | silent bare =>
          rw [same, hooked] at bare
          cases bare
      | @called answers _ own =>
          have rest : ∀ e ∈ answers ++ [.staged n .runningChildren],
              e.entered? = none ∧ e.setUp? = none := by
            intro e mem
            obtain mem | mem := List.mem_append.1 mem
            · have answer := own e mem
              cases e with
              | answered => exact ⟨rfl, rfl⟩
              | _ => exact answer.elim
            · rw [List.mem_singleton.1 mem]
              exact ⟨rfl, rfl⟩
          have begun : SetUpAtCalls [.entered n, .staged n .settingUp,
              .called n .setup ((t.beginResult n).setStage n .settingUp)] := by
            intro i m phase u last
            match i with
            | 0 => rfl
            | 1 => cases last
            | 2 => cases last
            | i + 3 =>
                rw [List.take_of_length_le (by simp)]
                rfl
          obtain ⟨atCalls, all⟩ := setUpAtCalls_of_none rest
          refine ⟨begun.append rfl atCalls, ?_⟩
          exact congrArg (n :: ·) all

private theorem setUp_stepwise : Stepwise
    (fun t n es => (∀ m, n ∈ t.ancestors m → (t.get m).hooked = true) →
      SetUpAtCalls es ∧ setUp es = visited es)
    (fun t _ cs es _ => (∀ c ∈ cs, ∀ m, c ∈ t.ancestors m → (t.get m).hooked = true) →
      SetUpAtCalls es ∧ setUp es = visited es) where
  visit {t n a b c d abandoned} wf inside opening _ below own leaving := by
    intro hooked
    obtain ⟨callsA, allA⟩ := opening.setUpAtCalls (hooked n (Tree.mem_ancestors_self t n))
    obtain ⟨callsB, allB⟩ := below fun k child m up => by
      rw [Tree.ancestors_replay] at up
      rw [Tree.hooked_replay]
      exact hooked m (Tree.mem_ancestors_trans (wf.mem_ancestors_child child) up)
    obtain ⟨callsC, allC⟩ := own.setUpAtCalls
    obtain ⟨callsD, allD⟩ := leaving.setUpAtCalls
    refine ⟨callsA.append allA (callsB.append allB (callsC.append allC callsD)), ?_⟩
    simp only [setUp_append, visited_append, allA, allB, allC, allD]
  done _ _ _ := setUpAtCalls_of_none (by simp)
  stopped {t n c rest a} _ _ _ _ below _ := by
    intro hooked
    obtain ⟨callsA, allA⟩ := below (hooked c List.mem_cons_self)
    have first : SetUpAtCalls [.rewound c] ∧ setUp [.rewound c] = visited [.rewound c] :=
      setUpAtCalls_of_none (by simp [Event.entered?, Event.setUp?])
    exact ⟨first.1.append first.2 callsA, allA⟩
  next {t n c rest a b abandoned} _ _ _ _ below _ _ beside := by
    intro hooked
    obtain ⟨callsA, allA⟩ := below (hooked c List.mem_cons_self)
    obtain ⟨callsB, allB⟩ := beside fun d hd m up => by
      rw [Tree.ancestors_replay] at up
      rw [Tree.hooked_replay]
      exact hooked d (List.mem_cons_of_mem c hd) m up
    have first : SetUpAtCalls [.rewound c] ∧ setUp [.rewound c] = visited [.rewound c] :=
      setUpAtCalls_of_none (by simp [Event.entered?, Event.setUp?])
    refine ⟨first.1.append first.2 (callsA.append allA callsB), ?_⟩
    have whole : setUp (a ++ b) = visited (a ++ b) := by
      rw [setUp_append, visited_append, allA, allB]
    exact whole

/-- In a subtree whose nodes have their hooks, the setup hooks are called in the order of
entering. -/
theorem Visit.setUpAtCalls (visit : Visit t n es) (wf : t.WellFormed) (inside : n < t.size)
    (hooked : ∀ m, n ∈ t.ancestors m → (t.get m).hooked = true) :
    SetUpAtCalls es ∧ setUp es = visited es :=
  setUp_stepwise.of_visit wf inside visit hooked

end SetupHooks

end SuiteTree
