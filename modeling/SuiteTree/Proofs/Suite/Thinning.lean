import SuiteTree.Proofs.Tree.Pruned
import SuiteTree.Proofs.Tree.Renaming
import SuiteTree.Selection

/-!
# Plans without long cases

From a plan one can leave out the children of the root that take longer than a run admits, and
everything that the plan adds below them or says of them. The nodes that remain get other numbers,
because numbers are given in the order of creation. The suite that the shorter plan describes is a
copy, under these numbers, of what hangs together in the pruned suite.
-/

namespace SuiteTree

/-- The numbers that nodes get in another tree in which some of them are left out. -/
structure Numbering where
  /-- The number of a node in the other tree. A node that is left out has none. -/
  of : NodeId → Option NodeId
  /-- How many nodes were made. -/
  made : Nat
  /-- How many of them were made in the other tree. -/
  taken : Nat

namespace Numbering

/-- Only the root has been made. -/
def start : Numbering where
  of n := if n = Tree.root then some Tree.root else none
  made := 1
  taken := 1

/-- The next node is made in the other tree as well. -/
def take (ns : Numbering) : Numbering where
  of n := if n = ns.made then some ns.taken else ns.of n
  made := ns.made + 1
  taken := ns.taken + 1

/-- The next node is left out. -/
def skip (ns : Numbering) : Numbering :=
  { ns with made := ns.made + 1 }

/-- What becomes of a step: the step with the other numbers, unless it is left out. -/
def advance (max : Duration) (ns : Numbering) : PlanStep → Option PlanStep × Numbering
  | .add parent name duration hooks =>
    match ns.of parent with
    | none => (none, ns.skip)
    | some p =>
      if parent = Tree.root ∧ ¬ duration ≤ max then (none, ns.skip)
      else (some (.add p name duration hooks), ns.take)
  | .declareData node dir => ((ns.of node).map fun n => .declareData n dir, ns)

/-- The steps that remain. -/
def remaining (max : Duration) (ns : Numbering) : List PlanStep → List PlanStep
  | [] => []
  | step :: rest =>
    (ns.advance max step).1.toList ++ (ns.advance max step).2.remaining max rest

end Numbering

namespace Plan

/-- The plan without the children of the root that take longer than `max`, and without what is added
below them or said of them. -/
def without (p : Plan) (max : Duration) : Plan :=
  { p with steps := Numbering.start.remaining max p.steps }

end Plan

/-- The node that a step is about. -/
def PlanStep.node : PlanStep → NodeId
  | .add parent _ _ _ => parent
  | .declareData node _ => node

/-- Every step is about a node that exists when the step is carried out. -/
def Suite.Fits (s : Suite) : List PlanStep → Prop
  | [] => True
  | step :: rest => step.node < s.tree.size ∧ (s.build step).Fits rest

/-- Every step of the plan is about a node that exists when the step is carried out. -/
def Plan.Fits (p : Plan) : Prop :=
  p.start.Fits p.steps

/-- Suite `u` is built like suite `s`, but without the children of the root that take longer than
`max` and without what is below them. -/
structure Thinned (max : Duration) (ns : Numbering) (s u : Suite) : Prop where
  reach : s.tree.Reachable
  reach' : u.tree.Reachable
  made : ns.made = s.tree.size
  taken : ns.taken = u.tree.size
  hooksSize : s.hooks.size = s.tree.size
  hooksSize' : u.hooks.size = u.tree.size
  root : ns.of Tree.root = some Tree.root
  inside : ∀ {m k}, ns.of m = some k → m < s.tree.size ∧ k < u.tree.size
  injective : ∀ {m m' k}, ns.of m = some k → ns.of m' = some k → m = m'
  children : ∀ {m k}, ns.of m = some k →
    (u.tree.get k).children = (s.tree.get m).children.filterMap ns.of
  facts : ∀ {m k}, ns.of m = some k → (u.tree.get k).facts = (s.tree.get m).facts
  hooks : ∀ {m k}, ns.of m = some k → u.hooksOf k = s.hooksOf m
  left_out : ∀ {p c}, c ∈ (s.tree.get p).children →
    (ns.of c = none ↔ ns.of p = none ∨ p = Tree.root ∧ ¬ (s.tree.get c).duration ≤ max)

section Steps

variable {t : Tree} {max : Duration} {ns : Numbering} {s u : Suite} {m n k p parent : NodeId}
  {name dir : String} {duration : Duration} {own : Hooks}

theorem Suite.hooksOf_add (s : Suite) (parent : NodeId) (name : String) (duration : Duration)
    (own : Hooks) (m : NodeId) : (s.build (.add parent name duration own)).hooksOf m =
      if m = s.hooks.size then own else s.hooksOf m := by
  simp only [hooksOf, build, Array.getD_eq_getD_getElem?, Array.getElem?_push]
  split <;> rfl

namespace Thinned

theorem wf (thin : Thinned max ns s u) : s.tree.WellFormed := thin.reach.wellFormed

/-- Nodes that have not been made have no number. -/
theorem unnumbered (thin : Thinned max ns s u) : ns.of s.tree.size = none := by
  cases number : ns.of s.tree.size with
  | none => rfl
  | some k => exact absurd (thin.inside number).1 (Nat.lt_irrefl _)

theorem start (p : Plan) (max : Duration) : Thinned max .start p.start p.start := by
  have only : ∀ {m k}, Numbering.start.of m = some k → m = Tree.root ∧ k = Tree.root := by
    intro m k number
    cases m with
    | zero => exact ⟨rfl, (Option.some.inj number).symm⟩
    | succ m => cases number
  refine ⟨.new p.name, .new p.name, rfl, rfl, rfl, rfl, rfl, ?_, ?_, ?_, ?_, ?_, ?_⟩
  · intro m k number
    obtain ⟨rfl, rfl⟩ := only number
    exact ⟨Nat.zero_lt_one, Nat.zero_lt_one⟩
  · intro m m' k number number'
    exact (only number).1.trans (only number').1.symm
  · intro m k number
    obtain ⟨rfl, rfl⟩ := only number
    rfl
  · intro m k number
    obtain ⟨rfl, rfl⟩ := only number
    rfl
  · intro m k number
    obtain ⟨rfl, rfl⟩ := only number
    rfl
  · intro p c child
    cases p with
    | zero => cases child
    | succ p => cases child

/-- What is left out of a suite with one more node, given what becomes of that node. -/
theorem left_out_add (thin : Thinned max ns s u) (inside : parent < s.tree.size)
    {of : NodeId → Option NodeId} (old : ∀ m, m ≠ s.tree.size → of m = ns.of m)
    (new : of s.tree.size = none ↔
      ns.of parent = none ∨ parent = Tree.root ∧ ¬ duration ≤ max) {c : NodeId}
    (child : c ∈ ((s.tree.add parent name duration).2.get p).children) :
    of c = none ↔ of p = none ∨ p = Tree.root ∧
      ¬ ((s.tree.add parent name duration).2.get c).duration ≤ max := by
  have takes : ((s.tree.add parent name duration).2.get c).duration =
      if c = s.tree.size then duration else (s.tree.get c).duration := by
    have facts := congrArg Facts.duration (Tree.facts_add inside name duration c)
    rw [apply_ite Facts.duration] at facts
    exact facts
  have earlier : c ∈ (s.tree.get p).children → (of c = none ↔ of p = none ∨ p = Tree.root ∧
      ¬ ((s.tree.add parent name duration).2.get c).duration ≤ max) := by
    intro child
    have ne : c ≠ s.tree.size := Nat.ne_of_lt (thin.wf.child_lt_size p c child)
    have ne' : p ≠ s.tree.size := by
      rintro rfl
      rw [Tree.get_of_size_le (Nat.le_refl _)] at child
      cases child
    rw [old c ne, old p ne', takes, if_neg ne]
    exact thin.left_out child
  rw [Tree.children_add inside] at child
  split at child
  · cases child
  · next ne =>
    split at child
    · next same =>
      obtain child | new' := List.mem_append.1 child
      · exact earlier child
      · obtain rfl := List.mem_singleton.1 new'
        rw [takes, if_pos rfl, new, old p ne, same]
    · exact earlier child

/-- A node is added in the first suite only. -/
theorem skip (thin : Thinned max ns s u) (inside : parent < s.tree.size)
    (out : ns.of parent = none ∨ parent = Tree.root ∧ ¬ duration ≤ max) :
    Thinned max ns.skip (s.build (.add parent name duration own)) u := by
  have old : ∀ {m k}, ns.of m = some k → m ≠ s.tree.size := fun number =>
    Nat.ne_of_lt (thin.inside number).1
  exact {
    thin with
    reach := thin.reach.add inside name duration
    made := by
      rw [Suite.build, Tree.size_add, ← thin.made]
      rfl
    hooksSize := by rw [Suite.build, Array.size_push, thin.hooksSize, Tree.size_add]
    inside := by
      intro m k number
      rw [Suite.build, Tree.size_add]
      exact ⟨Nat.lt_succ_of_lt (thin.inside number).1, (thin.inside number).2⟩
    children := by
      intro m k number
      rw [Suite.build, Tree.children_add inside, if_neg (old number), thin.children number]
      split
      · have new : ns.skip.of s.tree.size = none := thin.unnumbered
        rw [List.filterMap_append, List.filterMap_cons_none new, List.filterMap_nil,
          List.append_nil]
        rfl
      · rfl
    facts := by
      intro m k number
      rw [Suite.build, Tree.facts_add inside, if_neg (old number), thin.facts number]
    hooks := by
      intro m k number
      rw [Suite.hooksOf_add, if_neg (thin.hooksSize ▸ old number), thin.hooks number]
    left_out := thin.left_out_add inside (fun _ _ => rfl) (iff_of_true thin.unnumbered out) }

theorem of_take (thin : Thinned max ns s u) (m : NodeId) :
    ns.take.of m = if m = s.tree.size then some u.tree.size else ns.of m := by
  rw [← thin.made, ← thin.taken]
  rfl

/-- A number in the other tree belongs to the new node or to an old one. -/
theorem cases_take (thin : Thinned max ns s u) (number : ns.take.of m = some k) :
    m = s.tree.size ∧ k = u.tree.size ∨
      m ≠ s.tree.size ∧ k ≠ u.tree.size ∧ ns.of m = some k := by
  rw [thin.of_take] at number
  split at number
  · next same => exact .inl ⟨same, (Option.some.inj number).symm⟩
  · next ne => exact .inr ⟨ne, Nat.ne_of_lt (thin.inside number).2, number⟩

/-- The children of a node after a node has been added in both suites. -/
theorem children_take (thin : Thinned max ns s u) (inside : parent < s.tree.size)
    (number : ns.of parent = some p) (number' : ns.take.of m = some k) :
    ((u.tree.add p name duration).2.get k).children =
      ((s.tree.add parent name duration).2.get m).children.filterMap ns.take.of := by
  have inside' : p < u.tree.size := (thin.inside number).2
  have kept : (s.tree.get m).children.filterMap ns.take.of =
      (s.tree.get m).children.filterMap ns.of := by
    apply List.filterMap_congr
    intro c child
    rw [thin.of_take, if_neg (Nat.ne_of_lt (thin.wf.child_lt_size m c child))]
  rw [Tree.children_add inside, Tree.children_add inside']
  obtain ⟨rfl, rfl⟩ | ⟨ne, ne', number'⟩ := thin.cases_take number'
  · rw [if_pos rfl, if_pos rfl]
    rfl
  · rw [if_neg ne, if_neg ne', thin.children number']
    by_cases same : m = parent
    · subst same
      obtain rfl := Option.some.inj (number.symm.trans number')
      have new : ns.take.of s.tree.size = some u.tree.size := by rw [thin.of_take, if_pos rfl]
      rw [if_pos rfl, if_pos rfl, List.filterMap_append, kept, List.filterMap_cons_some new,
        List.filterMap_nil]
    · have other : k ≠ p := fun eq => same (thin.injective number' (eq ▸ number))
      rw [if_neg same, if_neg other, kept]

/-- A node is added in both suites. -/
theorem take (thin : Thinned max ns s u) (inside : parent < s.tree.size)
    (number : ns.of parent = some p) (short : ¬ (parent = Tree.root ∧ ¬ duration ≤ max)) :
    Thinned max ns.take (s.build (.add parent name duration own))
      (u.build (.add p name duration own)) where
  reach := thin.reach.add inside name duration
  reach' := thin.reach'.add (thin.inside number).2 name duration
  made := by
    rw [Suite.build, Tree.size_add, ← thin.made]
    rfl
  taken := by
    rw [Suite.build, Tree.size_add, ← thin.taken]
    rfl
  hooksSize := by rw [Suite.build, Array.size_push, thin.hooksSize, Tree.size_add]
  hooksSize' := by rw [Suite.build, Array.size_push, thin.hooksSize', Tree.size_add]
  root := by rw [thin.of_take, if_neg (Nat.ne_of_lt thin.wf.root_lt_size), thin.root]
  inside := by
    intro m k number
    rw [Suite.build, Suite.build, Tree.size_add, Tree.size_add]
    obtain ⟨rfl, rfl⟩ | ⟨-, -, number⟩ := thin.cases_take number
    · exact ⟨Nat.lt_succ_self _, Nat.lt_succ_self _⟩
    · exact ⟨Nat.lt_succ_of_lt (thin.inside number).1, Nat.lt_succ_of_lt (thin.inside number).2⟩
  injective := by
    intro m m' k number number'
    obtain ⟨rfl, rfl⟩ | ⟨-, ne, number⟩ := thin.cases_take number
    · obtain ⟨rfl, -⟩ | ⟨-, ne, -⟩ := thin.cases_take number'
      · rfl
      · exact absurd rfl ne
    · obtain ⟨-, rfl⟩ | ⟨-, -, number'⟩ := thin.cases_take number'
      · exact absurd rfl ne
      · exact thin.injective number number'
  children := thin.children_take inside number
  facts := by
    intro m k number'
    rw [Suite.build, Suite.build, Tree.facts_add inside, Tree.facts_add (thin.inside number).2]
    obtain ⟨rfl, rfl⟩ | ⟨ne, ne', number'⟩ := thin.cases_take number'
    · rw [if_pos rfl, if_pos rfl]
    · rw [if_neg ne, if_neg ne', thin.facts number']
  hooks := by
    intro m k number
    rw [Suite.hooksOf_add, Suite.hooksOf_add, thin.hooksSize, thin.hooksSize']
    obtain ⟨rfl, rfl⟩ | ⟨ne, ne', number⟩ := thin.cases_take number
    · rw [if_pos rfl, if_pos rfl]
    · rw [if_neg ne, if_neg ne', thin.hooks number]
  left_out child := by
    have old : ∀ m, m ≠ s.tree.size → ns.take.of m = ns.of m := fun m ne => by
      rw [thin.of_take, if_neg ne]
    refine thin.left_out_add inside old (iff_of_false ?_ ?_) child
    · simp [thin.of_take]
    · simp [number, short]

/-- The trees are changed apart from their links. -/
theorem of_trees (thin : Thinned max ns s u) {t t' : Tree} (reach : t.Reachable)
    (reach' : t'.Reachable) (size : t.size = s.tree.size) (size' : t'.size = u.tree.size)
    (children : ∀ m, (t.get m).children = (s.tree.get m).children)
    (children' : ∀ k, (t'.get k).children = (u.tree.get k).children)
    (durations : ∀ m, (t.get m).duration = (s.tree.get m).duration)
    (facts : ∀ {m k}, ns.of m = some k → (t'.get k).facts = (t.get m).facts) :
    Thinned max ns { s with tree := t } { u with tree := t' } where
  reach := reach
  reach' := reach'
  made := thin.made.trans size.symm
  taken := thin.taken.trans size'.symm
  hooksSize := thin.hooksSize.trans size.symm
  hooksSize' := thin.hooksSize'.trans size'.symm
  root := thin.root
  inside number := size.symm ▸ size'.symm ▸ thin.inside number
  injective := thin.injective
  children number := by
    rw [children, children']
    exact thin.children number
  facts := facts
  hooks := thin.hooks
  left_out child := by
    rw [children] at child
    rw [durations]
    exact thin.left_out child

/-- A data directory is declared in the first suite, and in the second one if the node is there. -/
theorem declare (thin : Thinned max ns s u) (inside : n < s.tree.size) (dir : String) :
    Thinned max ns (s.build (.declareData n dir))
      (((ns.of n).map fun k => PlanStep.declareData k dir).toList.foldl Suite.build u) := by
  have children : ∀ (t : Tree) (n m : NodeId),
      ((t.setDataDir n dir).get m).children = (t.get m).children :=
    fun t n => Tree.proj_get_update Node.children (fun _ => by rfl) t n
  have durations : ∀ (t : Tree) (n m : NodeId),
      ((t.setDataDir n dir).get m).duration = (t.get m).duration :=
    fun t n => Tree.proj_get_update Node.duration (fun _ => by rfl) t n
  have sizes : ∀ (t : Tree) (n : NodeId), (t.setDataDir n dir).size = t.size :=
    fun t n => Tree.size_update t n _
  have reach := thin.reach.setDataDir inside dir
  cases number : ns.of n with
  | none =>
      refine thin.of_trees reach thin.reach' (sizes _ n) rfl (children _ n) (fun _ => rfl)
        (durations _ n) ?_
      intro m k number'
      have other : m ≠ n := by
        rintro rfl
        cases number.symm.trans number'
      rw [Tree.setDataDir, Tree.get_update_of_ne _ other]
      exact thin.facts number'
  | some p =>
      have inside' : p < u.tree.size := (thin.inside number).2
      refine thin.of_trees reach (thin.reach'.setDataDir inside' dir) (sizes _ n) (sizes _ p)
        (children _ n) (children _ p) (durations _ n) ?_
      intro m k number'
      by_cases same : m = n
      · subst same
        obtain rfl := Option.some.inj (number.symm.trans number')
        rw [Tree.setDataDir, Tree.setDataDir, Tree.get_update_self _ inside,
          Tree.get_update_self _ inside']
        have facts := thin.facts number
        simp only [Node.facts, Facts.mk.injEq] at facts ⊢
        exact ⟨facts.1, facts.2.1, trivial, facts.2.2.2⟩
      · have other : k ≠ p := fun eq => same (thin.injective number' (eq ▸ number))
        rw [Tree.setDataDir, Tree.setDataDir, Tree.get_update_of_ne _ same,
          Tree.get_update_of_ne _ other]
        exact thin.facts number'

/-- Each step of a plan is carried out in the first suite, and what becomes of it in the second. -/
theorem advance (thin : Thinned max ns s u) (step : PlanStep) (fits : step.node < s.tree.size) :
    Thinned max (ns.advance max step).2 (s.build step)
      ((ns.advance max step).1.toList.foldl Suite.build u) := by
  cases step with
  | declareData node dir => exact thin.declare fits dir
  | add parent name duration own =>
      have inside : parent < s.tree.size := fits
      cases number : ns.of parent with
      | none =>
          simp only [Numbering.advance, number]
          exact thin.skip inside (.inl number)
      | some p =>
          by_cases long : parent = Tree.root ∧ ¬ duration ≤ max
          · simp only [Numbering.advance, number, if_pos long]
            exact thin.skip inside (.inr long)
          · simp only [Numbering.advance, number, if_neg long]
            exact thin.take inside number long

/-- All steps of a plan are carried out. -/
theorem build (thin : Thinned max ns s u) (steps : List PlanStep) (fits : s.Fits steps) :
    ∃ ns', Thinned max ns' (steps.foldl Suite.build s)
      ((ns.remaining max steps).foldl Suite.build u) := by
  induction steps generalizing ns s u with
  | nil => exact ⟨ns, thin⟩
  | cons step rest ih =>
      rw [Numbering.remaining, List.foldl_cons, List.foldl_append]
      exact ih (thin.advance step fits.1) fits.2

end Thinned

/-- The suite of the shorter plan is built like that of the whole plan. -/
theorem Plan.Fits.thinned {p : Plan} (fits : p.Fits) (max : Duration) :
    ∃ ns, Thinned max ns p.suite (p.without max).suite :=
  (Thinned.start p max).build p.steps fits

/-- The number of a node in the other tree, if it has one. -/
def Numbering.rename (ns : Numbering) (n : NodeId) : NodeId :=
  (ns.of n).getD Tree.root

theorem Numbering.rename_of (number : ns.of n = some k) : ns.rename n = k := by
  rw [rename, number, Option.getD_some]

/-- The numbers of those that have one. -/
theorem Numbering.filterMap_of (keep : NodeId → Bool) {cs : List NodeId}
    (kept : ∀ c ∈ cs, ns.of c = none ↔ keep c = false) :
    cs.filterMap ns.of = (cs.filter keep).map ns.rename := by
  induction cs with
  | nil => rfl
  | cons c rest ih =>
      have later := ih fun d mem => kept d (List.mem_cons_of_mem _ mem)
      have first := kept c List.mem_cons_self
      cases number : ns.of c with
      | none =>
          have out : ¬ keep c = true := Bool.eq_false_iff.1 (first.1 number)
          rw [List.filterMap_cons_none number, List.filter_cons_of_neg out, later]
      | some k =>
          have stays : keep c = true := by
            rw [← Bool.not_eq_false]
            intro out
            cases number.symm.trans (first.2 out)
          rw [List.filterMap_cons_some number, List.filter_cons_of_pos stays, List.map_cons, later,
            rename_of number]

namespace Thinned

/-- A child of a node with a number has one, unless pruning takes it away. -/
theorem number_of_child (thin : Thinned max ns s u) (number : ns.of p = some k) {c : NodeId}
    (child : c ∈ ((s.tree.prune Tree.root max).get p).children) : ∃ d, ns.of c = some d := by
  rw [← Option.ne_none_iff_exists']
  intro none
  rw [Tree.children_prune thin.wf.root_lt_size] at child
  split at child
  · next top =>
    obtain ⟨child, short⟩ := List.mem_filter.1 child
    rw [← top] at child
    obtain left | long := (thin.left_out child).1 none
    · cases number.symm.trans left
    · exact long.2 (of_decide_eq_true short)
  · next below =>
    obtain left | long := (thin.left_out child).1 none
    · cases number.symm.trans left
    · exact below long.1

/-- What hangs together with the root of the pruned tree has a number. -/
theorem number_of_attached (thin : Thinned max ns s u)
    (attached : Tree.root ∈ (s.tree.prune Tree.root max).ancestors m) : ∃ k, ns.of m = some k := by
  induction m using Nat.strongRecOn with
  | ind m ih =>
      by_cases top : Tree.root = m
      · exact ⟨_, top ▸ thin.root⟩
      · obtain ⟨p, link, down, up⟩ := Tree.parent_of_mem_ancestors attached top
        obtain ⟨k, number⟩ := ih p down up
        have wf := thin.wf.prune thin.wf.root_lt_size max
        exact thin.number_of_child number ((wf.parent_iff p m).1 link)

/-- The thinned tree is a copy of what hangs together in the pruned tree. -/
theorem copies (thin : Thinned max ns s u) :
    Tree.Copies ns.rename (s.tree.prune Tree.root max) Tree.root u.tree where
  inside := by
    rw [Tree.size_prune]
    exact thin.wf.root_lt_size
  inside' := by
    rw [Numbering.rename_of thin.root]
    exact thin.reach'.wellFormed.root_lt_size
  children m attached := by
    obtain ⟨k, number⟩ := thin.number_of_attached attached
    rw [Numbering.rename_of number, thin.children number,
      Tree.children_prune thin.wf.root_lt_size]
    split
    · next top =>
      subst top
      apply Numbering.filterMap_of
      intro c child
      rw [thin.left_out child, decide_eq_false_iff_not]
      simp [number]
    · next below =>
      rw [Numbering.filterMap_of (fun _ => true), List.filter_true]
      intro c child
      rw [thin.left_out child]
      simp [number, below]

/-- The pruned tree and the thinned one tell the same of their nodes. -/
theorem twins (thin : Thinned max ns s u) :
    Tree.Twins ns.rename (s.tree.prune Tree.root max) u.tree where
  wf := thin.wf.prune thin.wf.root_lt_size max
  wf' := thin.reach'.wellFormed
  copies := thin.copies
  top := Numbering.rename_of thin.root
  agree m attached := by
    obtain ⟨k, number⟩ := thin.number_of_attached attached
    rw [Numbering.rename_of number, Tree.facts_prune, thin.facts number]

theorem hooksOf_rename (thin : Thinned max ns s u)
    (attached : Tree.root ∈ (s.tree.prune Tree.root max).ancestors m) :
    u.hooksOf (ns.rename m) = s.hooksOf m := by
  obtain ⟨k, number⟩ := thin.number_of_attached attached
  rw [Numbering.rename_of number, thin.hooks number]

/-- No node of the copy and none of its model has lost its hooks. -/
theorem hooked_rename (thin : Thinned max ns s u)
    (attached : Tree.root ∈ (s.tree.prune Tree.root max).ancestors m) :
    (u.tree.get (ns.rename m)).hooked = ((s.tree.prune Tree.root max).get m).hooked := by
  have inside := thin.wf.root_lt_size
  have up := (thin.twins.renames.above _ _ (Tree.mem_ancestors_self _ _) attached).2 attached
  rw [thin.twins.top] at up
  rw [thin.reach'.hooked_of_attached up, (thin.reach.prune inside max).hooked_of_attached attached]

end Thinned

end Steps

end SuiteTree
