import Mathlib.Data.List.Forall2
import Mathlib.Data.List.Sort
import SuiteTree.Proofs.Tree.Pruned
import SuiteTree.Selection

/-!
# What a filter selects

A filter asks for suites by category and by name. Which suites it selects is therefore a matter of
their places in the registry, whatever they contain: two suites may have the same name, and a suite
is selected even if no case of it is left. What it leaves of a suite is a matter of the children of
the root alone. Below those that are kept, nothing changes.

So a filter can be widened and filters can be combined. A longer duration selects the same suites
with more children. What two filters select one after the other is what both ask for, with the
shorter of their durations.
-/

namespace SuiteTree

/-- The filter asks for suites of this category, and by this name. -/
def Filter.Asks (f : Filter) (s : Suite) : Prop :=
  (f.category = .all ∨ s.category = f.category) ∧ (f.name = "" ∨ s.name = f.name)

instance (f : Filter) (s : Suite) : Decidable (f.Asks s) :=
  inferInstanceAs (Decidable (_ ∧ _))

/-- These are the places of the suites that the filter asks for, each one once and in order. -/
structure Registry.Places (suites : Registry) (f : Filter) (places : List Nat) : Prop where
  increasing : places.Pairwise (· < ·)
  mem_iff : ∀ i, i ∈ places ↔ ∃ s, suites[i]? = some s ∧ f.Asks s

/-- The suites at some places. -/
def Registry.pick (suites : Registry) (places : List Nat) : List Suite :=
  places.filterMap (suites[·]?)

/-- The second suite is what is left of the first one without the children of its root that take too
long. -/
structure Suite.Narrowed (s : Suite) (max : Duration) (narrow : Suite) : Prop where
  category : narrow.category = s.category
  hooks : narrow.hooks = s.hooks
  /-- The root loses these children, and nothing else. -/
  root : narrow.tree.get Tree.root = { s.tree.get Tree.root with
    children := (s.tree.get Tree.root).children.filter fun c => (s.tree.get c).duration ≤ max }
  /-- With a child goes what is below it. All else stays, however long it takes. -/
  mem_below_iff : ∀ m, m ∈ (narrow.tree.below Tree.root).preorder ↔
    ∃ c ∈ (s.tree.get Tree.root).children, (s.tree.get c).duration ≤ max ∧ m ∈ s.tree.preorder c
  below : ∀ m ∈ (narrow.tree.below Tree.root).preorder, narrow.tree.SameNode s.tree m

variable {suites : Registry} {s : Suite} {f : Filter} {max : Duration}

theorem Filter.admits_iff : f.admits s = true ↔ f.Asks s := by
  simp [admits, Category.admits, Asks]

namespace Registry

/-- What a filter asks for has places. -/
theorem exists_places (suites : Registry) (f : Filter) :
    ∃ places, suites.Places f places ∧ suites.pick places = suites.filter f.admits := by
  refine ⟨suites.findIdxs f.admits, ⟨List.pairwise_findIdxs, fun i => ?_⟩, ?_⟩
  · simp [List.getElem?_eq_some_iff, Filter.admits_iff]
  · rw [pick]
    induction suites with
    | nil => rfl
    | cons s rest ih =>
        have later : (rest.findIdxs f.admits 1).filterMap ((s :: rest)[·]?) =
            rest.filter f.admits := by
          rw [List.findIdxs_start, List.filterMap_map, ← ih]
          rfl
        rw [List.findIdxs_cons, List.filter_cons]
        split
        · exact congrArg (s :: ·) later
        · exact later

theorem Places.unique {places places' : List Nat} (are : suites.Places f places)
    (are' : suites.Places f places') : places = places' :=
  are.increasing.eq_of_mem_iff are'.increasing fun i => (are.mem_iff i).trans (are'.mem_iff i).symm

end Registry

namespace Suite

theorem narrowed_prune (reach : s.tree.Reachable) (max : Duration) :
    s.Narrowed max (s.prune max) := by
  have wf := reach.wellFormed
  have inside := wf.root_lt_size
  have mem_below_iff (m : NodeId) :
      m ∈ ((s.tree.prune Tree.root max).below Tree.root).preorder ↔
        ∃ c ∈ s.tree.keptChildren Tree.root max, c ∈ s.tree.ancestors m :=
    wf.mem_below_prune_iff inside
  refine ⟨rfl, rfl, ?_, fun m => ?_, fun m mem => ?_⟩
  · rw [prune, wf.get_prune inside, if_pos rfl]
    rfl
  · rw [prune, mem_below_iff]
    simp only [Tree.mem_keptChildren_iff, wf.mem_preorder_iff, and_assoc]
  · obtain ⟨c, kept, up⟩ := (mem_below_iff m).1 mem
    exact wf.sameNode_prune inside kept up

/-- Pruning a suite twice is pruning it once, with the shorter of the two durations. -/
theorem prune_prune (reach : s.tree.Reachable) (a b : Duration) :
    (s.prune a).prune b = s.prune (a.shorter b) := by
  have wf := reach.wellFormed
  rw [prune, prune, prune, wf.prune_prune wf.root_lt_size]

theorem reachable_prune (reach : s.tree.Reachable) (max : Duration) :
    (s.prune max).tree.Reachable :=
  reach.prune reach.wellFormed.root_lt_size max

theorem name_prune (s : Suite) (max : Duration) : (s.prune max).name = s.name :=
  s.tree.name_get_prune Tree.root max Tree.root

theorem asks_prune : f.Asks (s.prune max) ↔ f.Asks s := by
  rw [Filter.Asks, Filter.Asks, name_prune]
  rfl

end Suite

/-- What a filter selects from these suites. -/
structure Registry.SelectionLaw (suites : Registry) (f : Filter) : Prop where
  /-- The suites that it asks for are selected, each one once and in their order. Each is narrowed. -/
  selected : ∃ places, suites.Places f places ∧
    List.Forall₂ (fun s narrow => s.Narrowed f.maxDuration narrow)
      (suites.pick places) (suites.select f)
  /-- A longer duration only adds children: narrowing what it selects gives what `f` selects. -/
  wider : ∀ longer, f.maxDuration ≤ longer →
    List.Forall₂ (fun wide narrow => wide.Narrowed f.maxDuration narrow)
      (suites.select { f with maxDuration := longer }) (suites.select f)
  /-- Selecting once more is selecting what both filters ask for, with the shorter duration. -/
  again : ∀ g, Registry.select (suites.select f) g =
    (suites.filter fun s => f.Asks s ∧ g.Asks s).map
      (·.prune (f.maxDuration.shorter g.maxDuration))

/-- A filter selects the suites that it asks for, each one once and in the order of the registry.
Of each one it leaves the children of the root that do not take too long, with all that is below
them. With a longer duration it selects the same suites with more children. Selecting from a
selection gives the suites that both filters ask for, pruned once. -/
theorem selection_law (reach : ∀ s ∈ suites, s.tree.Reachable) (f : Filter) :
    suites.SelectionLaw f := by
  have asked : ∀ s ∈ suites.filter f.admits, s.tree.Reachable := fun s mem =>
    reach s (List.mem_filter.1 mem).1
  refine ⟨?_, fun longer le => ?_, fun g => ?_⟩
  · obtain ⟨places, are, picked⟩ := suites.exists_places f
    refine ⟨places, are, ?_⟩
    rw [picked, Registry.select, List.forall₂_map_right_iff, List.forall₂_same]
    exact fun s mem => Suite.narrowed_prune (asked s mem) f.maxDuration
  · have same : Filter.admits { f with maxDuration := longer } = f.admits := rfl
    rw [Registry.select, Registry.select, same, List.forall₂_map_left_iff,
      List.forall₂_map_right_iff, List.forall₂_same]
    intro s mem
    have chosen := asked s mem
    have twice : (s.prune longer).prune f.maxDuration = s.prune f.maxDuration := by
      rw [Suite.prune_prune chosen, Duration.shorter_eq_right le]
    rw [← twice]
    exact Suite.narrowed_prune (Suite.reachable_prune chosen longer) f.maxDuration
  · have both : (suites.filter f.admits).filter (g.admits ∘ (·.prune f.maxDuration)) =
        suites.filter fun s => f.Asks s ∧ g.Asks s := by
      rw [List.filter_filter]
      apply List.filter_congr
      intro s mem
      rw [Bool.eq_iff_iff]
      simp [Filter.admits_iff, Suite.asks_prune, and_comm]
    rw [Registry.select, Registry.select, List.filter_map, both, List.map_map]
    apply List.map_congr_left
    exact fun s mem => Suite.prune_prune (reach s (List.mem_filter.1 mem).1) _ _

/-- Two suites of the same name are selected. The first one keeps a case that takes forever, below a
quick one. The second one keeps none. -/
theorem suites_of_one_name_selected :
    let deep := ((Tree.twoCases.add 0 "slow" .extensive).2.add 1 "inner" .takesForever).2
    let long := ((Tree.new "suite").add 0 "slow" .takesForever).2
    let suites : Registry :=
      [⟨.unit, deep, #[]⟩, ⟨.system, Tree.new "suite", #[]⟩, ⟨.unit, long, #[]⟩]
    (∀ s ∈ suites, s.tree.Reachable) ∧
      suites.SelectionLaw { name := "suite", category := .unit, maxDuration := .quick } := by
  intro deep long suites
  have deepReach : deep.Reachable :=
    .add (.add Tree.twoCases_reachable (by decide) "slow" .extensive) (by decide) "inner"
      .takesForever
  have longReach : long.Reachable := .add (.new "suite") (by decide) "slow" .takesForever
  have reach : ∀ s ∈ suites, s.tree.Reachable := by
    simp only [suites, List.forall_mem_cons]
    exact ⟨deepReach, .new "suite", longReach, fun _ none => absurd none List.not_mem_nil⟩
  exact ⟨reach, selection_law reach _⟩

end SuiteTree
