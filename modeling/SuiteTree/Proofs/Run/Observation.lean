import SuiteTree.Proofs.Run.Answers

/-!
# Copies of a whole tree

To the hooks, a tree and a copy of what hangs together with its root are the same. Every request has
the same reply in both, so two runs that begin in the same surroundings do the same to the letter,
take the same times, and leave the same behind. What hooks can observe of the surroundings is
everything but the log and the events.
-/

namespace SuiteTree

/-- The surroundings without the log and the events, which no request asks for. -/
def World.shown (w : World) : World :=
  { w with journal := #[], events := #[] }

theorem World.shown_eq_iff {w v : World} : v.shown = w.shown ↔ v.ambient = w.ambient ∧
    v.files = w.files ∧ v.supply = w.supply ∧ v.memory = w.memory ∧ v.host = w.host := by
  simp [shown]

theorem World.shown_steady : World.Steady World.shown Eq where
  log _ _ := rfl
  emit _ _ := rfl
  resetAttributes w v same := by
    obtain ⟨ambient, rest⟩ := shown_eq_iff.1 same
    exact shown_eq_iff.2 ⟨congrArg Ambient.reset ambient, rest⟩
  rewindStreams w v same := by
    obtain ⟨ambient, rest⟩ := shown_eq_iff.1 same
    exact shown_eq_iff.2 ⟨congrArg Ambient.rewind ambient, rest⟩
  read w v same := by
    obtain ⟨ambient, files, supply, rest⟩ := shown_eq_iff.1 same
    have next : v.supply.next = w.supply.next := congrArg Time.Supply.next supply
    exact ⟨(congrArg Prod.fst next.symm :), shown_eq_iff.2
      ⟨ambient, files, congrArg Prod.snd next, rest⟩⟩

theorem World.shown_shows : World.ShowsAmbient World.shown where
  ambient _ _ same := (shown_eq_iff.1 same).1
  set _ _ _ same := shown_eq_iff.2 ⟨rfl, (shown_eq_iff.1 same).2⟩

/-- All that is known of a node follows from the same readings of the clocks. -/
theorem Node.facts_steady : Node.Steady Node.facts Eq where
  begun x y same := by
    obtain ⟨name, duration, dataDir, stage, -⟩ := facts_eq_iff.1 same
    exact facts_eq_iff.2 ⟨name, duration, dataDir, stage, rfl⟩
  staged stage x y same := by
    obtain ⟨name, duration, dataDir, -, result⟩ := facts_eq_iff.1 same
    exact facts_eq_iff.2 ⟨name, duration, dataDir, rfl, result⟩
  timed started ended x y same := by
    subst started ended
    obtain ⟨name, duration, dataDir, stage, result⟩ := facts_eq_iff.1 same
    exact facts_eq_iff.2 ⟨name, duration, dataDir, stage, congrArg (Option.map _) result⟩
  marked x y same := by
    obtain ⟨name, duration, dataDir, stage, result⟩ := facts_eq_iff.1 same
    refine facts_eq_iff.2 ⟨name, duration, dataDir, stage, ?_⟩
    rw [marked, marked, result]
  failed x y same := congrArg (Option.any _) (facts_eq_iff.1 same).2.2.2.2

theorem Node.facts_telling : Node.Telling Node.facts where
  recorded failure x y same := by
    obtain ⟨name, duration, dataDir, stage, result⟩ := facts_eq_iff.1 same
    refine facts_eq_iff.2 ⟨name, duration, dataDir, stage, ?_⟩
    rw [recorded, recorded, result]
  passing x y same := congrArg (Option.all _) (facts_eq_iff.1 same).2.2.2.2

section Requests

variable {ρ : NodeId → NodeId} {options : Options} {a b : State}

theorem World.shown_of_files {w v : World} (same : v.shown = w.shown) (files : Files) :
    World.shown { v with files } = World.shown { w with files } := by
  obtain ⟨ambient, -, rest⟩ := shown_eq_iff.1 same
  exact shown_eq_iff.2 ⟨ambient, rfl, rest⟩

theorem World.dataRoot_eq {w v : World} (same : v.shown = w.shown) (options : Options) :
    v.dataRoot options = w.dataRoot options := by
  obtain ⟨-, files, -, -, host⟩ := shown_eq_iff.1 same
  rw [dataRoot, dataRoot, files, host]

/-- Runs of twins that match lead to twins. -/
theorem Matched.twins {course : List Event → List Event → Prop} {s u : State}
    (matched : Matched Node.facts World.shown ρ (Tree.root ∈ a.tree.ancestors ·) course a b s u)
    (twins : Tree.Twins ρ a.tree b.tree) : Tree.Twins ρ s.tree u.tree :=
  twins.of_pristine matched.pristine.1 matched.pristine.2 matched.agree

theorem Tree.Twins.dataFile_eq {t u : Tree} {w v : World} {n : NodeId} (twins : Tree.Twins ρ t u)
    (same : v.shown = w.shown) (up : Tree.root ∈ t.ancestors n) (file : String) :
    u.dataFile v options (ρ n) file = t.dataFile w options n file := by
  rw [Tree.dataFile, Tree.dataFile, twins.dataDir_eq up, twins.name_eq up, World.dataRoot_eq same]

/-- Twins get the same temporary file, and it is made in the same way. -/
theorem Tree.Twins.tempFile_eq {t u : Tree} {w v : World} {n : NodeId} (twins : Tree.Twins ρ t u)
    (same : v.shown = w.shown) (up : Tree.root ∈ t.ancestors n) (file : String) :
    (u.tempFile v options (ρ n) file).1 = (t.tempFile w options n file).1 ∧
      (u.tempFile v options (ρ n) file).2.shown = (t.tempFile w options n file).2.shown := by
  obtain ⟨-, files, -⟩ := World.shown_eq_iff.1 same
  have directory : u.tempDirectory options (ρ n) = t.tempDirectory options n := by
    rw [Tree.tempDirectory, Tree.tempDirectory, twins.pathNames_eq up]
  rw [Tree.tempFile, Tree.tempFile, twins.dataFile_eq same up, directory, files]
  split
  · exact ⟨rfl, same⟩
  · dsimp only
    split
    · exact ⟨rfl, World.shown_of_files same _⟩
    · exact ⟨rfl, World.shown_of_files same _⟩

/-- Every request is answered alike in a tree and in its twin. -/
theorem Request.alike_of_twins (twins : Tree.Twins ρ a.tree b.tree) (r : Request) :
    r.Alike Node.facts World.shown ρ (Tree.root ∈ a.tree.ancestors ·) options a b := by
  intro s u n hn matched
  have agree := matched.agree
  have world := matched.world
  obtain ⟨-, files, -, memory, -⟩ := World.shown_eq_iff.1 world
  have now := matched.twins twins
  have up : Tree.root ∈ s.tree.ancestors n := by
    rwa [Tree.ancestors_eq_of_pristine matched.pristine.1]
  cases r with
  | tree => exact .get_bind (.pure ⟨now.sight_eq up, agree, world⟩)
  | dataFile file => exact .get_bind (.pure ⟨now.dataFile_eq world up file, agree, world⟩)
  | tempFile file =>
      obtain ⟨path, made⟩ := now.tempFile_eq world up file
      exact .get_bind (.onWorld ⟨path, agree, made⟩)
  | readFile path =>
      refine .get_bind (.pure ⟨?_, agree, world⟩)
      rw [files]
  | writeFile path text =>
      unfold Request.reply
      refine .onWorld ?_
      rw [files]
      cases s.world.files.writeText path text with
      | ok written => exact ⟨rfl, agree, World.shown_of_files world written⟩
      | error cause => exact ⟨rfl, agree, world⟩
  | remembered key =>
      refine .get_bind (.pure ⟨?_, agree, world⟩)
      rw [World.remembered, World.remembered, memory]
  | remember key value =>
      obtain ⟨ambient, -, supply, -, host⟩ := World.shown_eq_iff.1 world
      unfold Request.reply
      refine .onWorld ⟨rfl, agree, World.shown_eq_iff.2 ⟨ambient, files, supply, ?_, host⟩⟩
      show (World.remember u.world key value).memory = (World.remember s.world key value).memory
      rw [World.remember, World.remember, memory]
  | exit cause => exact .modify_bind (.throw world)
  | _ =>
      refine Confined.alike ?_ Node.facts_steady Node.facts_telling World.shown_steady
        World.shown_shows twins.renames hn matched
      trivial

/-- The runs of twins stay matched to their end, if the hooks are the same and the surroundings
differ in the log and the events only. -/
theorem together_runNode_of_twins {hooks hooks' : NodeId → Hooks}
    (twins : Tree.Twins ρ a.tree b.tree)
    (hooked : ∀ m, Tree.root ∈ a.tree.ancestors m →
      (b.tree.get (ρ m)).hooked = (a.tree.get m).hooked)
    (same : ∀ m, Tree.root ∈ a.tree.ancestors m → hooks' (ρ m) = hooks m)
    (world : b.world.shown = a.world.shown) :
    (runNode options hooks Tree.root).Together (runNode options hooks' Tree.root) a b
      (fun _ _ =>
        Matched Node.facts World.shown ρ (Tree.root ∈ a.tree.ancestors ·) (SameDeeds ρ) a b)
      (MatchedToEnd Node.facts World.shown ρ (Tree.root ∈ a.tree.ancestors ·) (SameDeeds ρ)
        a b) := by
  have own := Tree.mem_ancestors_self a.tree Tree.root
  have alike : ∀ r : Request, True → r.Alike Node.facts World.shown ρ
      (Tree.root ∈ a.tree.ancestors ·) options a b := fun r _ => r.alike_of_twins twins
  have lock := Matched.lockstep_of_alike Node.facts_steady World.shown_steady twins.renames alike
    hooked same fun m phase _ => Program.all_of_forall (fun _ => trivial) ((hooks m).at phase)
  have copied := lock.runNode own (fun m mem => (twins.wf.mem_below_iff.1 mem).1)
    (twins.copies.below_map twins.wf twins.wf' own)
    ⟨twins.agree, world, [], [], .refl a, .refl b, rfl⟩
  rwa [twins.top] at copied

end Requests

end SuiteTree
