import SuiteTree.Proofs.Run.Scope

/-!
# The run of one node within a run

A run of the root comes past every other node at most once. If it does, its events are those before,
which leave the node and everything below it alone, then the events of a run of the node by itself,
from the state that the run has come to, and then events that leave the node alone again. If the
process ends within the run of the node, the last part is missing.

Where a node stands in the run follows from the links: of the children of a node at most one leads
to it, and what happens at the others is elsewhere.
-/

namespace SuiteTree

/-- Nothing of this happens at node `c` or below it. -/
def Avoids (t : Tree) (c : NodeId) (es : List Event) : Prop :=
  ∀ e ∈ es, c ∉ t.ancestors e.node

/-- The run of a child by itself, once the streams have been rewound for it. -/
def runChild (options : Options) (hooks : NodeId → Hooks) (t : Tree) (c : NodeId) : Run Unit :=
  runAround options hooks c (runChildren options hooks c (t.below c))

/-- How a run that begins in state `s` has come past node `c`; `stop` says how the process ended, if
it did. -/
inductive Passage (options : Options) (hooks : NodeId → Hooks) (t : Tree) (c : NodeId) (s : State) :
    Option Halt → List Event → Prop where
  /-- The run did not come to the node. -/
  | around {stop : Option Halt} {es : List Event} (avoids : Avoids t c es) :
      Passage options hooks t c s stop es
  /-- The run of the node came to its end. -/
  | through {stop : Option Halt} {before w after : List Event} {s₁ : State}
      (reached : s.Extends before s₁) (first : Avoids t c before)
      (led : (runChild options hooks t c).Leads (s₁.rewindFor c) w) (visit : Visit s₁.tree c w)
      (last : Avoids t c after) :
      Passage options hooks t c s stop (before ++ .rewound c :: (w ++ after))
  /-- The process ended within the run of the node. -/
  | broken {how : Halt} {before w : List Event} {s₁ : State}
      (reached : s.Extends before s₁) (first : Avoids t c before)
      (led : (runChild options hooks t c).Leads (s₁.rewindFor c) w)
      (breaks : BreaksOff options hooks (Visit s₁.tree c) how w) :
      Passage options hooks t c s (some how) (before ++ .rewound c :: w)

variable {t : Tree} {c d n : NodeId} {s s' : State} {stop : Option Halt} {a b es : List Event}
  {options : Options} {hooks : NodeId → Hooks}

theorem Avoids.append (first : Avoids t c a) (second : Avoids t c b) : Avoids t c (a ++ b) := by
  intro e mem
  exact (List.mem_append.1 mem).elim (first e) (second e)

theorem Avoids.of_node (own : ∀ e ∈ es, e.node = n) (apart : c ∉ t.ancestors n) :
    Avoids t c es :=
  fun e mem => (own e mem).symm ▸ apart

/-- What happens elsewhere leaves the node and what is below it alone. -/
theorem Avoids.get_replay {m : NodeId} (avoids : Avoids t c es) (up : c ∈ t.ancestors m) :
    (t.replay es).get m = t.get m :=
  Tree.get_replay_of_not_mem fun e mem above => avoids e mem (Tree.mem_ancestors_trans up above)

/-- What happens before the run comes to the node. -/
theorem Passage.prepend (ext : s.Extends a s') (avoids : Avoids t c a)
    (passage : Passage options hooks t c s' stop es) :
    Passage options hooks t c s stop (a ++ es) := by
  cases passage with
  | around rest => exact .around (avoids.append rest)
  | through reached first led visit last =>
      rw [← List.append_assoc]
      exact .through (ext.trans reached) (avoids.append first) led visit last
  | broken reached first led breaks =>
      rw [← List.append_assoc]
      exact .broken (ext.trans reached) (avoids.append first) led breaks

/-- What happens after the run of the node. -/
theorem Passage.append (passage : Passage options hooks t c s none es) (avoids : Avoids t c b) :
    Passage options hooks t c s stop (es ++ b) := by
  cases passage with
  | around first => exact .around (first.append avoids)
  | through reached first led visit last =>
      rw [List.append_assoc, List.cons_append, List.append_assoc]
      exact .through reached first led visit (last.append avoids)

/-- A run comes past node `c`, however it ends. -/
def Passes {α : Type} (x : Run α) (options : Options) (hooks : NodeId → Hooks) (t : Tree)
    (c : NodeId) (s : State) : Prop :=
  x.Emits s (fun _ es => Passage options hooks t c s none es)
    (fun how es => Passage options hooks t c s (some how) es)

/-- A first part that leaves the node alone. -/
theorem Passes.after {α β : Type} {x : Run α} {f : α → Run β} {Q : α → List Event → Prop}
    {H : Halt → List Event → Prop} (first : x.Emits s Q H)
    (value : ∀ a es, Q a es → Avoids t c es) (halts : ∀ how es, H how es → Avoids t c es)
    (rest : ∀ a es s', s.Extends es s' → Q a es → Passes (f a) options hooks t c s') :
    Passes (x >>= f) options hooks t c s := by
  refine Run.Emits.bind first ?_ fun how es h => .around (halts how es h)
  intro a es s' ext q
  have avoids := value a es q
  exact (rest a es s' ext q).mono (fun _ _ passage => passage.prepend ext avoids)
    fun _ _ passage => passage.prepend ext avoids

/-- A last part that leaves the node alone. -/
theorem Passes.before {α β : Type} {x : Run α} {f : α → Run β}
    (first : Passes x options hooks t c s)
    (rest : ∀ a es s', s.Extends es s' →
      (f a).Emits s' (fun _ b => Avoids t c b) (fun _ b => Avoids t c b)) :
    Passes (x >>= f) options hooks t c s := by
  refine Run.Emits.bind first ?_ fun _ _ passage => passage
  intro a es s' ext passage
  exact (rest a es s' ext).mono (fun _ _ avoids => passage.append avoids)
    fun _ _ avoids => passage.append avoids

/-- Around a node, the run comes past what is below it if the runs of its children do. -/
theorem passes_runAround {kids : Run Bool} (apart : c ∉ t.ancestors n)
    (children : ∀ s' : State, s'.tree.pristine = s.tree.pristine →
      Passes kids options hooks t c s') :
    Passes (runAround options hooks n kids) options hooks t c s := by
  have own : ∀ es : List Event, (∀ e ∈ es, e.node = n) → Avoids t c es :=
    fun es node => .of_node node apart
  refine Passes.after emits_openNode (fun _ es opening => own es opening.node)
    (fun _ es breaks => own es (breaks.forall fun _ opening => opening.node)) ?_
  intro started a s₁ ext₁ _
  refine Passes.before (children s₁ ext₁.pristine) ?_
  intro abandoned b s₂ _
  refine Run.Emits.bind (emits_runSelf abandoned) ?_ ?_
  · rintro - c' s₃ - ran
    apply (emits_closeNode started).mono
    · exact fun _ d leaving => (own c' ran.node).append (own d leaving.node)
    · exact fun _ d breaks =>
        (own c' ran.node).append (own d (breaks.forall fun _ leaving => leaving.node))
  · exact fun _ c' breaks => own c' (breaks.forall fun _ ran => ran.node)

theorem emits_runChild (wf : t.WellFormed) (same : s.tree.pristine = t.pristine) (c : NodeId) :
    (runChild options hooks t c).Emits s (fun _ es => Visit s.tree c es)
      (BreaksOff options hooks (Visit s.tree c)) := by
  apply emits_runAround (wf.of_pristine same.symm)
  intro s' same'
  rw [Tree.below, Tree.children_eq_of_pristine same]
  exact emits_runChildren wf c _ (fun _ => id) (same'.trans same)

/-- A node that is neither above node `c` nor below it is run without coming to `c`. -/
theorem Visit.avoids (visit : Visit s.tree d es) (wf : t.WellFormed)
    (same : s.tree.pristine = t.pristine) (inside : d < t.size) (apart : c ∉ t.ancestors d)
    (up : d ∉ t.ancestors c) : Avoids t c es := by
  intro e mem
  have inside' : d < s.tree.size := by rwa [Tree.size_eq_of_pristine same]
  have above := visit.scope (wf.of_pristine same.symm) inside' e mem
  rw [Tree.ancestors_eq_of_pristine same] at above
  exact Tree.not_mem_ancestors_of_apart apart up above

/-- The run of the node itself. -/
theorem passes_self (wf : t.WellFormed) (same : s.tree.pristine = t.pristine) :
    Passes (modify (·.rewindFor c) >>= fun _ => runChild options hooks t c) options hooks t c
      s := by
  have same' : (s.rewindFor c).tree.pristine = t.pristine := same
  have avoids : Avoids t c [] := by simp [Avoids]
  refine Run.Emits.modify_bind State.extends_rewindFor ?_
  apply (emits_runChild wf same' c).with_leads.mono
  · rintro - w ⟨visit, led⟩
    have passage : Passage options hooks t c s none ([] ++ .rewound c :: (w ++ [])) :=
      .through (.refl s) avoids led visit avoids
    simpa using passage
  · rintro how w ⟨breaks, led⟩
    exact .broken (.refl s) avoids led breaks

/-- If a child leads to the node, the run of the child comes past the node. -/
theorem passes_child (wf : t.WellFormed) (same : s.tree.pristine = t.pristine)
    (up : d ∈ t.ancestors c)
    (below : d ≠ c → ∀ s' : State, s'.tree.pristine = t.pristine →
      Passes (runChildren options hooks d (t.below d)) options hooks t c s') :
    Passes (modify (·.rewindFor d) >>= fun _ => runChild options hooks t d) options hooks t c
      s := by
  by_cases here : d = c
  · subst here
    exact passes_self wf same
  · have apart : c ∉ t.ancestors d := fun back => here (Tree.eq_of_mem_ancestors up back)
    have rewound : Avoids t c [.rewound d] := .of_node (n := d) (by simp [Event.node]) apart
    have same' : (s.rewindFor d).tree.pristine = t.pristine := same
    refine Run.Emits.modify_bind State.extends_rewindFor ?_
    apply (passes_runAround apart fun s' unchanged => below here s' (unchanged.trans same')).mono
    · exact fun _ _ passage => passage.prepend State.extends_rewindFor rewound
    · exact fun _ _ passage => passage.prepend State.extends_rewindFor rewound

/-- Children that do not lead to the node are run without coming to it. -/
theorem emits_runChildren_avoids (wf : t.WellFormed) (inside : n < t.size) {cs : List NodeId}
    (last : cs <:+ (t.get n).children) (same : s.tree.pristine = t.pristine) {k : NodeId}
    (child : k ∈ (t.get n).children) (up : k ∈ t.ancestors c) (other : k ∉ cs) :
    (runChildren options hooks n (t.belowAll n cs)).Emits s (fun _ es => Avoids t c es)
      (fun _ es => Avoids t c es) := by
  have whole : ∀ es abandoned, Descent s.tree n cs es abandoned → Avoids t c es := by
    intro es abandoned descent e mem here
    have last' : cs <:+ (s.tree.get n).children := by rwa [Tree.children_eq_of_pristine same]
    have inside' : n < s.tree.size := by rwa [Tree.size_eq_of_pristine same]
    obtain ⟨d, hd, above⟩ := descent.scope (wf.of_pristine same.symm) inside' last' e mem
    rw [Tree.ancestors_eq_of_pristine same] at above
    have eq := wf.child_eq_of_mem_ancestors (last.mem hd) child above
      (Tree.mem_ancestors_trans up here)
    exact other (eq ▸ hd)
  apply (emits_runChildren wf n cs (fun _ mem => last.mem mem) same).mono
  · exact fun abandoned es descent => whole es abandoned descent
  · exact fun _ es breaks => breaks.forall fun xs ⟨abandoned, descent⟩ => whole xs abandoned descent

/-- A child that does not lead to the node is run without coming to it. -/
theorem emits_runChild_avoids (wf : t.WellFormed) (same : s.tree.pristine = t.pristine)
    (inside : d < t.size) (apart : c ∉ t.ancestors d) (up : d ∉ t.ancestors c) :
    (modify (·.rewindFor d) >>= fun _ => runChild options hooks t d).Emits s
      (fun _ es => Avoids t c es) (fun _ es => Avoids t c es) := by
  have rewound : Avoids t c [.rewound d] := .of_node (n := d) (by simp [Event.node]) apart
  have same' : (s.rewindFor d).tree.pristine = t.pristine := same
  have whole : ∀ es, Visit s.tree d es → Avoids t c es :=
    fun es visit => visit.avoids wf same inside apart up
  refine .modify_bind State.extends_rewindFor ?_
  apply (emits_runChild wf same' d).mono
  · exact fun _ es visit => rewound.append (whole es visit)
  · exact fun _ es breaks => rewound.append (breaks.forall whole)

/-- The first of some children is run, and the others unless it leaves their parent failed. -/
theorem runChildren_cons {rest : List NodeId} (wf : t.WellFormed) (child : d ∈ (t.get n).children) :
    runChildren options hooks n (t.belowAll n (d :: rest)) =
      (modify (·.rewindFor d) >>= fun _ => runChild options hooks t d) >>= fun _ =>
        get >>= fun s => if s.tree.isFailed n then
          modify (·.log (.info ("'" ++ (s.tree.get d).name ++ "' failed below '"
            ++ (s.tree.get n).name ++ "', skipping the rest"))) >>= fun _ => pure true
        else runChildren options hooks n (t.belowAll n rest) := by
  rw [wf.belowAll_cons_child child]
  rfl

/-- If one of the children `cs` leads to the node, running these children comes past it. The
induction is that over the lists of children. -/
theorem passes_runChildren (wf : t.WellFormed) (n : NodeId) (inside : n < t.size) (cs : List NodeId)
    (last : cs <:+ (t.get n).children) (same : s.tree.pristine = t.pristine)
    (leads : ∃ k ∈ cs, k ∈ t.ancestors c) :
    Passes (runChildren options hooks n (t.belowAll n cs)) options hooks t c s := by
  refine wf.children_induction (motive := fun n cs => n < t.size → cs <:+ (t.get n).children →
    (∃ k ∈ cs, k ∈ t.ancestors c) → ∀ s : State, s.tree.pristine = t.pristine →
      Passes (runChildren options hooks n (t.belowAll n cs)) options hooks t c s)
    ?_ ?_ n cs (fun _ mem => last.mem mem) inside last leads s same
  · rintro n - - ⟨k, mem, -⟩
    cases mem
  intro n d rest children below beside inside last leads s same
  have child : d ∈ (t.get n).children := children d List.mem_cons_self
  have later : rest <:+ (t.get n).children := (List.suffix_cons d rest).trans last
  rw [runChildren_cons wf child]
  by_cases up : d ∈ t.ancestors c
  · -- The first child leads to the node, so the later ones do not.
    apply Passes.before
    · apply passes_child wf same up
      intro ne s' same'
      have insideD : d < t.size := wf.child_lt_size n d child
      rw [Tree.below]
      exact below insideD List.suffix_rfl (wf.exists_child_of_mem_ancestors up ne) s' same'
    · rintro - es s' ext
      have same' := ext.pristine.trans same
      apply Run.Emits.get_bind
      split
      · exact .modify_bind (.of_world rfl rfl (.of_eq rfl rfl)) (.pure (by simp [Avoids]))
      · exact emits_runChildren_avoids wf inside later same' child up (wf.not_mem_later last)
  · obtain ⟨k, mem, upK⟩ := leads
    have ne : d ≠ k := fun eq => up (eq ▸ upK)
    have mem : k ∈ rest := (List.mem_cons.1 mem).resolve_left (Ne.symm ne)
    have childK : k ∈ (t.get n).children := later.mem mem
    have apart : c ∉ t.ancestors d := fun back => ne (wf.child_eq_of_mem_ancestors child childK
      (Tree.mem_ancestors_self t d) (Tree.mem_ancestors_trans upK back))
    refine Passes.after (emits_runChild_avoids wf same (wf.child_lt_size n d child) apart up)
      (fun _ _ => id) (fun _ _ => id) ?_
    rintro - es s' ext -
    have same' := ext.pristine.trans same
    apply Run.Emits.get_bind
    split
    · refine .modify_bind (.of_world rfl rfl (.of_eq rfl rfl)) (.pure ?_)
      exact .around (by simp [Avoids])
    · exact beside inside later ⟨k, mem, upK⟩ s' same'

/-- A run of a node comes past every node that it is not below. -/
theorem passes_runNode (wf : t.WellFormed) (inside : n < t.size) (apart : c ∉ t.ancestors n)
    (same : s.tree.pristine = t.pristine) :
    Passes (runNode options hooks n) options hooks t c s := by
  by_cases up : n ∈ t.ancestors c
  · have ne : n ≠ c := fun eq => apart (eq ▸ up)
    apply Run.Emits.get_bind
    apply passes_runAround apart
    intro s' same'
    rw [Tree.below_eq_of_pristine same, Tree.below]
    exact passes_runChildren wf n inside _ List.suffix_rfl (same'.trans same)
      (wf.exists_child_of_mem_ancestors up ne)
  · have whole : ∀ es, Visit s.tree n es → Avoids t c es :=
      fun es visit => visit.avoids wf same inside apart up
    apply (emits_runNode (wf.of_pristine same.symm)).mono
    · exact fun _ es visit => .around (whole es visit)
    · exact fun _ es breaks => .around (breaks.forall whole)

end SuiteTree
