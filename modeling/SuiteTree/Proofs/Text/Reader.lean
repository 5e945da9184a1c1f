import Mathlib.Data.List.Basic

/-!
# Readers

A reader takes a beginning of a text and leaves the rest. That a reader undoes a writer is said of
texts with anything behind them, so that it carries over to readers and texts in a row. A reader of
a list has to look ahead, and so has a condition on what may follow.
-/

namespace SuiteTree.Text

/-- A reader takes a beginning of a text and leaves the rest. -/
abbrev Reader := StateT (List Char) Option

/-- Reader `p` takes `text` for `a`, whatever rest satisfying `ok` follows. -/
def ReadsIf {α : Type} (ok : List Char → Prop) (p : Reader α) (text : String) (a : α) : Prop :=
  ∀ rest, ok rest → p.run (text.toList ++ rest) = some (a, rest)

/-- Reader `p` takes `text` for `a`, whatever follows. -/
abbrev Reads {α : Type} (p : Reader α) (text : String) (a : α) : Prop :=
  ReadsIf (fun _ => True) p text a

/-- The rest does not begin with `w`. -/
def Unless (w : String) (rest : List Char) : Prop :=
  ¬ w.toList <+: rest

namespace Reader

/-- Read a text that is known. -/
def expect (w : String) : Reader Unit := fun cs =>
  (cs.dropPrefix? w.toList).map fun rest => ((), rest)

/-- Read up to the first character `stop`, and then the text `w`. -/
def upTo (stop : Char) (w : String) : Reader String := fun cs =>
  ((cs.dropWhile (· ≠ stop)).dropPrefix? w.toList).map fun rest =>
    (String.ofList (cs.takeWhile (· ≠ stop)), rest)

/-- Look whether the text begins with `w`, and read nothing. -/
def sees (w : String) : Reader Bool := fun cs =>
  some (w.toList.isPrefixOf cs, cs)

/-- Read with `p` as long as the text begins with `w`. -/
def many {α : Type} (w : String) (p : Reader α) : Nat → Reader (List α)
  | 0 => failure
  | fuel + 1 => do
    if ← sees w then
      let a ← p
      let as ← many w p fuel
      pure (a :: as)
    else pure []

end Reader

section

variable {α β : Type} {ok ok' : List Char → Prop} {p : Reader α} {f : α → Reader β}
  {text text' w : String} {a : α} {b : β}

theorem ReadsIf.pure (a : α) : ReadsIf ok (pure a) "" a := by
  intro rest _
  rfl

/-- Readers in a row read texts in a row, if the second text is one that may follow the first. -/
theorem ReadsIf.bind (first : ReadsIf ok p text a) (second : ReadsIf ok' (f a) text' b)
    (follows : ∀ rest, ok' rest → ok (text'.toList ++ rest)) :
    ReadsIf ok' (p >>= f) (text ++ text') b := by
  intro rest h
  rw [String.toList_append, List.append_assoc, StateT.run_bind, first _ (follows rest h)]
  exact second rest h

theorem Reads.bind (first : Reads p text a) (second : ReadsIf ok (f a) text' b) :
    ReadsIf ok (p >>= f) (text ++ text') b :=
  ReadsIf.bind first second fun _ _ => trivial

theorem ReadsIf.of_eq (reads : ReadsIf ok p text a) (same : text = text') :
    ReadsIf ok p text' a :=
  same ▸ reads

theorem reads_expect (w : String) : Reads (Reader.expect w) w () := by
  intro rest _
  have split : (w.toList ++ rest).dropPrefix? w.toList = some rest :=
    List.dropPrefix?_append_of_beq rest (beq_self_eq_true _)
  show Option.map _ _ = _
  rw [split, Option.map_some]

theorem reads_upTo {stop : Char} (free : stop ∉ text.toList) (begins : w.toList.head? = some stop) :
    Reads (Reader.upTo stop w) (text ++ w) text := by
  intro rest _
  obtain ⟨tail, shape⟩ : ∃ tail, w.toList = stop :: tail := List.head?_eq_some_iff.1 begins
  have other : ∀ c ∈ text.toList, decide (c ≠ stop) = true := by
    intro c mem
    exact decide_eq_true fun same => free (same ▸ mem)
  have read : ((text ++ w).toList ++ rest).takeWhile (· ≠ stop) = text.toList := by
    rw [String.toList_append, List.append_assoc, List.takeWhile_append_of_pos other, shape]
    simp
  have left : ((text ++ w).toList ++ rest).dropWhile (· ≠ stop) = w.toList ++ rest := by
    rw [String.toList_append, List.append_assoc, List.dropWhile_append_of_pos other, shape]
    simp
  have split : (w.toList ++ rest).dropPrefix? w.toList = some rest :=
    List.dropPrefix?_append_of_beq rest (beq_self_eq_true _)
  show Option.map _ _ = _
  rw [left, split, read, Option.map_some, String.ofList_toList]

/-- Something is read if the text begins like it. -/
theorem ReadsIf.sees {g : Bool → Reader β} (begins : w.toList <+: text.toList)
    (reads : ReadsIf ok (g true) text b) : ReadsIf ok (Reader.sees w >>= g) text b := by
  intro rest h
  have seen : w.toList.isPrefixOf (text.toList ++ rest) = true :=
    List.isPrefixOf_iff_prefix.2 (begins.trans (List.prefix_append _ _))
  show (g (w.toList.isPrefixOf (text.toList ++ rest))).run _ = _
  rw [seen]
  exact reads rest h

/-- Nothing is read if the rest does not begin like it. -/
theorem ReadsIf.sees_not {g : Bool → Reader β} (stops : g false = Pure.pure b) :
    ReadsIf (Unless w) (Reader.sees w >>= g) "" b := by
  intro rest h
  have unseen : w.toList.isPrefixOf rest = false := by
    rw [Bool.eq_false_iff]
    exact fun seen => h (List.isPrefixOf_iff_prefix.1 seen)
  show (g (w.toList.isPrefixOf rest)).run rest = _
  rw [unseen, stops]
  rfl

/-- A list is read item by item. -/
theorem reads_many {print : α → String} {as : List α} {fuel : Nat} (enough : as.length < fuel)
    (reads : ∀ a ∈ as, Reads p (print a) a) (begins : ∀ a ∈ as, w.toList <+: (print a).toList) :
    ReadsIf (Unless w) (Reader.many w p fuel) (String.join (as.map print)) as := by
  induction as generalizing fuel with
  | nil =>
      obtain _ | fuel := fuel
      · cases enough
      · exact ReadsIf.sees_not rfl
  | cons a as ih =>
      obtain _ | fuel := fuel
      · cases enough
      have rest := ih (Nat.lt_of_succ_lt_succ enough)
        (fun a' mem => reads a' (List.mem_cons_of_mem _ mem))
        (fun a' mem => begins a' (List.mem_cons_of_mem _ mem))
      rw [List.map_cons, String.join_cons]
      apply ReadsIf.sees
      · rw [String.toList_append]
        exact (begins a List.mem_cons_self).trans (List.prefix_append _ _)
      · apply Reads.bind (reads a List.mem_cons_self)
        refine ReadsIf.of_eq (ReadsIf.bind rest (ReadsIf.pure (a :: as)) ?_) (by simp)
        intro rest' h
        simpa using h

end

end SuiteTree.Text
