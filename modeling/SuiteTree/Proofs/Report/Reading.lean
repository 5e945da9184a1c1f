import SuiteTree.Proofs.Report.Printout
import SuiteTree.Proofs.Text.Escaping
import SuiteTree.Proofs.Text.Reader

/-!
# Reading an XML report

The reader goes through the text once, from left to right. It knows the level at which it reads, and
so what the lines of this level begin with. An element is read up to the first `<`, which no escaped
text contains. Two times it has to look ahead: whether there is one more failure, and whether there
is one more node. What comes instead is less indented, which is how the lines of a failure, of a
node below and of the end of a node are told apart.

Reading what was written gives back the printout. So the text of an XML report determines the
printout, and with it the text of the verbose report.
-/

namespace SuiteTree

namespace Report

open Text
open Text.Reader (expect upTo sees many)

theorem unlines_flatMap {α : Type} (as : List α) (lines : α → List String) :
    unlines (as.flatMap lines) = String.join (as.map fun a => unlines (lines a)) := by
  simp [unlines, ← String.toList_inj, List.flatMap_assoc, List.flatMap_map]

/-- Read an element that stands on a line of its own. -/
def readElement (level : Nat) (tag : String) : Reader String := do
  expect (indent level ++ "<" ++ tag ++ ">")
  let text ← upTo '<' ("</" ++ tag ++ ">")
  expect "\n"
  pure text

/-- Read an element with an escaped text. -/
def readEscaped (level : Nat) (tag : String) : Reader String := do
  let text ← readElement level tag
  pure (unescape .exchanged text)

/-- Read the times of a node. -/
def readTimes (level : Nat) : Reader (String × String × String) := do
  expect (indent level ++ "<Time real=\"")
  let real ← upTo '"' "\" user=\""
  let user ← upTo '"' "\" system=\""
  let system ← upTo '"' "\"/>"
  expect "\n"
  pure (real, user, system)

/-- Read a failure. -/
def readFailure (level : Nat) : Reader Failure := do
  expect (openTag level "FailureDetails" ++ "\n")
  let condition ← readEscaped (level + 1) "Condition"
  let actual ← readEscaped (level + 1) "Actual"
  let limit ← readEscaped (level + 1) "Limit"
  let message ← readEscaped (level + 1) "Message"
  let file ← readEscaped (level + 1) "File"
  let line ← readElement (level + 1) "Line"
  expect (closeTag level "FailureDetails" ++ "\n")
  pure ⟨condition, actual, limit, message, file, Nat.ofDigitChars 10 line.toList 0⟩

/-- Read what stands before the nodes below a node. -/
def readHead (fuel level : Nat) : Reader Printed := do
  expect (openTag level "Test" ++ "\n")
  let name ← readEscaped (level + 1) "Name"
  let status ← readElement (level + 1) "Result"
  let (real, user, system) ← readTimes (level + 1)
  let failures ← many (openTag (level + 2) "FailureDetails") (readFailure (level + 2)) fuel
  pure ⟨name, status == "FAIL", real, user, system, failures⟩

/-- Read nodes and what is below them. -/
def readNodes : Nat → Nat → Reader Printout
  | 0, _ => failure
  | fuel + 1, level => do
    if ← sees (openTag level "Test") then
      let e ← readHead fuel level
      let below ← readNodes fuel (level + 1)
      expect (closeTag level "Test" ++ "\n")
      let beside ← readNodes fuel level
      pure (.entry e below beside)
    else pure .nil

/-- Read an XML report that begins at a level. -/
def readXml (level : Nat) (text : String) : Option Printout :=
  match (readNodes (text.length + 1) level).run text.toList with
  | some (printout, []) => some printout
  | _ => none

theorem isDigit_of_mem_digitChars {n : Nat} {c : Char} (mem : c ∈ Number.digitChars n) :
    c.isDigit = true :=
  Nat.isDigit_of_mem_toDigits (by decide) (by decide) mem

theorem lt_not_mem_line (n : Nat) : '<' ∉ (toString n).toList := by
  intro mem
  have digit : '<' ∈ Number.digitChars n := by simpa [Number.digitChars] using mem
  exact absurd (isDigit_of_mem_digitChars digit) (by decide)

theorem mem_writePlaces {places units : Nat} {c : Char} (mem : c ∈ Number.writePlaces places units) :
    c.isDigit = true ∨ c = '.' := by
  have padded : ∀ c ∈ List.replicate (places + 1 - (Number.digitChars units).length) '0' ++
      Number.digitChars units, c.isDigit = true := by
    intro c mem
    obtain mem | mem := List.mem_append.1 mem
    · rw [List.eq_of_mem_replicate mem]
      rfl
    · exact isDigit_of_mem_digitChars mem
  obtain mem | mem := List.mem_append.1 mem
  · exact .inl (padded c (List.mem_of_mem_take mem))
  · obtain point | mem := List.mem_cons.1 mem
    · exact .inr point
    · exact .inl (padded c (List.mem_of_mem_drop mem))

/-- A printed time ends where its attribute ends. -/
theorem quote_not_mem_seconds (span : Time.Span) : '"' ∉ (seconds span).toList := by
  have quote : ∀ {units : Nat}, '"' ∉ Number.writePlaces 3 units := by
    intro units mem
    obtain digit | point := mem_writePlaces mem
    · exact absurd digit (by decide)
    · exact absurd point (by decide)
  unfold seconds Number.fixed
  split
  · decide
  · split <;> decide
  · next negative _ =>
    rw [String.toList_ofList]
    split
    · exact List.not_mem_cons_of_ne_of_not_mem (by decide) quote
    · exact quote

section Readers

variable {fuel : Nat}

theorem reads_element (level : Nat) (tag : String) {text : String} (free : '<' ∉ text.toList) :
    Reads (readElement level tag) (element level tag text ++ "\n") text := by
  have begins : ("</" ++ tag ++ ">").toList.head? = some '<' := by simp
  refine ReadsIf.of_eq (Reads.bind (reads_expect _) (Reads.bind (reads_upTo free begins)
    (Reads.bind (reads_expect _) (.pure text)))) ?_
  simp [element, String.append_assoc]

theorem reads_escaped (level : Nat) (tag text : String) :
    Reads (readEscaped level tag) (element level tag (escape text) ++ "\n") text := by
  have plain := reads_element level tag (lt_not_mem_escape text)
  have whole : Reads (readEscaped level tag) _ (unescape .exchanged (escape text)) :=
    Reads.bind plain (.pure _)
  rw [unescape_escape] at whole
  exact whole.of_eq (by simp)

theorem reads_failure (level : Nat) (f : Failure) :
    Reads (readFailure level) (unlines (failureLines level f)) f := by
  have number : Nat.ofDigitChars 10 (toString f.line).toList 0 = f.line := by
    simp
  have whole : Reads (readFailure level) _
      ⟨f.condition, f.actual, f.limit, f.message, f.file,
        Nat.ofDigitChars 10 (toString f.line).toList 0⟩ :=
    Reads.bind (reads_expect _) <| Reads.bind (reads_escaped _ _ _) <|
      Reads.bind (reads_escaped _ _ _) <| Reads.bind (reads_escaped _ _ _) <|
      Reads.bind (reads_escaped _ _ _) <| Reads.bind (reads_escaped _ _ _) <|
      Reads.bind (reads_element _ _ (lt_not_mem_line _)) <| Reads.bind (reads_expect _) (.pure _)
  rw [number] at whole
  exact whole.of_eq (by simp [failureLines, unlines_cons, String.append_assoc])

theorem reads_times (level : Nat) (e : Entry) :
    Reads (readTimes level) (e.timeTag level ++ "\n")
      (e.printed.real, e.printed.user, e.printed.system) := by
  refine ReadsIf.of_eq (Reads.bind (reads_expect _) <|
    Reads.bind (reads_upTo (quote_not_mem_seconds e.elapsed.real) rfl) <|
    Reads.bind (reads_upTo (quote_not_mem_seconds e.elapsed.user) rfl) <|
    Reads.bind (reads_upTo (quote_not_mem_seconds e.elapsed.system) rfl) <|
    Reads.bind (reads_expect _) (.pure _)) ?_
  simp [Entry.timeTag, seconds, String.append_assoc]

theorem lt_not_mem_status (e : Entry) : '<' ∉ e.status.toList := by
  unfold Entry.status
  split <;> decide

theorem status_eq_fail (e : Entry) : (e.status == "FAIL") = e.failed := by
  unfold Entry.status
  cases e.failed <;> decide

theorem reads_head (level : Nat) (e : Entry) (enough : e.failures.length < fuel) :
    ReadsIf (Unless (openTag (level + 2) "FailureDetails")) (readHead fuel level)
      (unlines (e.xmlHead level)) e.printed := by
  have failures := reads_many enough (w := openTag (level + 2) "FailureDetails")
    (fun f _ => reads_failure (level + 2) f) (by
      intro f _
      rw [failureLines, unlines_cons, String.append_assoc, String.toList_append]
      exact List.prefix_append _ _)
  have whole : ReadsIf (Unless (openTag (level + 2) "FailureDetails")) (readHead fuel level) _
      ⟨e.name, e.status == "FAIL", e.printed.real, e.printed.user, e.printed.system,
        e.failures⟩ :=
    Reads.bind (reads_expect _) <| Reads.bind (reads_escaped _ _ _) <|
      Reads.bind (reads_element _ _ (lt_not_mem_status e)) <| Reads.bind (reads_times _ e) <|
      ReadsIf.bind failures (.pure _) fun _ => id
  rw [status_eq_fail] at whole
  refine whole.of_eq ?_
  simp [Entry.xmlHead, unlines_cons, unlines_flatMap, String.append_assoc]

/-- A tag begins here, indented to a level. -/
def Opens (level : Nat) (cs : List Char) : Prop :=
  ∃ tail, cs = (indent level).toList ++ '<' :: tail

/-- A line does not begin like one that is further indented. -/
theorem Opens.unless {level deeper : Nat} {cs : List Char} (opens : Opens level cs)
    (less : level < deeper) (tag : String) : Unless (openTag deeper tag) cs := by
  obtain ⟨tail, rfl⟩ := opens
  have blanks : List.replicate (2 * deeper) ' ' =
      List.replicate (2 * level) ' ' ++ ' ' :: List.replicate (2 * (deeper - level) - 1) ' ' := by
    rw [← List.replicate_succ, List.replicate_append_replicate]
    congr 1
    omega
  simp [Unless, openTag, indent, blanks, List.prefix_append_right_inj]

theorem opens_closeTag (level : Nat) (tag s : String) (rest : List Char) :
    Opens level ((closeTag level tag ++ "\n" ++ s).toList ++ rest) := by
  refine ⟨'/' :: (tag.toList ++ '>' :: '\n' :: (s.toList ++ rest)), ?_⟩
  simp [closeTag]

theorem opens_entry (level : Nat) (e : Entry) (below beside : View) (rest : List Char) :
    Opens level ((unlines ((View.entry e below beside).xmlLines level)).toList ++ rest) := by
  refine ⟨"Test>\n".toList ++ ((unlines ((e.xmlHead level).tail ++ below.xmlLines (level + 1) ++
    closeTag level "Test" :: beside.xmlLines level)).toList ++ rest), ?_⟩
  simp [View.xmlLines, Entry.xmlHead, unlines_cons, openTag]

/-- Nodes below begin less indented than failures, and so does the end of the element. -/
theorem unless_failure (level : Nat) (v : View) (s : String) (rest : List Char) :
    Unless (openTag (level + 2) "FailureDetails")
      ((unlines (v.xmlLines (level + 1)) ++ (closeTag level "Test" ++ "\n" ++ s)).toList ++ rest) := by
  cases v with
  | nil =>
      rw [View.xmlLines, unlines_nil, String.empty_append]
      exact (opens_closeTag level "Test" s rest).unless (by omega) _
  | entry e below beside =>
      rw [String.toList_append, List.append_assoc]
      exact (opens_entry (level + 1) e below beside _).unless (by omega) _

theorem reads_nodes (level : Nat) (v : View) (enough : (v.xmlLines level).length < fuel) :
    ReadsIf (Unless (openTag level "Test")) (readNodes fuel level) (unlines (v.xmlLines level))
      v.printout := by
  induction v generalizing level fuel with
  | nil =>
      obtain _ | fuel := fuel
      · cases enough
      · exact ReadsIf.sees_not rfl
  | entry e below beside ihBelow ihBeside =>
      obtain _ | fuel := fuel
      · cases enough
      have failures : e.failures.length ≤
          (e.failures.flatMap (failureLines (level + 2))).length := by
        simp [List.length_flatMap, failureLines]
        omega
      simp only [View.xmlLines, Entry.xmlHead, List.length_append, List.length_cons] at enough
      have own : e.failures.length < fuel := by omega
      have inner : (below.xmlLines (level + 1)).length < fuel := by omega
      have later : (beside.xmlLines level).length < fuel := by omega
      apply ReadsIf.sees
      · rw [View.xmlLines, Entry.xmlHead, List.cons_append, List.cons_append, List.cons_append,
          unlines_cons, String.append_assoc, String.toList_append]
        exact List.prefix_append _ _
      · refine ReadsIf.of_eq (ReadsIf.bind (reads_head level e own)
          (ReadsIf.bind (ihBelow (level + 1) inner) (Reads.bind (reads_expect _)
            (ReadsIf.bind (ihBeside level later) (.pure _) fun _ => id)) ?_) ?_) ?_
        · intro rest _
          exact (opens_closeTag level "Test" _ rest).unless (Nat.lt_succ_self level) _
        · intro rest _
          exact unless_failure level below _ rest
        · simp [View.xmlLines, unlines_append, unlines_cons, String.append_assoc]

theorem length_le_unlines (ls : List String) : ls.length ≤ (unlines ls).length := by
  induction ls with
  | nil => exact Nat.zero_le _
  | cons l ls ih =>
      rw [unlines_cons, String.length_append, String.length_append, List.length_cons]
      have ended : "\n".length = 1 := rfl
      omega

/-- Reading undoes writing. -/
theorem readXml_render (level : Nat) (outline : Outline) :
    readXml level (render .xml level outline) = some (view outline).printout := by
  have enough := length_le_unlines ((view outline).xmlLines level)
  have read := reads_nodes level (view outline) (Nat.lt_succ_of_le enough) [] (by
    simp [Unless, openTag])
  rw [List.append_nil] at read
  rw [readXml, render, lines, read]

end Readers

end Report

end SuiteTree
