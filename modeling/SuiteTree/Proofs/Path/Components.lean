import SuiteTree.Path

/-!
# Paths and their components

Appending is an operation on texts, taking apart another one. The text of a path falls into pieces at
its separators, and those that name something are its names. Before the names there can be a mark:
the root, or a leading `.`. Appending a relative path joins the names, whatever the separators are
like, and the mark that counts is that of the first text that is not empty. All laws of appending
and taking apart follow from this.
-/

namespace SuiteTree.Path

section Texts

variable {l r s cs : List Char}

/-- The pieces of a text that name something. -/
def namesIn (cs : List Char) : List (List Char) :=
  (segments cs).filter (!isIdle ·)

/-- What stands before the names: the root, a `.`, or nothing. -/
def markOf (cs : List Char) : List (List Char) :=
  if isAbsoluteText cs then [['/']]
  else if (segments cs).head? = some ['.'] then [['.']]
  else []

/-- What appending puts between a text and a relative one. -/
def separator (cs : List Char) : List Char :=
  if cs = [] ∨ cs.getLast? = some '/' then [] else ['/']

/-- A separator between two texts is one between their pieces. -/
theorem segments_append_slash (l r : List Char) :
    segments (l ++ '/' :: r) = segments l ++ segments r := by
  induction l with
  | nil => simp [segments]
  | cons c l ih =>
      by_cases slash : c = '/'
      · simp [segments, slash, ih]
      · obtain ⟨s, rest, pieces⟩ := List.exists_cons_of_ne_nil (segments_ne_nil l)
        simp [segments, slash, ih, pieces]

theorem segments_of_slash_not_mem (free : '/' ∉ cs) : segments cs = [cs] := by
  induction cs with
  | nil => rfl
  | cons c cs ih =>
      obtain ⟨ne, free⟩ := not_or.1 (mt List.mem_cons.2 free)
      simp [segments, Ne.symm ne, ih free]

theorem slash_not_mem_of_mem_segments (mem : s ∈ segments cs) : '/' ∉ s := by
  induction cs generalizing s with
  | nil => simp_all [segments]
  | cons c cs ih =>
      obtain ⟨first, rest, pieces⟩ := List.exists_cons_of_ne_nil (segments_ne_nil cs)
      rw [pieces] at ih
      by_cases slash : c = '/'
      · simp only [segments, slash, if_true, pieces] at mem
        obtain rfl | old := List.mem_cons.1 mem
        · exact List.not_mem_nil
        · exact ih old
      · simp only [segments, slash, if_false, pieces] at mem
        obtain rfl | old := List.mem_cons.1 mem
        · exact mt List.mem_cons.1 (not_or.2 ⟨Ne.symm slash, ih List.mem_cons_self⟩)
        · exact ih (List.mem_cons_of_mem _ old)

/-- The components are the mark and the names. -/
theorem componentTexts_eq (cs : List Char) : componentTexts cs = markOf cs ++ namesIn cs := by
  unfold componentTexts markOf namesIn
  by_cases absolute : isAbsoluteText cs = true
  · simp [absolute]
  · obtain ⟨first, rest, pieces⟩ := List.exists_cons_of_ne_nil (segments_ne_nil cs)
    by_cases empty : first = []
    · simp [absolute, pieces, empty, isIdle]
    · by_cases dot : first = ['.']
      · simp [absolute, pieces, dot, isIdle]
      · simp [absolute, pieces, empty, dot, isIdle]

theorem appendText_of_relative (relative : isAbsoluteText r = false) (l : List Char) :
    appendText l r = l ++ separator l ++ r := by
  unfold appendText separator
  rw [relative]
  by_cases closed : l = [] ∨ l.getLast? = some '/'
  · simp [closed]
  · simp [closed]

theorem isAbsoluteText_append (ne : l ≠ []) (r : List Char) :
    isAbsoluteText (l ++ r) = isAbsoluteText l := by
  obtain ⟨c, l, rfl⟩ := List.exists_cons_of_ne_nil ne
  rfl

/-- The separator after two texts is the one after the second, and there is none after a text that
was only given its separator. -/
theorem separator_append (l r : List Char) : separator (l ++ separator l ++ r) = separator r := by
  by_cases empty : r = []
  · subst empty
    by_cases closed : l = [] ∨ l.getLast? = some '/'
    · simp [separator, closed]
    · simp [separator, closed]
  · simp [separator, empty, List.getLast?_append, List.getLast?_eq_some_getLast empty]

theorem appendText_assoc (a b c : List Char) :
    appendText (appendText a b) c = appendText a (appendText b c) := by
  by_cases last : isAbsoluteText c = true
  · simp [appendText, last]
  · have relative := Bool.eq_false_iff.2 last
    rw [appendText_of_relative relative, appendText_of_relative relative]
    by_cases second : isAbsoluteText b = true
    · have ne : b ≠ [] := by
        rintro rfl
        cases second
      have whole : isAbsoluteText (b ++ separator b ++ c) = true := by
        rw [List.append_assoc, isAbsoluteText_append ne, second]
      have first : appendText a b = b := if_pos second
      rw [first]
      exact (if_pos whole).symm
    · have relative' := Bool.eq_false_iff.2 second
      have whole : isAbsoluteText (b ++ separator b ++ c) = false := by
        by_cases empty : b = []
        · subst empty
          exact relative
        · rw [List.append_assoc, isAbsoluteText_append empty, relative']
      rw [appendText_of_relative relative', appendText_of_relative whole, separator_append]
      simp only [List.append_assoc]

/-- A text that is given its separator ends in one, and the pieces before it are those of the text
but for an empty one. -/
theorem exists_body (ne : l ≠ []) : ∃ body, l ++ separator l = body ++ ['/'] ∧
    (segments l = segments body ∨ segments l = segments body ++ [[]]) := by
  by_cases closed : l.getLast? = some '/'
  · obtain ⟨body, rfl⟩ := List.getLast?_eq_some_iff.1 closed
    refine ⟨body, by simp [separator], .inr ?_⟩
    exact segments_append_slash body []
  · exact ⟨l, by simp [separator, ne, closed], .inl rfl⟩

theorem namesIn_append (l r : List Char) :
    namesIn (l ++ separator l ++ r) = namesIn l ++ namesIn r := by
  by_cases ne : l = []
  · subst ne
    rfl
  · obtain ⟨body, given, pieces⟩ := exists_body ne
    rw [given, List.append_assoc, List.singleton_append, namesIn, segments_append_slash,
      List.filter_append]
    obtain same | closed := pieces
    · rw [namesIn, namesIn, same]
    · rw [namesIn, namesIn, closed, List.filter_append]
      simp [isIdle]

theorem markOf_append (ne : l ≠ []) (r : List Char) :
    markOf (l ++ separator l ++ r) = markOf l := by
  obtain ⟨body, given, pieces⟩ := exists_body ne
  have first : (segments (l ++ separator l ++ r)).head? = (segments l).head? := by
    rw [given, List.append_assoc, List.singleton_append, segments_append_slash,
      List.head?_append, List.head?_eq_some_head (segments_ne_nil body), Option.some_or]
    obtain same | closed := pieces
    · rw [same, List.head?_eq_some_head]
    · rw [closed, List.head?_append, List.head?_eq_some_head (segments_ne_nil body), Option.some_or]
  rw [markOf, markOf, first, List.append_assoc, isAbsoluteText_append ne]

end Texts

variable {l r p x : Path} {xs ys : List Path}

/-- The components of a path but for a leading root or `.`. -/
def names (p : Path) : List Path :=
  (namesIn p.text.toList).map fun cs => ⟨String.ofList cs⟩

/-- The root or the `.` with which a path begins. -/
def mark (p : Path) : List Path :=
  (markOf p.text.toList).map fun cs => ⟨String.ofList cs⟩

/-- A component that stands for an entry of a directory, or for the parent of one. -/
structure IsName (p : Path) : Prop where
  ne_empty : p.text ≠ ""
  no_slash : '/' ∉ p.text.toList
  ne_dot : p.text ≠ "."

/-- The path does not begin with the component `.`. -/
def Undotted (p : Path) : Prop :=
  p.components.head? ≠ some ⟨"."⟩

instance (p : Path) : Decidable p.IsName :=
  decidable_of_iff (p.text ≠ "" ∧ '/' ∉ p.text.toList ∧ p.text ≠ ".")
    ⟨fun ⟨ne, free, dot⟩ => ⟨ne, free, dot⟩, fun name => ⟨name.ne_empty, name.no_slash, name.ne_dot⟩⟩

instance (p : Path) : Decidable p.Undotted :=
  inferInstanceAs (Decidable (_ ≠ _))

theorem toList_text_append (l r : Path) :
    (l ++ r).text.toList = appendText l.text.toList r.text.toList :=
  String.toList_ofList

theorem ext_toList (same : l.text.toList = r.text.toList) : l = r := by
  cases l
  cases r
  simpa [String.toList_inj] using same

theorem components_eq (p : Path) : p.components = p.mark ++ p.names := by
  rw [components, componentTexts_eq, List.map_append, mark, names]

theorem mark_cases (p : Path) : p.mark = [] ∨ p.mark = [⟨"/"⟩] ∨ p.mark = [⟨"."⟩] := by
  unfold mark markOf
  split
  · exact .inr (.inl rfl)
  · split
    · exact .inr (.inr rfl)
    · exact .inl rfl

theorem mark_eq_nil (relative : p.isAbsolute = false) (undotted : p.Undotted) : p.mark = [] := by
  obtain none | root | dot := p.mark_cases
  · exact none
  · rw [isAbsolute] at relative
    unfold mark markOf at root
    rw [relative] at root
    split at root
    · contradiction
    · split at root
      · exact absurd root (by decide)
      · exact absurd root (by decide)
  · rw [Undotted, components_eq, dot] at undotted
    exact absurd rfl undotted

/-- A path without a mark consists of its names. -/
theorem components_eq_names (relative : p.isAbsolute = false) (undotted : p.Undotted) :
    p.components = p.names := by
  rw [components_eq, mark_eq_nil relative undotted, List.nil_append]

theorem toList_eq_dot_iff {text : String} : text.toList = ['.'] ↔ text = "." :=
  @String.toList_inj text "."

theorem isAbsolute_of_no_slash (free : '/' ∉ p.text.toList) : p.isAbsolute = false := by
  rw [isAbsolute, isAbsoluteText, beq_eq_false_iff_ne]
  exact fun slash => free (List.mem_of_mem_head? slash)

theorem isName_iff_not_idle (free : '/' ∉ p.text.toList) :
    p.IsName ↔ isIdle p.text.toList = false := by
  rw [isIdle, Bool.or_eq_false_iff, beq_eq_false_iff_ne, beq_eq_false_iff_ne, ne_eq, ne_eq,
    String.toList_eq_nil_iff, toList_eq_dot_iff]
  constructor
  · intro name
    exact ⟨name.ne_empty, name.ne_dot⟩
  · rintro ⟨ne, ne'⟩
    exact ⟨ne, free, ne'⟩

/-- A piece is its own only name if it names something. -/
theorem names_of_no_slash (free : '/' ∉ p.text.toList) :
    p.names = if p.IsName then [p] else [] := by
  rw [names, namesIn, segments_of_slash_not_mem free]
  by_cases name : p.IsName
  · simp [name, (isName_iff_not_idle free).1 name]
  · simp [name, mt (isName_iff_not_idle free).2 name]

namespace IsName

theorem relative (name : x.IsName) : x.isAbsolute = false :=
  isAbsolute_of_no_slash name.no_slash

theorem components_eq (name : x.IsName) : x.components = [x] := by
  have relative : isAbsoluteText x.text.toList = false := name.relative
  have first : x.text.toList ≠ ['.'] := fun dot => name.ne_dot (toList_eq_dot_iff.1 dot)
  have unmarked : x.mark = [] := by
    rw [mark, markOf, segments_of_slash_not_mem name.no_slash]
    simp [relative, first]
  rw [Path.components_eq, unmarked, names_of_no_slash name.no_slash, if_pos name, List.nil_append]

theorem undotted (name : x.IsName) : x.Undotted := by
  rw [Undotted, name.components_eq]
  intro dot
  exact name.ne_dot (congrArg Path.text (Option.some.inj dot))

end IsName

theorem isName_of_mem_names (mem : x ∈ p.names) : x.IsName := by
  obtain ⟨cs, named, rfl⟩ := List.mem_map.1 mem
  obtain ⟨piece, busy⟩ := List.mem_filter.1 named
  have text : (⟨String.ofList cs⟩ : Path).text.toList = cs := String.toList_ofList
  apply (isName_iff_not_idle _).2
  · rw [text]
    simpa using busy
  · rw [text]
    exact slash_not_mem_of_mem_segments piece

theorem append_of_absolute (absolute : r.isAbsolute = true) (l : Path) : l ++ r = r := by
  apply ext_toList
  rw [toList_text_append]
  exact if_pos absolute

theorem append_assoc (a b c : Path) : a ++ b ++ c = a ++ (b ++ c) := by
  apply ext_toList
  simp only [toList_text_append, appendText_assoc]

theorem empty_append (p : Path) : empty ++ p = p := by
  apply ext_toList
  rw [toList_text_append]
  simp [appendText, empty]

instance : Std.Associative append := ⟨append_assoc⟩

/-- What is appended does not make a path empty. -/
theorem append_ne_empty (ne : l.text ≠ "") (relative : r.isAbsolute = false) : (l ++ r).text ≠ "" := by
  have ne' := mt String.toList_eq_nil_iff.1 ne
  intro none
  have same := toList_text_append l r
  rw [appendText_of_relative relative, none] at same
  simp [ne'] at same

theorem isAbsolute_append (relative : r.isAbsolute = false) (l : Path) :
    (l ++ r).isAbsolute = l.isAbsolute := by
  by_cases ne : l.text.toList = []
  · obtain rfl : l = empty := ext_toList ne
    rw [empty_append, relative]
    rfl
  · rw [isAbsolute, toList_text_append, appendText_of_relative relative, List.append_assoc,
      isAbsoluteText_append ne, isAbsolute]

theorem names_append (relative : r.isAbsolute = false) (l : Path) :
    (l ++ r).names = l.names ++ r.names := by
  rw [names, toList_text_append, appendText_of_relative relative, namesIn_append, List.map_append,
    names, names]

theorem mark_append (ne : l.text ≠ "") (relative : r.isAbsolute = false) :
    (l ++ r).mark = l.mark := by
  have ne' := mt String.toList_eq_nil_iff.1 ne
  rw [mark, toList_text_append, appendText_of_relative relative, markOf_append ne', mark]

/-- Appending a relative path to one that is not empty adds its names. -/
theorem components_append_names (ne : l.text ≠ "") (relative : r.isAbsolute = false) :
    (l ++ r).components = l.components ++ r.names := by
  rw [components_eq, mark_append ne relative, names_append relative, components_eq,
    List.append_assoc]

/-- Appending a relative path that does not begin with `.` adds its components. -/
theorem components_append (relative : r.isAbsolute = false) (undotted : r.Undotted) (l : Path) :
    (l ++ r).components = l.components ++ r.components := by
  by_cases ne : l.text = ""
  · obtain rfl : l = empty := ext_toList (congrArg String.toList ne)
    rw [empty_append]
    rfl
  · rw [components_append_names ne relative, components_eq_names relative undotted]

theorem join_append (ne : ys ≠ []) (xs : List Path) : join (xs ++ ys) = join xs ++ join ys := by
  obtain ⟨y, ys, rfl⟩ := List.exists_cons_of_ne_nil ne
  have first : append empty y = y := empty_append y
  rw [join, join, join, List.foldl_append, List.foldl_cons, List.foldl_cons, first,
    List.foldl_assoc]
  rfl

/-- Relative paths are joined to a relative one, which has all their names. -/
theorem foldl_append_of_relative (relative : ∀ x ∈ xs, x.isAbsolute = false) (p : Path) :
    (xs.foldl append p).isAbsolute = p.isAbsolute ∧
      (xs.foldl append p).names = p.names ++ xs.flatMap names := by
  induction xs generalizing p with
  | nil => exact ⟨rfl, (List.append_nil _).symm⟩
  | cons x xs ih =>
      obtain ⟨first, relative⟩ := List.forall_mem_cons.1 relative
      obtain ⟨absolute, names⟩ := ih relative (p ++ x)
      rw [isAbsolute_append first] at absolute
      rw [names_append first, List.append_assoc] at names
      exact ⟨absolute, names⟩

theorem isAbsolute_join (relative : ∀ x ∈ xs, x.isAbsolute = false) :
    (join xs).isAbsolute = false :=
  (foldl_append_of_relative relative empty).1

theorem names_join (relative : ∀ x ∈ xs, x.isAbsolute = false) :
    (join xs).names = xs.flatMap names :=
  (foldl_append_of_relative relative empty).2

/-- Names that are appended one after the other become components. -/
theorem components_foldl_append (names : ∀ x ∈ xs, x.IsName) (p : Path) :
    (xs.foldl append p).components = p.components ++ xs := by
  induction xs generalizing p with
  | nil => rw [List.foldl_nil, List.append_nil]
  | cons x xs ih =>
      obtain ⟨name, names⟩ := List.forall_mem_cons.1 names
      have first : (append p x).components = p.components ++ x.components :=
        components_append name.relative name.undotted p
      rw [List.foldl_cons, ih names, first, name.components_eq, List.append_assoc,
        List.singleton_append]

theorem components_join (names : ∀ x ∈ xs, x.IsName) : (join xs).components = xs := by
  rw [join, components_foldl_append names]
  rfl

theorem names_join_of_no_slash (free : ∀ x ∈ xs, '/' ∉ x.text.toList) :
    (join xs).names = xs.filter (·.IsName) := by
  rw [names_join fun x mem => isAbsolute_of_no_slash (free x mem)]
  induction xs with
  | nil => rfl
  | cons x xs ih =>
      obtain ⟨first, rest⟩ := List.forall_mem_cons.1 free
      rw [List.flatMap_cons, ih rest, names_of_no_slash first, List.filter_cons]
      by_cases name : x.IsName
      · simp [name]
      · simp [name]

theorem components_join_components (p : Path) : (join p.components).components = p.components := by
  have names : ∀ x ∈ p.names, x.IsName := fun x => isName_of_mem_names
  -- The mark is joined first, and a path that consists of its mark is its own only component.
  have marked : ∀ x : Path, (join (x :: p.names)).components = x.components ++ p.names := by
    intro x
    have first : append empty x = x := empty_append x
    rw [join, List.foldl_cons, first, components_foldl_append names]
  rw [p.components_eq]
  obtain none | root | dot := p.mark_cases
  · rw [none, List.nil_append, components_join names]
  · rw [root, List.singleton_append, marked]
    rfl
  · rw [dot, List.singleton_append, marked]
    rfl

/-- Appending is associative, the empty path stands on its left without effect, and joined parts of a
list are appended to each other. Taking apart turns appending a relative path that does not begin with
`.` into appending lists, and an absolute path replaces what it is appended to. Joined names are taken
apart again, and the components of any path are joined to a path with the same components. -/
theorem append_join_components :
    (∀ a b c : Path, a ++ b ++ c = a ++ (b ++ c)) ∧
    (∀ p : Path, empty ++ p = p) ∧
    (∀ xs ys : List Path, ys ≠ [] → join (xs ++ ys) = join xs ++ join ys) ∧
    (∀ l r : Path, r.isAbsolute = false → r.Undotted →
      (l ++ r).components = l.components ++ r.components) ∧
    (∀ l r : Path, r.isAbsolute = true → l ++ r = r) ∧
    (∀ xs : List Path, (∀ x ∈ xs, x.IsName) → (join xs).components = xs) ∧
    ∀ p : Path, (join p.components).components = p.components :=
  ⟨append_assoc, empty_append, fun xs _ ne => join_append ne xs,
    fun l _ relative undotted => components_append relative undotted l,
    fun l _ absolute => append_of_absolute absolute l, fun _ => components_join,
    components_join_components⟩

/-- A trailing separator on the left, and idle pieces and a parent step on the right. -/
theorem append_join_components_of_untidy :
    let l : Path := ⟨"./a//"⟩
    let r : Path := ⟨"b/./.."⟩
    let names : List Path := [⟨"b"⟩, ⟨".."⟩]
    [r] ≠ [] ∧ join ([l] ++ [r]) = join [l] ++ join [r] ∧
      r.isAbsolute = false ∧ r.Undotted ∧ (l ++ r).components = l.components ++ r.components ∧
      (⟨"/b"⟩ : Path).isAbsolute = true ∧ l ++ ⟨"/b"⟩ = (⟨"/b"⟩ : Path) ∧
      (∀ x ∈ names, x.IsName) ∧ (join names).components = names ∧ r.components = names := by
  intro l r names
  obtain ⟨-, -, joined, apart, absolute, again, -⟩ := append_join_components
  have single : [r] ≠ [] := List.cons_ne_nil r []
  have undotted : r.Undotted := by decide
  have isName : ∀ x ∈ names, x.IsName := by decide
  exact ⟨single, joined [l] [r] single, by decide, undotted, apart l r (by decide) undotted,
    by decide, absolute l ⟨"/b"⟩ (by decide), isName, again names isName, by decide⟩

end SuiteTree.Path
