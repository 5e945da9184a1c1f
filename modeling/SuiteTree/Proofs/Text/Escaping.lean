import SuiteTree.Text.Escape

/-!
# Reading escaped text

Of the characters that are reserved for markup, escaping leaves none in a text but the ampersands
with which entities begin. Escaped text is read back by one pass that replaces entities by
characters. What it takes the entities of the two quotes for is left to the reader of the report:
`Quotes.exchanged` undoes what escaping does.
-/

namespace SuiteTree.Text

/-- What a reader takes the entities of the two quotes for. -/
structure Quotes where
  /-- The character for `&#39;`. -/
  numbered : Char
  /-- The character for `&quot;`. -/
  named : Char

/-- The quotes as they are written in reports. -/
def Quotes.exchanged : Quotes := ⟨'"', '\''⟩

/-- Replace the entities by characters. An ampersand that begins no entity stays. -/
def unescapeChars (quotes : Quotes) : List Char → List Char
  | '&' :: 'l' :: 't' :: ';' :: cs => '<' :: unescapeChars quotes cs
  | '&' :: 'g' :: 't' :: ';' :: cs => '>' :: unescapeChars quotes cs
  | '&' :: 'a' :: 'm' :: 'p' :: ';' :: cs => '&' :: unescapeChars quotes cs
  | '&' :: '#' :: '3' :: '9' :: ';' :: cs => quotes.numbered :: unescapeChars quotes cs
  | '&' :: 'q' :: 'u' :: 'o' :: 't' :: ';' :: cs => quotes.named :: unescapeChars quotes cs
  | c :: cs => c :: unescapeChars quotes cs
  | [] => []

/-- Replace the entities in a text by characters. -/
def unescape (quotes : Quotes) (s : String) : String :=
  String.ofList (unescapeChars quotes s.toList)

theorem unescapeChars_cons_of_ne (quotes : Quotes) {c : Char} (plain : c ≠ '&') (cs : List Char) :
    unescapeChars quotes (c :: cs) = c :: unescapeChars quotes cs := by
  rw [unescapeChars]
  all_goals
    intro _ amp
    exact absurd amp plain

/-- What a reader takes the text written for one character for. -/
def Quotes.reading (quotes : Quotes) (c : Char) : Char :=
  if c = '"' then quotes.numbered else if c = '\'' then quotes.named else c

theorem unescapeChars_entity (quotes : Quotes) (c : Char) (cs : List Char) :
    unescapeChars quotes (entity c ++ cs) = quotes.reading c :: unescapeChars quotes cs := by
  unfold entity
  split
  · next same => subst same; simp [unescapeChars, Quotes.reading]
  split
  · next same => subst same; simp [unescapeChars, Quotes.reading]
  split
  · next same => subst same; simp [unescapeChars, Quotes.reading]
  split
  · next same => subst same; simp [unescapeChars, Quotes.reading]
  split
  · next same => subst same; simp [unescapeChars, Quotes.reading]
  · next amp quote apostrophe =>
    rw [List.singleton_append, unescapeChars_cons_of_ne quotes amp, Quotes.reading,
      if_neg quote, if_neg apostrophe]

/-- Reading an escaped text reads every character of it. -/
theorem unescapeChars_escapeChars (quotes : Quotes) (cs : List Char) :
    unescapeChars quotes (escapeChars cs) = cs.map quotes.reading := by
  induction cs with
  | nil => rfl
  | cons c cs ih => rw [escapeChars_cons, unescapeChars_entity, ih, List.map_cons]

theorem Quotes.reading_exchanged (c : Char) : Quotes.exchanged.reading c = c := by
  unfold Quotes.reading
  split
  · next same => exact same.symm
  split
  · next same => exact same.symm
  · rfl

/-- Escaping can be undone. -/
theorem unescape_escape (s : String) : unescape .exchanged (escape s) = s := by
  have all : Quotes.exchanged.reading = id := funext Quotes.reading_exchanged
  rw [unescape, toList_escape, unescapeChars_escapeChars, all, List.map_id, String.ofList_toList]

/-- The characters that are not written as they are. -/
def reserved : List Char := ['<', '>', '&', '"', '\'']

/-- What is written for them. -/
def entities : List String := ["&lt;", "&gt;", "&amp;", "&#39;", "&quot;"]

/-- A character is written as one of the entities, or as it is. -/
theorem entity_cases (c : Char) :
    (∃ e ∈ entities, entity c = e.toList) ∨ (c ∉ reserved ∧ entity c = [c]) := by
  by_cases special : c ∈ reserved
  · left
    have all : ∀ d ∈ reserved, ∃ e ∈ entities, entity d = e.toList := by
      simp [reserved, entities, entity]
    exact all c special
  · right
    refine ⟨special, ?_⟩
    simp only [reserved, List.mem_cons, List.not_mem_nil, or_false, not_or] at special
    simp [entity, special]

/-- Only the ampersand of the reserved characters is written at all. -/
theorem not_mem_entity {m : Char} (mark : m ∈ reserved) (other : m ≠ '&') (c : Char) :
    m ∉ entity c := by
  obtain ⟨e, emitted, written⟩ | ⟨plain, written⟩ := entity_cases c
  · have none : ∀ m ∈ reserved, m ≠ '&' → ∀ e ∈ entities, m ∉ e.toList := by
      simp [reserved, entities]
    rw [written]
    exact none m mark other e emitted
  · rw [written, List.mem_singleton]
    rintro rfl
    exact plain mark

theorem not_mem_escapeChars {m : Char} (mark : m ∈ reserved) (other : m ≠ '&') (cs : List Char) :
    m ∉ escapeChars cs := by
  intro mem
  obtain ⟨c, -, mem⟩ := List.mem_flatMap.1 mem
  exact not_mem_entity mark other c mem

/-- No tag can begin in an escaped text. -/
theorem lt_not_mem_escape (s : String) : '<' ∉ (escape s).toList := by
  rw [toList_escape]
  exact not_mem_escapeChars (by decide) (by decide) s.toList

/-- An ampersand in what is written for one character is the beginning of all of it. -/
theorem entity_eq_of_ampersand {c : Char} {before after : List Char}
    (split : entity c = before ++ '&' :: after) :
    before = [] ∧ ∃ e ∈ entities, e.toList = '&' :: after := by
  obtain ⟨e, emitted, written⟩ | ⟨plain, written⟩ := entity_cases c
  · have first : ∀ e ∈ entities, '&' ∉ e.toList.tail := by simp [entities]
    rw [written] at split
    cases before with
    | nil => exact ⟨rfl, e, emitted, split⟩
    | cons b before =>
        have later : '&' ∈ e.toList.tail := by simp [split]
        exact absurd later (first e emitted)
  · have mem : '&' ∈ entity c := by simp [split]
    rw [written, List.mem_singleton] at mem
    exact absurd (by decide) (mem ▸ plain)

theorem exists_entity_of_ampersand {cs before after : List Char}
    (split : escapeChars cs = before ++ '&' :: after) :
    ∃ e ∈ entities, e.toList <+: '&' :: after := by
  induction cs generalizing before with
  | nil => simp at split
  | cons c cs ih =>
      rw [escapeChars_cons] at split
      -- The ampersand is written for a later character or for this one.
      obtain ⟨rest, -, later⟩ | ⟨here, own, whole⟩ := List.append_eq_append_iff.1 split
      · exact ih later
      · cases here with
        | nil =>
            have next : escapeChars cs = [] ++ '&' :: after := whole.symm
            exact ih next
        | cons a here =>
            obtain ⟨rfl, rfl⟩ := List.cons.inj whole
            obtain ⟨-, e, emitted, all⟩ := entity_eq_of_ampersand own
            exact ⟨e, emitted, all ▸ List.prefix_append ('&' :: here) (escapeChars cs)⟩

/-- The quotes as XML has them. -/
def Quotes.standard : Quotes := ⟨'\'', '"'⟩

/-- The text with double quotes and apostrophes exchanged. -/
def exchangeQuotes (s : String) : String :=
  String.ofList (s.toList.map fun c => if c = '"' then '\'' else if c = '\'' then '"' else c)

/-- A text in which no markup can begin and no quotation can end. -/
structure Inert (text : String) : Prop where
  unmarked : ∀ m ∈ text.toList, m ≠ '<' ∧ m ≠ '>' ∧ m ≠ '"' ∧ m ≠ '\''
  ampersand : ∀ before after, text.toList = before ++ '&' :: after →
    ∃ e ∈ entities, e.toList <+: '&' :: after

theorem inert_escape (s : String) : Inert (escape s) where
  unmarked m mem := by
    have absent : ∀ m ∈ reserved, m ≠ '&' → m ∉ (escape s).toList := by
      rw [toList_escape]
      exact fun m mark other => not_mem_escapeChars mark other s.toList
    refine ⟨?_, ?_, ?_, ?_⟩
    all_goals
      rintro rfl
      exact absent _ (by decide) (by decide) mem
  ampersand before after split := by
    rw [toList_escape] at split
    exact exists_entity_of_ampersand split

/-- A reader who takes the quotes for what their entities mean in XML finds them exchanged. -/
theorem unescape_standard_escape (s : String) :
    unescape .standard (escape s) = exchangeQuotes s := by
  rw [unescape, toList_escape, unescapeChars_escapeChars]
  rfl

theorem escape_append (s s' : String) : escape (s ++ s') = escape s ++ escape s' := by
  apply String.toList_injective
  simp

/-- Escaping is safe and loses nothing. No markup can begin in an escaped text; whoever knows of the
exchanged entities reads the text back, and other readers get it with the quotes exchanged. So no
two texts are written alike, and a text may be written in pieces. -/
theorem escape_inert_and_invertible :
    (∀ s, Inert (escape s)) ∧ (∀ s, unescape .exchanged (escape s) = s) ∧
      (∀ s, unescape .standard (escape s) = exchangeQuotes s) ∧ Function.Injective escape ∧
      ∀ s s', escape (s ++ s') = escape s ++ escape s' :=
  ⟨inert_escape, unescape_escape, unescape_standard_escape,
    Function.LeftInverse.injective unescape_escape, escape_append⟩

end SuiteTree.Text
