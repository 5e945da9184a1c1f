/-!
# Escaped text in XML reports

Five characters are written as entities. The two quotes have their entities exchanged, a double
quote being written `&#39;` and an apostrophe `&quot;`, and readers of the reports rely on it.
-/

namespace SuiteTree.Text

/-- What is written for one character. -/
def entity (c : Char) : List Char :=
  if c = '<' then "&lt;".toList
  else if c = '>' then "&gt;".toList
  else if c = '&' then "&amp;".toList
  else if c = '"' then "&#39;".toList
  else if c = '\'' then "&quot;".toList
  else [c]

/-- Escape the characters of a text. -/
def escapeChars (cs : List Char) : List Char :=
  cs.flatMap entity

/-- Escape a text for a report. -/
def escape (s : String) : String :=
  String.ofList (escapeChars s.toList)

@[simp] theorem escapeChars_nil : escapeChars [] = [] := rfl

@[simp] theorem escapeChars_cons (c : Char) (cs : List Char) :
    escapeChars (c :: cs) = entity c ++ escapeChars cs := rfl

@[simp] theorem escapeChars_append (cs ds : List Char) :
    escapeChars (cs ++ ds) = escapeChars cs ++ escapeChars ds := by
  simp [escapeChars]

@[simp] theorem toList_escape (s : String) : (escape s).toList = escapeChars s.toList := by
  simp [escape]

end SuiteTree.Text
