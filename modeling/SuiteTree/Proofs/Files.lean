import SuiteTree.Files

/-!
# Files stay files

Nothing that hooks or the runner do with the files removes a file or puts a directory in its place:
new directories come where nothing was before, and writing only changes texts.
-/

namespace SuiteTree.Files

variable {files files' : Files} {location other : Location} {entry : Entry} {text : String}
  {path : Path} {append : Bool}

/-- A file stands at the location. -/
def HasFile (files : Files) (location : Location) : Prop :=
  ∃ text, files.at? location = some (.file text)

/-- The root is a directory. -/
theorem HasFile.ne_nil (has : files.HasFile location) : location ≠ [] := by
  rintro rfl
  obtain ⟨text, stands⟩ := has
  simp [at?] at stands

theorem at?_put (inner : other ≠ []) :
    (files.put location entry).at? other =
      if other = location then some entry else files.at? other := by
  have rest : ∀ entries : List (Location × Entry), other ≠ location →
      (entries.filter (·.1 ≠ location)).lookup other = entries.lookup other := by
    intro entries ne
    induction entries with
    | nil => rfl
    | cons first entries ih =>
        obtain ⟨place, stands⟩ := first
        by_cases same : place = location
        · subst same
          rw [List.filter_cons_of_neg (by simp), ih, List.lookup_cons, beq_eq_false_iff_ne.2 ne]
        · rw [List.filter_cons_of_pos (by simpa using same), List.lookup_cons, List.lookup_cons, ih]
  by_cases same : other = location
  · subst same
    simp [at?, put, inner]
  · rw [at?, at?, if_neg inner, if_neg inner, put, if_neg same, List.lookup_cons,
      beq_eq_false_iff_ne.2 same]
    exact rest files.entries same

theorem at?_put_of_ne (ne : other ≠ location) :
    (files.put location entry).at? other = files.at? other := by
  by_cases inner : other = []
  · rw [at?, at?, if_pos inner, if_pos inner]
  · rw [at?_put inner, if_neg ne]

theorem HasFile.put_file (has : files.HasFile other) :
    (files.put location (.file text)).HasFile other := by
  rw [HasFile, at?_put has.ne_nil]
  split
  · exact ⟨text, rfl⟩
  · exact has

theorem HasFile.put_of_free (has : files.HasFile other) (free : files.at? location = none) :
    (files.put location entry).HasFile other := by
  obtain ⟨text, stands⟩ := has
  have ne : other ≠ location := by
    rintro rfl
    rw [stands] at free
    cases free
  refine ⟨text, ?_⟩
  rw [at?_put (HasFile.ne_nil ⟨text, stands⟩), if_neg ne, stands]

section Directories

theorem HasFile.makeDirectory (has : files.HasFile other)
    (made : files.makeDirectory path = .ok files') : files'.HasFile other := by
  unfold Files.makeDirectory at made
  cases resolved : files.resolve path with
  | error cause =>
      rw [resolved] at made
      cases made
  | ok target =>
      simp only [resolved, bind, Except.bind] at made
      split at made
      · cases made
      · next free =>
        split at made
        · cases made
          exact has.put_of_free free
        · cases made

theorem HasFile.makeChain (paths : List Path) (has : files.HasFile other) :
    (files.makeChain paths).2.HasFile other := by
  induction paths generalizing files with
  | nil => exact has
  | cons path above ih =>
      rw [Files.makeChain]
      split
      · exact has
      · split
        · next made result => exact has.makeDirectory result
        · split
          · next made result =>
            have upper := ih has
            rwa [result] at upper
          · next made result =>
            have upper := ih has
            rw [result] at upper
            split
            · next full result' => exact upper.makeDirectory result'
            · exact upper
        · exact has

end Directories

section Texts

theorem HasFile.openForWriting (has : files.HasFile other)
    (opened : files.openForWriting path append = .ok (location, files')) :
    files'.HasFile other := by
  unfold Files.openForWriting at opened
  cases resolved : files.resolve path with
  | error cause =>
      rw [resolved] at opened
      cases opened
  | ok target =>
      simp only [resolved, bind, Except.bind, pure, Except.pure] at opened
      split at opened
      · cases opened
      · split at opened
        · cases opened
        · split at opened
          all_goals
            cases opened
            exact has.put_file
      · split at opened
        · cases opened
        · split at opened
          · cases opened
            exact has.put_file
          · cases opened

theorem HasFile.extend (has : files.HasFile other) :
    (files.extend location text).HasFile other := by
  unfold Files.extend
  split
  · exact has.put_file
  · exact has

theorem HasFile.writeText (has : files.HasFile other)
    (written : files.writeText path text = .ok files') : files'.HasFile other := by
  unfold Files.writeText at written
  cases opened : files.openForWriting path false with
  | error cause =>
      rw [opened] at written
      cases written
  | ok pair =>
      simp only [opened, bind, Except.bind, pure, Except.pure] at written
      cases written
      exact (has.openForWriting opened).extend

/-- What is written to a file comes after what it held. -/
theorem at?_extend_self {old : String} (stands : files.at? location = some (.file old)) :
    (files.extend location text).at? location = some (.file (old ++ text)) := by
  rw [extend, stands]
  exact (at?_put (HasFile.ne_nil ⟨old, stands⟩)).trans (if_pos rfl)

theorem at?_extend (has : files.HasFile location) :
    ∃ old, (files.extend location text).at? location = some (.file (old ++ text)) := by
  obtain ⟨old, stands⟩ := has
  exact ⟨old, at?_extend_self stands⟩

/-- What is written over a file stands at its beginning. -/
theorem at?_overwrite (has : files.HasFile location) :
    ∃ rest, (files.overwrite location text).at? location = some (.file (text ++ rest)) := by
  obtain ⟨old, stands⟩ := has
  rw [Files.overwrite, stands]
  exact ⟨_, (at?_put (HasFile.ne_nil ⟨old, stands⟩)).trans (if_pos rfl)⟩

/-- Over an empty text the whole text is written. -/
theorem at?_overwrite_empty (stands : files.at? location = some (.file "")) :
    (files.overwrite location text).at? location = some (.file text) := by
  have rest : "".toUTF8.extract text.utf8ByteSize "".utf8ByteSize = ByteArray.empty := by simp
  have none : (String.fromUTF8? ByteArray.empty).getD "" = "" := rfl
  rw [overwrite, stands]
  rw [at?_put (HasFile.ne_nil ⟨"", stands⟩), if_pos rfl, rest, none, String.append_empty]

end Texts

theorem at?_extend_of_ne (ne : other ≠ location) :
    (files.extend location text).at? other = files.at? other := by
  unfold extend
  split
  · exact at?_put_of_ne ne
  · rfl

theorem at?_overwrite_of_ne (ne : other ≠ location) :
    (files.overwrite location text).at? other = files.at? other := by
  unfold overwrite
  split
  · exact at?_put_of_ne ne
  · rfl

section Opening

/-- What the file at a location holds, if there is one. -/
def textAt (files : Files) (location : Location) : String :=
  match files.at? location with
  | some (.file text) => text
  | _ => ""

/-- The files after the one at a location was opened for writing. -/
def opened (files : Files) (location : Location) (append : Bool) : Files :=
  files.put location (.file (if append then files.textAt location else ""))

/-- Nothing, or two directories, or two files. -/
inductive SameKind : Option Entry → Option Entry → Prop
  | free : SameKind none none
  | directory : SameKind (some .directory) (some .directory)
  | file (text text' : String) : SameKind (some (.file text)) (some (.file text'))

theorem SameKind.refl : (here : Option Entry) → SameKind here here
  | none => .free
  | some .directory => .directory
  | some (.file text) => .file text text

/-- At every location stands the same, apart from the texts of files. -/
structure SameKinds (files files' : Files) : Prop where
  current : files'.current = files.current
  kind : ∀ location, SameKind (files.at? location) (files'.at? location)

theorem SameKinds.refl (files : Files) : files.SameKinds files :=
  ⟨rfl, fun _ => .refl _⟩

theorem sameKinds_extend : files.SameKinds (files.extend location text) := by
  unfold extend
  split
  · next old stands =>
    refine ⟨rfl, fun other => ?_⟩
    by_cases same : other = location
    · subst same
      rw [at?_put (HasFile.ne_nil ⟨old, stands⟩), if_pos rfl, stands]
      exact .file _ _
    · rw [at?_put_of_ne same]
      exact .refl _
  · exact .refl files

namespace SameKinds

theorem requireDirectory (same : files.SameKinds files') :
    files'.requireDirectory = files.requireDirectory := by
  funext location
  have kind := same.kind location
  rw [Files.requireDirectory, Files.requireDirectory]
  generalize files.at? location = here at kind
  generalize files'.at? location = there at kind
  cases kind <;> rfl

theorem resolve (same : files.SameKinds files') (path : Path) :
    files'.resolve path = files.resolve path := by
  have step : files'.step = files.step := by
    funext location name
    rw [Files.step, Files.step, same.requireDirectory]
  rw [Files.resolve, Files.resolve, same.current, step]

/-- Whether a file can be opened, and where it is, does not depend on texts. -/
theorem openForWriting (same : files.SameKinds files') (path : Path) (append : Bool) :
    files'.openForWriting path append =
      (files.openForWriting path append).map fun (location, _) =>
        (location, files'.opened location append) := by
  unfold Files.openForWriting
  rw [same.resolve]
  cases files.resolve path with
  | error cause => rfl
  | ok target =>
    have kind := same.kind target.location
    simp only [bind, Except.bind, pure, Except.pure]
    generalize before : files.at? target.location = here at kind
    generalize after : files'.at? target.location = there at kind
    cases kind with
    | free =>
        have anew : files'.opened target.location append =
            files'.put target.location (.file "") := by
          rw [opened, textAt, after, ite_self]
        cases target.closed <;> cases target.named <;> simp [Except.map, anew]
    | directory => rfl
    | file text text' =>
        have kept : files'.textAt target.location = text' := by rw [textAt, after]
        cases target.closed <;> cases append <;> simp [Except.map, opened, kept]

end SameKinds

/-- A directory is not opened. -/
theorem ne_nil_of_opened (result : files.openForWriting path append = .ok (location, files')) :
    location ≠ [] := by
  rintro rfl
  unfold Files.openForWriting at result
  cases resolved : files.resolve path with
  | error cause =>
      rw [resolved] at result
      cases result
  | ok target =>
      simp only [resolved, bind, Except.bind, pure, Except.pure] at result
      split at result
      · cases result
      · next text stands =>
        have inner : target.location ≠ [] := HasFile.ne_nil ⟨text, stands⟩
        split at result
        · cases result
        · split at result <;> exact inner (congrArg Prod.fst (Except.ok.inj result))
      · next free =>
        have inner : target.location ≠ [] := by
          intro root
          rw [root] at free
          cases free
        split at result
        · cases result
        · split at result
          · exact inner (congrArg Prod.fst (Except.ok.inj result))
          · cases result

end Opening

end SuiteTree.Files
