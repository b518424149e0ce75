import ImportOrder.Project.Tsconfig

/-! What a JSON file holds, and the shapes of a project file that can be used: which compiler options
give entries, which values name files to be extended, and which names can be followed. Every other
shape fails in a way of its own, not as a configuration file does that cannot be used. -/

namespace ImportOrder

/-- Whether a failure is that of a configuration file that cannot be used. -/
def Failure.isConfig : Failure → Bool
  | .config _ => true
  | _ => false

namespace Project

/-- The text of a JSON file that is decoded: its line breaks are unified, and comments and trailing
commas are gone if they are allowed. -/
def jsonText? (files : FileTree) (path : String) (comments : Bool) : Option Text :=
  if PathText.hasNull path.toList then none
  else
    (files.read path).toOption.bind fun bytes =>
      (Utf8.decode bytes).toOption.map fun decoded =>
        let text := Text.unifyBreaks decoded
        if comments then Json.strip text else text

/-- A JSON file without a text is a configuration file that cannot be used. A text is decoded, unless
too many brackets are open in it at a time. -/
theorem loadJson_cases (files : FileTree) (path : String) (comments : Bool) :
    (jsonText? files path comments = none ∧
      ∃ error, loadJson files path comments = .error (.config error)) ∨
    ∃ text, jsonText? files path comments = some text ∧
      loadJson files path comments =
        if Json.isTooDeep files.depth text then .error .tooDeep
        else (Json.read text).mapError fun fault => .ofConfig path (.json text fault) := by
  -- The cases are the steps of loading: the path, the file, its encoding, its depth, its syntax.
  -- Only the depth is not reported as a configuration file that cannot be used.
  unfold jsonText? loadJson
  cases PathText.hasNull path.toList with
  | true => exact .inl ⟨rfl, _, rfl⟩
  | false =>
    simp only [Bool.false_eq_true, if_false]
    cases files.read path with
    | error error => exact .inl ⟨rfl, _, rfl⟩
    | ok bytes =>
      simp only [Except.toOption, Option.bind_some]
      cases Utf8.decode bytes with
      | error fault => exact .inl ⟨rfl, _, rfl⟩
      | ok decoded =>
        refine .inr ⟨_, rfl, ?_⟩
        simp only
        -- Only the text matters from here on, not how it has come about.
        generalize (if comments = true then Json.strip (Text.unifyBreaks decoded)
          else Text.unifyBreaks decoded) = text
        cases Json.isTooDeep files.depth text with
        | true => rfl
        | false => cases Json.read text <;> rfl

/-- What was read as JSON is the value of a text. -/
theorem read_of_loadJson {files : FileTree} {path : String} {comments : Bool} {value : Document}
    (loaded : loadJson files path comments = .ok value) :
    ∃ text, jsonText? files path comments = some text ∧ Json.read text = .ok value := by
  rcases loadJson_cases files path comments with ⟨-, error, failed⟩ | ⟨text, spelled, decoded⟩
  · rw [failed] at loaded
    cases loaded
  · refine ⟨text, spelled, ?_⟩
    rw [decoded] at loaded
    split at loaded
    · cases loaded
    · cases read : Json.read text with
      | error fault =>
        rw [read] at loaded
        cases loaded
      | ok other =>
        rw [read] at loaded
        cases loaded
        rfl

/-- A text stands in a file, and its path has no null character. -/
theorem read_of_jsonText? {files : FileTree} {path : String} {comments : Bool} {text : Text}
    (spelled : jsonText? files path comments = some text) :
    PathText.hasNull path.toList = false ∧ ∃ bytes, files.read path = .ok bytes := by
  unfold jsonText? at spelled
  split at spelled
  · cases spelled
  · rename_i clear
    refine ⟨by simpa using clear, ?_⟩
    cases content : files.read path with
    | error error => simp [content, Except.toOption] at spelled
    | ok bytes => exact ⟨bytes, rfl⟩

/-- Whether a value is a pair whose first item can be a key. -/
def isPair : Document → Bool
  | .pair key _ => key.canBeKey
  | .list [key, _] => key.canBeKey
  | .text text =>
    match text.toList with
    | [_, _] => true
    | _ => false
  | .mapping [(key, _), _] => key.canBeKey
  | _ => false

/-- Whether a value gives entries: it says nothing, or it is a mapping or a list of pairs. -/
def givesEntries (value : Document) : Bool :=
  !value.saysSomething ||
    match value with
    | .mapping _ => true
    | .list items => items.all isPair
    | _ => false

/-- Whether a value names what is extended: it says nothing, or it is a name, a list or a
mapping. -/
def givesNames (value : Document) : Bool :=
  !value.saysSomething ||
    match value with
    | .text _ => true
    | .list _ => true
    | .mapping _ => true
    | _ => false

/-- The value under which a file declares compiler options. -/
def optionsValue (file : Entries) : Document := (file.get? ProjectKey.compilerOptions).getD .null

/-- The value under which a file names what it extends. -/
def extendsValue (file : Entries) : Document := (file.get? ProjectKey.extends_).getD .null

/-- The name of the base directory that a file declares, if it is a text. -/
def baseName? (file : Entries) : Option String :=
  let options := (entriesOfValue (optionsValue file)).toOption.getD []
  (options.get? ProjectKey.baseUrl).bind Document.text?

/-- Whether the base directory of a file, if it has one, is named without a null character. -/
def hasBase (file : Entries) : Bool :=
  (baseName? file).all fun name => !PathText.hasNull name.toList

/-- Whether a name can be followed from a directory: it stands for a package, or it has no null
character, can be looked up, and leads to a place below the root. -/
def followable (files : FileTree) (directory : List Text) (target : String) : Bool :=
  let place := Path.resolve directory (Path.ofString target)
  target.toList.head? != some '.' ||
    !PathText.hasNull target.toList && place != [] &&
      (files.checkFile (Path.absolute place).toString).isOk

/-- The names by which a file says what it extends. -/
def extendsNames (file : Entries) : List String :=
  ((extendsOf file).toOption.getD []).filterMap Document.text?

/-- Whether a name stands for a file, not for a package. -/
def isRelative (name : String) : Bool := name.toList.head? == some '.'

/-- Whether all names that a file gives to be looked up are spelled in whole characters. An escape
can stand for half a character; such a half is read as the replacement character here, and a name
that holds one cannot be looked up. -/
def wholeNames (file : Entries) : Bool :=
  ((baseName? file).toList ++ (extendsNames file).filter isRelative).all fun name =>
    !name.toList.contains Json.replacement

/-- Whether what a file declares for itself can be used: its compiler options give entries, its base
directory has a place, and it names what it extends. -/
def soundFile (file : Entries) : Bool :=
  givesEntries (optionsValue file) && hasBase file && givesNames (extendsValue file)

/-- Whether all names that the file at a place gives can be followed from its directory. -/
def soundNames (files : FileTree) (names : List Text) (file : Entries) : Bool :=
  (extendsNames file).all (followable files names.dropLast)

/-- The root can be looked up, and it is no file. -/
theorem checkFile_root (files : FileTree) :
    files.checkFile (Path.absolute []).toString = .ok false := by
  have spelled : (Path.absolute []).toString = "/" := by decide +kernel
  rw [spelled]
  rfl

/-- Pairs are read, and what is no pair fails in a way of its own. -/
theorem pairOf_cases (item : Document) :
    (∃ key value, pairOf item = .ok (key, value) ∧ isPair item = key.canBeKey) ∨
      ∃ failure, pairOf item = .error failure ∧ failure.isConfig = false ∧ isPair item = false := by
  -- One case for each case of the reader. The shapes that it accepts are told with their keys,
  -- since whether a key can be one is checked only behind this step.
  unfold pairOf
  split
  · exact .inl ⟨_, _, rfl, rfl⟩
  · exact .inl ⟨_, _, rfl, rfl⟩
  · -- A text is a pair of two characters, and a character can be a key.
    rename_i text
    split
    · rename_i key value spelled
      exact .inl ⟨_, _, rfl, by simp [isPair, spelled, Document.canBeKey]⟩
    · rename_i other
      exact .inr ⟨_, rfl, rfl, by simp only [isPair]⟩
  · exact .inl ⟨_, _, rfl, rfl⟩
  · rename_i items other
    refine .inr ⟨_, rfl, rfl, ?_⟩
    unfold isPair
    split <;> simp_all
  · rename_i entries other
    refine .inr ⟨_, rfl, rfl, ?_⟩
    unfold isPair
    split <;> simp_all
  · rename_i pair list text keys items mapping
    refine .inr ⟨_, rfl, rfl, ?_⟩
    unfold isPair
    split <;> simp_all

/-- A list of pairs gives entries, and every other list fails in a way of its own. -/
theorem entriesOfPairs_cases (items : List Document) (entries : Entries) :
    (∃ result, entriesOfPairs items entries = .ok result ∧ items.all isPair = true) ∨
      ∃ failure, entriesOfPairs items entries = .error failure ∧ failure.isConfig = false ∧
        items.all isPair = false := by
  -- The induction is on the items and holds for any entries read so far: the first item that is no
  -- pair, or whose key cannot be one, decides how the list fails.
  induction items generalizing entries with
  | nil => exact .inl ⟨entries, rfl, rfl⟩
  | cons item rest ih =>
    rw [entriesOfPairs, List.all_cons]
    rcases pairOf_cases item with ⟨key, value, read, pair⟩ | ⟨failure, read, own, no_pair⟩
    · simp only [read, pair, Bind.bind, Except.bind]
      cases can_be : key.canBeKey with
      | false => exact .inr ⟨.notPairs, rfl, rfl, rfl⟩
      | true => simpa using ih (Entries.insert key value entries)
    · exact .inr ⟨failure, by simp [read, Bind.bind, Except.bind], own, by simp [no_pair]⟩

/-- A value gives entries or fails in a way of its own. -/
theorem entriesOfValue_cases (value : Document) :
    (∃ entries, entriesOfValue value = .ok entries ∧ givesEntries value = true) ∨
      ∃ failure, entriesOfValue value = .error failure ∧ failure.isConfig = false ∧
        givesEntries value = false := by
  unfold entriesOfValue givesEntries
  cases filled : value.saysSomething with
  | false => exact .inl ⟨[], rfl, rfl⟩
  | true =>
    cases value with
    | mapping entries => exact .inl ⟨entries, rfl, rfl⟩
    | list items => simpa using entriesOfPairs_cases items []
    -- A text is walked over by its characters, and a single character is no pair.
    | text text => exact .inr ⟨.badPair, rfl, rfl, rfl⟩
    | _ => exact .inr ⟨.notPairs, rfl, rfl, rfl⟩

/-- A file has options of its own, if it declares entries and its base directory has a place, and
else it fails in a way of its own. -/
theorem ownOptions_cases (names : List Text) (file : Entries) :
    (∃ own, ownOptions names file = .ok own ∧
      (givesEntries (optionsValue file) && hasBase file) = true) ∨
      ∃ failure, ownOptions names file = .error failure ∧ failure.isConfig = false ∧
        (givesEntries (optionsValue file) && hasBase file) = false := by
  -- Entries come first. Only where they can be read is the base directory looked at.
  have value_eq : (file.get? ProjectKey.compilerOptions).getD .null = optionsValue file := rfl
  unfold ownOptions
  rw [value_eq]
  rcases entriesOfValue_cases (optionsValue file) with
    ⟨entries, read, gives⟩ | ⟨failure, read, own, no⟩
  · have base : baseName? file = (entries.get? ProjectKey.baseUrl).bind Document.text? := by
      simp [baseName?, read, Except.toOption]
    simp only [read, gives, hasBase, base, Bool.true_and, Bind.bind, Except.bind]
    split
    · rename_i name named
      rw [named]
      cases null : PathText.hasNull name.toList with
      | true =>
        exact .inr ⟨.nullInPath, by simp [placeOf, null], rfl, by simp [Document.text?, null]⟩
      | false =>
        exact .inl ⟨_, by simp only [placeOf, null]; rfl, by simp [Document.text?, null]⟩
    · -- A base that is no text is left as it is.
      rename_i other
      refine .inl ⟨entries, rfl, ?_⟩
      cases base : entries.get? ProjectKey.baseUrl with
      | none => rfl
      | some value =>
        cases value with
        | text name => exact absurd base (other name)
        | _ => rfl
  · exact .inr ⟨failure, by simp [read, Bind.bind, Except.bind], own, by simp [no]⟩

/-- A file says what it extends, or it fails in a way of its own. -/
theorem extendsOf_cases (file : Entries) :
    (∃ targets, extendsOf file = .ok targets ∧ givesNames (extendsValue file) = true) ∨
      ∃ failure, extendsOf file = .error failure ∧ failure.isConfig = false ∧
        givesNames (extendsValue file) = false := by
  have value_eq : (file.get? ProjectKey.extends_).getD .null = extendsValue file := rfl
  simp only [extendsOf, givesNames, value_eq]
  -- How the value is found in the file plays no part.
  generalize extendsValue file = value
  cases filled : value.saysSomething with
  | false => exact .inl ⟨[], rfl, rfl⟩
  | true =>
    cases value with
    | text target => exact .inl ⟨_, rfl, rfl⟩
    | list items => exact .inl ⟨_, rfl, rfl⟩
    | mapping entries => exact .inl ⟨_, rfl, rfl⟩
    | _ => exact .inr ⟨.notPairs, rfl, rfl, rfl⟩

/-- A name can be followed, or it fails in a way of its own: it has a null character, it is too long
to be looked up, or it leads to the root, which is no file and has no name that could get an
extension. -/
theorem extendsPath_cases (files : FileTree) (directory : List Text) (target : String) :
    (∃ place?, extendsPath files directory target = .ok place? ∧
      followable files directory target = true) ∨
      ∃ failure, extendsPath files directory target = .error failure ∧ failure.isConfig = false ∧
        followable files directory target = false := by
  unfold extendsPath followable placeOf
  -- A name that does not begin with a dot stands for a package, and nothing is looked up.
  by_cases relative : target.toList.head? = some '.'
  · cases null : PathText.hasNull target.toList with
    | true =>
      exact .inr ⟨.nullInPath, by simp [relative, Bind.bind, Except.bind], rfl, by simp [relative]⟩
    | false =>
      simp only [relative, bne_self_eq_false, Bool.false_eq_true, ↓reduceIte, Bool.false_or,
        Bool.not_false, Bool.true_and, Bind.bind, Except.bind, Pure.pure, Except.pure]
      generalize Path.resolve directory (Path.ofString target) = place
      cases looked : files.checkFile (Path.absolute place).toString with
      | error error => exact .inr ⟨_, rfl, rfl, by simp [Except.isOk, Except.toBool]⟩
      | ok found =>
        have told : (Except.ok found).mapError (Failure.file · (Path.absolute place).toString) =
            .ok found := rfl
        rw [told]
        -- The root is the one place without a last name. It is found to be no file, so that an
        -- extension would have to be put behind a name.
        cases place with
        | nil =>
          have suffix : ((Path.absolute []).suffix == projectSuffix) = false := by decide +kernel
          rw [checkFile_root] at looked
          cases looked
          rw [suffix]
          exact .inr ⟨_, rfl, rfl, rfl⟩
        | cons name rest =>
          refine .inl ?_
          dsimp only
          split
          · exact ⟨_, rfl, rfl⟩
          · exact ⟨_, rfl, rfl⟩
  · exact .inl ⟨none, by simp [relative, Pure.pure, Except.pure], by simp [relative]⟩

end Project

end ImportOrder
