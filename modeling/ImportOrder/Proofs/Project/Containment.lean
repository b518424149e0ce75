import ImportOrder.Engine
import ImportOrder.Proofs.Project.Extends

/-! Which failures stay contained. A configuration file that cannot be used is reported as such, and
a sort that needs it skips the source. A project file of another shape, a file with too many open
brackets, an options file that is no text, and names that cannot be looked up fail in ways of their
own, and these end the sort. -/

namespace ImportOrder

/-- Whether something fails in another way than a configuration file that cannot be used. -/
def escapes {α : Type} : Except Failure α → Bool
  | .ok _ => false
  | .error failure => !failure.isConfig

section Escapes

variable {α β : Type}

/-- Of two steps the first escapes, or the second does behind it. -/
theorem escapes_bind {first : Except Failure α} {next : α → Except Failure β} :
    escapes (first >>= next) = true ↔
      escapes first = true ∨ ∃ value, first = .ok value ∧ escapes (next value) = true := by
  cases first <;> simp [escapes, Bind.bind, Except.bind]

/-- A step that changes the value only fails as before. -/
theorem escapes_map (f : α → β) (result : Except Failure α) :
    escapes (result.map f) = escapes result := by
  cases result <;> rfl

end Escapes

namespace Project

/-- Whether too many brackets are open at a time in a JSON file. -/
def tooDeepAt (files : FileTree) (path : String) (comments : Bool) : Bool :=
  (jsonText? files path comments).any (Json.isTooDeep files.depth)

/-- Whether a project file, if one can be read at a place, has a shape that can be used: not too many
brackets are open in it, its values can be used, and its names can be looked up. -/
def soundAt (files : FileTree) (names : List Text) : Bool :=
  !names.any PathText.hasNull && !tooDeepAt files (Path.absolute names).toString true &&
    (fileAt files names).toOption.all fun file =>
      soundFile file && soundNames files names file && wholeNames file

/-- All project files that loading a path comes to have a shape that can be used. -/
def SoundProject (files : FileTree) (path : String) : Prop :=
  ∀ names, Reached files path names → soundAt files names = true

section Loading

variable {files : FileTree} {names : List Text}

/-- Reading JSON escapes if and only if too many brackets are open. -/
theorem escapes_loadJson (files : FileTree) (path : String) (comments : Bool) :
    escapes (loadJson files path comments) = tooDeepAt files path comments := by
  unfold tooDeepAt
  rcases loadJson_cases files path comments with ⟨no_text, error, failed⟩ | ⟨text, spelled, loaded⟩
  · rw [failed, no_text]
    rfl
  · rw [loaded, spelled, Option.any_some]
    cases Json.isTooDeep files.depth text with
    -- Too many brackets are no fault of the configuration file but a failure of the decoder.
    | true => rfl
    -- A fault of the text is one of the configuration file.
    | false => cases Json.read text <;> rfl

/-- What is no mapping is a configuration file that cannot be used. -/
theorem escapes_requireMapping (path : String) (value : Document) :
    escapes (requireMapping path value) = false := by
  cases value <;> rfl

/-- A project file is read as its JSON is. -/
theorem escapes_fileAt (files : FileTree) (names : List Text) :
    escapes (fileAt files names) = tooDeepAt files (Path.absolute names).toString true := by
  -- Behind the JSON only the mapping is asked for, and that never escapes.
  rw [← escapes_loadJson, Bool.eq_iff_iff, fileAt, escapes_bind]
  simp [escapes_requireMapping]

/-- The names of dependencies are read as the JSON of the manifest is. -/
theorem escapes_loadDependencies (files : FileTree) (path : String) :
    escapes (loadDependencies files path) = tooDeepAt files path false := by
  rw [← escapes_loadJson, Bool.eq_iff_iff, loadDependencies, escapes_bind]
  -- Neither the mapping that is asked for nor the names taken from it add a way out.
  simp only [escapes_bind, escapes_requireMapping]
  simp [escapes, Pure.pure, Except.pure]

/-- A sound project file cannot be read only if it cannot be used as a configuration file. -/
theorem escapes_readAt (sound : soundAt files names = true) :
    escapes (readAt files names) = false := by
  simp only [soundAt, Bool.and_eq_true, Bool.not_eq_true'] at sound
  obtain ⟨⟨clear, shallow⟩, sound⟩ := sound
  rcases readAt_cases files names with
    ⟨null, -⟩ | ⟨-, failure, unread, read⟩ | ⟨file, loaded, read⟩
  · rw [clear] at null
    cases null
  · -- Without a mapping, the reading fails as the file does.
    rw [← escapes_fileAt, unread] at shallow
    rw [read]
    exact shallow
  · have file_sound : soundFile file = true := by
      simp only [loaded, Except.toOption, Option.all_some, Bool.and_eq_true] at sound
      exact sound.1.1
    -- Sound values are what the reading asks for, so the second outcome cannot be.
    rcases read with ⟨reading, read, -⟩ | ⟨failure, -, -, no⟩
    · rw [read]
      rfl
    · rw [file_sound] at no
      contradiction

/-- The names in a sound project file can be followed. -/
theorem leads_of_soundAt (sound : soundAt files names = true) : Leads files names := by
  apply leads_of_soundNames
  intro file loaded
  simp only [soundAt, loaded, Except.toOption, Option.all_some, Bool.and_eq_true] at sound
  exact sound.2.1.2

/-- Loading files one by one escapes as the load of one of them does. -/
theorem exists_of_escapes_loadEach {load : Seen → List Text → Except Failure (Entries × Seen)}
    {seen : Seen} {merged : Entries} {places : List (List Text)}
    (escaped : escapes (loadEach load seen merged places) = true) :
    ∃ names ∈ places, ∃ seen, escapes (load seen names) = true := by
  -- The first load that escapes ends the list; those before it succeeded.
  induction places generalizing seen merged with
  | nil => simp [loadEach, escapes] at escaped
  | cons names rest ih =>
    rw [loadEach, escapes_bind] at escaped
    rcases escaped with escaped | ⟨result, -, escaped⟩
    · exact ⟨names, by simp, seen, escaped⟩
    · obtain ⟨other, member, escaped⟩ := ih escaped
      exact ⟨other, by simp [member], escaped⟩

/-- Loading a file stays contained, if the file and all that it extends are sound. -/
theorem escapes_loadFrom {fuel : Nat} {seen : Seen}
    (sound : ∀ other, Relation.ReflTransGen (Extends files) names other →
      soundAt files other = true) :
    escapes (loadFrom files fuel seen names) = false := by
  -- By induction on the fuel: every file below is loaded with less of it.
  induction fuel generalizing seen names with
  | zero => rfl
  | succ fuel ih =>
    rw [loadFrom_succ]
    -- A place that was seen before is refused as a circle, which is contained.
    split
    · rfl
    · by_contra escaped
      rw [Bool.not_eq_false, escapes_bind] at escaped
      rcases escaped with escaped | ⟨reading, read, escaped⟩
      · rw [escapes_readAt (sound names .refl)] at escaped
        cases escaped
      · -- What escapes is the load of a file that this one extends.
        rw [collect_eq_loadEach _ (leads_of_soundAt (sound names .refl) reading read),
          escapes_bind] at escaped
        rcases escaped with escaped | ⟨result, -, escaped⟩
        · obtain ⟨parent, member, seen', escaped⟩ := exists_of_escapes_loadEach escaped
          have extended : Extends files names parent := by
            rw [Extends, followed_of_readAt read]
            exact member
          rw [ih fun other way => sound other (.head extended way)] at escaped
          cases escaped
        · cases escaped

/-- Loading a project stays contained, if all its files are sound. -/
theorem escapes_loadProject {path : String} (sound : SoundProject files path) :
    escapes (loadProject files path) = false := by
  -- A project has no load but that of its first file.
  rw [loadProject_eq, escapes_map]
  exact escapes_loadFrom sound

/-- Names of which none leads to a file escape, if one of them cannot be followed. -/
theorem escapes_collect {directory : List Text} {targets : List Document}
    (alone : targets.filterMap (targetPlace? files directory) = [])
    (unsound : (targets.filterMap Document.text?).all (followable files directory) = false)
    (load : Seen → List Text → Except Failure (Entries × Seen)) (seen : Seen) (merged : Entries) :
    escapes (collect files directory load seen merged targets) = true := by
  -- No file comes in between, so the first name that cannot be followed is reached.
  induction targets with
  | nil => simp at unsound
  | cons target rest ih =>
    rw [List.filterMap_cons] at alone
    cases target with
    | text target =>
      rw [collect]
      rcases extendsPath_cases files directory target with
        ⟨place?, leads, clear⟩ | ⟨failure, leads, own, -⟩
      · -- A name that can be followed is that of a package, so it is one of the rest.
        cases place? with
        | some place => simp [targetPlace?, leads, Except.toOption] at alone
        | none =>
          have unsound_rest :
              (rest.filterMap Document.text?).all (followable files directory) = false := by
            simpa [Document.text?, clear] using unsound
          rw [leads]
          exact ih (by simpa [targetPlace?, leads, Except.toOption] using alone) unsound_rest
      · -- This name itself cannot be followed.
        exact escapes_bind.mpr (.inl (by simp [leads, escapes, own]))
    -- Values that are no texts are passed over.
    | _ => exact ih (by simpa [targetPlace?] using alone) (by simpa [Document.text?] using unsound)

section Start

variable {path : String}

/-- A project fails as its first file does, if this cannot be read. -/
theorem loadProject_unread {failure : Failure}
    (failed : readAt files (startOf files path) = .error failure) :
    loadProject files path = .error failure := by
  rw [loadProject_eq, loadFrom_succ, if_neg (by simp), failed]
  rfl

/-- A project path with a null character is no path. -/
theorem loadProject_null (null : PathText.hasNull path.toList = true) :
    loadProject files path = .error .nullInPath := by
  apply loadProject_unread
  apply readAt_null
  exact null_of_startOf files null

/-- A project escapes if too many brackets are open in its file. -/
theorem loadProject_tooDeep
    (deep : tooDeepAt files (Path.absolute (startOf files path)).toString true = true) :
    escapes (loadProject files path) = true := by
  -- Of the three ways to read the first file only the one where the file cannot be read remains.
  rcases readAt_cases files (startOf files path) with
    ⟨-, read⟩ | ⟨-, failure, unread, read⟩ | ⟨file, loaded, -⟩
  · rw [loadProject_unread read]
    rfl
  · rw [← escapes_fileAt, unread] at deep
    rw [loadProject_unread read]
    exact deep
  · rw [← escapes_fileAt, loaded] at deep
    cases deep

/-- A project escapes if its file is a mapping that is not sound; where only its names are not, if it
extends no file. -/
theorem escapes_loadProject_of_unsound {file : Entries}
    (loaded : fileAt files (startOf files path) = .ok file)
    (unsound : soundFile file = false ∨
      soundNames files (startOf files path) file = false ∧
        followed files (startOf files path) = []) :
    escapes (loadProject files path) = true := by
  rcases readAt_cases files (startOf files path) with
    ⟨null, -⟩ | ⟨-, failure, failed, -⟩ | ⟨other, loaded', read⟩
  · rw [not_null_of_fileAt loaded] at null
    cases null
  · rw [failed] at loaded
    cases loaded
  · obtain rfl : file = other := Except.ok.inj (loaded.symm.trans loaded')
    rcases read with ⟨reading, read, sound⟩ | ⟨failure, read, own, -⟩
    · -- The file itself is sound, so it is one of its names that cannot be followed.
      rcases unsound with unsound | ⟨unsound, alone⟩
      · rw [unsound] at sound
        cases sound
      · obtain ⟨loaded', -, named⟩ := readAt_eq_ok read
        obtain rfl : file = reading.file := Except.ok.inj (loaded.symm.trans loaded')
        rw [followed_of_readAt read] at alone
        simp only [soundNames, extendsNames, named, Except.toOption, Option.getD_some] at unsound
        rw [loadProject_eq, escapes_map, loadFrom_succ, if_neg (by simp), read]
        exact escapes_bind.mpr (.inr ⟨reading, rfl, escapes_bind.mpr
          (.inl (escapes_collect alone unsound _ _ _))⟩)
    · -- What the file says of itself cannot be used, and the reading says so.
      rw [loadProject_unread read, escapes, own]
      rfl

end Start

end Loading

section Options

variable {files : FileTree} {path : String}

/-- How many bytes of an options file are decoded before anything else happens. -/
def blockBytes : Nat := 4096

/-- An options file escapes only if its path has a null character, if its bytes are no text, or if
its text has the form of the format but a scalar that is no value. -/
theorem loadOptions_escapes (escaped : escapes (loadOptions files path) = true) :
    PathText.hasNull path.toList = true ∨
      ∃ bytes, files.read path = .ok bytes ∧
        ((∃ fault, Utf8.decode bytes = .error fault) ∨
          ∃ text fault, Utf8.decode bytes = .ok text ∧
            Yaml.read (Text.unifyBreaks text) = .error fault ∧ fault ≠ .malformed) := by
  unfold loadOptions at escaped
  split at escaped
  · rename_i null
    exact .inl null
  · refine .inr ?_
    -- A file that cannot be read is a configuration file that cannot be used.
    cases read : files.read path with
    | error error =>
      rw [read] at escaped
      cases escaped
    | ok bytes =>
      refine ⟨bytes, rfl, ?_⟩
      simp only [read] at escaped
      cases decoded : Utf8.decode bytes with
      | error fault => exact .inl ⟨fault, rfl⟩
      | ok text =>
        refine .inr ⟨text, ?_⟩
        simp only [decoded] at escaped
        -- Only a fault of form is one of the configuration file.
        split at escaped
        · cases escaped
        · rename_i fault other faulty
          exact ⟨fault, rfl, faulty, fun same => other (same ▸ rfl)⟩
        · cases escaped
        · rw [escapes_requireMapping] at escaped
          cases escaped

/-- An options path with a null character is no path. -/
theorem loadOptions_null (null : PathText.hasNull path.toList = true) :
    loadOptions files path = .error .nullInPath := by
  rw [loadOptions, if_pos null]

/-- Bytes of an options file that are no text escape. -/
theorem loadOptions_undecodable (clear : PathText.hasNull path.toList = false) {bytes : Bytes}
    (read : files.read path = .ok bytes) {fault : Utf8.Fault}
    (undecodable : Utf8.decode bytes = .error fault) :
    loadOptions files path = .error (.undecodable fault) := by
  simp [loadOptions, clear, read, undecodable]

end Options

section Search

variable {files : FileTree} {name path : String}

/-- A step that fails, or one behind it, is what makes two steps fail. -/
theorem bind_eq_error {α β : Type} {first : Except Failure α} {next : α → Except Failure β}
    {failure : Failure} (failed : first >>= next = .error failure) :
    first = .error failure ∨ ∃ value, first = .ok value ∧ next value = .error failure := by
  cases first with
  | error other => exact .inl (by simpa [Bind.bind, Except.bind] using failed)
  | ok value => exact .inr ⟨value, rfl, failed⟩

/-- A look-up fails only for a name that is too long. -/
theorem nameTooLong_of_seek {error : FileError} (failed : files.seek path = .error error) :
    error = .nameTooLong := by
  unfold FileTree.seek at failed
  split at failed
  · cases failed
  · split at failed
    · cases failed
    · cases failed
      rfl
    · cases failed

/-- A question about a path fails as the look-up of the path does. -/
theorem nameTooLong_of_asked {test : List Text → Bool} {place : String} {failure : Failure}
    (failed : (((files.seek path).map fun found => found.any test).mapError (.file · place)) =
      .error failure) :
    failure = .file .nameTooLong place := by
  cases looked : files.seek path with
  | ok found => simp [looked, Except.map, Except.mapError] at failed
  | error error =>
    rw [looked] at failed
    cases failed
    rw [nameTooLong_of_seek looked]

/-- A search through paths fails only for a name that is too long. -/
theorem firstFile_error {paths : List Path} {failure : Failure}
    (failed : firstFile files paths = .error failure) :
    ∃ place, failure = .file .nameTooLong place := by
  induction paths with
  | nil => cases failed
  | cons candidate rest ih =>
    rw [firstFile] at failed
    rcases bind_eq_error failed with asked | ⟨found, -, failed⟩
    · exact ⟨_, nameTooLong_of_asked asked⟩
    · cases found with
      | true => cases failed
      | false => exact ih failed

/-- A search fails only for a path with a null character, or for a name that is too long. -/
theorem search_error {failure : Failure} (failed : search files name path = .error failure) :
    PathText.hasNull path.toList = true ∧ failure = .nullInPath ∨
      ∃ place, failure = .file .nameTooLong place := by
  unfold search at failed
  split at failed
  · rename_i null
    cases failed
    exact .inl ⟨null, rfl⟩
  · right
    rcases bind_eq_error failed with asked | ⟨-, -, failed⟩
    · exact ⟨_, nameTooLong_of_asked asked⟩
    · exact firstFile_error failed

/-- A search for a path with a null character fails. -/
theorem search_null (null : PathText.hasNull path.toList = true) :
    search files name path = .error .nullInPath := by
  rw [search, if_pos null]
  rfl

/-- A file is required as it is searched for: that there is none is a failure of the configuration.
-/
theorem escapes_require :
    escapes (require files name path) = escapes (search files name path) := by
  rw [Bool.eq_iff_iff, require, escapes_bind]
  refine or_iff_left ?_
  rintro ⟨found?, -, escaped⟩
  cases found? <;> cases escaped

/-- A file that is required is one that was found. -/
theorem require_eq_ok_iff {found : Path} :
    require files name path = .ok found ↔ search files name path = .ok (some found) := by
  unfold require
  cases search files name path with
  | error failure => simp [Bind.bind, Except.bind]
  | ok found? => cases found? <;> simp [Bind.bind, Except.bind, Pure.pure, Except.pure, throw,
      throwThe, MonadExceptOf.throw]

/-- What the search for a project starts from. -/
def searchPath (path : String) : String := if path == "" then "." else path

/-- A resolver escapes if and only if its search does, or loading what was found does. -/
theorem escapes_resolver (files : FileTree) (options : ResolverOptions) (path : String) :
    escapes (resolver files options path) = true ↔
      options.type = "fs" ∧ (escapes (search files options.configName (searchPath path)) = true ∨
        ∃ found, search files options.configName (searchPath path) = .ok (some found) ∧
          escapes (loadProject files found.toString) = true) ∨
      options.type = "package" ∧ (escapes (search files manifestName (searchPath path)) = true ∨
        ∃ found, search files manifestName (searchPath path) = .ok (some found) ∧
          tooDeepAt files found.toString false = true) := by
  have start : (if path == "" then "." else path) = searchPath path := rfl
  simp only [resolver, start]
  split
  · rename_i type
    have type : options.type = "fs" := eq_of_beq type
    simp only [escapes_bind, escapes_require, require_eq_ok_iff, type]
    simp [escapes, Pure.pure, Except.pure]
  · rename_i other
    have other : options.type ≠ "fs" := by simpa using other
    split
    · rename_i type
      have type : options.type = "package" := eq_of_beq type
      simp only [escapes_bind, escapes_require, require_eq_ok_iff, escapes_loadDependencies, type]
      simp [escapes, Pure.pure, Except.pure]
    · rename_i unknown
      have unknown : options.type ≠ "package" := by simpa using unknown
      simp [other, unknown, escapes, Failure.ofConfig, Failure.isConfig, throw, throwThe,
        MonadExceptOf.throw]

end Search

end Project

open Project

/-- What a sort gives that has no resolver: a configuration file that cannot be used makes it skip
the source, and every other failure ends it. -/
def unresolved (source : Text) : Failure → Except Failure SortResult
  | .config error => .ok { status := Status.skipped, source, reason := error.message }
  | failure => .error failure

/-- A sort reads the clock and then needs a resolver. Without one, nothing else happens. -/
theorem sortImports_unresolved {session : Session} {path : String} {options : Options}
    {failure : Failure} (failed : resolver session.files options.resolver path = .error failure)
    (source : Text) :
    (sortImports source path options).run session =
      (unresolved source failure, { session with clock := session.clock.drop 1 }) := by
  unfold sortImports
  simp only [Job.run_bind, Session.run_readClock, Session.run_currentFiles, failed]
  cases failure <;> rfl

/-- What becomes of configuration files that cannot be used. -/
structure Contained (files : FileTree) : Prop where
  /-- Reading JSON escapes if and only if too many brackets are open. -/
  json : ∀ path comments, escapes (loadJson files path comments) = tooDeepAt files path comments
  /-- So does reading the names of dependencies. -/
  dependencies : ∀ path, escapes (loadDependencies files path) = tooDeepAt files path false
  /-- An options file escapes only if its path has a null character, its bytes are no text, or a
  scalar of it is no value. -/
  options : ∀ path, escapes (loadOptions files path) = true →
    PathText.hasNull path.toList = true ∨
      ∃ bytes, files.read path = .ok bytes ∧
        ((∃ fault, Utf8.decode bytes = .error fault) ∨
          ∃ text fault, Utf8.decode bytes = .ok text ∧
            Yaml.read (Text.unifyBreaks text) = .error fault ∧ fault ≠ .malformed)
  /-- Bytes that are no text do escape. A file of more than one block is decoded step by step, and a
  fault of form may come first there. -/
  undecodable : ∀ path bytes fault, PathText.hasNull path.toList = false →
    files.read path = .ok bytes → bytes.length ≤ blockBytes → Utf8.decode bytes = .error fault →
    loadOptions files path = .error (.undecodable fault)
  /-- A path with a null character escapes from all who do not open it at once. -/
  null : ∀ path, PathText.hasNull path.toList = true →
    loadOptions files path = .error .nullInPath ∧ loadProject files path = .error .nullInPath ∧
      ∀ name, search files name path = .error .nullInPath
  /-- A project stays contained if all its files are sound. -/
  project : ∀ path, SoundProject files path → escapes (loadProject files path) = false
  /-- It escapes if too many brackets are open in its first file. -/
  projectTooDeep : ∀ path,
    tooDeepAt files (Path.absolute (startOf files path)).toString true = true →
    escapes (loadProject files path) = true
  /-- And it escapes if its first file is a mapping of another shape, or if names of this file cannot
  be followed and the others are those of packages. -/
  projectUnsound : ∀ path file, fileAt files (startOf files path) = .ok file →
    (soundFile file = false ∨
      soundNames files (startOf files path) file = false ∧
        followed files (startOf files path) = []) →
    escapes (loadProject files path) = true
  /-- A search fails only for a null character or for a name that is too long. -/
  searches : ∀ name path failure, search files name path = .error failure →
    PathText.hasNull path.toList = true ∧ failure = .nullInPath ∨
      ∃ place, failure = .file .nameTooLong place
  /-- A resolver escapes if and only if its search does, or loading what was found. -/
  resolvers : ∀ options path, escapes (resolver files options path) = true ↔
    options.type = "fs" ∧ (escapes (search files options.configName (searchPath path)) = true ∨
      ∃ found, search files options.configName (searchPath path) = .ok (some found) ∧
        escapes (loadProject files found.toString) = true) ∨
    options.type = "package" ∧ (escapes (search files manifestName (searchPath path)) = true ∨
      ∃ found, search files manifestName (searchPath path) = .ok (some found) ∧
        tooDeepAt files found.toString false = true)
  /-- A sort without a resolver skips its source, unless the failure is of another kind: then it ends
  with it. -/
  sorts : ∀ session : Session, session.files = files → ∀ source path options failure,
    resolver files options.resolver path = .error failure →
    (sortImports source path options).run session =
      (unresolved source failure, { session with clock := session.clock.drop 1 })

/-- A project file that extends a file which is not there, and one that extends a number. -/
def orphan : FileTree where
  entries :=
    [rootFile "tsconfig.json" "\x7b\"extends\": \"./missing.json\"\x7d",
      rootFile "number.json" "\x7b\"extends\": 7\x7d"]

/-- Configuration files that cannot be used: an options file that is no text; project files with a
number for options, a number to extend, the root to extend, and a null character in a name; and a
manifest with more open brackets than the eight that are allowed here. -/
def misshapen : FileTree where
  entries :=
    [([".importsorter.yaml".toList], .file [0xFF]),
      rootFile "tsconfig.json" "\x7b\"compilerOptions\": 5\x7d",
      rootFile "number.json" "\x7b\"extends\": 7\x7d",
      rootFile "root.json" "\x7b\"extends\": \"..\"\x7d",
      rootFile "null.json" "\x7b\"extends\": \"./\\u0000\"\x7d",
      rootFile "package.json" "[[[[[[[[[1]]]]]]]]]"]
  depth := 8

end ImportOrder
