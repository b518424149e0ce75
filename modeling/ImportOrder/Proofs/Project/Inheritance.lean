import ImportOrder.Proofs.Json.Tidy
import ImportOrder.Proofs.Project.Extends

/-! What a project file inherits. Of a project that can be loaded, each compiler option has the value
that the last file declares for it, where the files are listed with those that a file extends in
front of it. A base directory is meant from the directory of the file that declares it. -/

namespace ImportOrder.Project

/-- The compiler options as the file at a place writes them. -/
def writtenOptions (files : FileTree) (names : List Text) : Entries :=
  let options := (fileAt files names).toOption.bind fun file =>
    (entriesOfValue (optionsValue file)).toOption
  options.getD []

/-- What the file at a place means by the value of a key: a base directory is meant from the
directory of the file, and every other value is meant as it is. -/
def meant (names : List Text) (key value : Document) : Document :=
  match key, value with
  | .text name, .text base =>
    if name == ProjectKey.baseUrl then
      .text (Path.absolute (Path.resolve names.dropLast (Path.ofString base))).toString
    else value
  | _, _ => value

/-- What the file at a place declares for a key. -/
def declared? (files : FileTree) (key : Document) (names : List Text) : Option Document :=
  (Entries.find? key (writtenOptions files names)).map (meant names key)

/-- The listing of project files with all that they extend: each file behind the files that it
extends, as often as it is extended. -/
inductive PostOrder (files : FileTree) : List (List Text) → List (List Text) → Prop
  | nil : PostOrder files [] []
  | cons {names : List Text} {rest below others : List (List Text)}
      (extended : PostOrder files (followed files names) below)
      (later : PostOrder files rest others) :
      PostOrder files (names :: rest) (below ++ names :: others)

section Declarations

variable {files : FileTree} {names : List Text}

/-- A file is read as a tidy mapping. -/
theorem fileAt_tidy {file : Entries} (loaded : fileAt files names = .ok file) :
    (Document.mapping file).Tidy := by
  obtain ⟨value, read, mapping⟩ := bind_eq_ok loaded
  -- The value is read from JSON, and it is the mapping that is required.
  have tidy : value.Tidy := by
    obtain ⟨text, -, found⟩ := read_of_loadJson read
    exact Json.read_tidy found
  unfold requireMapping at mapping
  split at mapping
  · cases mapping
    exact tidy
  · cases mapping

/-- The values of a tidy mapping are tidy. -/
theorem tidy_getD {file : Entries} (tidy : (Document.mapping file).Tidy) (key : String) :
    ((file.get? key).getD .null).Tidy := by
  cases found : file.get? key with
  -- What is left out counts as null, which is a scalar.
  | none => exact .scalar rfl
  | some value =>
    obtain ⟨known, member⟩ := Entries.exists_mem_of_find? found
    cases tidy with
    | scalar single => cases single
    | mapping distinct each => exact each _ member

/-- The entries of pairs are distinct. -/
theorem entriesOfPairs_distinct {items : List Document} {before entries : Entries}
    (distinct : before.Distinct) (read : entriesOfPairs items before = .ok entries) :
    entries.Distinct := by
  -- Each pair is added to the entries before it.
  induction items generalizing before with
  | nil =>
    cases read
    exact distinct
  | cons item rest ih =>
    obtain ⟨⟨key, value⟩, -, read⟩ := bind_eq_ok read
    dsimp only at read
    split at read
    · -- A list or a mapping is no key.
      cases read
    · exact ih (distinct.insert key value) read

/-- A tidy value gives distinct entries. -/
theorem entriesOfValue_distinct {value : Document} {entries : Entries} (tidy : value.Tidy)
    (read : entriesOfValue value = .ok entries) : entries.Distinct := by
  unfold entriesOfValue at read
  split at read
  · -- A value that says nothing has no entries.
    cases read
    exact Entries.distinct_nil
  · cases value with
    | mapping written =>
      cases read
      cases tidy with
      | scalar single => cases single
      | mapping distinct each => exact distinct
    | list items => exact entriesOfPairs_distinct Entries.distinct_nil read
    | _ => cases read

/-- Only a base directory that is a text is meant otherwise than it is written. -/
theorem meant_eq_self {key value : Document}
    (plain : key = .text ProjectKey.baseUrl → value.text? = none) :
    meant names key value = value := by
  unfold meant
  split
  · rename_i name base
    split
    · -- A text under the key of the base directory is ruled out.
      rename_i same
      cases plain (by rw [eq_of_beq same])
    · rfl
  · rfl

/-- A file has for each key the value that it writes, as it is meant. -/
theorem ownOptions_eq_ok {file own : Entries} (read : ownOptions names file = .ok own) :
    ∃ entries, entriesOfValue (optionsValue file) = .ok entries ∧
      (entries.Distinct → own.Distinct) ∧
      ∀ key, own.find? key = (entries.find? key).map (meant names key) := by
  obtain ⟨entries, written, read⟩ := bind_eq_ok read
  refine ⟨entries, written, ?_⟩
  split at read
  · -- A base directory that is a text is replaced in its place.
    rename_i base named
    have found : entries.find? (.text ProjectKey.baseUrl) = some (.text base) := named
    obtain ⟨place, placed, read⟩ := bind_eq_ok read
    cases read
    unfold placeOf at placed
    split at placed
    · -- A base directory with a null character is no place.
      cases placed
    · cases placed
      refine ⟨fun distinct => distinct.insert _ _, fun key => ?_⟩
      rw [Entries.find?_insert]
      split
      · -- The key asked for is that of the base directory.
        rename_i asked
        obtain rfl := Document.sameKey_text_iff.mp asked
        rw [found]
        simp [meant]
      · -- Every other key keeps its value, which is meant as it is.
        rename_i other
        rw [Document.sameKey_text_iff] at other
        cases entries.find? key with
        | none => rfl
        | some value => rw [Option.map_some, meant_eq_self (fun same => absurd same other)]
  · -- No base directory is a text, so nothing is meant otherwise.
    rename_i other
    obtain rfl := Except.ok.inj read
    refine ⟨id, fun key => ?_⟩
    cases found : Entries.find? key entries with
    | none => rfl
    | some value =>
      have plain : key = .text ProjectKey.baseUrl → value.text? = none := by
        rintro rfl
        cases value with
        | text base => exact absurd found (other base)
        | _ => rfl
      rw [Option.map_some, meant_eq_self plain]

end Declarations

/-- Options that have for each key what the last file of a listing declares that declares the key
at all. -/
structure Inherits (files : FileTree) (listing : List (List Text)) (options : Entries) : Prop where
  distinct : options.Distinct
  last : ∀ key, options.find? key = listing.reverse.findSome? (declared? files key)

namespace Inherits

variable {files : FileTree}

/-- No files declare nothing. -/
theorem nil : Inherits files [] [] := ⟨Entries.distinct_nil, fun _ => rfl⟩

/-- The options of its own are what a file declares. -/
theorem own {names : List Text} {reading : Reading} (read : readAt files names = .ok reading) :
    Inherits files [names] reading.own := by
  obtain ⟨loaded, owned, -⟩ := readAt_eq_ok read
  obtain ⟨entries, written, distinct, found⟩ := ownOptions_eq_ok owned
  have entries_distinct : entries.Distinct :=
    entriesOfValue_distinct (tidy_getD (fileAt_tidy loaded) _) written
  refine ⟨distinct entries_distinct, fun key => ?_⟩
  -- The file writes the entries that its options are made of.
  have options : writtenOptions files names = entries := by
    simp [writtenOptions, loaded, written, Except.toOption]
  rw [found key, List.reverse_singleton, List.findSome?_singleton, declared?, options]

/-- Options laid over others are those of the files behind, and else those of the files in front. -/
theorem update {first second : List (List Text)} {merged options : Entries}
    (before : Inherits files first merged) (laid : Inherits files second options) :
    Inherits files (first ++ second) (merged.update options) where
  distinct := before.distinct.update options
  last key := by
    -- The reversed listing begins with the files behind.
    rw [Entries.find?_update laid.distinct, laid.last, before.last, List.reverse_append,
      List.findSome?_append]

end Inherits

/-- A project file loaded with all that it extends. -/
def LoadedAt (files : FileTree) (names : List Text) (entries : Entries) : Prop :=
  ∃ below options, PostOrder files (followed files names) below ∧
    entries.get? ProjectKey.compilerOptions = some (.mapping options) ∧
    Inherits files (below ++ [names]) options

section Loading

variable {files : FileTree}

/-- Files that are loaded one after the other are merged as they are listed. -/
theorem loadEach_inherits {load : Seen → List Text → Except Failure (Entries × Seen)}
    (each : ∀ {seen names entries after}, load seen names = .ok (entries, after) →
      LoadedAt files names entries)
    {seen after : Seen} {places before : List (List Text)} {merged result : Entries}
    (inherits : Inherits files before merged)
    (done : loadEach load seen merged places = .ok (result, after)) :
    ∃ listing, PostOrder files places listing ∧ Inherits files (before ++ listing) result := by
  -- What is merged so far grows with each file, and so does the listing in front.
  induction places generalizing seen before merged with
  | nil =>
    cases done
    exact ⟨[], .nil, by rwa [List.append_nil]⟩
  | cons names rest ih =>
    obtain ⟨⟨parent, next⟩, loaded, done⟩ := bind_eq_ok done
    -- The options of the first file are laid over what is merged so far.
    obtain ⟨below, options, extended, held, own⟩ := each loaded
    simp only [held, Option.getD_some, Document.entries, Document.entries?] at done
    obtain ⟨others, later, result_inherits⟩ := ih (inherits.update own) done
    refine ⟨below ++ names :: others, .cons extended later, ?_⟩
    simpa using result_inherits

/-- Names that were all collected lead somewhere. -/
theorem leads_of_collect {directory : List Text}
    {load : Seen → List Text → Except Failure (Entries × Seen)} {seen : Seen} {merged : Entries}
    {targets : List Document} {result : Entries × Seen}
    (done : collect files directory load seen merged targets = .ok result) :
    ∀ target, .text target ∈ targets →
      ∃ place?, extendsPath files directory target = .ok place? := by
  -- A name that leads nowhere would have ended the collection with a failure.
  induction targets generalizing seen merged with
  | nil => simp
  | cons first rest ih =>
    cases first with
    | text name =>
      obtain ⟨place?, leads, done⟩ := bind_eq_ok done
      have later : ∀ target, .text target ∈ rest →
          ∃ place?, extendsPath files directory target = .ok place? := by
        cases place? with
        | none => exact ih done
        | some names =>
          obtain ⟨loaded, -, done⟩ := bind_eq_ok done
          exact ih done
      intro target member
      rcases List.mem_cons.mp member with same | behind
      · cases same
        exact ⟨place?, leads⟩
      · exact later target behind
    | _ =>
      -- What is no text is passed over.
      intro target member
      exact ih done target (List.mem_of_ne_of_mem (by simp) member)

/-- A file that can be loaded has the options of the last files that declare them. -/
theorem loadFrom_inherits {fuel : Nat} {seen after : Seen} {names : List Text} {entries : Entries}
    (done : loadFrom files fuel seen names = .ok (entries, after)) :
    LoadedAt files names entries := by
  induction fuel generalizing seen after names entries with
  | zero => cases done
  | succ fuel ih =>
    rw [loadFrom_succ] at done
    split at done
    · -- A file that was loaded before is reported as a circle.
      cases done
    · obtain ⟨reading, read, done⟩ := bind_eq_ok done
      obtain ⟨⟨merged, next⟩, collected, done⟩ := bind_eq_ok done
      cases done
      -- What is collected is what the followed files are listed with.
      rw [collect_eq_loadEach _ (leads_of_collect collected), ← followed_of_readAt read]
        at collected
      obtain ⟨below, extended, inherited⟩ := loadEach_inherits ih Inherits.nil collected
      -- The options of its own are laid over them last, so the file stands at the end.
      refine ⟨below, merged.update reading.own, extended, ?_, inherited.update (Inherits.own read)⟩
      rw [Entries.get?, Reading.inherit, Entries.find?_insert, if_pos (by simp [Document.sameKey])]

/-- A project that can be loaded has the options of the last files that declare them. -/
theorem loadProject_inherits {path : String} {entries : Entries}
    (done : loadProject files path = .ok entries) :
    LoadedAt files (startOf files path) entries := by
  obtain ⟨⟨loaded, seen⟩, done, same⟩ := bind_eq_ok done
  cases same
  exact loadFrom_inherits done

end Loading

/-- Files behind a first one, of which each is the only one that the file in front of it extends; the
last one extends none. -/
inductive Chain (files : FileTree) : List Text → List (List Text) → Prop
  | last {names : List Text} (alone : followed files names = []) : Chain files names []
  | step {names parent : List Text} {rest : List (List Text)}
      (only : followed files names = [parent]) (later : Chain files parent rest) :
      Chain files names (parent :: rest)

section Listing

variable {files : FileTree}

/-- Files have one listing at most. -/
theorem PostOrder.unique {places first second : List (List Text)}
    (one : PostOrder files places first) (other : PostOrder files places second) :
    first = second := by
  -- What the first file extends is given by the file, and so is what comes behind.
  induction one generalizing second with
  | nil =>
    cases other
    rfl
  | cons extended later ih_extended ih_later =>
    cases other with
    | cons extended' later' => rw [ih_extended extended', ih_later later']

/-- A file is listed behind a listing of what it extends. -/
theorem PostOrder.behind {names : List Text} {parents rest below others : List (List Text)}
    (extends_ : followed files names = parents) (extended : PostOrder files parents below)
    (later : PostOrder files rest others) :
    PostOrder files (names :: rest) (below ++ names :: others) :=
  .cons (extends_ ▸ extended) later

/-- The files of a chain are listed from its end. -/
theorem Chain.postOrder {names : List Text} {rest : List (List Text)}
    (linked : Chain files names rest) : PostOrder files [names] (names :: rest).reverse := by
  induction linked with
  | last alone => exact .behind alone .nil .nil
  | step only _ ih =>
    rw [List.reverse_cons]
    exact .behind only ih .nil

end Listing

/-- Of a project that can be loaded, each compiler option has the value that the last file in the
listing declares for it, the files that a file extends being listed in front of the file. Along a
chain this is the file nearest to the start. -/
theorem loadProject_last_wins {files : FileTree} {path : String} {entries : Entries}
    (done : loadProject files path = .ok entries) :
    ∃ listing options, PostOrder files [startOf files path] listing ∧
      entries.get? ProjectKey.compilerOptions = some (.mapping options) ∧
      (∀ key, Entries.find? key options = listing.reverse.findSome? (declared? files key)) ∧
      ∀ rest, Chain files (startOf files path) rest → ∀ key,
        Entries.find? key options =
          (startOf files path :: rest).findSome? (declared? files key) := by
  obtain ⟨below, options, extended, held, inherits⟩ := loadProject_inherits done
  have listed : PostOrder files [startOf files path] (below ++ [startOf files path]) :=
    .cons extended .nil
  refine ⟨_, options, listed, held, inherits.last, fun rest linked key => ?_⟩
  -- A chain is listed from its end, so the first file of the chain that declares the key is the last.
  rw [inherits.last key, listed.unique linked.postOrder, List.reverse_reverse]

/-- A project file that extends two files, of which the first is in a directory of its own and
extends a third one. Two files declare the base directory, and two declare another option. -/
def layers : FileTree where
  entries :=
    [rootFile "tsconfig.json" "\x7b\"extends\":[\"./lib/a\",\"@c\",7,\"./b.json\"]\x7d",
      (["lib".toList], .directory),
      (["lib".toList, "a.json".toList], .file (Utf8.encode
        "\x7b\"extends\":\"../c.json\",\"compilerOptions\":\x7b\"baseUrl\":\"x\"\x7d\x7d".toList)),
      rootFile "b.json" "\x7b\"compilerOptions\":\x7b\"target\":\"es6\"\x7d\x7d",
      rootFile "c.json" "\x7b\"compilerOptions\":\x7b\"baseUrl\":\".\",\"target\":\"es5\"\x7d\x7d"]

/-- The files of the layers, each behind those that it extends. -/
def layersListing : List (List Text) :=
  [["c.json".toList], ["lib".toList, "a.json".toList], ["b.json".toList], ["tsconfig.json".toList]]

/-- The listing is that of the project file. -/
theorem layers_postOrder : PostOrder layers [startOf layers "tsconfig.json"] layersListing := by
  have start : startOf layers "tsconfig.json" = ["tsconfig.json".toList] := by decide +kernel
  have first : followed layers ["tsconfig.json".toList] =
      [["lib".toList, "a.json".toList], ["b.json".toList]] := by decide +kernel
  have second : followed layers ["lib".toList, "a.json".toList] = [["c.json".toList]] := by
    decide +kernel
  have third : followed layers ["b.json".toList] = [] := by decide +kernel
  have last : followed layers ["c.json".toList] = [] := by decide +kernel
  rw [start]
  exact .behind first
    (.behind second (.behind last .nil .nil) (.behind third .nil .nil)) .nil

/-- The base directory comes from the file in its own directory, for the file that this one extends
is listed in front of it; and the target comes from the file that is extended last. -/
theorem loadProject_last_wins_layers :
    ∃ (entries options : Entries), loadProject layers "tsconfig.json" = .ok entries ∧
      entries.get? ProjectKey.compilerOptions = some (.mapping options) ∧
      (∀ key, Entries.find? key options = layersListing.reverse.findSome? (declared? layers key)) ∧
      (options.get? ProjectKey.baseUrl).bind Document.text? = some "/lib/x" ∧
      (options.get? "target").bind Document.text? = some "es6" := by
  have loads : (loadProject layers "tsconfig.json").toOption.isSome = true := by decide +kernel
  cases done : loadProject layers "tsconfig.json" with
  | error failure => simp [done, Except.toOption] at loads
  | ok entries =>
    obtain ⟨listing, options, listed, held, last, -⟩ := loadProject_last_wins done
    obtain rfl := listed.unique layers_postOrder
    refine ⟨entries, options, rfl, held, last, ?_, ?_⟩
    all_goals
      rw [Entries.get?, last]
      decide +kernel

end ImportOrder.Project
