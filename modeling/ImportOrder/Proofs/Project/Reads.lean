import ImportOrder.Proofs.FileTree.Alike
import ImportOrder.Proofs.Json.Tidy
import ImportOrder.Proofs.Project.Containment

/-! The places that finding the resolver of a path reads: the manifest, or the project file and the
files that it extends, as far as loading comes. Two trees in which these places are the same give the
same resolver. -/

namespace ImportOrder.Project

open FileTree (Alike)

/-- The files that collecting comes to, each with the places seen before it: those that earlier names
lead to have to load. -/
inductive Calls (files : FileTree) (directory : List Text)
    (load : Seen → List Text → Except Failure (Entries × Seen)) :
    Seen → List Document → Seen → List Text → Prop
  | here {seen : Seen} {target : String} {rest : List Document} {parent : List Text}
      (leads : extendsPath files directory target = .ok (some parent)) :
      Calls files directory load seen (.text target :: rest) seen parent
  -- A file that cannot be loaded ends collecting, and nothing behind it is asked for.
  | behind {seen seen' next : Seen} {target : String} {rest : List Document}
      {first parent : List Text} {loaded : Entries}
      (leads : extendsPath files directory target = .ok (some first))
      (done : load seen first = .ok (loaded, next))
      (later : Calls files directory load next rest seen' parent) :
      Calls files directory load seen (.text target :: rest) seen' parent
  | package {seen seen' : Seen} {target : String} {rest : List Document} {parent : List Text}
      (leads : extendsPath files directory target = .ok none)
      (later : Calls files directory load seen rest seen' parent) :
      Calls files directory load seen (.text target :: rest) seen' parent
  | nameless {seen seen' : Seen} {value : Document} {rest : List Document} {parent : List Text}
      (nameless : value.text? = none) (later : Calls files directory load seen rest seen' parent) :
      Calls files directory load seen (value :: rest) seen' parent

/-- The places that loading a project file reads: its own, and those of the files that it comes to
through what is extended. -/
inductive Reads (files : FileTree) : Nat → Seen → List Text → List Text → Prop
  -- A place that was seen before is not read again.
  | own {fuel : Nat} {seen : Seen} {names place : List Text} (fresh : seen.contains names = false)
      (located : files.locate (Path.absolute names).toString = .ok place) :
      Reads files (fuel + 1) seen names place
  | extended {fuel : Nat} {seen seen' : Seen} {names parent place : List Text} {reading : Reading}
      (fresh : seen.contains names = false) (read : readAt files names = .ok reading)
      (called : Calls files names.dropLast (loadFrom files fuel) (names :: seen) reading.targets
        seen' parent)
      (reads : Reads files fuel seen' parent place) :
      Reads files (fuel + 1) seen names place

section Congruence

variable {hidden : List Text → Prop} {first second : FileTree}

/-- Collecting depends on the files that it comes to only. -/
theorem collect_congr (alike : Alike hidden first second) {directory : List Text}
    {load load' : Seen → List Text → Except Failure (Entries × Seen)} {seen : Seen}
    {targets : List Document}
    (same : ∀ seen' parent, Calls first directory load seen targets seen' parent →
      load seen' parent = load' seen' parent) (merged : Entries) :
    collect first directory load seen merged targets =
      collect second directory load' seen merged targets := by
  -- Each name is followed with the places that those before it have left as seen.
  induction targets generalizing seen merged with
  | nil => rfl
  | cons target rest ih =>
    cases target with
    | text target =>
      rw [collect, collect, ← alike.extendsPath]
      cases leads : extendsPath first directory target with
      | error failure => rfl
      | ok parent? =>
        cases parent? with
        | none => exact ih (fun _ _ later => same _ _ (.package leads later)) merged
        | some parent =>
          simp only [Bind.bind, Except.bind, ← same seen parent (.here leads)]
          cases done : load seen parent with
          | error failure => rfl
          | ok loaded => exact ih (fun _ _ later => same _ _ (.behind leads done later)) _
    | _ => exact ih (fun _ _ later => same _ _ (.nameless rfl later)) merged

theorem loadJson_congr (alike : Alike hidden first second) {path : String}
    (read : first.read path = second.read path) (comments : Bool) :
    loadJson first path comments = loadJson second path comments := by
  unfold loadJson
  rw [read, alike.depth]

theorem loadOptions_congr {path : String} (read : first.read path = second.read path) :
    loadOptions first path = loadOptions second path := by
  unfold loadOptions
  rw [read]

/-- Loading a project file depends on the places that it reads only. -/
theorem loadFrom_congr (alike : Alike hidden first second) {fuel : Nat} {seen : Seen}
    {names : List Text} (shown : ∀ place, Reads first fuel seen names place → ¬hidden place) :
    loadFrom first fuel seen names = loadFrom second fuel seen names := by
  -- The induction is on the fuel, over all places seen so far: every file that is extended is
  -- loaded with other ones seen.
  induction fuel generalizing seen names with
  | zero => rfl
  | succ fuel ih =>
    rw [loadFrom_succ, loadFrom_succ]
    by_cases again : seen.contains names = true
    · rw [if_pos again, if_pos again]
    · have fresh : seen.contains names = false := by simpa using again
      rw [if_neg again, if_neg again]
      have own : first.read (Path.absolute names).toString =
          second.read (Path.absolute names).toString :=
        alike.read fun place located => shown place (.own fresh located)
      have reading : readAt first names = readAt second names := by
        rw [readAt, readAt, fileAt, fileAt, loadJson_congr alike own]
      rw [← reading]
      cases read : readAt first names with
      | error failure => simp only [Bind.bind, Except.bind]
      | ok reading =>
        -- The files that are collected are loaded with less fuel.
        have parents : collect first names.dropLast (loadFrom first fuel) (names :: seen) []
            reading.targets = collect second names.dropLast (loadFrom second fuel) (names :: seen) []
            reading.targets :=
          collect_congr alike (fun _ _ called => ih fun place reads =>
            shown place (.extended fresh read called reads)) []
        simp only [Bind.bind, Except.bind, parents]

/-- The first file among some paths is the first that leads to a file. -/
theorem find?_of_firstFile {files : FileTree} {paths : List Path} {file : Path}
    (found : firstFile files paths = .ok (some file)) :
    (paths.find? fun candidate => files.isFile candidate.toString) = some file := by
  -- The search stops at the first path that leads to a file or cannot be looked up; here it has
  -- stopped at a file.
  induction paths with
  | nil => cases found
  | cons candidate rest ih =>
    rw [firstFile] at found
    obtain ⟨is_file, asked, found⟩ := bind_eq_ok found
    -- A path that is passed over could be looked up, and no file is there.
    have here : files.isFile candidate.toString = is_file := by
      cases looked : files.checkFile candidate.toString with
      | error error => simp [looked, Except.mapError] at asked
      | ok answer =>
        rw [looked] at asked
        cases asked
        simp [FileTree.isFile, looked, Except.toOption]
    cases is_file with
    | true =>
      cases found
      exact List.find?_cons_of_pos (by simpa using here)
    | false => rw [List.find?_cons_of_neg (by simp [here]), ih found]

/-- A file that a search finds is the nearest one. -/
theorem find?_of_search {files : FileTree} {name path : String} {file : Path}
    (found : search files name path = .ok (some file)) : find? files name path = some file := by
  unfold search at found
  split at found
  · cases found
  · obtain ⟨-, -, found⟩ := bind_eq_ok found
    exact find?_of_firstFile found

/-- The places that finding a resolver for a path reads. -/
inductive Consults (files : FileTree) (options : ResolverOptions) (path : String) :
    List Text → Prop
  | manifest {file : Path} {place : List Text} (type : options.type = "package")
      (found : find? files manifestName (searchPath path) = some file)
      (located : files.locate file.toString = .ok place) : Consults files options path place
  | project {file : Path} {place : List Text} (type : options.type = "fs")
      (found : find? files options.configName (searchPath path) = some file)
      (reads : Reads files (files.entries.length + 2) [] (startOf files file.toString) place) :
      Consults files options path place

/-- A resolver depends on the places that finding it reads only. -/
theorem resolver_congr (alike : Alike hidden first second) {options : ResolverOptions}
    {path : String} (shown : ∀ place, Consults first options path place → ¬hidden place) :
    resolver first options path = resolver second options path := by
  -- The search finds the same file in both trees; what is left is to read it.
  have start : (if path == "" then "." else path) = searchPath path := rfl
  have required : ∀ name, require first name (searchPath path) =
      require second name (searchPath path) := fun name => by simp only [require, alike.search]
  simp only [resolver, start, ← required]
  -- The kinds of resolver differ in what they read. A kind that needs no file reads nothing.
  by_cases project : (options.type == "fs") = true
  · rw [if_pos project, if_pos project]
    cases found : require first options.configName (searchPath path) with
    | error failure => simp only [Bind.bind, Except.bind]
    | ok file =>
      have nearest := find?_of_search (require_eq_ok_iff.mp found)
      have places := loadFrom_congr alike fun place reads =>
        shown place (.project (eq_of_beq project) nearest reads)
      have loaded : loadProject first file.toString = loadProject second file.toString := by
        rw [loadProject_eq, loadProject_eq, ← alike.size, places, startOf, startOf, alike.directory]
      simp only [Bind.bind, Except.bind, loaded]
  · rw [if_neg project, if_neg project]
    by_cases package : (options.type == "package") = true
    · rw [if_pos package, if_pos package]
      cases found : require first manifestName (searchPath path) with
      | error failure => simp only [Bind.bind, Except.bind]
      | ok file =>
        have nearest := find?_of_search (require_eq_ok_iff.mp found)
        have read : first.read file.toString = second.read file.toString :=
          alike.read fun place located =>
            shown place (.manifest (eq_of_beq package) nearest located)
        simp only [Bind.bind, Except.bind, loadDependencies, loadJson_congr alike read]
    · rw [if_neg package, if_neg package]

end Congruence

end ImportOrder.Project
