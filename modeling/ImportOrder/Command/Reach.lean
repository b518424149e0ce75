import ImportOrder.Command.Run

/-! The paths that a run may look at, as far as the files known so far tell. A file that becomes
known can lead to further paths, so whoever gathers files asks again until nothing new comes up. -/

namespace ImportOrder.Command

namespace Reach

/-- The paths where a search for a name may look. -/
def search (files : FileTree) (name path : String) : List String :=
  (Project.candidates files name path).map Path.toString

/-- The paths that loading a project file looks at: the file and those it extends, each of them with
and without the extension of project files. -/
def projectFile (files : FileTree) : (fuel : Nat) → List Text → List String
  | 0, _ => []
  | fuel + 1, names =>
    let path := (Path.absolute names).toString
    let file := ((Project.loadJson files path true).toOption.getD .null).entries
    -- A file that cannot be read yet extends nothing: it is asked for again when it is known.
    let targets := ((Project.extendsOf file).toOption.getD []).filterMap Document.text?
    path :: targets.flatMap fun target =>
      let plain := Path.resolve names.dropLast (Path.ofString target)
      match Project.extendsPath files names.dropLast target with
      | .ok (some found) => (Path.absolute plain).toString :: projectFile files fuel found
      | _ => []

/-- The paths that finding the resolver of a path looks at. -/
def resolver (files : FileTree) (options : ResolverOptions) (path : String) : List String :=
  if options.type == "fs" then
    search files options.configName path ++
      match Project.find? files options.configName path with
      | some found => projectFile files (files.entries.length + 2) (Path.resolve [] found)
      | none => []
  else search files Project.manifestName path

/-- The paths that telling local from foreign modules looks at. -/
def modules (files : FileTree) (options : ResolverOptions) (path : String) (source : Text) :
    List String :=
  match Project.resolver files options path, Source.imports path source with
  | .ok (.probe settings), .ok statements =>
    statements.flatMap fun statement =>
      (Probe.isLocal settings files.isFile statement.specifier).trace.2
  | _, _ => []

/-- The paths that sorting one source looks at. -/
def source (files : FileTree) (config : Option String) (path : String) (source : Text) :
    List String :=
  let place := if path == "" then "." else path
  let file := (optionsFile? files config path).map Path.toString
  let entries := (file.bind fun file => (Project.loadOptions files file).toOption).getD []
  let options := Options.ofDocument (.mapping entries)
  -- The place itself decides whether the search starts in it or beside it.
  place :: (search files Project.optionsName place ++ file.toList ++
    resolver files options.resolver place ++ modules files options.resolver place source ++
    [options.logging.directory, (Log.fileIn options.logging.directory).toString])

/-- The paths that a run looks at. -/
def run (files : FileTree) (input : Text) (arguments : Arguments) : List String :=
  (given arguments.config).toList ++
    if arguments.stdin then
      source files arguments.config ((given arguments.filename).getD "") (Text.unifyBreaks input)
    else
      arguments.files.flatMap fun path =>
        source files arguments.config path ((readSource files path).toOption.getD [])

end Reach

end ImportOrder.Command
