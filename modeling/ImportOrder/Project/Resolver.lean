import ImportOrder.Locality.Probe
import ImportOrder.Project.Tsconfig

/-! The classifier that the files of a project call for. -/

namespace ImportOrder.Project

/-- The targets of an alias without their wildcards. -/
def aliasTargets (targets : List Document) : List String :=
  (targets.filterMap Document.text?).map fun target =>
    String.ofList (Text.dropTrailing '*' target.toList)

/-- Give an alias its targets: in its place if it has one, else at the end. -/
def putAlias (name : String) (targets : List String) :
    List (String × List String) → List (String × List String)
  | [] => [(name, targets)]
  | (known, old) :: rest =>
    if known == name then (known, targets) :: rest else (known, old) :: putAlias name targets rest

/-- The aliases of compiler options, without wildcards; an alias that is nothing else is left out.
-/
def aliasesOf (options : Entries) : List (String × List String) :=
  (((options.get? ProjectKey.paths).getD .null).entries).foldl (fun aliases (pattern, targets) =>
    -- Two patterns may differ in their wildcards only; then the later targets replace the earlier
    -- ones.
    let name := String.ofList (Text.dropTrailing '*' pattern.plain.toList)
    match targets with
    | .list targets => if name == "" then aliases else putAlias name (aliasTargets targets) aliases
    | _ => aliases) []

/-- Where the files of modules may be, by the compiler options of a directory. -/
def probeSettings (root : String) (directory : String) (options : Entries) : ProbeSettings :=
  { root
    baseUrl := ((options.get? ProjectKey.baseUrl).bind Document.text?).map fun base =>
      String.ofList (PathText.normalize (PathText.join directory.toList base.toList))
    aliases := aliasesOf options }

/-- What tells local from foreign modules: the names of dependencies, or the files of a project. -/
inductive Resolver
  | manifest (dependencies : List String)
  | probe (settings : ProbeSettings)
deriving DecidableEq, Repr

/-- The classifier of a resolver among some files. -/
def Resolver.classifier (files : FileTree) : Resolver → Classifier
  | .manifest dependencies => Manifest.classifier dependencies
  | .probe settings => Probe.classifier settings files.isFile

/-- The nearest file with a name, or the error that there is none. -/
def require (files : FileTree) (name path : String) : Except Failure Path := do
  match ← search files name path with
  | some found => return found
  | none => throw (.ofConfig name (.missing name path))

/-- The resolver that options name for a path; without a path the search starts in the working
directory. -/
def resolver (files : FileTree) (options : ResolverOptions) (path : String) :
    Except Failure Resolver := do
  let path := if path == "" then "." else path
  if options.type == "fs" then
    let found ← require files options.configName path
    let file ← loadProject files found.toString
    let compiler := ((file.get? ProjectKey.compilerOptions).getD .null).entries
    -- The directory of the first file is the root, whatever files it extends.
    let root := found.parent.toString
    return .probe (probeSettings root root compiler)
  else if options.type == "package" then
    let found ← require files manifestName path
    let dependencies ← loadDependencies files found.toString
    return .manifest dependencies
  else throw (.ofConfig "" (.unknownResolver options.type))

end ImportOrder.Project
