import ImportOrder.Locality.Manifest

/-! Local modules by the files of a project: a module is local if one of its candidate files exists.
A name that is too long to be looked up counts as one of a file that does not exist. -/

namespace ImportOrder

/-- Where the files of modules may be: below the root by alias, or below a base directory. -/
structure ProbeSettings where
  root : String
  baseUrl : Option String := none
  aliases : List (String × List String) := []
  extensions : List String := ["ts", "tsx", "js", "jsx"]
deriving DecidableEq, Repr

/-- Asking for files: the answer, with the names asked for added to those asked before. -/
abbrev Probe := StateM (List String)

namespace Probe

/-- Ask whether a file exists. -/
def ask (exists_ : String → Bool) (path : String) : Probe Bool := do
  modify (· ++ [path])
  return exists_ path

/-- Ask one question after the other up to the first that is answered by yes. -/
def any {β : Type} (question : β → Probe Bool) : List β → Probe Bool
  | [] => return false
  | item :: rest => do
    if ← question item then return true else any question rest

/-- Ask for a file: as it is, then, if it has no extension, as the index of a directory and with
each extension. -/
def file (settings : ProbeSettings) (exists_ : String → Bool) (path : String) : Probe Bool := do
  if ← ask exists_ path then return true
  else if extensionOf path != "" || settings.extensions.isEmpty then return false
  else
    any (fun extension => do
      let index := PathText.join path.toList ("index." ++ extension).toList
      -- The index of a directory comes before the file beside it.
      if ← ask exists_ (String.ofList index) then return true
      else ask exists_ (path ++ "." ++ extension)) settings.extensions

/-- The file that a module stands for below a target of an alias. -/
def aliasFile (settings : ProbeSettings) (target : String) (rest : Text) : String :=
  let base := PathText.join settings.root.toList target.toList
  String.ofList (PathText.normalize (PathText.join base rest))

/-- Ask for the files of a module below the targets of the aliases it starts with. -/
def aliased (settings : ProbeSettings) (exists_ : String → Bool) (specifier : String) :
    Probe Bool :=
  any (fun (lead, targets) =>
    match Text.after? lead.toList specifier.toList with
    | none => return false
    | some rest =>
      -- A rest with a slash in front would be an absolute path.
      let rest := rest.dropWhile (· == '/')
      any (fun target => file settings exists_ (aliasFile settings target rest)) targets)
    settings.aliases

/-- Ask whether a module is local: relative ones are, others by alias or below the base directory.
-/
def isLocal (settings : ProbeSettings) (exists_ : String → Bool) (specifier : String) :
    Probe Bool := do
  if isRelative specifier then return true
  else if ← aliased settings exists_ specifier then return true
  else
    match settings.baseUrl with
    | none => return false
    | some base =>
      -- A base without a name counts as none.
      if base == "" then return false
      else
        let path := PathText.normalize (PathText.join base.toList specifier.toList)
        file settings exists_ (String.ofList path)

/-- An answer and the names asked for. -/
def trace {β : Type} (probe : Probe β) : β × List String := probe.run []

/-- The classifier of the files that exist. -/
def classifier (settings : ProbeSettings) (exists_ : String → Bool) : Classifier :=
  ⟨fun specifier => (trace (isLocal settings exists_ specifier)).1, extensionOf⟩

end Probe

end ImportOrder
