import ImportOrder.Locality.Probe
import ImportOrder.Proofs.Text.Pieces

/-! Asking for the files of a module is one scan. The loops over aliases, their targets and the
extensions, each of which ends at the first file that exists, ask for the members of one list of
candidates from the first on, and stop behind the first that exists. -/

namespace ImportOrder.Probe

/-- What is asked for of a list of files: all of them up to the first that exists. -/
def asked (exists_ : String → Bool) (files : List String) : List String :=
  files.take (files.findIdx exists_ + 1)

/-- The files that a path may stand for: itself and, if it has no extension and extensions are
tried, for each extension the index of a directory and the path with the extension. -/
def expansion (settings : ProbeSettings) (path : String) : List String :=
  if extensionOf path != "" || settings.extensions.isEmpty then [path]
  else
    -- The index of a directory goes before the file beside it, extension by extension.
    path :: settings.extensions.flatMap fun extension =>
      [String.ofList (PathText.join path.toList ("index." ++ extension).toList),
        path ++ "." ++ extension]

/-- The files that a module may stand for below the targets of one alias: none, unless the module
starts with the alias. -/
def aliasCandidates (settings : ProbeSettings) (specifier lead : String) (targets : List String) :
    List String :=
  if lead.toList <+: specifier.toList then
    -- An alias may end with a slash or not: the rest never starts at the root.
    let rest := (specifier.toList.drop lead.toList.length).dropWhile (· == '/')
    targets.flatMap fun target => expansion settings (aliasFile settings target rest)
  else []

/-- The files that a module may stand for below the base directory: none, unless one is set. -/
def baseCandidates (settings : ProbeSettings) (specifier : String) : List String :=
  match settings.baseUrl with
  | none => []
  | some base =>
    if base = "" then []
    else
      let path := PathText.normalize (PathText.join base.toList specifier.toList)
      expansion settings (String.ofList path)

/-- The files that a module may stand for, in the order in which they are tried. -/
def candidates (settings : ProbeSettings) (specifier : String) : List String :=
  (settings.aliases.flatMap fun (lead, targets) =>
    aliasCandidates settings specifier lead targets) ++ baseCandidates settings specifier

section Asked

variable (exists_ : String → Bool)

/-- Of no files none is asked for. -/
@[simp] theorem asked_nil : asked exists_ [] = [] := rfl

/-- The first file is asked for, and the others only if it does not exist. -/
theorem asked_cons (file : String) (files : List String) :
    asked exists_ (file :: files) =
      file :: if exists_ file then [] else asked exists_ files := by
  unfold asked
  rw [List.findIdx_cons]
  -- The first file that exists is at the first place, or one place behind where the others have it.
  cases exists_ file <;> simp

/-- Files behind others are asked for only if none of those exists. -/
theorem asked_append (files others : List String) :
    asked exists_ (files ++ others) =
      asked exists_ files ++ if files.any exists_ then [] else asked exists_ others := by
  induction files with
  | nil => simp
  | cons file files ih =>
    rw [List.cons_append, asked_cons, asked_cons, ih]
    -- If the first file exists, both sides stop behind it.
    cases found : exists_ file with
    | true => simp [found]
    | false => simp [found]

end Asked

/-- A step behind another one starts from what that has answered and asked for. -/
theorem run_bind {β γ : Type} (first : Probe β) (next : β → Probe γ) (before : List String) :
    (first >>= next).run before = (next (first.run before).1).run (first.run before).2 := rfl

/-- A question that is a scan of files: the answer is whether one of them exists, and it asks for
them up to the first that does. -/
def Scans (exists_ : String → Bool) (question : Probe Bool) (files : List String) : Prop :=
  -- What was asked for before stays general, so that scans can follow each other.
  ∀ before, question.run before = (files.any exists_, before ++ asked exists_ files)

namespace Scans

variable {exists_ : String → Bool}

/-- No question is a scan of no files. -/
theorem none : Scans exists_ (return false) [] := by
  intro before
  simp only [asked_nil, List.append_nil, List.any_nil]
  rfl

/-- One question is a scan of one file. -/
theorem ask (path : String) : Scans exists_ (ask exists_ path) [path] := by
  intro before
  simp only [asked_cons, asked_nil, ite_self, List.any_cons, List.any_nil, Bool.or_false]
  rfl

/-- A scan behind another one, for the case that this finds no file, is a scan of both lists. -/
theorem orElse {first second : Probe Bool} {files others : List String}
    (scans : Scans exists_ first files) (scans' : Scans exists_ second others) :
    Scans exists_ (do if ← first then return true else second) (files ++ others) := by
  intro before
  rw [run_bind, scans before, asked_append, List.any_append]
  cases files.any exists_ with
  | true =>
    -- The first scan has found a file, so the second is not made.
    simp only [if_true, List.append_nil, Bool.true_or]
    rfl
  | false =>
    simp only [Bool.false_eq_true, if_false, Bool.false_or, ← List.append_assoc]
    exact scans' _

/-- One scan after the other, up to the first that finds a file, is a scan of all their lists. -/
theorem any {β : Type} {question : β → Probe Bool} {filesOf : β → List String} {items : List β}
    (each : ∀ item, Scans exists_ (question item) (filesOf item)) :
    Scans exists_ (Probe.any question items) (items.flatMap filesOf) := by
  -- Each turn of the loop is a scan in front of that of the remaining turns.
  induction items with
  | nil => exact none
  | cons item rest ih =>
    rw [List.flatMap_cons]
    exact (each item).orElse ih

end Scans

section Questions

variable (settings : ProbeSettings) (exists_ : String → Bool)

/-- Asking for a path is a scan of the files that it may stand for. -/
theorem file_scans (path : String) :
    Scans exists_ (file settings exists_ path) (expansion settings path) := by
  unfold file expansion
  -- Both sides ask whether the path is to be tried with extensions.
  cases extensionOf path != "" || settings.extensions.isEmpty with
  | true => exact (Scans.ask path).orElse Scans.none
  | false =>
    -- Each extension is a scan of two files.
    refine (Scans.ask path).orElse (Scans.any fun extension => ?_)
    exact (Scans.ask _).orElse (Scans.ask _)

/-- Asking for a module by alias is a scan of its files below the targets of all aliases. -/
theorem aliased_scans (specifier : String) :
    Scans exists_ (aliased settings exists_ specifier)
      (settings.aliases.flatMap fun (lead, targets) =>
        aliasCandidates settings specifier lead targets) := by
  -- The loop over aliases asks in each turn for nothing or for the files below all targets.
  apply Scans.any
  intro (lead, targets)
  unfold aliasCandidates
  dsimp only
  rw [Text.after?_eq]
  by_cases starts : lead.toList <+: specifier.toList
  · rw [if_pos starts, if_pos starts]
    exact Scans.any fun target => file_scans settings exists_ _
  · -- A module that does not start with the alias asks for nothing.
    rw [if_neg starts, if_neg starts]
    exact Scans.none

/-- Asking whether a module is local is a scan of its candidates, unless it is relative. -/
theorem isLocal_scans {specifier : String} (absolute : isRelative specifier = false) :
    Scans exists_ (isLocal settings exists_ specifier) (candidates settings specifier) := by
  unfold isLocal candidates
  rw [absolute, if_neg Bool.false_ne_true]
  refine (aliased_scans settings exists_ specifier).orElse ?_
  -- Without a base directory, or with an empty one, the scan ends with the aliases.
  unfold baseCandidates
  cases settings.baseUrl with
  | none => exact Scans.none
  | some base =>
    dsimp only
    by_cases unset : base = ""
    · rw [if_pos unset, if_pos (by simp [unset])]
      exact Scans.none
    · rw [if_neg unset, if_neg (by simp [unset])]
      exact file_scans settings exists_ _

end Questions

/-- A relative module is local and nothing is asked for. Any other module is local exactly if one of
its candidates exists, and the files asked for are the candidates up to the first that does. -/
theorem isLocal_first_hit (settings : ProbeSettings) (exists_ : String → Bool)
    (specifier : String) :
    (['.'] <+: specifier.toList →
      trace (isLocal settings exists_ specifier) = (true, [])) ∧
    (¬ ['.'] <+: specifier.toList →
      ((trace (isLocal settings exists_ specifier)).1 = true ↔
        ∃ file ∈ candidates settings specifier, exists_ file = true) ∧
      (trace (isLocal settings exists_ specifier)).2 =
        (candidates settings specifier).take
          ((candidates settings specifier).findIdx exists_ + 1)) := by
  refine ⟨?_, ?_⟩
  · -- A relative module is decided before any question.
    intro starts
    unfold isLocal
    rw [isRelative_iff.mpr starts, if_pos rfl]
    rfl
  · intro other
    have absolute : isRelative specifier = false := by
      rw [← Bool.not_eq_true, isRelative_iff]
      exact other
    -- The trace of a question starts with no file asked for.
    have scanned : trace (isLocal settings exists_ specifier) =
        ((candidates settings specifier).any exists_,
          [] ++ asked exists_ (candidates settings specifier)) :=
      isLocal_scans settings exists_ absolute []
    rw [scanned]
    exact ⟨List.any_eq_true, rfl⟩

/-- A project with an alias of two targets and a base directory. -/
def aliasedProject : ProbeSettings where
  root := "/p"
  baseUrl := some "/p/src"
  aliases := [("@/", ["lib", "gen/../out"])]
  extensions := ["ts"]

/-- A file below the second target is found as the last of six; the base directory is not tried. -/
theorem isLocal_first_hit_target :
    ¬ ['.'] <+: "@//a".toList ∧
    (trace (isLocal aliasedProject (· == "/p/out/a.ts") "@//a")).1 = true ∧
    (trace (isLocal aliasedProject (· == "/p/out/a.ts") "@//a")).2 =
      ["/p/lib/a", "/p/lib/a/index.ts", "/p/lib/a.ts", "/p/out/a", "/p/out/a/index.ts",
        "/p/out/a.ts"] := by
  have other : ¬ ['.'] <+: "@//a".toList := by decide
  have files : candidates aliasedProject "@//a" =
      ["/p/lib/a", "/p/lib/a/index.ts", "/p/lib/a.ts", "/p/out/a", "/p/out/a/index.ts",
        "/p/out/a.ts", "/p/src/@/a", "/p/src/@/a/index.ts", "/p/src/@/a.ts"] := by
    decide +kernel
  obtain ⟨answer, asked_eq⟩ :=
    (isLocal_first_hit aliasedProject (· == "/p/out/a.ts") "@//a").2 other
  rw [files] at answer asked_eq
  refine ⟨other, answer.mpr ⟨"/p/out/a.ts", by decide, by decide⟩, ?_⟩
  rw [asked_eq]
  decide

end ImportOrder.Probe
