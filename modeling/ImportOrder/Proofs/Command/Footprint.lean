import ImportOrder.Proofs.Command.Verdict
import ImportOrder.Proofs.Project.Reads

/-! What a file comes to depends on its own content and on the configuration files that are read for
it, and writing it changes its own place only. -/

namespace ImportOrder.Command

open FileTree (Alike)

/-- The places of the configuration files that are read for a file: its options file, and what
finding the resolver reads. -/
inductive Configures (files : FileTree) (config : Option String) (path : String) :
    List Text → Prop
  | options {source : Text} {file : Path} {place : List Text}
      (read : readSource files path = .ok source)
      (found : optionsFile? files config path = some file)
      (located : files.locate file.toString = .ok place) : Configures files config path place
  | resolver {source : Text} {entries : Entries} {place : List Text}
      (read : readSource files path = .ok source)
      (options : optionsAt files config path = .ok entries)
      (consults : Project.Consults files (Options.ofDocument (.mapping entries)).resolver path place) :
      Configures files config path place

/-- The places whose contents matter for a file. -/
def Inspects (files : FileTree) (config : Option String) (path : String) (place : List Text) : Prop :=
  files.locate path = .ok place ∨ Configures files config path place

section Congruence

variable {hidden : List Text → Prop} {first second : FileTree} {config : Option String}
  {path : String}

theorem optionsFile?_congr (alike : Alike hidden first second) :
    optionsFile? first config path = optionsFile? second config path := by
  simp only [optionsFile?, Project.findOptions?, alike.find?]

theorem readSource_congr (read : first.read path = second.read path) :
    readSource first path = readSource second path := by
  unfold readSource
  rw [read]

theorem vetted_congr {source : String} (read : first.read source = second.read source) :
    vetted first source = vetted second source := by
  unfold vetted
  rw [Project.loadOptions_congr read]

theorem sorting_congr (alike : Alike hidden first second) {options : Options} {source : Text}
    (shown : ∀ place, Project.Consults first options.resolver path place → ¬hidden place) :
    sorting first options path source = sorting second options path source := by
  unfold sorting
  -- Behind the resolver only the existence of files matters.
  rw [Project.resolver_congr alike shown]
  cases Project.resolver second options.resolver path with
  | error failure => rfl
  | ok resolver => simp only [alike.classifier]

variable (alike : Alike hidden first second)
  (shown : ∀ place, Inspects first config path place → ¬hidden place)

include alike shown

theorem readSource_eq : readSource first path = readSource second path :=
  readSource_congr (alike.read fun place located => shown place (.inl located))

/-- The options file of a file that can be read says the same. -/
theorem vetted_eq {source : String} (consulted : consulted? first config path = some source) :
    vetted first source = vetted second source := by
  unfold consulted? at consulted
  cases read : readSource first path with
  | error message => simp [read] at consulted
  | ok text =>
    simp only [read] at consulted
    obtain ⟨file, found, rfl⟩ := Option.map_eq_some_iff.mp consulted
    -- The place of the options file is one of those that matter.
    exact vetted_congr (alike.read fun place located =>
      shown place (.inr (.options read found located)))

theorem consulted?_eq : consulted? first config path = consulted? second config path := by
  unfold consulted?
  rw [← readSource_eq alike shown, ← optionsFile?_congr alike]

theorem optionsAt_eq {source : Text} (read : readSource first path = .ok source) :
    optionsAt first config path = optionsAt second config path := by
  unfold optionsAt
  rw [← optionsFile?_congr alike]
  cases found : optionsFile? first config path with
  | none => rfl
  | some file =>
    -- A file that can be read consults the options file that is found for it.
    have consulted : consulted? first config path = some file.toString := by
      simp [consulted?, read, found]
    simp only [vetted_eq alike shown consulted]

/-- What a file comes to depends on the places that matter for it only. -/
theorem verdict_eq : verdict first config path = verdict second config path := by
  -- The file is read, then its options, and then what finding the resolver needs.
  unfold verdict judged
  rw [← readSource_eq alike shown]
  cases read : readSource first path with
  | error message => rfl
  | ok source =>
    simp only [← optionsAt_eq alike shown read]
    cases options : optionsAt first config path with
    | error failure => rfl
    | ok entries =>
      have sorted : sorting first (.ofDocument (.mapping entries)) path source =
          sorting second (.ofDocument (.mapping entries)) path source :=
        sorting_congr alike fun place consults =>
          shown place (.inr (.resolver read options consults))
      simp only [sorted]

theorem quiet_of_alike (quiet : Quiet first config path) : Quiet second config path := by
  intro source entries read options
  -- Both questions are carried back to the first tree.
  rw [← readSource_eq alike shown] at read
  rw [← optionsAt_eq alike shown read] at options
  exact quiet source entries read options

end Congruence

section Settling

variable {hidden : List Text → Prop} {first second files : FileTree} {config : Option String}
  {path : String} {check : Bool} {result : Except String SortResult}

/-- Whether a file can be written does not depend on what files hold. -/
theorem settled_fst_eq (alike : Alike hidden first second) :
    (settled check first path result).1 = (settled check second path result).1 := by
  cases result with
  | error message => rfl
  | ok result =>
    -- Whether a place can be written is told by kinds and locks.
    simp only [settled, FileTree.write_eq, ← alike.writable]
    split
    · rfl
    · cases first.writable path <;> rfl

/-- What a file holds in the end does not depend on what hidden places hold. -/
theorem settled_entry_eq (alike : Alike hidden first second) {names : List Text}
    (located : first.locate path = .ok names) (shown : ¬hidden names) :
    FileTree.entry? (settled check first path result).2 names =
      FileTree.entry? (settled check second path result).2 names := by
  have same := alike.visible names shown
  cases result with
  | error message => exact same
  | ok result =>
    simp only [settled, FileTree.write_eq, ← alike.writable]
    split
    · exact same
    · cases writable : first.writable path with
      | error error => exact same
      | ok found =>
        -- Both trees get the same content at the place of the file.
        obtain rfl := FileTree.writable_eq_locate located writable
        have below := FileTree.below_of_writable writable
        simp only [Except.map, FileTree.entry?_put below]

/-- A file that has a result can be read. -/
theorem read_of_verdict {result : SortResult} {warning : String}
    (decided : verdict files config path = .ok (.ok result, warning)) :
    ∃ content, files.read path = .ok content := by
  unfold verdict readSource at decided
  cases read : files.read path with
  | error error => simp [read] at decided
  | ok content => exact ⟨content, rfl⟩

/-- Settling a file that can be read if it has a result changes its own place at most. -/
theorem settled_alike
    (read : ∀ sorted, result = .ok sorted → ∃ content, files.read path = .ok content) :
    Alike (fun names => files.locate path = .ok names) files (settled check files path result).2 := by
  -- Only a result is written, and only where it differs.
  cases result with
  | error message => exact .refl _ files
  | ok result =>
    simp only [settled, FileTree.write_eq]
    split
    · exact .refl _ files
    · cases writable : files.writable path with
      | error error => exact .refl _ files
      | ok found =>
        -- The file was read, so writing it replaces what is there.
        obtain ⟨content, read⟩ := read result rfl
        obtain ⟨names, located, there⟩ := FileTree.read_eq_ok read
        obtain rfl := FileTree.writable_eq_locate located writable
        exact (Alike.put there _).mono fun names same => by rw [located, same]

end Settling

end ImportOrder.Command
