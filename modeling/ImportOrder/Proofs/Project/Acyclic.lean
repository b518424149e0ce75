import ImportOrder.Proofs.Project.Extends
import Mathlib.Data.Fintype.Card
import Mathlib.Data.Set.Finite.Basic

/-! Project files that extend each other without a circle. The files have a finite listing, and
loading reports a circle if a file comes twice in it: a file that is extended along two ways is
taken for a circle. -/

namespace ImportOrder.Project

open Relation (ReflTransGen TransGen)

/-- A value that may be left out, and else is a mapping. -/
def mappingOrNone : Option Document → Bool
  | none => true
  | some (.mapping _) => true
  | some _ => false

/-- A value that may be left out, and else is a name or a list of names. -/
def namesOrNone : Option Document → Bool
  | none => true
  | some (.text _) => true
  | some (.list items) => items.all fun item => item.text?.isSome
  | some _ => false

/-- Whether a project file is as it should be: its compiler options are a mapping, it extends files
by names that can be followed, and its names are spelled in whole characters. -/
def wellFormedFile (files : FileTree) (names : List Text) (file : Entries) : Bool :=
  -- The base directory is left out. It is the other thing that can be wrong with such a file.
  mappingOrNone (file.get? ProjectKey.compilerOptions) &&
    namesOrNone (file.get? ProjectKey.extends_) && soundNames files names file && wholeNames file

/-- Whether a project file as it should be is at a place. -/
def wellFormedAt (files : FileTree) (names : List Text) : Bool :=
  (fileAt files names).toOption.any (wellFormedFile files names)

/-- Whether the base directory of the file at a place is named without a null character. -/
def hasBaseAt (files : FileTree) (names : List Text) : Bool :=
  (fileAt files names).toOption.any hasBase

section WellFormed

variable {files : FileTree} {names : List Text} {file : Entries}

/-- A mapping or nothing gives entries. -/
theorem givesEntries_of_mappingOrNone {value : Option Document}
    (mapping : mappingOrNone value = true) :
    givesEntries (value.getD .null) = true := by
  unfold mappingOrNone at mapping
  split at mapping
  · rfl
  · simp [givesEntries]
  · contradiction

/-- A name, a list of names or nothing names what is extended. -/
theorem givesNames_of_namesOrNone {value : Option Document} (named : namesOrNone value = true) :
    givesNames (value.getD .null) = true := by
  unfold namesOrNone at named
  split at named
  · rfl
  · simp [givesNames]
  · simp [givesNames]
  · contradiction

/-- A file as it should be is sound if and only if its base directory has a place. -/
theorem soundFile_of_wellFormed (wellFormed : wellFormedFile files names file = true) :
    soundFile file = hasBase file := by
  simp only [wellFormedFile, Bool.and_eq_true] at wellFormed
  obtain ⟨⟨⟨mapping, names_only⟩, -⟩, -⟩ := wellFormed
  -- Of the three conditions of a sound file only the base directory is open.
  have options : givesEntries (optionsValue file) = true := givesEntries_of_mappingOrNone mapping
  have named : givesNames (extendsValue file) = true := givesNames_of_namesOrNone names_only
  rw [soundFile, options, named, Bool.true_and, Bool.and_true]

/-- At the place of a file as it should be a file can be read. -/
theorem fileAt_of_wellFormed (wellFormed : wellFormedAt files names = true) :
    ∃ file, fileAt files names = .ok file ∧ wellFormedFile files names file = true := by
  unfold wellFormedAt at wellFormed
  cases loaded : fileAt files names with
  | error error => simp [loaded, Except.toOption] at wellFormed
  | ok file => exact ⟨file, rfl, by simpa [loaded, Except.toOption] using wellFormed⟩

/-- What a file as it should be extends can be followed. -/
theorem leads_of_wellFormed (wellFormed : wellFormedAt files names = true) : Leads files names := by
  obtain ⟨file, loaded, wellFormed⟩ := fileAt_of_wellFormed wellFormed
  simp only [wellFormedFile, Bool.and_eq_true] at wellFormed
  apply leads_of_soundNames
  -- There is one file at a place, so the names are those that were checked.
  intro other loaded'
  obtain rfl : file = other := Except.ok.inj (loaded.symm.trans loaded')
  exact wellFormed.1.2

/-- A file as it should be can be read if and only if its base directory has a place. -/
theorem readAt_of_wellFormed (wellFormed : wellFormedAt files names = true) :
    (∃ reading, readAt files names = .ok reading) ↔ hasBaseAt files names = true := by
  obtain ⟨file, loaded, wellFormed⟩ := fileAt_of_wellFormed wellFormed
  have base : hasBaseAt files names = soundFile file := by
    simp [hasBaseAt, loaded, Except.toOption, soundFile_of_wellFormed wellFormed]
  rw [base]
  -- A file has been loaded from the place, which leaves the last of the three ways of reading it.
  rcases readAt_cases files names with
    ⟨null, -⟩ | ⟨-, failure, failed, -⟩ | ⟨other, loaded', read⟩
  · rw [not_null_of_fileAt loaded] at null
    cases null
  · rw [failed] at loaded
    cases loaded
  · obtain rfl : file = other := Except.ok.inj (loaded.symm.trans loaded')
    rcases read with ⟨reading, read, sound⟩ | ⟨failure, read, -, unsound⟩
    · exact iff_of_true ⟨reading, read⟩ sound
    · exact iff_of_false (by simp [read]) (by simp [unsound])

end WellFormed

namespace Unfolds

variable {files : FileTree}

/-- Files that have listings have a common one. -/
theorem of_each {places : List (List Text)}
    (each : ∀ names ∈ places, ∃ listing, Unfolds files (followed files names) listing) :
    ∃ listing, Unfolds files places listing := by
  -- The listings are put one behind the other, in the order of the files.
  induction places with
  | nil => exact ⟨[], .nil⟩
  | cons names rest ih =>
    obtain ⟨first, later⟩ := List.forall_mem_cons.mp each
    obtain ⟨below, extended⟩ := first
    obtain ⟨others, rest_unfolds⟩ := ih later
    exact ⟨_, .cons extended rest_unfolds⟩

/-- A listing holds only files that are extended in one or more steps. -/
theorem reached {places listing : List (List Text)} (unfolds : Unfolds files places listing)
    {names : List Text} (member : names ∈ listing) :
    ∃ start ∈ places, ReflTransGen (Extends files) start names := by
  -- A listing is cut where it is made: a file, what lies below it, and the files behind it.
  induction unfolds with
  | nil => simp at member
  | @cons first rest below others _ _ ih_below ih_rest =>
    rcases List.mem_append.mp member with front | behind
    · rcases List.mem_cons.mp front with rfl | inside
      · exact ⟨names, by simp, .refl⟩
      · -- The file is below one that the first file extends.
        obtain ⟨parent, extended, way⟩ := ih_below inside
        exact ⟨first, by simp, .head extended way⟩
    · obtain ⟨start, later, way⟩ := ih_rest behind
      exact ⟨start, by simp [later], way⟩

end Unfolds

section Acyclic

variable {files : FileTree} {path : String}

/-- What the files without a circle extend has a listing. -/
theorem exists_unfolds (clear : ∀ name ∈ files.directory, '/' ∉ name)
    (readable : ∀ names, Reached files path names → ∃ file, fileAt files names = .ok file)
    (acyclic : ∀ names, Reached files path names → ¬ TransGen (Extends files) names names) :
    ∃ listing, Unfolds files (followed files (startOf files path)) listing := by
  -- The files reached are entries of the tree, so they are finitely many.
  have stored : ∀ names, Reached files path names → names ∈ files.entries.map Prod.fst := by
    intro names reached
    obtain ⟨file, loaded⟩ := readable names reached
    exact mem_entries_of_fileAt (reached.proper clear) loaded
  let Node := { names // Reached files path names }
  have finite : Finite Node :=
    Set.Finite.subset (List.finite_toSet (files.entries.map Prod.fst)) stored
  let below : Node → Node → Prop := fun parent node => TransGen (Extends files) node.1 parent.1
  -- The relation takes whole ways, not single steps. So a file below itself is a circle, and on
  -- finitely many places nothing goes down for ever.
  have : IsTrans Node below := ⟨fun a b c first second => second.trans first⟩
  have : Std.Irrefl below := ⟨fun node => acyclic node.1 node.2⟩
  have wellFounded : WellFounded below := Finite.wellFounded_of_trans_of_irrefl below
  -- By induction downwards, what a file extends has a listing.
  have each : ∀ node : Node, ∃ listing, Unfolds files (followed files node.1) listing := by
    intro node
    induction node using wellFounded.induction with
    | _ node ih =>
      apply Unfolds.of_each
      intro parent extended
      exact ih ⟨parent, node.2.tail extended⟩ (.single extended)
  exact each ⟨startOf files path, .refl⟩

/-- Loading a project ends as loading its file does. -/
theorem loadProject_of_ends {listing : List (List Text)}
    (ends : Ends files [] listing
      (loadFrom files (files.entries.length + 2) [] (startOf files path))) :
    (firstFailure? files [] listing = none → ∃ entries, loadProject files path = .ok entries) ∧
    ∀ failure, firstFailure? files [] listing = some failure →
      loadProject files path = .error failure := by
  -- Loading a project drops the places that have been seen, and keeps whether it fails.
  rw [loadProject_eq]
  unfold Ends at ends
  constructor
  · intro fine
    rw [fine] at ends
    obtain ⟨entries, ends⟩ := ends
    exact ⟨entries, by simp [ends, Except.map]⟩
  · intro failure wrong
    rw [wrong] at ends
    simp only [ends, Except.map]

/-- Project files that are as they should be and extend each other without a circle have a listing.
Such a project can be loaded if and only if no file comes twice in the listing and every base
directory has a place. Else loading fails with what is wrong with the first such file, and for a
file that comes again this is a circle. -/
theorem loadProject_acyclic (clear : ∀ name ∈ files.directory, '/' ∉ name)
    (wellFormed : ∀ names, Reached files path names → wellFormedAt files names = true)
    (acyclic : ∀ names, Reached files path names → ¬ TransGen (Extends files) names names) :
    ∃ below, Unfolds files (followed files (startOf files path)) below ∧
      ((∃ entries, loadProject files path = .ok entries) ↔
        (startOf files path :: below).Nodup ∧
          ∀ names ∈ startOf files path :: below, hasBaseAt files names = true) ∧
      ∀ failure, firstFailure? files [] (startOf files path :: below) = some failure →
        loadProject files path = .error failure := by
  have readable : ∀ names, Reached files path names → ∃ file, fileAt files names = .ok file := by
    intro names reached
    obtain ⟨file, loaded, -⟩ := fileAt_of_wellFormed (wellFormed names reached)
    exact ⟨file, loaded⟩
  -- From here on the proof follows the listing: all that loading does is told by its files in
  -- order.
  obtain ⟨below, unfolds⟩ := exists_unfolds clear readable acyclic
  have reached : ∀ names ∈ startOf files path :: below, Reached files path names := by
    intro names member
    rcases List.mem_cons.mp member with rfl | inside
    · exact .refl
    · obtain ⟨parent, extended, way⟩ := unfolds.reached inside
      exact .head extended way
  have leads : ∀ names, Reached files path names → Leads files names :=
    fun names reached => leads_of_wellFormed (wellFormed names reached)
  -- At the start nothing is loaded, and the fuel is for all files of the tree.
  have reserve : Reserve files (files.entries.length + 2) [] [] := ⟨.nil, by simp, by simp, by simp⟩
  obtain ⟨loads, fails⟩ := loadProject_of_ends (Ends.load
    (Reached.proper clear .refl) (leads _ .refl)
    (fun reserve => unfolds.ends
      (fun parent extended => Reached.proper clear (.single extended))
      (fun names member => leads names (reached names (List.mem_cons_of_mem _ member))) reserve [])
    reserve)
  -- Nothing is wrong on the way exactly if no file comes twice and each can be read.
  have fine : firstFailure? files [] (startOf files path :: below) = none ↔
      (startOf files path :: below).Nodup ∧
        ∀ names ∈ startOf files path :: below, hasBaseAt files names = true := by
    rw [firstFailure?_eq_none_iff]
    refine and_congr_right fun _ => ⟨fun all names member => ?_, fun all => ⟨by simp, ?_⟩⟩
    · exact (readAt_of_wellFormed (wellFormed names (reached names member))).mp (all.2 names member)
    · intro names member
      exact (readAt_of_wellFormed (wellFormed names (reached names member))).mpr (all names member)
  refine ⟨below, unfolds, ?_, fails⟩
  rw [← fine]
  refine ⟨fun loaded => ?_, loads⟩
  -- A load that ends well had nothing wrong on its way.
  obtain ⟨entries, loaded⟩ := loaded
  cases wrong : firstFailure? files [] (startOf files path :: below) with
  | none => rfl
  | some failure =>
    rw [fails failure wrong] at loaded
    cases loaded

/-- Places that are in order have no circle. -/
theorem acyclic_of_inOrder {places : List (List Text)} (ordered : inOrder files places = true)
    {names : List Text} (inside : names ∈ places) : ¬ TransGen (Extends files) names names := by
  -- Every step leads further along the places.
  have further : ∀ other, TransGen (Extends files) names other →
      other ∈ places ∧ places.idxOf names < places.idxOf other := by
    intro other way
    -- The induction is on the way, with its last step added behind.
    induction way with
    | single extended => exact behind_of_inOrder ordered inside extended
    | tail _ extended ih =>
      obtain ⟨behind, less⟩ := behind_of_inOrder ordered ih.1 extended
      exact ⟨behind, by omega⟩
  intro circle
  have less := (further names circle).2
  omega

end Acyclic

/-- A project file that extends two files, one of which extends a third one. -/
def fork : FileTree where
  entries :=
    [rootFile "tsconfig.json" "\x7b\"extends\": [\"./a\", \"./b.json\", \"@pkg/c\"]\x7d",
      rootFile "a.json" "\x7b\"extends\": \"./base.json\"\x7d", rootFile "b.json" "\x7b\x7d",
      rootFile "base.json" "\x7b\"compilerOptions\": \x7b\"baseUrl\": \".\"\x7d\x7d"]

/-- The places of the files of a fork, or of a diamond. -/
def forkPlaces : List (List Text) :=
  ["tsconfig.json", "a.json", "b.json", "base.json"].map fun name => [name.toList]

/-- A file that extends others along different ways can be loaded. -/
theorem loadProject_acyclic_fork :
    (∀ names, Reached fork "tsconfig.json" names → wellFormedAt fork names = true) ∧
    (∀ names, Reached fork "tsconfig.json" names → ¬ TransGen (Extends fork) names names) ∧
    ∃ below, Unfolds fork (followed fork (startOf fork "tsconfig.json")) below ∧
      ((∃ entries, loadProject fork "tsconfig.json" = .ok entries) ↔
        (startOf fork "tsconfig.json" :: below).Nodup ∧
          ∀ names ∈ startOf fork "tsconfig.json" :: below, hasBaseAt fork names = true) ∧
      ∀ failure, firstFailure? fork [] (startOf fork "tsconfig.json" :: below) = some failure →
        loadProject fork "tsconfig.json" = .error failure := by
  -- The order of the places shows that there is no circle, and that nothing else is reached.
  have ordered : inOrder fork forkPlaces = true := by decide +kernel
  have start : startOf fork "tsconfig.json" ∈ forkPlaces := by decide +kernel
  have wellFormed : ∀ names ∈ forkPlaces, wellFormedAt fork names = true := by decide +kernel
  have acyclic : ∀ names, Reached fork "tsconfig.json" names →
      ¬ TransGen (Extends fork) names names :=
    fun names reached => acyclic_of_inOrder ordered (reached.mem_of_inOrder ordered start)
  exact ⟨fun names reached => wellFormed names (reached.mem_of_inOrder ordered start), acyclic,
    loadProject_acyclic (by decide)
      (fun names reached => wellFormed names (reached.mem_of_inOrder ordered start)) acyclic⟩

/-- A project file that extends two files, both of which extend a third one. -/
def diamond : FileTree where
  entries :=
    [rootFile "tsconfig.json" "\x7b\"extends\": [\"./a.json\", \"./b.json\"]\x7d",
      rootFile "a.json" "\x7b\"extends\": \"./base.json\"\x7d",
      rootFile "b.json" "\x7b\"extends\": \"./base.json\"\x7d", rootFile "base.json" "\x7b\x7d"]

/-- The message of what fails. -/
def failureMessage? {α : Type} : Except Failure α → Option String
  | .ok _ => none
  | .error failure => some failure.message

/-- A file that is extended along two ways is reported as a circle, though there is none. -/
theorem loadProject_diamond :
    (∀ names, Reached diamond "tsconfig.json" names → wellFormedAt diamond names = true) ∧
    (∀ names, Reached diamond "tsconfig.json" names → ¬ TransGen (Extends diamond) names names) ∧
    failureMessage? (loadProject diamond "tsconfig.json") =
      some "Cannot load /base.json: circular extends chain through /base.json" := by
  have ordered : inOrder diamond forkPlaces = true := by decide +kernel
  have start : startOf diamond "tsconfig.json" ∈ forkPlaces := by decide +kernel
  have wellFormed : ∀ names ∈ forkPlaces, wellFormedAt diamond names = true := by decide +kernel
  exact ⟨fun names reached => wellFormed names (reached.mem_of_inOrder ordered start),
    fun names reached => acyclic_of_inOrder ordered (reached.mem_of_inOrder ordered start),
    by decide +kernel⟩

end ImportOrder.Project
