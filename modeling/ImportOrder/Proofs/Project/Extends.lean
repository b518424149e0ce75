import ImportOrder.Proofs.Project.Places
import ImportOrder.Proofs.Project.Shape
import Mathlib.Data.List.Perm.Subperm
import Mathlib.Logic.Relation

/-! Loading a project file comes to the files that it extends one by one, each in front of those
that it extends itself. The load ends well if all of them can be read and none comes twice, and else
with the failure of the first file for which this is not so. -/

namespace ImportOrder.Project

/-- What a project file says of itself: its entries, its own options, and what it extends. -/
structure Reading where
  file : Entries
  own : Entries
  targets : List Document

/-- The entries of the project file at a place. -/
def fileAt (files : FileTree) (names : List Text) : Except Failure Entries := do
  let path := (Path.absolute names).toString
  let value ← loadJson files path true
  requireMapping path value

/-- Read the project file at a place, without the files that it extends. -/
def readAt (files : FileTree) (names : List Text) : Except Failure Reading := do
  -- A place can come from a path with a null character; nothing there can be opened.
  if names.any PathText.hasNull then throw .nullInPath
  let file ← fileAt files names
  let own ← ownOptions names file
  let targets ← extendsOf file
  return ⟨file, own, targets⟩

/-- The entries of a file that inherits options. -/
def Reading.inherit (reading : Reading) (merged : Entries) : Entries :=
  Entries.insert (.text ProjectKey.compilerOptions) (.mapping (merged.update reading.own))
    reading.file

/-- The report of a circle at a place. -/
def circularAt (names : List Text) : Failure :=
  .ofConfig (Path.absolute names).toString (.circular (Path.absolute names).toString)

/-- A file that was not loaded before is read, and then those that it extends are collected. -/
theorem loadFrom_succ (files : FileTree) (fuel : Nat) (seen : Seen) (names : List Text) :
    loadFrom files (fuel + 1) seen names =
      if seen.contains names then .error (circularAt names)
      else do
        let reading ← readAt files names
        let (merged, seen) ←
          collect files names.dropLast (loadFrom files fuel) (names :: seen) [] reading.targets
        return (reading.inherit merged, seen) := by
  rw [loadFrom]
  by_cases again : seen.contains names = true
  · simp only [if_pos again]
    rfl
  · -- Both sides read the same parts of the file in the same order.
    simp only [if_neg again, readAt, fileAt]
    cases names.any PathText.hasNull with
    | true => rfl
    | false =>
      simp only [Bool.false_eq_true, if_false, bind_assoc, pure_bind]
      rfl

/-- The place of a file that is named to be extended: none for a package and for what is no name. -/
def targetPlace? (files : FileTree) (directory : List Text) : Document → Option (List Text)
  | .text target => (extendsPath files directory target).toOption.join
  | _ => none

/-- The places of the files that a project file extends, as it lists them. -/
def followed (files : FileTree) (names : List Text) : List (List Text) :=
  -- A file that cannot be read extends nothing.
  let targets := (fileAt files names).toOption.bind fun file => (extendsOf file).toOption
  (targets.getD []).filterMap (targetPlace? files names.dropLast)

/-- One project file extends another. -/
def Extends (files : FileTree) (names parent : List Text) : Prop := parent ∈ followed files names

/-- Every name that the project file at a place gives to be extended can be followed. -/
def Leads (files : FileTree) (names : List Text) : Prop :=
  ∀ reading, readAt files names = .ok reading → ∀ target, .text target ∈ reading.targets →
    ∃ place?, extendsPath files names.dropLast target = .ok place?

/-- The file at a place has a text. -/
theorem jsonText?_of_fileAt {files : FileTree} {names : List Text} {file : Entries}
    (loaded : fileAt files names = .ok file) :
    ∃ text, jsonText? files (Path.absolute names).toString true = some text := by
  unfold fileAt at loaded
  cases value : loadJson files (Path.absolute names).toString true with
  | error failure => simp [value, Bind.bind, Except.bind] at loaded
  | ok document =>
    obtain ⟨text, spelled, -⟩ := read_of_loadJson value
    exact ⟨text, spelled⟩

/-- There is no file at a place with a null character. -/
theorem not_null_of_fileAt {files : FileTree} {names : List Text} {file : Entries}
    (loaded : fileAt files names = .ok file) : names.any PathText.hasNull = false := by
  obtain ⟨text, spelled⟩ := jsonText?_of_fileAt loaded
  have clear : PathText.hasNull (Path.absolute names).toString.toList = false :=
    (read_of_jsonText? spelled).1
  rw [Path.toList_absolute, PathText.hasNull, List.contains_eq_mem, decide_eq_false_iff_not] at clear
  rw [List.any_eq_false]
  -- A name stands whole in the path that spells its place.
  intro name member null
  have inside : Char.ofNat 0 ∈ name := by simpa [PathText.hasNull] using null
  exact clear (List.mem_cons_of_mem _ (PathText.subset_unite member inside))

/-- At a place with a null character nothing is read. -/
theorem readAt_null {files : FileTree} {names : List Text}
    (null : names.any PathText.hasNull = true) : readAt files names = .error .nullInPath := by
  rw [readAt, if_pos null]
  rfl

/-- At every other place the file is read, and what it says of itself. -/
theorem readAt_eq_bind {files : FileTree} {names : List Text}
    (clear : names.any PathText.hasNull = false) :
    readAt files names = (do
      let file ← fileAt files names
      let own ← ownOptions names file
      let targets ← extendsOf file
      return ⟨file, own, targets⟩) := by
  rw [readAt, if_neg (by simp [clear])]

/-- What can be read is at a place without a null character. -/
theorem not_null_of_readAt {files : FileTree} {names : List Text} {reading : Reading}
    (read : readAt files names = .ok reading) : names.any PathText.hasNull = false := by
  cases null : names.any PathText.hasNull with
  | false => rfl
  | true =>
    rw [readAt_null null] at read
    cases read

/-- A reading shows the file, the options of its own and what it extends. -/
theorem readAt_eq_ok {files : FileTree} {names : List Text} {reading : Reading}
    (read : readAt files names = .ok reading) :
    fileAt files names = .ok reading.file ∧ ownOptions names reading.file = .ok reading.own ∧
      extendsOf reading.file = .ok reading.targets := by
  rw [readAt_eq_bind (not_null_of_readAt read)] at read
  -- The steps are undone one by one, each of which has to end well.
  cases loaded : fileAt files names with
  | error failure => simp [loaded, Bind.bind, Except.bind] at read
  | ok file =>
    simp only [loaded, Bind.bind, Except.bind] at read
    cases own : ownOptions names file with
    | error failure => simp [own] at read
    | ok options =>
      cases named : extendsOf file with
      | error failure => simp [own, named] at read
      | ok targets =>
        simp only [own, named, Pure.pure, Except.pure, Except.ok.injEq] at read
        exact ⟨by rw [← read], by rw [← read, own], by rw [← read, named]⟩

/-- Reading a project file fails as reading the mapping does, and in a way of its own if the place
has a null character or the mapping is not sound. -/
theorem readAt_cases (files : FileTree) (names : List Text) :
    (names.any PathText.hasNull = true ∧ readAt files names = .error .nullInPath) ∨
    (names.any PathText.hasNull = false ∧ ∃ failure, fileAt files names = .error failure ∧
      readAt files names = .error failure) ∨
      ∃ file, fileAt files names = .ok file ∧
        ((∃ reading, readAt files names = .ok reading ∧ soundFile file = true) ∨
          ∃ failure, readAt files names = .error failure ∧ failure.isConfig = false ∧
            soundFile file = false) := by
  cases null : names.any PathText.hasNull with
  | true => exact .inl ⟨rfl, readAt_null null⟩
  | false =>
    rw [readAt_eq_bind null]
    refine .inr ?_
    unfold soundFile
    cases loaded : fileAt files names with
    | error failure => exact .inl ⟨rfl, failure, rfl, rfl⟩
    | ok file =>
      refine .inr ⟨file, rfl, ?_⟩
      simp only [Bind.bind, Except.bind]
      -- The options come first, and then what is extended.
      rcases ownOptions_cases names file with ⟨own, read, sound⟩ | ⟨failure, read, own, no⟩
      · rcases extendsOf_cases file with ⟨targets, named, gives⟩ | ⟨failure, named, own, no⟩
        · exact .inl ⟨⟨file, _, targets⟩, by rw [read, named]; rfl, by rw [sound, gives]; rfl⟩
        · exact .inr ⟨failure, by simp [read, named], own, by simp [no]⟩
      · exact .inr ⟨failure, by simp [read], own, by simp [no]⟩

/-- A file that can be read extends the places of its names. -/
theorem followed_of_readAt {files : FileTree} {names : List Text} {reading : Reading}
    (read : readAt files names = .ok reading) :
    followed files names = reading.targets.filterMap (targetPlace? files names.dropLast) := by
  obtain ⟨loaded, -, named⟩ := readAt_eq_ok read
  simp [followed, loaded, named, Except.toOption]

/-- Names that can be followed lead somewhere. -/
theorem leads_of_soundNames {files : FileTree} {names : List Text}
    (sound : ∀ file, fileAt files names = .ok file → soundNames files names file = true) :
    Leads files names := by
  intro reading read target member
  obtain ⟨loaded, -, named⟩ := readAt_eq_ok read
  have sound := sound reading.file loaded
  have named : target ∈ extendsNames reading.file := by
    simp only [extendsNames, named, Except.toOption, Option.getD_some]
    exact List.mem_filterMap.mpr ⟨_, member, rfl⟩
  have clear : followable files names.dropLast target = true := List.all_eq_true.mp sound _ named
  -- A name that failed to be followed would not have passed the check.
  rcases extendsPath_cases files names.dropLast target with ⟨place?, leads, -⟩ | ⟨failure, -, -, no⟩
  · exact ⟨place?, leads⟩
  · rw [clear] at no
    contradiction

/-- Load files from left to right and collect their options; later ones win. -/
def loadEach (load : Seen → List Text → Except Failure (Entries × Seen)) :
    Seen → Entries → List (List Text) → Except Failure (Entries × Seen)
  | seen, merged, [] => .ok (merged, seen)
  | seen, merged, names :: rest => do
    let (parent, seen) ← load seen names
    let options := ((parent.get? ProjectKey.compilerOptions).getD .null).entries
    loadEach load seen (merged.update options) rest

/-- Names that lead somewhere are collected by their places. -/
theorem collect_eq_loadEach {files : FileTree} {directory : List Text}
    (load : Seen → List Text → Except Failure (Entries × Seen)) {targets : List Document}
    (leads : ∀ target, .text target ∈ targets →
      ∃ place?, extendsPath files directory target = .ok place?) (seen : Seen) (merged : Entries) :
    collect files directory load seen merged targets =
      loadEach load seen merged (targets.filterMap (targetPlace? files directory)) := by
  -- The induction is on what is named. The places seen and the options merged are free, since each
  -- file changes them.
  induction targets generalizing seen merged with
  | nil => rfl
  | cons target rest ih =>
    have rest_eq := ih fun other member => leads other (List.mem_cons_of_mem _ member)
    cases target with
    | text target =>
      obtain ⟨place?, leads⟩ := leads target (by simp)
      rw [collect, leads]
      cases place? with
      | none =>
        -- A package is passed over.
        rw [List.filterMap_cons_none (by simp [targetPlace?, leads, Except.toOption])]
        exact rest_eq seen merged
      | some names =>
        rw [List.filterMap_cons_some (b := names) (by simp [targetPlace?, leads, Except.toOption]),
          loadEach]
        simp only [Bind.bind, Except.bind]
        cases load seen names with
        | error failure => rfl
        | ok loaded => exact rest_eq loaded.2 _
    -- What is no name is passed over on both sides.
    | _ => exact rest_eq seen merged

/-- The extension of project files can be added to the last name of a place. -/
theorem projectSuffix_proper : 2 < projectSuffix.length ∧ '/' ∉ projectSuffix := by decide +kernel

section Places

variable {files : FileTree} {names : List Text}

/-- A name in a proper directory leads to a proper place. -/
theorem extendsPath_proper {directory place : List Text} {target : String}
    (proper : ProperPlace directory)
    (leads : extendsPath files directory target = .ok (some place)) : ProperPlace place := by
  have resolved_proper : ProperPlace (Path.resolve directory (Path.ofString target)) :=
    Path.resolve_proper (fun name member => (proper name member).noSlash) target
  unfold extendsPath placeOf at leads
  generalize Path.resolve directory (Path.ofString target) = resolved at leads resolved_proper
  simp only [Bind.bind, Except.bind, Pure.pure, Except.pure] at leads
  split at leads
  · simp at leads
  · split at leads
    · simp at leads
    · rename_i place' placed
      obtain rfl : resolved = place' := by
        split at placed
        · cases placed
        · exact Except.ok.inj placed
      split at leads
      · cases leads
      · -- The name as it stands, or with the extension of project files added to its last segment.
        split at leads
        · cases leads
          exact resolved_proper
        · split at leads
          · rename_i longer renamed
            cases leads
            unfold Path.withName? at renamed
            split at renamed
            · contradiction
            · cases renamed
              exact resolved_proper.lengthen projectSuffix_proper
          · simp [throw, throwThe, MonadExceptOf.throw] at leads

/-- What a file at a proper place extends is at proper places. -/
theorem followed_proper (proper : ProperPlace names) {parent : List Text}
    (member : parent ∈ followed files names) : ProperPlace parent := by
  -- Only a name that leads to a place is followed.
  obtain ⟨target, -, place⟩ := List.mem_filterMap.mp member
  cases target with
  | text target =>
    cases leads : extendsPath files names.dropLast target with
    | error failure => simp [targetPlace?, leads, Except.toOption] at place
    | ok place? =>
      simp only [targetPlace?, leads, Except.toOption, Option.join_some] at place
      exact extendsPath_proper proper.dropLast (place ▸ leads)
  | _ => simp [targetPlace?] at place

/-- A project file that can be read at a proper place is an entry of the tree. -/
theorem mem_entries_of_fileAt (proper : ProperPlace names) {file : Entries}
    (loaded : fileAt files names = .ok file) : names ∈ files.entries.map Prod.fst := by
  -- A file that gave entries had a text, so it could be read.
  obtain ⟨text, spelled⟩ := jsonText?_of_fileAt loaded
  obtain ⟨-, bytes, content⟩ := read_of_jsonText? spelled
  exact FileTree.mem_entries_of_read proper content

end Places

/-- The files of a way are different entries of the tree and loaded already, so the fuel outlasts
all files that are left. -/
structure Reserve (files : FileTree) (fuel : Nat) (seen way : List (List Text)) : Prop where
  distinct : way.Nodup
  stored : ∀ names ∈ way, names ∈ files.entries.map Prod.fst
  known : ∀ names ∈ way, names ∈ seen
  -- Behind a way of all files there is still fuel for a file that comes again or cannot be read.
  enough : files.entries.length + 2 ≤ fuel + way.length

namespace Reserve

variable {files : FileTree} {fuel : Nat} {seen way : List (List Text)}

/-- There is fuel for one more file. -/
theorem exists_succ (reserve : Reserve files fuel seen way) : ∃ left, fuel = left + 1 := by
  -- The files of the way are no more than the entries of the tree.
  have bound := (List.Nodup.subperm reserve.distinct reserve.stored).length_le
  have enough := reserve.enough
  rw [List.length_map] at bound
  exact ⟨fuel - 1, by omega⟩

/-- A new file of the tree makes the way longer. -/
theorem next (reserve : Reserve files (fuel + 1) seen way) {names : List Text}
    (fresh : names ∉ seen) (stored : names ∈ files.entries.map Prod.fst) :
    Reserve files fuel (names :: seen) (names :: way) where
  distinct :=
    List.nodup_cons.mpr ⟨fun passed => fresh (reserve.known names passed), reserve.distinct⟩
  stored := List.forall_mem_cons.mpr ⟨stored, reserve.stored⟩
  known := List.forall_mem_cons.mpr
    ⟨List.mem_cons_self .., fun other passed => List.mem_cons_of_mem _ (reserve.known other passed)⟩
  enough := by
    have enough := reserve.enough
    rw [List.length_cons]
    omega

/-- Loading more files leaves the reserve. -/
theorem after (reserve : Reserve files fuel seen way) (more : List (List Text)) :
    Reserve files fuel (more ++ seen) way :=
  -- Only the files of the way spend fuel. Files that are done are seen, but no longer on the way.
  { reserve with known := fun names passed => List.mem_append_right _ (reserve.known names passed) }

end Reserve

/-- What is wrong with a file that loading comes to: it is loaded already, or it cannot be read. -/
def failureAt? (files : FileTree) (seen : Seen) (names : List Text) : Option Failure :=
  -- A file that comes again is not read again, so this is asked first.
  if seen.contains names then some (circularAt names)
  else
    match readAt files names with
    | .ok _ => none
    | .error failure => some failure

/-- What is wrong with the first file of a listing with which something is wrong. -/
def firstFailure? (files : FileTree) : Seen → List (List Text) → Option Failure
  | _, [] => none
  | seen, names :: rest =>
    (failureAt? files seen names).or (firstFailure? files (names :: seen) rest)

section Listing

variable {files : FileTree} {seen : Seen}

/-- Nothing is wrong with a file that can be read and is not loaded yet. -/
theorem failureAt?_eq_none_iff {names : List Text} :
    failureAt? files seen names = none ↔
      names ∉ seen ∧ ∃ reading, readAt files names = .ok reading := by
  by_cases again : names ∈ seen
  · simp [failureAt?, again]
  · cases read : readAt files names <;> simp [failureAt?, again, read]

/-- Nothing is wrong with a listing of files that can be read, if none is loaded yet or comes
twice. -/
theorem firstFailure?_eq_none_iff {listing : List (List Text)} :
    firstFailure? files seen listing = none ↔
      listing.Nodup ∧ (∀ names ∈ listing, names ∉ seen) ∧
        ∀ names ∈ listing, ∃ reading, readAt files names = .ok reading := by
  -- The induction is on the listing, over all files seen so far, since each file adds itself.
  induction listing generalizing seen with
  | nil => simp [firstFailure?]
  | cons names rest ih =>
    rw [firstFailure?, Option.or_eq_none_iff, failureAt?_eq_none_iff, ih]
    -- The file itself joins those that may not come again.
    simp only [List.nodup_cons, List.mem_cons, not_or, forall_eq_or_imp]
    constructor
    · rintro ⟨⟨fresh, read⟩, distinct, apart, readable⟩
      exact ⟨⟨fun later => (apart names later).1 rfl, distinct⟩,
        ⟨fresh, fun other later => (apart other later).2⟩, read, readable⟩
    · rintro ⟨⟨only, distinct⟩, ⟨fresh, apart⟩, read, readable⟩
      exact ⟨⟨fresh, read⟩, distinct,
        fun other later => ⟨fun same => only (same ▸ later), apart other later⟩, readable⟩

/-- What is wrong with two listings is wrong with the first, or with the second after the first. -/
theorem firstFailure?_append (seen : Seen) (first second : List (List Text)) :
    firstFailure? files seen (first ++ second) =
      (firstFailure? files seen first).or (firstFailure? files (first.reverse ++ seen) second) := by
  induction first generalizing seen with
  | nil => simp [firstFailure?]
  | cons names rest ih => simp [firstFailure?, ih, Option.or_assoc]

end Listing

/-- How loading ends that comes to the files of a listing one by one, when those in `seen` are
loaded: with all of them loaded, or with the first failure. -/
def Ends (files : FileTree) (seen : Seen) (listing : List (List Text))
    (result : Except Failure (Entries × Seen)) : Prop :=
  -- A load that ends well has seen the listing, the last file of it first.
  match firstFailure? files seen listing with
  | none => ∃ entries, result = .ok (entries, listing.reverse ++ seen)
  | some failure => result = .error failure

/-- A file with which something is wrong ends the load. -/
theorem Ends.fails {files : FileTree} {fuel : Nat} {seen : Seen} {names : List Text}
    {failure : Failure} (wrong : failureAt? files seen names = some failure)
    (below : List (List Text)) :
    Ends files seen (names :: below) (loadFrom files (fuel + 1) seen names) := by
  simp only [Ends, firstFailure?, wrong, Option.some_or, loadFrom_succ]
  unfold failureAt? at wrong
  split at wrong
  · -- Whether a file is loaded already is asked before anything is read.
    rename_i again
    cases wrong
    rw [if_pos again]
  · rename_i fresh
    rw [if_neg fresh]
    cases read : readAt files names with
    | ok reading => simp [read] at wrong
    | error other =>
      simp only [read, Option.some.injEq] at wrong
      simp [wrong, Bind.bind, Except.bind]

/-- A file comes in front of the files that it extends. -/
theorem Ends.file {files : FileTree} {fuel : Nat} {seen : Seen} {names : List Text}
    (fresh : names ∉ seen) {reading : Reading} (read : readAt files names = .ok reading)
    (leads : Leads files names) {below : List (List Text)}
    (ends : Ends files (names :: seen) below
      (loadEach (loadFrom files fuel) (names :: seen) [] (followed files names))) :
    Ends files seen (names :: below) (loadFrom files (fuel + 1) seen names) := by
  -- Loading the file is reading it and then loading what it extends.
  have loaded : loadFrom files (fuel + 1) seen names =
      (loadEach (loadFrom files fuel) (names :: seen) [] (followed files names)).map
        fun (merged, seen) => (reading.inherit merged, seen) := by
    rw [loadFrom_succ, if_neg (by simpa using fresh), read, followed_of_readAt read,
      ← collect_eq_loadEach _ (leads reading read)]
    rfl
  -- Nothing is wrong with the file itself, so the report is that of the files behind it.
  have report : firstFailure? files seen (names :: below) =
      firstFailure? files (names :: seen) below := by
    rw [firstFailure?, failureAt?_eq_none_iff.mpr ⟨fresh, reading, read⟩, Option.none_or]
  unfold Ends at ends ⊢
  rw [loaded, report]
  -- Inheriting options cannot fail, so the file ends as what it extends does.
  cases found : firstFailure? files (names :: seen) below with
  | none =>
    rw [found] at ends
    obtain ⟨merged, ends⟩ := ends
    exact ⟨reading.inherit merged, by simp [ends, Except.map]⟩
  | some failure =>
    rw [found] at ends
    simp only [ends, Except.map]

/-- The files in front come before those behind. -/
theorem Ends.append {files : FileTree} {load : Seen → List Text → Except Failure (Entries × Seen)}
    {seen : Seen} {names : List Text} {rest first others : List (List Text)}
    (ends : Ends files seen first (load seen names))
    (ends_rest : ∀ merged,
      Ends files (first.reverse ++ seen) others (loadEach load (first.reverse ++ seen) merged rest))
    (merged : Entries) :
    Ends files seen (first ++ others) (loadEach load seen merged (names :: rest)) := by
  unfold Ends at ends ends_rest ⊢
  rw [firstFailure?_append, loadEach]
  cases found : firstFailure? files seen first with
  | some failure =>
    rw [found] at ends
    simp only [ends, Option.some_or, Bind.bind, Except.bind]
  | none =>
    -- All files in front are loaded when the load comes to those behind.
    rw [found] at ends
    obtain ⟨parent, ends⟩ := ends
    simpa only [ends, Option.none_or, Bind.bind, Except.bind, List.reverse_append,
      List.append_assoc] using ends_rest _

/-- The listing of project files with all that they extend: each file in front of the files that it
extends, as often as it is extended. -/
inductive Unfolds (files : FileTree) : List (List Text) → List (List Text) → Prop
  | nil : Unfolds files [] []
  | cons {names : List Text} {rest below others : List (List Text)}
      (extended : Unfolds files (followed files names) below) (later : Unfolds files rest others) :
      Unfolds files (names :: rest) (names :: below ++ others)

/-- Loading a file comes to it and then to the files that it extends, if it does so with all of
those. -/
theorem Ends.load {files : FileTree} {names : List Text} {below : List (List Text)}
    (proper : ProperPlace names) (leads : Leads files names)
    (extended : ∀ {fuel seen way}, Reserve files fuel seen way →
      Ends files seen below (loadEach (loadFrom files fuel) seen [] (followed files names)))
    {fuel : Nat} {seen way : List (List Text)} (reserve : Reserve files fuel seen way) :
    Ends files seen (names :: below) (loadFrom files fuel seen names) := by
  obtain ⟨left, rfl⟩ := reserve.exists_succ
  cases wrong : failureAt? files seen names with
  -- If something is wrong with the file, what it extends is not looked at.
  | some failure => exact Ends.fails wrong below
  | none =>
    -- A file that was not loaded before brings a new entry of the tree into the way.
    obtain ⟨fresh, reading, read⟩ := failureAt?_eq_none_iff.mp wrong
    have stored := mem_entries_of_fileAt proper (readAt_eq_ok read).1
    exact Ends.file fresh read leads (extended (reserve.next fresh stored))

/-- Loading comes to the files of a listing one by one. -/
theorem Unfolds.ends {files : FileTree} {places listing : List (List Text)}
    (unfolds : Unfolds files places listing) (proper : ∀ names ∈ places, ProperPlace names)
    (leads : ∀ names ∈ listing, Leads files names) {fuel : Nat} {seen way : List (List Text)}
    (reserve : Reserve files fuel seen way) (merged : Entries) :
    Ends files seen listing (loadEach (loadFrom files fuel) seen merged places) := by
  -- By induction on the listing; each file has its own fuel, way and loaded files.
  induction unfolds generalizing fuel seen way merged with
  | nil => exact ⟨merged, rfl⟩
  | @cons names rest below others _ _ ih_below ih_rest =>
    obtain ⟨names_proper, rest_proper⟩ := List.forall_mem_cons.mp proper
    have leads_below : ∀ other ∈ below, Leads files other :=
      fun other member => leads other (by simp [member])
    have leads_others : ∀ other ∈ others, Leads files other :=
      fun other member => leads other (by simp [member])
    -- The first file with all that it extends, and then the rest with the same way.
    have first : Ends files seen (names :: below) (loadFrom files fuel seen names) := by
      apply Ends.load names_proper (leads names (by simp)) _ reserve
      intro fuel seen way reserve
      exact ih_below (fun parent member => followed_proper names_proper member) leads_below
        reserve []
    exact Ends.append first
      (fun merged => ih_rest rest_proper leads_others (reserve.after _) merged) merged

/-- A project file that loading a path comes to: the file itself, or one that it extends in one or
more steps. -/
def Reached (files : FileTree) (path : String) : List Text → Prop :=
  Relation.ReflTransGen (Extends files) (startOf files path)

/-- Loading a project is loading the file that its path stands for. -/
theorem loadProject_eq (files : FileTree) (path : String) :
    loadProject files path =
      (loadFrom files (files.entries.length + 2) [] (startOf files path)).map Prod.fst := by
  unfold loadProject
  simp only [Bind.bind, Except.bind]
  cases loadFrom files (files.entries.length + 2) [] (startOf files path)
  · rfl
  · rfl

/-- A null character in a path is one in its place. -/
theorem null_of_startOf (files : FileTree) {path : String}
    (null : PathText.hasNull path.toList = true) :
    (startOf files path).any PathText.hasNull = true := by
  rw [startOf, if_pos null, List.any_eq_true]
  -- The character stands in one of the segments of the path.
  rw [PathText.hasNull, List.contains_iff_mem, ← PathText.unite_splitOn path.toList] at null
  obtain ⟨name, member, inside⟩ := PathText.exists_of_mem_unite null (by decide)
  -- A name with a null character is not one that says something about the way.
  have kept : ∀ other : Text, Char.ofNat 0 ∉ other → name ≠ other :=
    fun other clear same => clear (same ▸ inside)
  refine ⟨name, List.mem_filter.mpr ⟨List.mem_filter.mpr ⟨member, ?_⟩, ?_⟩, ?_⟩
  · simpa using ⟨kept [] (by simp), kept ['.'] (by decide)⟩
  · simpa using kept ['.', '.'] (by decide)
  · simpa [PathText.hasNull] using inside

/-- The place of a project is proper. -/
theorem startOf_proper {files : FileTree} (clear : ∀ name ∈ files.directory, '/' ∉ name)
    (path : String) : ProperPlace (startOf files path) := by
  unfold startOf
  split
  · -- The names as they are written, without those that lead up.
    intro name member
    obtain ⟨written, notUp⟩ := List.mem_filter.mp member
    obtain ⟨split, telling⟩ := List.mem_filter.mp written
    have noSlash : '/' ∉ name := Text.not_mem_of_mem_splitOn split
    simp only [Bool.and_eq_true, Bool.not_eq_true', List.isEmpty_eq_false_iff, bne_iff_ne] at telling
    exact ⟨telling.1, telling.2, by simpa using notUp, noSlash⟩
  · exact Path.resolve_proper clear path

/-- Loading comes to proper places only. -/
theorem Reached.proper {files : FileTree} {path : String}
    (clear : ∀ name ∈ files.directory, '/' ∉ name) {names : List Text}
    (reached : Reached files path names) : ProperPlace names := by
  -- The induction is on the steps from the start, each of which leads from a proper place to a
  -- proper one.
  induction reached with
  | refl => exact startOf_proper clear path
  | tail _ extended ih => exact followed_proper ih extended

section Order

variable {files : FileTree} {path : String}

/-- Whether places are in an order in which every file stands in front of the files that it
extends. -/
def inOrder (files : FileTree) (places : List (List Text)) : Bool :=
  places.all fun names => (followed files names).all fun parent =>
    places.contains parent && places.idxOf names < places.idxOf parent

/-- What is extended stands behind. -/
theorem behind_of_inOrder {places : List (List Text)} (ordered : inOrder files places = true)
    {names parent : List Text} (inside : names ∈ places) (extended : Extends files names parent) :
    parent ∈ places ∧ places.idxOf names < places.idxOf parent := by
  have all := List.all_eq_true.mp (List.all_eq_true.mp ordered names inside) parent extended
  simpa using all

/-- Loading does not leave places that are in order. -/
theorem Reached.mem_of_inOrder {places : List (List Text)} (ordered : inOrder files places = true)
    (start : startOf files path ∈ places) {names : List Text} (reached : Reached files path names) :
    names ∈ places := by
  induction reached with
  | refl => exact start
  | tail _ extended ih => exact (behind_of_inOrder ordered ih extended).1

end Order

/-- A file in the root directory. -/
def rootFile (name content : String) : List Text × Entry :=
  ([name.toList], .file (Utf8.encode content.toList))

end ImportOrder.Project
