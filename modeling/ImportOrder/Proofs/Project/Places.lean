import ImportOrder.FileTree
import ImportOrder.Proofs.Text.Pieces

/-! Places in a tree of files and the paths that spell them. A place that a path resolves to is read
back from its absolute path, so a file that can be read there is an entry of the tree. -/

namespace ImportOrder

/-- A name that leads one step down: it is not empty, says nothing about the way, and has no
slash. -/
structure ProperName (name : Text) : Prop where
  filled : name ≠ []
  -- These two are names too, but a path that goes through them is reduced.
  notHere : name ≠ ['.']
  notUp : name ≠ ['.', '.']
  noSlash : '/' ∉ name

/-- A place that steps down lead to from the root. -/
def ProperPlace (names : List Text) : Prop := ∀ name ∈ names, ProperName name

/-- The directory of a place. -/
theorem ProperPlace.dropLast {names : List Text} (proper : ProperPlace names) :
    ProperPlace names.dropLast :=
  fun name member => proper name (List.dropLast_subset names member)

/-- A place stays proper if its last name gets longer by more than two characters. -/
theorem ProperPlace.lengthen {names : List Text} (proper : ProperPlace names) {tail : Text}
    (suitable : 2 < tail.length ∧ '/' ∉ tail) :
    ProperPlace (names.dropLast ++ [(Path.absolute names).name ++ tail]) := by
  obtain ⟨long, clear⟩ := suitable
  intro name member
  -- Only the last name has changed.
  rcases List.mem_append.mp member with before | last
  · exact proper.dropLast name before
  · obtain rfl := List.mem_singleton.mp last
    -- The name is too long to be one of those that say something about the way.
    have length : 2 < ((Path.absolute names).name ++ tail).length := by
      rw [List.length_append]
      omega
    refine ⟨?_, ?_, ?_, ?_⟩
    · exact List.ne_nil_of_length_pos (by omega)
    · exact fun same => by simp [same] at length
    · exact fun same => by simp [same] at length
    · rw [List.mem_append, not_or]
      refine ⟨?_, clear⟩
      cases last : names.getLast? with
      | none => simp [Path.name, Path.absolute, last]
      | some name =>
        have name_proper := proper name (List.mem_of_getLast? last)
        simpa [Path.name, Path.absolute, last] using name_proper.noSlash

/-- What is left of names without slashes leads down. -/
theorem PathText.reduceFrom_proper {kept names : List Text} (proper : ProperPlace kept)
    (clear : ∀ name ∈ names, '/' ∉ name) :
    ProperPlace (PathText.reduceFrom true kept names) := by
  -- The names kept so far change from step to step, and they stay proper.
  induction names generalizing kept with
  | nil => simpa [PathText.reduceFrom, ProperPlace] using proper
  | cons name rest ih =>
    have clear_rest : ∀ other ∈ rest, '/' ∉ other :=
      fun other member => clear other (List.mem_cons_of_mem _ member)
    unfold PathText.reduceFrom
    split
    · exact ih proper clear_rest
    · rename_i proper_name
      simp only [Bool.or_eq_true, List.isEmpty_iff, beq_iff_eq, not_or] at proper_name
      split
      · -- A name that says nothing about the way is kept.
        rename_i down
        apply ih _ clear_rest
        intro other member
        rcases List.mem_cons.mp member with rfl | before
        · exact ⟨proper_name.1, proper_name.2, by simpa using down, clear other (by simp)⟩
        · exact proper other before
      · -- Two dots take one name back, at the root none.
        split
        · exact ih (by simp [ProperPlace]) clear_rest
        · rename_i last before
          have last_proper : ProperName last := proper last (by simp)
          rw [if_neg (by simpa using last_proper.notUp)]
          exact ih (fun other member => proper other (List.mem_cons_of_mem _ member)) clear_rest

/-- An absolute path is spelled with a slash in front of its names. -/
theorem Path.toList_absolute (names : List Text) :
    (Path.absolute names).toString.toList = '/' :: PathText.unite names := by
  simp [Path.toString, Path.toText, Path.absolute]

/-- A name resolves to a proper place. -/
theorem Path.resolve_proper {directory : List Text} (clear : ∀ name ∈ directory, '/' ∉ name)
    (name : String) : ProperPlace (Path.resolve directory (Path.ofString name)) := by
  -- The names come from the directory or from the path itself, and none of either has a slash.
  apply PathText.reduceFrom_proper (by simp [ProperPlace])
  intro segment member
  rcases List.mem_append.mp member with start | own
  · split at start
    · exact clear segment start
    · simp at start
  · exact Text.not_mem_of_mem_splitOn (List.mem_filter.mp own).1

/-- Only an absolute path has a root. -/
theorem PathText.isEmpty_rootMark (path : Text) :
    (PathText.rootMark path).isEmpty = !(path.head? == some '/') := by
  -- One slash, two or more of them all make a root; the last case is that of any other character.
  unfold PathText.rootMark
  split
  · rfl
  · rfl
  · rfl
  · rename_i other
    cases path with
    | nil => rfl
    | cons c rest =>
      have relative : c ≠ '/' := by
        rintro rfl
        exact other rest rfl
      simp [relative]

section Reducing

variable {rooted : Bool} {kept rest : List Text} {name : Text}

/-- An empty name or a single dot is left out. -/
theorem PathText.reduceFrom_idle (idle : (name.isEmpty || name == ['.']) = true) :
    PathText.reduceFrom rooted kept (name :: rest) = PathText.reduceFrom rooted kept rest := by
  rw [PathText.reduceFrom.eq_def]
  simp only [idle, if_true]

/-- A name that leads down is kept. -/
theorem PathText.reduceFrom_down (telling : ¬(name.isEmpty || name == ['.']) = true)
    (down : name ≠ ['.', '.']) :
    PathText.reduceFrom rooted kept (name :: rest) =
      PathText.reduceFrom rooted (name :: kept) rest := by
  rw [PathText.reduceFrom.eq_def]
  simp only [telling, Bool.false_eq_true, if_false, bne_iff_ne.mpr down, if_true]

/-- Empty names and single dots make no difference. -/
theorem PathText.reduceFrom_filter (rooted : Bool) (kept names : List Text) :
    PathText.reduceFrom rooted kept (names.filter fun name => !name.isEmpty && name != ['.']) =
      PathText.reduceFrom rooted kept names := by
  -- The names kept so far are free, since a name that leads down is added to them.
  induction names generalizing kept with
  | nil => rfl
  | cons name rest ih =>
    by_cases idle : (name.isEmpty || name == ['.']) = true
    · rw [PathText.reduceFrom_idle idle, List.filter_cons_of_neg ?_, ih]
      simpa [Decidable.or_iff_not_imp_left] using idle
    · rw [List.filter_cons_of_pos (by simpa using idle)]
      unfold PathText.reduceFrom
      simp only [ih]

/-- Proper names in front are kept. -/
theorem PathText.reduceFrom_append {place : List Text} (proper : ProperPlace place)
    (rooted : Bool) (kept names : List Text) :
    PathText.reduceFrom rooted kept (place ++ names) =
      PathText.reduceFrom rooted (place.reverse ++ kept) names := by
  -- Each name goes on top of those kept, so they lie there in reverse.
  induction place generalizing kept with
  | nil => rfl
  | cons name rest ih =>
    have first := proper name List.mem_cons_self
    have telling : ¬(name.isEmpty || name == ['.']) = true := by
      simp [first.filled, first.notHere]
    rw [List.cons_append, PathText.reduceFrom_down telling first.notUp,
      ih fun other member => proper other (List.mem_cons_of_mem _ member)]
    simp

end Reducing

namespace FileTree

/-- A path leads where the walk along its segments leads, if it is neither empty nor too long. -/
theorem locate_eq_ok_iff {tree : FileTree} {path : String} {names : List Text} :
    tree.locate path = .ok names ↔ path.toList ≠ [] ∧ Utf8.length path.toList ≤ maxPathBytes ∧
      tree.walk (tree.start path.toList) (Text.splitOn '/' path.toList) = .ok names := by
  -- The bounds are asked in this order: an empty path, one that is too long, and then the walk.
  unfold locate
  by_cases empty : path.toList = []
  · simp [empty]
  · by_cases long : maxPathBytes < Utf8.length path.toList
    · simp [empty, long, Nat.not_le.mpr long]
    · simp [empty, long, Nat.not_lt.mp long]

/-- A walk over a name that leads down goes on from there. -/
theorem walk_down {tree : FileTree} {place rest found : List Text} {name : Text}
    (telling : ¬(name.isEmpty || name == ['.']) = true) (down : ¬(name == ['.', '.']) = true)
    (walked : tree.walk place (name :: rest) = .ok found) :
    tree.isDirectoryAt place = true ∧ Utf8.length name ≤ maxNameBytes ∧
      (tree.entry? (place ++ [name])).isSome = true ∧
      tree.walk (place ++ [name]) rest = .ok found := by
  rw [walk, if_neg telling, if_neg down] at walked
  -- There are three ways to fail: where the walk stands is no directory, the name is too long, or
  -- nothing is there.
  split at walked
  · cases walked
  · rename_i inside
    split at walked
    · cases walked
    · rename_i short
      split at walked
      · cases walked
      · rename_i there
        exact ⟨by simpa using inside, Nat.not_lt.mp short, by simpa [Option.isSome_iff_ne_none] using there,
          walked⟩

/-- A walk leads where its names are reduced to. -/
theorem walk_eq_reduce {tree : FileTree} {place names found : List Text}
    (down : ['.', '.'] ∉ place) (walked : tree.walk place names = .ok found) :
    found = PathText.reduceFrom true place.reverse names := by
  -- The place changes from step to step, and no step adds two dots to it.
  induction names generalizing place with
  | nil => simpa [walk, PathText.reduceFrom] using walked.symm
  | cons name rest ih =>
    by_cases idle : (name.isEmpty || name == ['.']) = true
    · rw [PathText.reduceFrom_idle idle]
      rw [walk, if_pos idle] at walked
      split at walked
      · cases walked
      · exact ih down walked
    · by_cases up : (name == ['.', '.']) = true
      · -- Two dots take one name back, at the root none.
        rw [walk, if_neg idle, if_pos up] at walked
        obtain rfl := eq_of_beq up
        have above : ['.', '.'] ∉ place.dropLast := fun inside =>
          down (List.dropLast_subset _ inside)
        split at walked
        · cases walked
        · rw [ih above walked]
          rcases List.eq_nil_or_concat place with rfl | ⟨before, last, rfl⟩
          · simp [PathText.reduceFrom]
          · have step : last ≠ ['.', '.'] := by
              rintro rfl
              simp at down
            simp [PathText.reduceFrom, step]
      · obtain ⟨-, -, -, walked⟩ := walk_down idle up walked
        have step : name ≠ ['.', '.'] := by simpa using up
        rw [PathText.reduceFrom_down idle step]
        have below : ['.', '.'] ∉ place ++ [name] := by
          simp only [List.mem_append, List.mem_singleton, not_or]
          exact ⟨down, step.symm⟩
        simpa using ih below walked

/-- A path leads to where it resolves to, or nowhere. -/
theorem locate_eq_resolve {tree : FileTree} (proper : ProperPlace tree.directory) {path : String}
    {names : List Text} (located : tree.locate path = .ok names) :
    names = Path.resolve tree.directory (Path.ofString path) := by
  obtain ⟨-, -, walked⟩ := locate_eq_ok_iff.mp located
  -- An absolute path starts at the root and any other one in the working directory. Both are
  -- proper.
  have started : ProperPlace (tree.start path.toList) := by
    unfold FileTree.start
    split
    · simp [ProperPlace]
    · exact proper
  have same : (if (PathText.rootMark path.toList).isEmpty then tree.directory else []) =
      tree.start path.toList := by
    rw [PathText.isEmpty_rootMark, FileTree.start]
    cases path.toList.head? == some '/' <;> rfl
  have down : ['.', '.'] ∉ tree.start path.toList := fun inside => (started _ inside).notUp rfl
  rw [walk_eq_reduce down walked, Path.resolve, Path.ofString, Path.ofText]
  simp only [same]
  rw [PathText.reduceFrom_append started, PathText.reduceFrom_filter, List.append_nil]

/-- A walk along proper names goes nowhere else. -/
theorem walk_proper {tree : FileTree} {place names found : List Text} (proper : ProperPlace names)
    (walked : tree.walk place names = .ok found) : found = place ++ names := by
  induction names generalizing place with
  | nil =>
    rw [walk, Except.ok.injEq] at walked
    simp [walked]
  | cons name rest ih =>
    have name_proper : ProperName name := proper name (by simp)
    -- A proper name is neither skipped nor a step back, so it is the next step down.
    obtain ⟨-, -, -, walked⟩ := walk_down (by simp [name_proper.filled, name_proper.notHere])
      (by simpa using name_proper.notUp) walked
    rw [ih (fun other member => proper other (List.mem_cons_of_mem _ member)) walked]
    simp

/-- The absolute path of a proper place leads there or nowhere. -/
theorem locate_absolute {tree : FileTree} {names found : List Text} (proper : ProperPlace names)
    (located : tree.locate (Path.absolute names).toString = .ok found) : found = names := by
  obtain ⟨-, -, located⟩ := locate_eq_ok_iff.mp located
  rw [Path.toList_absolute] at located
  -- The walk starts at the root, and the first segment, in front of the slash, is empty.
  have start : tree.start ('/' :: PathText.unite names) = [] := by simp [FileTree.start]
  have root : tree.isDirectoryAt [] = true := by simp [isDirectoryAt, entry?]
  rw [start, Text.splitOn, if_pos (by simp), walk, if_neg (by simp [root]),
    if_pos (by simp)] at located
  cases names with
  | nil =>
    simp only [PathText.unite, Text.splitOn, walk, root] at located
    simpa using located.symm
  | cons name rest =>
    rw [PathText.splitOn_unite (by simp) fun other member => (proper other member).noSlash]
      at located
    simpa using walk_proper proper located

/-- What is at a place other than the root is an entry of the tree. -/
theorem mem_entries_of_found {tree : FileTree} {names : List Text} {entry : Entry}
    (below : names ≠ []) (found : tree.entry? names = some entry) :
    (names, entry) ∈ tree.entries := by
  -- The search gives an entry, and its test says whose.
  unfold entry? at found
  rw [if_neg (by simpa using below)] at found
  obtain ⟨⟨known, held⟩, at_place, same⟩ := Option.map_eq_some_iff.mp found
  have named := List.find?_some at_place
  simp only [beq_iff_eq] at named
  rw [← named, ← same]
  exact List.mem_of_find?_eq_some at_place

/-- A file that can be read at a proper place is an entry of the tree. -/
theorem mem_entries_of_read {tree : FileTree} {names : List Text} {content : Bytes}
    (proper : ProperPlace names) (read : tree.read (Path.absolute names).toString = .ok content) :
    names ∈ tree.entries.map Prod.fst := by
  unfold FileTree.read at read
  -- A file is read in two steps: the path is located, and what is there has to be a file.
  cases located : tree.locate (Path.absolute names).toString with
  | error error => simp [located, Bind.bind, Except.bind] at read
  | ok found =>
    obtain rfl := locate_absolute proper located
    simp only [located, Bind.bind, Except.bind] at read
    cases entry : tree.entry? found with
    | none => simp [entry, throw, throwThe, MonadExceptOf.throw] at read
    | some held =>
      -- The root is a directory, and no directory can be read.
      have below : found ≠ [] := by
        rintro rfl
        simp [ entry?, throw, throwThe, MonadExceptOf.throw] at read
      exact List.mem_map_of_mem (mem_entries_of_found below entry)

end FileTree

end ImportOrder
