import ImportOrder.Project.Resolver
import ImportOrder.Proofs.Project.Places

/-! Trees that differ only in what the files at some places hold. Paths lead to the same places in
both, searches find the same files, and a file at any other place reads the same. Writing a file that
can be read changes what it holds and nothing else. -/

namespace ImportOrder

namespace FileTree

section Kinds

/-- Whether a file is at some names, none if nothing is there. -/
def kindAt (tree : FileTree) (names : List Text) : Option Bool :=
  (tree.entry? names).map fun
    | .directory => false
    | .file _ => true

theorem isDirectoryAt_eq_kindAt (tree : FileTree) (names : List Text) :
    tree.isDirectoryAt names = (tree.kindAt names == some false) := by
  unfold isDirectoryAt kindAt
  rcases tree.entry? names with - | (- | content) <;> rfl

theorem isFileAt_eq_kindAt (tree : FileTree) (names : List Text) :
    tree.isFileAt names = (tree.kindAt names == some true) := by
  unfold isFileAt kindAt
  rcases tree.entry? names with - | (- | content) <;> rfl

theorem isNone_entry?_eq_kindAt (tree : FileTree) (names : List Text) :
    (tree.entry? names).isNone = (tree.kindAt names).isNone := by
  unfold kindAt
  rcases tree.entry? names with - | entry <;> rfl

end Kinds

/-- Two trees with the same places, of the same kinds, where only the files at hidden places may hold
something else. -/
structure Alike (hidden : List Text → Prop) (first second : FileTree) : Prop where
  directory : first.directory = second.directory
  locked : first.locked = second.locked
  depth : first.depth = second.depth
  size : first.entries.length = second.entries.length
  kinds : ∀ names, first.kindAt names = second.kindAt names
  visible : ∀ names, ¬hidden names → first.entry? names = second.entry? names

namespace Alike

variable {hidden : List Text → Prop} {first second : FileTree}

theorem refl (hidden : List Text → Prop) (tree : FileTree) : Alike hidden tree tree :=
  ⟨rfl, rfl, rfl, rfl, fun _ => rfl, fun _ _ => rfl⟩

/-- What is hidden in one of two steps is hidden in both together. -/
theorem trans {third : FileTree} {hidden' : List Text → Prop} (alike : Alike hidden first second)
    (alike' : Alike hidden' second third) :
    Alike (fun names => hidden names ∨ hidden' names) first third where
  directory := alike.directory.trans alike'.directory
  locked := alike.locked.trans alike'.locked
  depth := alike.depth.trans alike'.depth
  size := alike.size.trans alike'.size
  kinds names := (alike.kinds names).trans (alike'.kinds names)
  visible names shown := by
    -- What shows in both together shows in each step.
    rw [not_or] at shown
    exact (alike.visible names shown.1).trans (alike'.visible names shown.2)

theorem mono {hidden' : List Text → Prop} (alike : Alike hidden first second)
    (more : ∀ names, hidden names → hidden' names) : Alike hidden' first second :=
  { alike with visible := fun names shown => alike.visible names fun told => shown (more names told) }

theorem isDirectoryAt (alike : Alike hidden first second) (names : List Text) :
    first.isDirectoryAt names = second.isDirectoryAt names := by
  rw [isDirectoryAt_eq_kindAt, isDirectoryAt_eq_kindAt, alike.kinds]

theorem isFileAt (alike : Alike hidden first second) (names : List Text) :
    first.isFileAt names = second.isFileAt names := by
  rw [isFileAt_eq_kindAt, isFileAt_eq_kindAt, alike.kinds]

/-- A walk looks at kinds only. -/
theorem walk (alike : Alike hidden first second) (place names : List Text) :
    first.walk place names = second.walk place names := by
  -- Every step asks whether a directory is here and whether anything is there, no more.
  induction names generalizing place with
  | nil => rfl
  | cons name rest ih =>
    simp only [FileTree.walk, alike.isDirectoryAt, isNone_entry?_eq_kindAt, alike.kinds, ih]

theorem start (alike : Alike hidden first second) (path : Text) :
    first.start path = second.start path := by
  rw [FileTree.start, FileTree.start, alike.directory]

theorem locate (alike : Alike hidden first second) (path : String) :
    first.locate path = second.locate path := by
  simp only [FileTree.locate, alike.start, alike.walk]

theorem checkFile (alike : Alike hidden first second) : first.checkFile = second.checkFile := by
  funext path
  have same : first.isFileAt = second.isFileAt := funext alike.isFileAt
  simp only [FileTree.checkFile, seek, alike.locate, same]

theorem checkDirectory (alike : Alike hidden first second) :
    first.checkDirectory = second.checkDirectory := by
  funext path
  have same : first.isDirectoryAt = second.isDirectoryAt := funext alike.isDirectoryAt
  simp only [FileTree.checkDirectory, seek, alike.locate, same]

theorem isFile (alike : Alike hidden first second) : first.isFile = second.isFile := by
  funext path
  rw [FileTree.isFile, FileTree.isFile, alike.checkFile]

theorem target (alike : Alike hidden first second) (path : String) :
    first.target path = second.target path := by
  simp only [FileTree.target, alike.start, alike.walk, alike.isDirectoryAt]

/-- A path that leads to no hidden place reads the same. -/
theorem read (alike : Alike hidden first second) {path : String}
    (shown : ∀ names, first.locate path = .ok names → ¬hidden names) :
    first.read path = second.read path := by
  unfold FileTree.read
  -- Both reads come to the same place, and this place shows.
  rw [← alike.locate]
  cases located : first.locate path with
  | error error => rfl
  | ok names => simp only [Bind.bind, Except.bind, alike.visible names (shown names located)]

theorem candidates (alike : Alike hidden first second) (name path : String) :
    Project.candidates first name path = Project.candidates second name path := by
  simp only [Project.candidates, Project.searchStart, alike.isDirectoryAt, alike.directory]

/-- A search looks for files and not into them. -/
theorem find? (alike : Alike hidden first second) (name path : String) :
    Project.find? first name path = Project.find? second name path := by
  simp only [Project.find?, alike.candidates, alike.isFile]

theorem firstFile (alike : Alike hidden first second) (paths : List Path) :
    Project.firstFile first paths = Project.firstFile second paths := by
  -- The candidates are asked one by one, and each answer is the same.
  induction paths with
  | nil => rfl
  | cons path rest ih => simp only [Project.firstFile, alike.checkFile, ih]

theorem search (alike : Alike hidden first second) (name path : String) :
    Project.search first name path = Project.search second name path := by
  simp only [Project.search, alike.checkDirectory, alike.candidates, alike.firstFile,
    alike.directory]

theorem extendsPath (alike : Alike hidden first second) (directory : List Text) (target : String) :
    Project.extendsPath first directory target = Project.extendsPath second directory target := by
  simp only [Project.extendsPath, alike.checkFile]

theorem classifier (alike : Alike hidden first second) (resolver : Project.Resolver) :
    resolver.classifier first = resolver.classifier second := by
  cases resolver with
  | manifest dependencies => rfl
  | probe settings => rw [Project.Resolver.classifier, Project.Resolver.classifier, alike.isFile]

end Alike

section Writing

variable {tree : FileTree} {names : List Text}

/-- What is put at some names is found there. -/
theorem entry?_put (below : names ≠ []) (entry : Entry) :
    FileTree.entry? (tree.put names entry) names = some entry := by
  -- The change and the search go along the same list.
  unfold entry? put
  rw [if_neg (by simpa using below)]
  show Option.map Prod.snd ((putEntry names entry tree.entries).find? _) = _
  fun_induction putEntry names entry tree.entries with
  | case1 => simp
  | case2 known old rest same =>
    rw [List.find?_cons_of_pos (by simpa using same)]
    rfl
  | case3 known old rest other ih =>
    rw [List.find?_cons_of_neg (by simpa using other)]
    exact ih

/-- What is put at some names leaves all others as they are. -/
theorem entry?_put_other {other : List Text} (apart : other ≠ names) (entry : Entry) :
    FileTree.entry? (tree.put names entry) other = tree.entry? other := by
  unfold entry? put
  congr 2
  show (putEntry names entry tree.entries).find? _ = _
  -- An entry is replaced in its place or added at the end: the others are found as before.
  fun_induction putEntry names entry tree.entries with
  | case1 => simp [apart.symm]
  | case2 known old rest same =>
    obtain rfl := eq_of_beq same
    rw [List.find?_cons_of_neg (by simpa using apart.symm),
      List.find?_cons_of_neg (by simpa using apart.symm)]
  | case3 known old rest differs ih => rw [List.find?_cons, List.find?_cons, ih]

/-- Something that is there is replaced, so nothing is added. -/
theorem length_putEntry {entries : List (List Text × Entry)}
    (there : (entries.find? fun (known, _) => known == names).isSome = true) (entry : Entry) :
    (putEntry names entry entries).length = entries.length := by
  fun_induction putEntry names entry entries with
  -- The list cannot end without the entry.
  | case1 => simp at there
  | case2 known old rest same => rfl
  | case3 known old rest differs ih =>
    rw [List.find?_cons_of_neg (by simpa using differs)] at there
    rw [List.length_cons, List.length_cons, ih there]

/-- The root is a directory, so a file is below it. -/
theorem below_of_file {content : Bytes} (there : tree.entry? names = some (.file content)) :
    names ≠ [] := by
  rintro rfl
  simp [ entry?] at there

/-- A file that gets another content makes no other difference. -/
theorem Alike.put {old : Bytes} (there : tree.entry? names = some (.file old)) (content : Bytes) :
    Alike (· = names) tree (tree.put names (.file content)) := by
  have below := below_of_file there
  refine ⟨rfl, rfl, rfl, ?_, ?_, ?_⟩
  · -- The file was there, so no entry is added.
    refine (length_putEntry ?_ _).symm
    unfold entry? at there
    rw [if_neg (by simpa using below)] at there
    obtain ⟨found, at_names, -⟩ := Option.map_eq_some_iff.mp there
    rw [at_names]
    rfl
  · intro other
    -- A file stays a file, and other places are not touched.
    by_cases same : other = names
    · subst same
      simp [kindAt, there, entry?_put below]
    · rw [kindAt, kindAt, entry?_put_other same]
  · intro other shown
    exact (entry?_put_other shown _).symm

/-- A path that can be read leads to a file. -/
theorem read_eq_ok {path : String} {content : Bytes} (read : tree.read path = .ok content) :
    ∃ names, tree.locate path = .ok names ∧ tree.entry? names = some (.file content) := by
  unfold FileTree.read at read
  cases located : tree.locate path with
  | error error => simp [located, Bind.bind, Except.bind] at read
  | ok names =>
    refine ⟨names, rfl, ?_⟩
    simp only [located, Bind.bind, Except.bind] at read
    -- Only a file gives a content.
    cases there : tree.entry? names with
    | none => simp [there, throw, throwThe, MonadExceptOf.throw] at read
    | some entry =>
      cases entry with
      | directory => simp [there, throw, throwThe, MonadExceptOf.throw] at read
      | file held =>
        simp only [there, Pure.pure, Except.pure, Except.ok.injEq] at read
        rw [read]

/-- What is read of a path tells what is at its place. -/
theorem entry?_eq_of_read {first second : FileTree} {path : String}
    (here : first.locate path = .ok names) (there : second.locate path = .ok names)
    (read : first.read path = second.read path) : first.entry? names = second.entry? names := by
  unfold FileTree.read at read
  simp only [here, there, Bind.bind, Except.bind, throw, throwThe, MonadExceptOf.throw, Pure.pure,
    Except.pure] at read
  generalize first.entry? names = one at read ⊢
  generalize second.entry? names = other at read ⊢
  -- What is there can be told from the result: nothing, a directory, or a content.
  rcases one with - | (- | content) <;> rcases other with - | (- | content') <;> cases read <;> rfl

/-- A walk along some names and one more. -/
theorem walk_concat (place names : List Text) (name : Text) :
    tree.walk place (names ++ [name]) = tree.walk place names >>= fun place =>
      tree.walk place [name] := by
  -- The checks of a step do not depend on what follows it.
  induction names generalizing place with
  | nil => rfl
  | cons other rest ih =>
    simp only [List.cons_append, walk, ih]
    split
    · rfl
    · split
      · rfl
      · split
        · rfl
        · split
          · rfl
          · split <;> rfl

/-- The parts of a path that can be written: neither it nor its last name is too long, its front leads
to a directory, and its last name is a step down from there. -/
structure Targets (tree : FileTree) (path : String) (place front : List Text) (name : Text) :
    Prop where
  short : Utf8.length path.toList ≤ maxPathBytes
  split : Text.splitOn '/' path.toList = front ++ [name]
  walked : tree.walk (tree.start path.toList) front = .ok place
  inside : tree.isDirectoryAt place = true
  proper : (name.isEmpty || name == ['.'] || name == ['.', '.']) = false
  brief : Utf8.length name ≤ maxNameBytes

namespace Targets

variable {path : String} {place front : List Text} {name : Text}

/-- An empty path has one name, and that name is no step. -/
theorem filled (parts : Targets tree path place front name) : path.toList.isEmpty = false := by
  -- The only name of an empty path is empty, and that is not proper.
  cases chars : path.toList with
  | cons => rfl
  | nil =>
    have split := parts.split
    rw [chars, Text.splitOn] at split
    have only : name ∈ [[]] := by simp [split]
    obtain rfl := List.mem_singleton.mp only
    cases parts.proper

/-- Such a path can be written unless a directory is at its place. -/
theorem target (parts : Targets tree path place front name) : tree.target path =
    if tree.isDirectoryAt (place ++ [name]) then .error .isDirectory else .ok (place ++ [name]) := by
  simp only [FileTree.target, parts.filled, Nat.not_lt.mpr parts.short, parts.split,
    List.dropLast_concat, parts.walked, List.getLast?_concat, Option.getD_some, parts.inside,
    parts.proper, Nat.not_lt.mpr parts.brief, Bind.bind, Except.bind, throw, throwThe,
    MonadExceptOf.throw, Pure.pure, Except.pure, Bool.not_true, Bool.false_eq_true, if_false]

/-- Such a path leads to its place if something is there. -/
theorem locate (parts : Targets tree path place front name) : tree.locate path =
    if (tree.entry? (place ++ [name])).isNone then .error .notFound else .ok (place ++ [name]) := by
  -- The walk along the front is followed by one step.
  obtain ⟨kept, down⟩ := Bool.or_eq_false_iff.mp parts.proper
  simp only [FileTree.locate, parts.filled, Nat.not_lt.mpr parts.short, parts.split, walk_concat,
    parts.walked, Bind.bind, Except.bind, walk, parts.inside, kept, down,
    Nat.not_lt.mpr parts.brief, Bool.not_true, Bool.false_eq_true, if_false]

end Targets

/-- A place for a file lies in a directory that the front of the path leads to, one step down, and
is no directory itself. -/
theorem target_eq_ok_iff {path : String} : tree.target path = .ok names ↔
    ∃ place front name, Targets tree path place front name ∧ names = place ++ [name] ∧
      tree.isDirectoryAt names = false := by
  constructor
  · -- A path that passes all checks has a last name that is a step down.
    intro targeted
    unfold FileTree.target at targeted
    simp only [Bind.bind, Except.bind, throw, throwThe, MonadExceptOf.throw, Pure.pure, Except.pure]
      at targeted
    split at targeted
    · cases targeted
    · split at targeted
      · cases targeted
      · rename_i short
        cases walked : tree.walk (tree.start path.toList)
            (Text.splitOn '/' path.toList).dropLast with
        | error error => simp [walked] at targeted
        | ok place =>
          simp only [walked] at targeted
          have some_name : Text.splitOn '/' path.toList ≠ [] := Text.splitOn_ne_nil _ _
          -- A path always has a last name, so the default is not needed.
          rw [List.getLast?_eq_some_getLast some_name, Option.getD_some] at targeted
          split at targeted
          · cases targeted
          · rename_i inside
            split at targeted
            · cases targeted
            · rename_i proper
              split at targeted
              · cases targeted
              · rename_i brief
                split at targeted
                · cases targeted
                · rename_i free
                  cases targeted
                  exact ⟨place, _, _, ⟨Nat.not_lt.mp short,
                    (List.dropLast_concat_getLast some_name).symm, walked, by simpa using inside,
                    by simpa using proper, Nat.not_lt.mp brief⟩, rfl, by simpa using free⟩
  · -- The other way round, such a path passes every check but the last, which the place decides.
    rintro ⟨place, front, name, parts, rfl, free⟩
    rw [parts.target, free]
    rfl

/-- A path is written where it leads to, if it can be written. -/
theorem target_eq_locate {path : String} {found : List Text} (located : tree.locate path = .ok found)
    (targeted : tree.target path = .ok names) : names = found := by
  obtain ⟨place, front, name, parts, rfl, -⟩ := target_eq_ok_iff.mp targeted
  -- Following the path goes to the same place as writing it.
  rw [parts.locate] at located
  split at located
  · cases located
  · exact Except.ok.inj located

theorem ne_nil_of_target {path : String} (targeted : tree.target path = .ok names) :
    names ≠ [] := by
  obtain ⟨place, -, name, -, rfl, -⟩ := target_eq_ok_iff.mp targeted
  simp

/-- The place that a path can be written at. -/
def writable (tree : FileTree) (path : String) : Except FileError (List Text) :=
  if tree.locked.contains (Path.resolve tree.directory (Path.ofString path)) then .error .denied
  else tree.target path

/-- Writing puts the content in its place, if there is one. -/
theorem write_eq (path : String) (content : Bytes) :
    tree.write path content =
      (tree.writable path).map fun names => tree.put names (.file content) := by
  unfold write change writable
  split
  · rfl
  · cases tree.target path <;> rfl

theorem Alike.writable {hidden : List Text → Prop} {first second : FileTree}
    (alike : Alike hidden first second) (path : String) :
    first.writable path = second.writable path := by
  simp only [FileTree.writable, alike.locked, alike.directory, alike.target]

theorem writable_eq_locate {path : String} {found : List Text}
    (located : tree.locate path = .ok found) (writable : tree.writable path = .ok names) :
    names = found := by
  unfold FileTree.writable at writable
  split at writable
  · cases writable
  · exact target_eq_locate located writable

/-- A file that is written reads as it was written. -/
theorem read_of_write {path : String} {old content : Bytes} {after : FileTree}
    (read : tree.read path = .ok old) (wrote : tree.write path content = .ok after) :
    after.read path = .ok content := by
  -- The path is written where it was read, and leads there afterwards.
  obtain ⟨names, located, there⟩ := read_eq_ok read
  rw [write_eq] at wrote
  cases writable : tree.writable path with
  | error error => simp [writable, Except.map] at wrote
  | ok found =>
    obtain rfl := writable_eq_locate located writable
    simp only [writable, Except.map, Except.ok.injEq] at wrote
    subst wrote
    unfold FileTree.read
    rw [← (Alike.put there content).locate, located]
    simp only [Bind.bind, Except.bind, entry?_put (below_of_file there)]
    rfl

theorem below_of_writable {path : String} (writable : tree.writable path = .ok names) :
    names ≠ [] := by
  unfold FileTree.writable at writable
  split at writable
  · cases writable
  · exact ne_nil_of_target writable

end Writing

end FileTree

end ImportOrder
