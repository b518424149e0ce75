import ImportOrder.Proofs.FileTree.Alike

/-! Trees that grow: what was there stays there, and directories stay directories, so a path leads
where it led before. Making a directory and adding to a file let a tree grow. A file that is added
to can be added to again, at the same place, and reads as what it held and what was added. -/

namespace ImportOrder.FileTree

/-- A tree with everything that is in an earlier one. -/
structure Grows (before after : FileTree) : Prop where
  directory : after.directory = before.directory
  locked : after.locked = before.locked
  -- Files are not mentioned: their content may change, but a file does not go.
  directories : ∀ names, before.isDirectoryAt names = true → after.isDirectoryAt names = true
  present : ∀ names, (before.entry? names).isSome = true → (after.entry? names).isSome = true

namespace Grows

variable {before after : FileTree}

theorem refl (tree : FileTree) : Grows tree tree := ⟨rfl, rfl, fun _ => id, fun _ => id⟩

theorem trans {later : FileTree} (first : Grows before after) (second : Grows after later) :
    Grows before later where
  directory := second.directory.trans first.directory
  locked := second.locked.trans first.locked
  directories names there := second.directories names (first.directories names there)
  present names there := second.present names (first.present names there)

/-- A walk that comes to its end comes to the same end later. -/
theorem walk (grows : Grows before after) {place names found : List Text}
    (walked : before.walk place names = .ok found) : after.walk place names = .ok found := by
  -- The later walk takes the turns of the earlier one, which found what it asked for.
  fun_induction FileTree.walk before place names with
  | case1 => exact walked
  | case2 => cases walked
  | case3 place name rest inside skipped ih =>
    have inside := grows.directories place (by simpa using inside)
    rw [FileTree.walk, if_neg (by simp [inside]), if_pos skipped, ih walked]
  | case4 place name rest inside kept up ih =>
    have inside := grows.directories place (by simpa using inside)
    rw [FileTree.walk, if_neg (by simp [inside]), if_neg kept, if_pos up, ih walked]
  | case5 => cases walked
  | case6 => cases walked
  | case7 place name rest inside kept down brief there ih =>
    have inside := grows.directories place (by simpa using inside)
    have there := grows.present (place ++ [name]) (by simpa [Option.isSome_iff_ne_none] using there)
    rw [FileTree.walk, if_neg (by simp [inside]), if_neg kept, if_neg down, if_neg brief,
      if_neg (by simpa [Option.isSome_iff_ne_none] using there), ih walked]

theorem start (grows : Grows before after) (path : Text) :
    after.start path = before.start path := by
  rw [FileTree.start, FileTree.start, grows.directory]

theorem locate (grows : Grows before after) {path : String} {found : List Text}
    (located : before.locate path = .ok found) : after.locate path = .ok found := by
  -- The bounds on a path do not look at the tree.
  obtain ⟨filled, short, walked⟩ := locate_eq_ok_iff.mp located
  exact locate_eq_ok_iff.mpr ⟨filled, short, grows.start _ ▸ grows.walk walked⟩

theorem isDirectory (grows : Grows before after) {path : String}
    (there : before.isDirectory path = true) : after.isDirectory path = true := by
  unfold FileTree.isDirectory at there ⊢
  cases located : before.locate path with
  | error error => simp [located] at there
  | ok names =>
    rw [located] at there
    rw [grows.locate located]
    exact grows.directories names there

end Grows

section Targets

variable {tree : FileTree} {path : String} {names : List Text}

/-- A path that can be written keeps its parts. -/
theorem Targets.grows {before after : FileTree} (grows : Grows before after)
    {place front : List Text} {name : Text} (parts : Targets before path place front name) :
    Targets after path place front name :=
  -- The name at the end is not asked for, so it may be there or not.
  { parts with
    walked := grows.start _ ▸ grows.walk parts.walked
    inside := grows.directories place parts.inside }

/-- Putting something at a place for a file takes nothing away. -/
theorem Grows.put (targeted : tree.target path = .ok names) (entry : Entry) :
    Grows tree (tree.put names entry) := by
  obtain ⟨place, -, name, -, rfl, free⟩ := target_eq_ok_iff.mp targeted
  refine ⟨rfl, rfl, ?_, ?_⟩
  · intro other there
    -- What is replaced is no directory.
    have apart : other ≠ place ++ [name] := by
      rintro rfl
      rw [free] at there
      cases there
    rwa [isDirectoryAt, entry?_put_other apart]
  · intro other there
    by_cases same : other = place ++ [name]
    · rw [same, entry?_put (by simp)]
      rfl
    · rwa [entry?_put_other same]

/-- What is put at a place for a file is where the path leads. -/
theorem locate_put (targeted : tree.target path = .ok names) (entry : Entry) :
    (tree.put names entry).locate path = .ok names := by
  have grows := Grows.put targeted entry
  have there : FileTree.entry? (tree.put names entry) names = some entry :=
    entry?_put (ne_nil_of_target targeted) entry
  -- The way up to the last name was there before, and the last name is there now.
  obtain ⟨place, front, name, parts, rfl, -⟩ := target_eq_ok_iff.mp targeted
  rw [(parts.grows grows).locate, there]
  rfl

end Targets

section Contents

/-- What the file at some names holds, nothing if no file is there. -/
def contentAt (tree : FileTree) (names : List Text) : Bytes :=
  match tree.entry? names with
  | some (.file content) => content
  | _ => []

end Contents

section Directories

variable {tree grown : FileTree} {path : String}

/-- A directory that is made is a directory, all else is as it was, and no file is changed. -/
structure Makes (tree grown : FileTree) (path : String) : Prop where
  grows : Grows tree grown
  made : grown.isDirectory path = true
  contents : ∀ names, grown.contentAt names = tree.contentAt names

theorem makes_self (there : tree.isDirectory path = true) : Makes tree tree path :=
  ⟨.refl tree, there, fun _ => rfl⟩

/-- One directory is made where nothing is. -/
theorem makes_of_makeDirectory (done : tree.makeDirectory path = .ok grown) :
    Makes tree grown path := by
  -- A directory is made only where nothing is; anything else at the place is an error.
  unfold makeDirectory at done
  split at done
  · cases done
  · rename_i error missing
    cases targeted : tree.target path with
    | error error => simp [targeted, Bind.bind, Except.bind] at done
    | ok names =>
      simp only [targeted, Bind.bind, Except.bind, Pure.pure, Except.pure, Except.ok.injEq] at done
      subst done
      have below := ne_nil_of_target targeted
      -- The path would lead to anything that is at its place.
      have absent : tree.entry? names = none := by
        obtain ⟨place, front, name, parts, rfl, -⟩ := target_eq_ok_iff.mp targeted
        rw [parts.locate] at missing
        split at missing
        · rename_i none
          simpa using none
        · cases missing
      refine ⟨.put targeted _, ?_, ?_⟩
      · rw [FileTree.isDirectory, locate_put targeted]
        simp [isDirectoryAt, entry?_put below]
      · intro other
        by_cases same : other = names
        · simp [contentAt, same, entry?_put below, absent]
        · rw [contentAt, entry?_put_other same, contentAt]

theorem Makes.trans {later : FileTree} {parent : String} (first : Makes tree grown parent)
    (second : Makes grown later path) : Makes tree later path where
  grows := first.grows.trans second.grows
  made := second.made
  contents names := (second.contents names).trans (first.contents names)

/-- Making a directory and all those above it makes the directory. -/
theorem makes_of_makeDirectories {fuel : Nat} {path : Path}
    (done : makeDirectories fuel tree path = .ok grown) : Makes tree grown path.toString := by
  -- The induction follows the way up to the first directory that is there.
  fun_induction makeDirectories fuel tree path generalizing grown with
  | case1 fuel tree path grown made =>
    cases done
    exact makes_of_makeDirectory made
  | case2 => cases done
  | case3 tree path missing fuel ih =>
    cases above : makeDirectories fuel tree path.parent with
    | error error => simp [above, Bind.bind, Except.bind] at done
    | ok parent =>
      simp only [above, Bind.bind, Except.bind] at done
      -- The directories above were made. If that made this one as well, nothing is left to be done.
      split at done
      · rename_i there
        cases done
        exact (ih above).trans (makes_self there)
      · exact (ih above).trans (makes_of_makeDirectory done)
  | case4 fuel tree path error other failed there =>
    cases done
    exact makes_self there
  | case5 => cases done

/-- A directory that is there need not be made. -/
theorem makeDirectories_of_isDirectory {path : Path} (there : tree.isDirectory path.toString = true)
    (fuel : Nat) : makeDirectories fuel tree path = .ok tree := by
  -- Making it once more fails, and what is there is taken for it.
  have failed : tree.makeDirectory path.toString = .error .alreadyThere := by
    unfold FileTree.isDirectory at there
    unfold makeDirectory
    split at there
    · rfl
    · cases there
  unfold makeDirectories
  rw [failed]
  simp [there]

end Directories

section Appending

variable {tree : FileTree} {path : String} {names : List Text}

/-- What is added to a file stands behind what it holds, if the file can be written. -/
theorem append_eq (path : String) (content : Bytes) :
    tree.append path content = (tree.writable path).map fun names =>
      tree.put names (.file (tree.contentAt names ++ content)) := by
  -- Both ask first whether the file can be written, and then put the same content.
  unfold append change writable
  split
  · rfl
  · cases tree.target path with
    | error error => rfl
    | ok names =>
      unfold contentAt
      rfl

theorem target_of_writable (writable : tree.writable path = .ok names) :
    tree.target path = .ok names := by
  unfold FileTree.writable at writable
  split at writable
  · cases writable
  · exact writable

/-- A file that is written can be written again, at the same place. -/
theorem writable_put (writable : tree.writable path = .ok names) (content : Bytes) :
    (tree.put names (.file content)).writable path = .ok names := by
  have targeted := target_of_writable writable
  have grows := Grows.put targeted (.file content)
  have there : FileTree.entry? (tree.put names (.file content)) names = some (.file content) :=
    entry?_put (ne_nil_of_target targeted) _
  have again : (tree.put names (.file content)).target path = .ok names := by
    obtain ⟨place, front, name, parts, same, -⟩ := target_eq_ok_iff.mp targeted
    -- The front leads where it led before, and what is at the end now is a file.
    refine target_eq_ok_iff.mpr ⟨place, front, name, parts.grows grows, same, ?_⟩
    rw [isDirectoryAt, there]
    rfl
  -- What is locked has not changed either.
  unfold FileTree.writable at writable ⊢
  rw [grows.locked, grows.directory]
  split at writable
  · cases writable
  · rename_i free
    rw [if_neg free, again]

/-- A file reads as what is put at its place. -/
theorem read_put (writable : tree.writable path = .ok names) (content : Bytes) :
    (tree.put names (.file content)).read path = .ok content := by
  have targeted := target_of_writable writable
  rw [FileTree.read, locate_put targeted]
  simp only [Bind.bind, Except.bind, entry?_put (ne_nil_of_target targeted)]
  rfl

theorem contentAt_put (writable : tree.writable path = .ok names) (content : Bytes)
    (other : List Text) : (tree.put names (.file content)).contentAt other =
      if other = names then content else tree.contentAt other := by
  split
  · rename_i same
    rw [contentAt, same, entry?_put (ne_nil_of_target (target_of_writable writable))]
  · rename_i apart
    rw [contentAt, entry?_put_other apart, contentAt]

/-- A file is written where it is read, however the tree has grown since. -/
theorem contentAt_of_read {grown : FileTree} {content : Bytes} (grows : Grows tree grown)
    (read : tree.read path = .ok content) (writable : grown.writable path = .ok names) :
    tree.contentAt names = content := by
  -- The path leads to the file that is read, and it can be written nowhere else.
  obtain ⟨found, located, there⟩ := read_eq_ok read
  obtain rfl := writable_eq_locate (grows.locate located) writable
  rw [contentAt, there]

end Appending

end ImportOrder.FileTree
