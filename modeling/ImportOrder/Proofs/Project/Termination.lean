import ImportOrder.Proofs.Project.Inheritance

/-! Loading a project comes to an end, whatever its files say. The rules of loading, stated without a
bound, lead to the result in finitely many steps; on the way no file is read twice; and a project
that can be loaded has no file that extends itself, in however many steps. -/

namespace ImportOrder.Project

open Relation (ReflTransGen TransGen)

mutual

/-- Loading the project file at a place, when those in `seen` are loaded: what it ends with, and the
places of the files that it reads, in order. -/
inductive Loads (files : FileTree) :
    Seen → List Text → Except Failure (Entries × Seen) → List (List Text) → Prop
  -- A file that was loaded before closes a circle, and it is not read again.
  | again {seen : Seen} {names : List Text} (known : names ∈ seen) :
      Loads files seen names (.error (circularAt names)) []
  -- A file that cannot be read ends the load.
  | unreadable {seen : Seen} {names : List Text} {failure : Failure} (fresh : names ∉ seen)
      (failed : readAt files names = .error failure) :
      Loads files seen names (.error failure) [names]
  -- The file is read first, and then all that it extends.
  | readable {seen : Seen} {names : List Text} {reading : Reading}
      {result : Except Failure (Entries × Seen)} {reads : List (List Text)} (fresh : names ∉ seen)
      (read : readAt files names = .ok reading)
      (parents : Collects files names.dropLast (names :: seen) [] reading.targets result reads) :
      Loads files seen names (result.map fun (merged, seen) => (reading.inherit merged, seen))
        (names :: reads)

/-- Collecting the options of files that are named from a directory, from left to right. -/
inductive Collects (files : FileTree) :
    List Text → Seen → Entries → List Document → Except Failure (Entries × Seen) →
      List (List Text) → Prop
  | done {directory : List Text} {seen : Seen} {merged : Entries} :
      Collects files directory seen merged [] (.ok (merged, seen)) []
  -- What is no text, and what names a package, is passed over.
  | nameless {directory : List Text} {seen : Seen} {merged : Entries} {target : Document}
      {rest : List Document} {result : Except Failure (Entries × Seen)} {reads : List (List Text)}
      (nameless : target.text? = none)
      (later : Collects files directory seen merged rest result reads) :
      Collects files directory seen merged (target :: rest) result reads
  | package {directory : List Text} {seen : Seen} {merged : Entries} {target : String}
      {rest : List Document} {result : Except Failure (Entries × Seen)} {reads : List (List Text)}
      (leads : extendsPath files directory target = .ok none)
      (later : Collects files directory seen merged rest result reads) :
      Collects files directory seen merged (.text target :: rest) result reads
  -- A name that leads nowhere, or a file that cannot be loaded, ends the collection.
  | astray {directory : List Text} {seen : Seen} {merged : Entries} {target : String}
      {rest : List Document} {failure : Failure}
      (leads : extendsPath files directory target = .error failure) :
      Collects files directory seen merged (.text target :: rest) (.error failure) []
  | fails {directory : List Text} {seen : Seen} {merged : Entries} {target : String}
      {rest : List Document} {names : List Text} {failure : Failure} {reads : List (List Text)}
      (leads : extendsPath files directory target = .ok (some names))
      (loads : Loads files seen names (.error failure) reads) :
      Collects files directory seen merged (.text target :: rest) (.error failure) reads
  -- The options of a file that is loaded are laid over those before it.
  | merges {directory : List Text} {seen next : Seen} {merged parent : Entries} {target : String}
      {rest : List Document} {names : List Text} {result : Except Failure (Entries × Seen)}
      {reads more : List (List Text)}
      (leads : extendsPath files directory target = .ok (some names))
      (loads : Loads files seen names (.ok (parent, next)) reads)
      (later : Collects files directory next
        (merged.update ((parent.get? ProjectKey.compilerOptions).getD .null).entries) rest result
        more) :
      Collects files directory seen merged (.text target :: rest) result (reads ++ more)

end

/-- Files that were read for a result: all different, none of those loaded before, and all of them
loaded if the result is there. -/
structure ReadOnce (seen : Seen) (result : Except Failure (Entries × Seen))
    (reads : List (List Text)) : Prop where
  distinct : reads.Nodup
  fresh : ∀ names ∈ reads, names ∉ seen
  loaded : ∀ entries after, result = .ok (entries, after) → after = reads.reverse ++ seen

namespace ReadOnce

variable {seen : Seen}

/-- A failure before anything is read. -/
theorem error (failure : Failure) : ReadOnce seen (.error failure) [] :=
  ⟨.nil, by simp, by simp⟩

/-- A file that was not loaded is read in front of those that it extends. -/
theorem cons {names : List Text} {reads : List (List Text)}
    {result : Except Failure (Entries × Seen)} (fresh : names ∉ seen)
    (parents : ReadOnce (names :: seen) result reads) (inherit : Entries → Entries) :
    ReadOnce seen (result.map fun (merged, seen) => (inherit merged, seen)) (names :: reads) where
  distinct := List.nodup_cons.mpr
    ⟨fun later => parents.fresh names later List.mem_cons_self, parents.distinct⟩
  fresh := List.forall_mem_cons.mpr
    ⟨fresh, fun other later known => parents.fresh other later (List.mem_cons_of_mem _ known)⟩
  loaded := by
    -- The file itself is loaded before those that it extends.
    intro entries after ends
    cases result with
    | error failure => cases ends
    | ok value =>
      cases ends
      rw [parents.loaded value.1 value.2 rfl]
      simp

/-- The files of a next one are read behind those of the first. -/
theorem append {next : Seen} {parent : Entries} {reads more : List (List Text)}
    {result : Except Failure (Entries × Seen)} (first : ReadOnce seen (.ok (parent, next)) reads)
    (later : ReadOnce next result more) : ReadOnce seen result (reads ++ more) := by
  -- What was read first is loaded when the next file is read.
  obtain rfl : next = reads.reverse ++ seen := first.loaded parent next rfl
  refine ⟨?_, ?_, ?_⟩
  · -- A file read for the next one is none of those, for they are all loaded.
    refine List.nodup_append.mpr ⟨first.distinct, later.distinct, ?_⟩
    rintro names before other behind rfl
    exact later.fresh names behind (by simp [before])
  · intro names member known
    rcases List.mem_append.mp member with before | behind
    · exact first.fresh names before known
    · exact later.fresh names behind (by simp [known])
  · intro entries after ends
    rw [later.loaded entries after ends]
    simp

end ReadOnce

mutual

/-- Loading reads no file twice and none that is loaded. -/
theorem Loads.readOnce {files : FileTree} {seen : Seen} {names : List Text}
    {result : Except Failure (Entries × Seen)} {reads : List (List Text)} :
    Loads files seen names result reads → ReadOnce seen result reads
  | .again _ => .error _
  | .unreadable fresh _ =>
    ⟨by simp, List.forall_mem_singleton.mpr fresh, by simp⟩
  | .readable fresh _ parents => parents.readOnce.cons fresh _

/-- Collecting reads no file twice and none that is loaded. -/
theorem Collects.readOnce {files : FileTree} {directory : List Text} {seen : Seen}
    {merged : Entries} {targets : List Document} {result : Except Failure (Entries × Seen)}
    {reads : List (List Text)} :
    Collects files directory seen merged targets result reads → ReadOnce seen result reads
  | .done => ⟨.nil, by simp, by simp⟩
  | .nameless _ later => later.readOnce
  | .package _ later => later.readOnce
  | .astray _ => .error _
  | .fails _ loads => loads.readOnce
  | .merges _ loads later => loads.readOnce.append later.readOnce

end

mutual

/-- Loading from a proper place reads at proper places only. -/
theorem Loads.proper {files : FileTree} {seen : Seen} {names : List Text}
    {result : Except Failure (Entries × Seen)} {reads : List (List Text)}
    (place : ProperPlace names) :
    Loads files seen names result reads → ∀ other ∈ reads, ProperPlace other
  | .again _ => by simp
  | .unreadable _ _ => List.forall_mem_singleton.mpr place
  | .readable _ _ parents => List.forall_mem_cons.mpr ⟨place, parents.proper place.dropLast⟩

/-- Collecting from a proper directory reads at proper places only. -/
theorem Collects.proper {files : FileTree} {directory : List Text} {seen : Seen}
    {merged : Entries} {targets : List Document} {result : Except Failure (Entries × Seen)}
    {reads : List (List Text)} (place : ProperPlace directory) :
    Collects files directory seen merged targets result reads →
      ∀ other ∈ reads, ProperPlace other
  | .done => by simp
  | .nameless _ later => later.proper place
  | .package _ later => later.proper place
  | .astray _ => by simp
  | .fails leads loads => loads.proper (extendsPath_proper place leads)
  | .merges leads loads later => List.forall_mem_append.mpr
    ⟨loads.proper (extendsPath_proper place leads), later.proper place⟩

end

section Steps

variable {files : FileTree} {fuel : Nat}

/-- The rules collect what the function collects, if they load what it loads. -/
theorem exists_collects {directory : List Text} (proper : ProperPlace directory)
    (each : ∀ {seen way names}, Reserve files fuel seen way → ProperPlace names →
      ∃ reads, Loads files seen names (loadFrom files fuel seen names) reads)
    {seen way : List (List Text)} (reserve : Reserve files fuel seen way) (merged : Entries)
    (targets : List Document) :
    ∃ reads, Collects files directory seen merged targets
      (collect files directory (loadFrom files fuel) seen merged targets) reads := by
  -- By recursion on the names: what is loaded and merged so far changes from one to the next.
  induction targets generalizing seen merged with
  | nil => exact ⟨[], .done⟩
  | cons target rest ih =>
    cases target with
    | text name =>
      rw [collect]
      -- The cases are the rules for a name: astray, a package, or a file to load.
      cases leads : extendsPath files directory name with
      | error failure => exact ⟨[], .astray leads⟩
      | ok place? =>
        cases place? with
        | none =>
          obtain ⟨reads, later⟩ := ih reserve merged
          exact ⟨reads, .package leads later⟩
        | some names =>
          obtain ⟨reads, loads⟩ := each reserve (extendsPath_proper proper leads)
          cases done : loadFrom files fuel seen names with
          | error failure =>
            rw [done] at loads
            simp only [Bind.bind, Except.bind, done]
            exact ⟨reads, .fails leads loads⟩
          | ok value =>
            -- The files read for this name are loaded when the next one is followed.
            obtain ⟨parent, next⟩ := value
            rw [done] at loads
            obtain rfl : next = reads.reverse ++ seen := loads.readOnce.loaded parent next rfl
            obtain ⟨more, later⟩ := ih (reserve.after _) _
            simp only [Bind.bind, Except.bind, done]
            exact ⟨reads ++ more, .merges leads loads later⟩
    | _ =>
      obtain ⟨reads, later⟩ := ih reserve merged
      exact ⟨reads, .nameless rfl later⟩

/-- The rules load what the function loads, as long as there is fuel for all files that are left. -/
theorem exists_loads {seen way : List (List Text)} {names : List Text}
    (reserve : Reserve files fuel seen way) (proper : ProperPlace names) :
    ∃ reads, Loads files seen names (loadFrom files fuel seen names) reads := by
  induction fuel generalizing seen way names with
  | zero =>
    -- There is always fuel left, because no more files can be new than the tree has.
    obtain ⟨left, impossible⟩ := reserve.exists_succ
    cases impossible
  | succ fuel ih =>
    rw [loadFrom_succ]
    -- The cases are the three rules for a file.
    by_cases known : names ∈ seen
    · rw [if_pos (by simpa using known)]
      exact ⟨[], .again known⟩
    · rw [if_neg (by simpa using known)]
      cases read : readAt files names with
      | error failure => exact ⟨[names], .unreadable known read⟩
      | ok reading =>
        -- A file that can be read is an entry of the tree, so one less is left.
        have stored := mem_entries_of_fileAt proper (readAt_eq_ok read).1
        obtain ⟨reads, parents⟩ := exists_collects proper.dropLast
          (fun reserve proper => ih reserve proper) (reserve.next known stored) []
          reading.targets
        exact ⟨names :: reads, .readable known read parents⟩

end Steps

section Circles

variable {files : FileTree} {names : List Text}

/-- Files with a listing extend each other to a finite depth only. -/
theorem PostOrder.acc {places listing : List (List Text)} (listed : PostOrder files places listing) :
    ∀ names ∈ places, Acc (fun parent child => Extends files child parent) names := by
  induction listed with
  | nil => simp
  | cons _ _ ih_extended ih_later => exact List.forall_mem_cons.mpr ⟨⟨_, ih_extended⟩, ih_later⟩

/-- What is reached from a file of finite depth has finite depth. -/
theorem acc_of_reached {start : List Text}
    (deep : Acc (fun parent child => Extends files child parent) start)
    (reached : ReflTransGen (Extends files) start names) :
    Acc (fun parent child => Extends files child parent) names := by
  -- Each step of the way goes to a file that is less deep.
  induction reached with
  | refl => exact deep
  | tail _ extended ih => exact ih.inv extended

/-- A file of finite depth does not extend itself, in however many steps. -/
theorem acyclic_of_acc (deep : Acc (fun parent child => Extends files child parent) names) :
    ¬ TransGen (Extends files) names names := by
  induction deep with
  | intro names _ ih =>
    intro circle
    -- The next file of the circle is on the circle too, and it is less deep.
    obtain ⟨parent, extended, way⟩ := TransGen.head'_iff.mp circle
    exact ih parent extended (TransGen.tail' way extended)

end Circles

/-- Loading a project ends, whatever its files hold. The rules lead to the result in finitely many
steps; no place is read twice on the way, and the path of a place leads nowhere else; and there is a
mapping only if no file that is reached extends itself, in however many steps. -/
theorem loadProject_ends {files : FileTree} {path : String}
    (clear : ∀ name ∈ files.directory, '/' ∉ name) :
    ∃ result reads, Loads files [] (startOf files path) result reads ∧
      loadProject files path = result.map Prod.fst ∧
      reads.Nodup ∧
      (∀ names ∈ reads, ∀ place,
        files.locate (Path.absolute names).toString = .ok place → place = names) ∧
      ∀ entries, loadProject files path = .ok entries →
        ∀ names, Reached files path names → ¬ TransGen (Extends files) names names := by
  -- At the start nothing is loaded, and the fuel is for all files of the tree.
  have reserve : Reserve files (files.entries.length + 2) [] [] := ⟨.nil, by simp, by simp, by simp⟩
  have start : ProperPlace (startOf files path) := Reached.proper clear .refl
  obtain ⟨reads, loads⟩ := exists_loads reserve start
  refine ⟨_, reads, loads, loadProject_eq files path, loads.readOnce.distinct, ?_, ?_⟩
  · -- Only proper places are read, and the path of such a place leads back to it.
    intro names member place located
    exact FileTree.locate_absolute (loads.proper start names member) located
  · intro entries done names reached
    obtain ⟨below, -, extended, -⟩ := loadProject_inherits done
    -- What the first file extends has a listing, so it has finite depth.
    have deep := (PostOrder.cons extended .nil).acc (startOf files path) List.mem_cons_self
    exact acyclic_of_acc (acc_of_reached deep reached)

mutual

/-- The rules leave no choice: they load to one result, and read the same files on the way. -/
theorem Loads.unique {files : FileTree} {seen : Seen} {names : List Text}
    {result result' : Except Failure (Entries × Seen)} {reads reads' : List (List Text)} :
    Loads files seen names result reads → Loads files seen names result' reads' →
      result' = result ∧ reads' = reads
  | .again known, other => by
    cases other with
    | again => exact ⟨rfl, rfl⟩
    | unreadable fresh => exact absurd known fresh
    | readable fresh => exact absurd known fresh
  | .unreadable fresh failed, other => by
    cases other with
    | again known => exact absurd known fresh
    | unreadable _ failed' =>
      cases failed.symm.trans failed'
      exact ⟨rfl, rfl⟩
    | readable _ read => cases failed.symm.trans read
  | .readable fresh read parents, other => by
    cases other with
    | again known => exact absurd known fresh
    | unreadable _ failed => cases failed.symm.trans read
    | readable _ read' parents' =>
      cases read.symm.trans read'
      obtain ⟨rfl, rfl⟩ := parents.unique parents'
      exact ⟨rfl, rfl⟩

/-- The rules collect to one result, and read the same files on the way. -/
theorem Collects.unique {files : FileTree} {directory : List Text} {seen : Seen}
    {merged : Entries} {targets : List Document} {result result' : Except Failure (Entries × Seen)}
    {reads reads' : List (List Text)} :
    Collects files directory seen merged targets result reads →
      Collects files directory seen merged targets result' reads' →
      result' = result ∧ reads' = reads
  | .done, .done => ⟨rfl, rfl⟩
  | .nameless nameless later, other => by
    cases other with
    | nameless _ later' => exact later.unique later'
    | _ => cases nameless
  -- Where the first name leads tells which rule is the next.
  | .package leads later, other => by
    cases other with
    | nameless nameless => cases nameless
    | package _ later' => exact later.unique later'
    | astray leads' => cases leads.symm.trans leads'
    | fails leads' => cases leads.symm.trans leads'
    | merges leads' => cases leads.symm.trans leads'
  | .astray leads, other => by
    cases other with
    | nameless nameless => cases nameless
    | package leads' => cases leads.symm.trans leads'
    | astray leads' =>
      cases leads.symm.trans leads'
      exact ⟨rfl, rfl⟩
    | fails leads' => cases leads.symm.trans leads'
    | merges leads' => cases leads.symm.trans leads'
  | .fails leads loads, other => by
    cases other with
    | nameless nameless => cases nameless
    | package leads' => cases leads.symm.trans leads'
    | astray leads' => cases leads.symm.trans leads'
    | fails leads' loads' =>
      cases leads.symm.trans leads'
      exact loads.unique loads'
    | merges leads' loads' =>
      cases leads.symm.trans leads'
      cases (loads.unique loads').1
  | .merges leads loads later, other => by
    cases other with
    | nameless nameless => cases nameless
    | package leads' => cases leads.symm.trans leads'
    | astray leads' => cases leads.symm.trans leads'
    | fails leads' loads' =>
      cases leads.symm.trans leads'
      cases (loads.unique loads').1
    | merges leads' loads' later' =>
      cases leads.symm.trans leads'
      obtain ⟨same, rfl⟩ := loads.unique loads'
      cases same
      obtain ⟨rfl, rfl⟩ := later.unique later'
      exact ⟨rfl, rfl⟩

end

section Failing

variable {files : FileTree} {seen : Seen} {reads : List (List Text)} {failure : Failure}

/-- Collecting fails as the first file does that a name leads to. -/
theorem Collects.of_first {directory names : List Text} {others : List (List Text)}
    {merged : Entries} {targets : List Document}
    (leads : ∀ target, .text target ∈ targets →
      ∃ place?, extendsPath files directory target = .ok place?)
    (first : targets.filterMap (targetPlace? files directory) = names :: others)
    (loads : Loads files seen names (.error failure) reads) :
    Collects files directory seen merged targets (.error failure) reads := by
  induction targets with
  | nil => cases first
  | cons target rest ih =>
    have later := ih fun other member => leads other (List.mem_cons_of_mem _ member)
    cases target with
    | text target =>
      obtain ⟨place?, leads⟩ := leads target (by simp)
      have here : targetPlace? files directory (.text target) = place? := by
        simp [targetPlace?, leads, Except.toOption]
      cases place? with
      | none =>
        -- A package is passed over.
        rw [List.filterMap_cons_none here] at first
        exact .package leads (later first)
      | some place =>
        rw [List.filterMap_cons_some here] at first
        cases first
        exact .fails leads loads
    | _ => exact .nameless rfl (later first)

/-- A file fails as the first file does that it extends. -/
theorem Loads.of_first {names parent : List Text} {others : List (List Text)}
    (fresh : names ∉ seen) (readable : ∃ reading, readAt files names = .ok reading)
    (leads : Leads files names) (first : followed files names = parent :: others)
    (loads : Loads files (names :: seen) parent (.error failure) reads) :
    Loads files seen names (.error failure) (names :: reads) := by
  obtain ⟨reading, read⟩ := readable
  rw [followed_of_readAt read] at first
  exact .readable fresh read (.of_first (leads reading read) first loads)

end Failing

/-- Three project files that extend each other, each spelled in a way of its own. -/
def loop : FileTree where
  entries :=
    [rootFile "tsconfig.json" "\x7b\"extends\": [\"@pkg/c\", \"./x/../a\"]\x7d",
      rootFile "a.json" "\x7b\"extends\": \"./b.json\"\x7d",
      rootFile "b.json" "\x7b\"extends\": [null, \"././tsconfig.json\"]\x7d"]

/-- The places of the files of the loop, in the order in which they are loaded. -/
def loopPlaces : List (List Text) :=
  ["tsconfig.json", "a.json", "b.json"].map fun name => [name.toList]

/-- Loading the loop reads its three files, and then it comes back to the first one. -/
theorem loop_loads :
    Loads loop [] ["tsconfig.json".toList] (.error (circularAt ["tsconfig.json".toList]))
      loopPlaces := by
  have readable : ∀ names ∈ loopPlaces, ∃ reading, readAt loop names = .ok reading := by
    have told : ∀ names ∈ loopPlaces, (readAt loop names).toOption.isSome = true := by
      decide +kernel
    intro names member
    cases read : readAt loop names with
    | error failure => simpa [read, Except.toOption] using told names member
    | ok reading => exact ⟨reading, rfl⟩
  have leads : ∀ names ∈ loopPlaces, Leads loop names := by
    have told : ∀ names ∈ loopPlaces,
        (fileAt loop names).toOption.all (soundNames loop names) = true := by decide +kernel
    intro names member
    apply leads_of_soundNames
    intro file loaded
    simpa [loaded, Except.toOption] using told names member
  have first : followed loop ["tsconfig.json".toList] = [["a.json".toList]] := by decide +kernel
  have second : followed loop ["a.json".toList] = [["b.json".toList]] := by decide +kernel
  have third : followed loop ["b.json".toList] = [["tsconfig.json".toList]] := by decide +kernel
  refine .of_first (by decide) (readable _ (by decide)) (leads _ (by decide)) first ?_
  refine .of_first (by decide) (readable _ (by decide)) (leads _ (by decide)) second ?_
  exact .of_first (by decide) (readable _ (by decide)) (leads _ (by decide)) third
    (.again (by decide))

/-- A loop is refused, after each of its files was read once. -/
theorem loadProject_ends_loop :
    (∀ name ∈ loop.directory, '/' ∉ name) ∧
    ∃ reads, Loads loop [] (startOf loop "tsconfig.json")
        (.error (circularAt ["tsconfig.json".toList])) reads ∧
      reads = loopPlaces ∧ reads.Nodup ∧
      loadProject loop "tsconfig.json" = .error (circularAt ["tsconfig.json".toList]) ∧
      (circularAt ["tsconfig.json".toList]).message =
        "Cannot load /tsconfig.json: circular extends chain through /tsconfig.json" := by
  have start : startOf loop "tsconfig.json" = ["tsconfig.json".toList] := by decide +kernel
  obtain ⟨result, reads, loads, ends, distinct, -, -⟩ :=
    @loadProject_ends loop "tsconfig.json" (by decide)
  obtain ⟨rfl, rfl⟩ := loop_loads.unique (start ▸ loads)
  exact ⟨by decide, _, loads, rfl, distinct, ends, by decide +kernel⟩

end ImportOrder.Project
