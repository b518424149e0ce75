import ImportOrder.Locality.Manifest
import ImportOrder.Proofs.Ordering.Rank
import ImportOrder.Proofs.Text.Pieces

/-! The imports that a sort by dependencies takes for packages. A module is one exactly if its name
does not start with a dot, has no extension, and starts with all segments of a dependency; the sort
puts these modules, and no others, into the bucket of packages. -/

namespace ImportOrder

/-- The segments of a name between its slashes. -/
def segments (name : String) : List Text := Text.splitOn '/' name.toList

/-- A name without an extension: where its last segment has a dot, only dots are in front of the
last one, or nothing is behind it. -/
def Extensionless (name : String) : Prop :=
  -- A tail without dots makes the dot in front of it the last one.
  ∀ stem tail, (segments name).getLast? = some (stem ++ '.' :: tail) → '.' ∉ tail →
    (∀ c ∈ stem, c = '.') ∨ tail = []

/-- A module of a package: a name that is not relative, has no extension, and is that of a
dependency or continues it by whole segments. -/
structure OfPackage (dependencies : List String) (name : String) : Prop where
  absolute : ¬ ['.'] <+: name.toList
  extensionless : Extensionless name
  declared : ∃ dependency ∈ dependencies, segments dependency <+: segments name

section Extensions

/-- A segment without a dot has no extension. -/
theorem segmentExtension_of_not_mem {segment : Text} (clear : '.' ∉ segment) :
    PathText.segmentExtension segment = [] := by
  have whole : (segment.reverse.takeWhile (· != '.')).reverse = segment :=
    Text.behindLast_of_not_mem clear
  unfold PathText.segmentExtension
  -- The whole segment stands behind the last dot, so no stem is left.
  simp [whole]

/-- The extension of a segment is what follows its last dot, unless only dots are in front. -/
theorem segmentExtension_append {stem tail : Text} (clear : '.' ∉ tail) :
    PathText.segmentExtension (stem ++ '.' :: tail) =
      if stem.any (· != '.') then tail else [] := by
  have behind : ((stem ++ '.' :: tail).reverse.takeWhile (· != '.')).reverse = tail :=
    Text.behindLast_append clear
  -- What is cut off at the end is the tail and its dot.
  have front : (stem ++ '.' :: tail).take ((stem ++ '.' :: tail).length - tail.length - 1) =
      stem := by
    rw [List.length_append, List.length_cons, List.take_append_of_le_length (by omega)]
    exact List.take_of_length_le (by omega)
  unfold PathText.segmentExtension
  rw [behind]
  dsimp only
  rw [front]

/-- A segment has no extension exactly if only dots are in front of its last dot or nothing is behind
it. -/
theorem segmentExtension_eq_nil_iff {segment : Text} :
    PathText.segmentExtension segment = [] ↔
      ∀ stem tail, segment = stem ++ '.' :: tail → '.' ∉ tail →
        (∀ c ∈ stem, c = '.') ∨ tail = [] := by
  constructor
  · rintro none stem tail rfl clear
    rw [segmentExtension_append clear] at none
    by_cases dots : ∀ c ∈ stem, c = '.'
    · exact .inl dots
    · -- Something else than dots is in front, so the tail is the extension, which is empty.
      rw [if_pos (by simpa using dots)] at none
      exact .inr none
  · intro rule
    by_cases dotted : '.' ∈ segment
    · obtain ⟨stem, tail, rfl, clear⟩ := Text.exists_last_mark dotted
      rw [segmentExtension_append clear]
      rcases rule stem tail rfl clear with dots | nothing
      · rw [if_neg (by simpa using dots)]
      · rw [nothing, ite_self]
    · exact segmentExtension_of_not_mem dotted

/-- A name has an empty extension exactly if it is one without extension. -/
theorem extensionOf_eq_empty_iff {name : String} :
    extensionOf name = "" ↔ Extensionless name := by
  have last : (segments name).getLast? = some (PathText.lastSegment name.toList) :=
    Text.getLast?_splitOn '/' name.toList
  -- Both sides speak of the last segment, the one behind the last slash.
  unfold Extensionless extensionOf PathText.extension
  rw [last, String.ofList_eq_empty_iff, segmentExtension_eq_nil_iff]
  simp only [Option.some.injEq]

end Extensions

section Dependencies

variable {dependencies : List String} {name : String}

/-- A dependency names a module exactly if its segments are the first segments of the module. -/
theorem Manifest.names_iff {dependency : String} :
    Manifest.names dependency name = true ↔ segments dependency <+: segments name := by
  -- Being equal or going on with a slash is what segments in front of others come to.
  unfold Manifest.names segments
  rw [PathText.splitOn_isPrefix_iff, Bool.or_eq_true, beq_iff_eq, Text.startsWith_iff,
    String.toList_inj]

/-- A module is not local exactly if it is not relative and continues a dependency. -/
theorem Manifest.isLocal_eq_false_iff :
    Manifest.isLocal dependencies name = false ↔
      ¬ ['.'] <+: name.toList ∧
        ∃ dependency ∈ dependencies, segments dependency <+: segments name := by
  unfold Manifest.isLocal
  rw [Bool.or_eq_false_iff, Bool.or_eq_false_iff, Bool.not_eq_false', List.any_eq_true,
    ← isRelative_iff, Bool.not_eq_true]
  constructor
  · rintro ⟨⟨absolute, -⟩, dependency, member, named⟩
    exact ⟨absolute, dependency, member, Manifest.names_iff.mp named⟩
  · rintro ⟨absolute, dependency, member, starts⟩
    -- The test for an empty list of dependencies says nothing new: one of them names the module.
    have some_dependency : dependencies.isEmpty = false :=
      List.isEmpty_eq_false_iff_exists_mem.mpr ⟨dependency, member⟩
    exact ⟨⟨absolute, some_dependency⟩, dependency, member, Manifest.names_iff.mpr starts⟩

/-- The modules of packages are those that are neither local nor have an extension. -/
theorem ofPackage_iff :
    OfPackage dependencies name ↔
      Manifest.isLocal dependencies name = false ∧ extensionOf name = "" := by
  rw [Manifest.isLocal_eq_false_iff, extensionOf_eq_empty_iff]
  constructor
  · intro package
    exact ⟨⟨package.absolute, package.declared⟩, package.extensionless⟩
  · rintro ⟨⟨absolute, declared⟩, extensionless⟩
    exact ⟨absolute, extensionless, declared⟩

instance : Decidable (OfPackage dependencies name) := decidable_of_iff _ ofPackage_iff.symm

/-- A relative module with some depth starts with a dot. -/
theorem starts_of_relativeDepth (deep : 0 < relativeDepth name) : ['.'] <+: name.toList := by
  unfold relativeDepth at deep
  split at deep
  · rename_i rest named
    exact ⟨'/' :: rest, named.symm⟩
  · -- What is not in the own directory is some steps up.
    unfold stepsUp at deep
    split at deep
    · rename_i rest named
      exact ⟨'.' :: '/' :: rest, named.symm⟩
    · exact absurd deep (Nat.lt_irrefl 0)

end Dependencies

namespace Sorter

variable {α : Type}

/-- The groups that a sort makes of one of the buckets in use. -/
def groupsIn (classifier : Classifier) (specifier : α → String) (options : Options)
    (items : List α) (group : Group) : List (List α) :=
  groupsOf specifier options (splitKey options) group
    ((tagFrom classifier specifier 0 items).filter fun tagged =>
      bucketIn options tagged == group.bucket)

/-- The groups of a sort around one bucket in use: those of the buckets ahead of it, its own, and
those of the buckets behind it. -/
def Around (classifier : Classifier) (specifier : α → String) (options : Options) (items : List α)
    (bucket : String) (ahead own behind : List (List α)) : Prop :=
  ∃ front group back, effectiveGroups options.groups = front ++ group :: back ∧
    group.bucket = bucket ∧
    ahead = front.flatMap (groupsIn classifier specifier options items) ∧
    own = groupsIn classifier specifier options items group ∧
    behind = back.flatMap (groupsIn classifier specifier options items)

section Around

variable {classifier : Classifier} {specifier : α → String} {options : Options} {items : List α}

/-- The groups of a bucket in use hold the items that belong there. -/
theorem groupsIn_perm {group : Group} (used : group ∈ effectiveGroups options.groups) :
    (groupsIn classifier specifier options items group).flatten.Perm
      (items.filter fun item =>
        bucketIn options (tag classifier specifier 0 item) == group.bucket) := by
  -- The parts that a bucket is split into hold its items and no others.
  have parts : RankedParts specifier options (splitKey options)
      (tagFrom classifier specifier 0 items) _ _ :=
    groupParts_ranked (tagFrom_ascending 0 items) used
  -- The place of an item has no say in its bucket.
  have chosen : ((tagFrom classifier specifier 0 items).filter fun tagged =>
      bucketIn options tagged == group.bucket).map Tagged.item = items.filter fun item =>
        bucketIn options (tag classifier specifier 0 item) == group.bucket :=
    filter_tagFrom_items (fun _ _ => rfl) 0 items
  rw [← chosen, groupsIn, groupsOf_eq, ← List.map_flatten]
  exact parts.exactly.map Tagged.item

/-- A sort goes through the buckets in use, one behind the other. -/
theorem arrange_eq_flatMap :
    arrange classifier specifier options (splitKey options) items =
      (effectiveGroups options.groups).flatMap (groupsIn classifier specifier options items) := rfl

/-- Every bucket in use has its groups somewhere in the result of a sort. -/
theorem process_around {bucket : String} (used : bucket ∈ bucketsIn options)
    (usable : ∀ excess, splitPattern options ≠ .error (.excess excess)) :
    ∃ ahead own behind warning,
      Around classifier specifier options items bucket ahead own behind ∧
      process classifier specifier options items = .ok (ahead ++ own ++ behind, warning) := by
  -- The bucket in use cuts the list of buckets, and with it the result, into three.
  obtain ⟨group, member, named⟩ := List.mem_map.mp used
  obtain ⟨front, back, cut⟩ := List.append_of_mem member
  obtain ⟨warning, done⟩ :
      ∃ warning, ∀ items, process classifier specifier options items = _ :=
    process_eq_ok usable
  refine ⟨_, _, _, warning, ⟨front, group, back, cut, named, rfl, rfl, rfl⟩, ?_⟩
  rw [done, arrange_eq_flatMap, cut, List.flatMap_append, List.flatMap_cons, List.append_assoc]

namespace Around

variable {bucket : String} {ahead own behind : List (List α)}

/-- The groups of a bucket hold the items that belong there. -/
theorem own_perm (around : Around classifier specifier options items bucket ahead own behind) :
    own.flatten.Perm (items.filter fun item =>
      bucketIn options (tag classifier specifier 0 item) == bucket) := by
  obtain ⟨front, group, back, cut, rfl, -, rfl, -⟩ := around
  apply groupsIn_perm
  rw [cut]
  exact List.mem_append_right _ (List.mem_cons_self ..)

/-- The other groups hold all other items. -/
theorem others_perm (around : Around classifier specifier options items bucket ahead own behind) :
    (ahead ++ behind).flatten.Perm (items.filter fun item =>
      !(bucketIn options (tag classifier specifier 0 item) == bucket)) := by
  -- The items of the bucket are put in front of the others, and dropped on both sides.
  have all : (own.flatten ++ (ahead ++ behind).flatten).Perm items := by
    obtain ⟨front, group, back, cut, -, rfl, rfl, rfl⟩ := around
    have perm : (arrange classifier specifier options (splitKey options) items).flatten.Perm
        items := arrange_perm classifier items
    rw [arrange_eq_flatMap, cut, List.flatMap_append, List.flatMap_cons, List.flatten_append,
      List.flatten_append] at perm
    rw [List.flatten_append]
    exact (List.perm_append_comm_assoc ..).trans perm
  have divided := ((own_perm around).append_right _).trans (List.filter_append_perm _ items)
  exact (List.perm_append_left_iff own.flatten).mp (all.trans divided.symm)

/-- The bucket of packages is never split. -/
theorem length_own_vendor
    (around : Around classifier specifier options items Bucket.vendor ahead own behind) :
    own.length ≤ 1 := by
  -- Only the buckets of relative and of local imports can be split.
  obtain ⟨front, group, back, -, vendor, -, rfl, -⟩ := around
  unfold groupsIn groupsOf
  rw [vendor]
  split
  · exact Nat.zero_le 1
  · exact Nat.le_refl 1

end Around

end Around

/-- Under a sort by dependencies the bucket of packages takes the modules of packages. -/
theorem bucketIn_vendor_eq {options : Options} (used : Bucket.vendor ∈ bucketsIn options)
    (dependencies : List String) (specifier : α → String) (item : α) :
    (bucketIn options (tag (Manifest.classifier dependencies) specifier 0 item) ==
      Bucket.vendor) = decide (OfPackage dependencies (specifier item)) := by
  rw [Bool.eq_iff_iff, beq_iff_eq, decide_eq_true_iff, bucketIn_eq_vendor_iff used, ofPackage_iff]
  simp [tag, Manifest.classifier]

/-- A sort by dependencies makes at most one group of packages. It holds exactly the imports of
packages: none of them is relative, and each is a dependency or goes on behind one with a slash. All
other imports are in the groups of other buckets. Only a split pattern that asks for too much keeps
the sort from its end. -/
theorem process_packages (dependencies : List String) (specifier : α → String) {options : Options}
    (configured : Bucket.vendor ∈ options.groups.map Group.bucket) (items : List α) :
    (∀ excess,
      process (Manifest.classifier dependencies) specifier options items = .error excess ↔
        splitPattern options = .error (.excess excess)) ∧
    ((∀ excess, splitPattern options ≠ .error (.excess excess)) →
      ∃ ahead packages behind warning,
        Around (Manifest.classifier dependencies) specifier options items Bucket.vendor
          ahead packages behind ∧
        process (Manifest.classifier dependencies) specifier options items =
          .ok (ahead ++ packages ++ behind, warning) ∧
        packages.length ≤ 1 ∧
        packages.flatten.Perm
          (items.filter fun item => OfPackage dependencies (specifier item)) ∧
        (ahead ++ behind).flatten.Perm
          (items.filter fun item => ¬ OfPackage dependencies (specifier item)) ∧
        ∀ item ∈ packages.flatten, relativeDepth (specifier item) = 0 ∧
          ∃ dependency ∈ dependencies, specifier item = dependency ∨
            dependency.toList ++ ['/'] <+: (specifier item).toList) := by
  refine ⟨fun excess => process_eq_error, ?_⟩
  intro usable
  have used : Bucket.vendor ∈ bucketsIn options := mem_bucketsIn configured
  obtain ⟨ahead, packages, behind, warning, around, done⟩ :
      ∃ ahead own behind warning, Around (Manifest.classifier dependencies) specifier options items
        Bucket.vendor ahead own behind ∧ _ :=
    process_around used usable
  -- What is in the bucket and what is not is told by the names alone.
  have own := around.own_perm
  have others := around.others_perm
  simp only [bucketIn_vendor_eq used] at own others
  refine ⟨ahead, packages, behind, warning, around, done, around.length_own_vendor, own,
    by simpa using others, ?_⟩
  intro item member
  have package : OfPackage dependencies (specifier item) := by
    simpa using (List.mem_filter.mp (own.mem_iff.mp member)).2
  refine ⟨?_, ?_⟩
  · -- A module with some depth would start with a dot.
    by_contra deep
    exact package.absolute (starts_of_relativeDepth (Nat.pos_of_ne_zero deep))
  · obtain ⟨dependency, declared, starts⟩ := package.declared
    have continued := PathText.splitOn_isPrefix_iff.mp starts
    rw [String.toList_inj] at continued
    exact ⟨dependency, declared, continued⟩

/-- A module inside a dependency and others that only look like it: a longer name, a relative one,
and a file with an extension. -/
def lookalikes : List String := ["library", "./lib/sub", "lib/sub", "lib/style.css"]

/-- Only the module inside the dependency is one of a package. -/
theorem process_packages_lookalikes :
    Bucket.vendor ∈ ({} : Options).groups.map Group.bucket ∧
    (∀ excess, splitPattern {} ≠ .error (.excess excess)) ∧
    ∃ ahead packages behind warning,
      process (Manifest.classifier ["lib"]) id {} lookalikes =
        .ok (ahead ++ packages ++ behind, warning) ∧
      packages.flatten.Perm ["lib/sub"] ∧
      (ahead ++ behind).flatten.Perm ["library", "./lib/sub", "lib/style.css"] := by
  have configured : Bucket.vendor ∈ ({} : Options).groups.map Group.bucket := by decide
  have usable : ∀ excess, splitPattern {} ≠ .error (.excess excess) := by
    intro excess refused
    cases refused
  have inside : (lookalikes.filter fun name => OfPackage ["lib"] (id name)) = ["lib/sub"] := by
    decide +kernel
  have outside : (lookalikes.filter fun name => ¬ OfPackage ["lib"] (id name)) =
      ["library", "./lib/sub", "lib/style.css"] := by
    decide +kernel
  obtain ⟨ahead, packages, behind, warning, -, done, -, own, others, -⟩ :=
    (process_packages ["lib"] id configured lookalikes).2 usable
  rw [inside] at own
  rw [outside] at others
  exact ⟨configured, usable, ahead, packages, behind, warning, done, own, others⟩

end Sorter

end ImportOrder
