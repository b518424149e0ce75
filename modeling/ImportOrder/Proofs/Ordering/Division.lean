import ImportOrder.Proofs.Ordering.Parts

/-! What a bucket is split by, and the parts it falls into: by depth, by what a pattern finds, or
none but one. -/

namespace ImportOrder.Sorter

variable {α : Type}

/-- What a bucket is split by: nothing, the depths of its members, or what a pattern finds in their
names. -/
inductive Division
  | whole
  | depths (shallowFirst : Bool)
  | keys (key : String → String)

/-- What a bucket is split by under some options, where `key` is what a split pattern sorts by. -/
def divisionOf (options : Options) (key : Option (String → String)) (bucket : String) : Division :=
  if bucket == Bucket.relative && options.splitRelative then
    .depths (options.relativeOrder == "shallow-first")
  else
    match bucket == Bucket.project, key with
    | true, some key => .keys key
    | _, _ => .whole

/-- The place of a depth among others: depths count up or down. -/
def depthPlace (shallowFirst : Bool) (depth : Nat) : Int := if shallowFirst then depth else -depth

/-- The part of a bucket that a member belongs to, as a number that grows from part to part: the
depth, counted up or down, or the index of the first member with the same finding. -/
def Division.part (specifier : α → String) (members : List (Tagged α)) (member : Tagged α) :
    Division → Int
  | .whole => 0
  | .depths shallowFirst => depthPlace shallowFirst member.depth
  | .keys key =>
    members.findIdx fun other => key (specifier other.item) == key (specifier member.item)

/-- The members of a group in their order, with their tags. -/
def sortTagged (specifier : α → String) (algorithm : String) (members : List (Tagged α)) :
    List (Tagged α) :=
  if algorithm == Algorithm.natural then
    members.mergeSort fun a b =>
      NaturalKey.le (naturalKey (specifier a.item)) (naturalKey (specifier b.item))
  else if algorithm == Algorithm.persist then
    members.mergeSort fun a b => a.order ≤ b.order
  else members

/-- The different depths of members in the order of their parts. -/
def sortedDepths (shallowFirst : Bool) (members : List (Tagged α)) : List Nat :=
  let depths := (members.map Tagged.depth).eraseDups
  if shallowFirst then depths.mergeSort fun a b => a ≤ b else depths.mergeSort fun a b => b ≤ a

/-- The parts of a bucket, with the tags of their members. -/
def Division.parts (specifier : α → String) (algorithm : String) (members : List (Tagged α)) :
    Division → List (List (Tagged α))
  | .whole => [sortTagged specifier algorithm members]
  | .depths shallowFirst =>
    (sortedDepths shallowFirst members).map fun depth =>
      sortTagged specifier algorithm (members.filter fun tagged => tagged.depth == depth)
  | .keys key =>
    (members.map fun tagged => key (specifier tagged.item)).eraseDups.map fun found =>
      sortTagged specifier algorithm
        (members.filter fun tagged => key (specifier tagged.item) == found)

/-- The groups of a bucket are its parts without the tags, and an empty bucket has none. -/
theorem groupsOf_eq (specifier : α → String) (options : Options) (key : Option (String → String))
    (group : Group) (members : List (Tagged α)) :
    groupsOf specifier options key group members =
      (if members.isEmpty then []
      else (divisionOf options key group.bucket).parts specifier group.algorithm members).map
        (List.map Tagged.item) := by
  unfold groupsOf divisionOf
  cases members.isEmpty with
  | true => rfl
  | false =>
    rw [if_neg Bool.false_ne_true, if_neg Bool.false_ne_true]
    -- Both sides ask the same questions about the bucket.
    cases group.bucket == Bucket.relative && options.splitRelative with
    | true =>
      simp only [if_true, Division.parts, List.map_map]
      rfl
    | false =>
      rw [if_neg Bool.false_ne_true, if_neg Bool.false_ne_true]
      cases group.bucket == Bucket.project with
      | false => rfl
      | true =>
        cases key with
        | none => rfl
        | some key =>
          simp only [Division.parts, List.map_map]
          rfl

/-- The name that a member is ordered by: none, unless the order is that of names. -/
def nameOf (specifier : α → String) (algorithm : String) (member : Tagged α) : NaturalKey :=
  if algorithm == Algorithm.natural then naturalKey (specifier member.item) else []

/-- Sorting a group keeps its members. -/
theorem sortTagged_perm (specifier : α → String) (algorithm : String)
    (members : List (Tagged α)) : (sortTagged specifier algorithm members).Perm members := by
  -- Two of the three ways are sorts, and the third leaves the members alone.
  unfold sortTagged
  split
  · exact List.mergeSort_perm ..
  · split
    · exact List.mergeSort_perm ..
    · exact List.Perm.refl _

/-- A group is in the order of the names of its members, and then of their places. -/
theorem sortTagged_sorted (specifier : α → String) (algorithm : String)
    {members : List (Tagged α)} (ascending : members.Pairwise fun a b => a.order < b.order) :
    (sortTagged specifier algorithm members).Pairwise fun a b =>
      NaturalKey.le (nameOf specifier algorithm b) (nameOf specifier algorithm a) = false ∨
      NaturalKey.le (nameOf specifier algorithm a) (nameOf specifier algorithm b) = true ∧
      NaturalKey.le (nameOf specifier algorithm b) (nameOf specifier algorithm a) = true ∧
      a.order < b.order := by
  unfold sortTagged nameOf
  split
  · -- The sort is stable, so members with equal names stay in the order of their places.
    apply mergeSort_stable _ _ ascending
    · intro a b c
      exact NaturalKey.le_trans _ _ _
    · intro a b
      exact NaturalKey.le_total _ _
  · -- Without names all keys are equal, and the places decide.
    have kept : (if (algorithm == Algorithm.persist) = true then
        members.mergeSort fun a b => a.order ≤ b.order else members) = members := by
      split
      · apply List.mergeSort_of_pairwise
        apply ascending.imp
        intro a b less
        rw [decide_eq_true_eq]
        omega
      · rfl
    rw [kept]
    apply ascending.imp
    intro a b less
    exact .inr ⟨rfl, rfl, less⟩

/-- The depths of members come in the order of their places. -/
theorem sortedDepths_ascending (shallowFirst : Bool) (members : List (Tagged α)) :
    (sortedDepths shallowFirst members).Pairwise fun v w =>
      depthPlace shallowFirst v < depthPlace shallowFirst w := by
  have distinct := eraseDups_nodup (members.map Tagged.depth)
  unfold sortedDepths depthPlace
  cases shallowFirst with
  | true =>
    -- Different depths in ascending order ascend strictly.
    apply (mergeSort_distinct _ _ distinct).imp
    · rintro a b ⟨ordered, different⟩
      simp only [decide_eq_true_eq, if_true] at ordered ⊢
      omega
    · intro a b c first second
      simp only [decide_eq_true_eq] at *
      omega
    · intro a b
      simp only [Bool.or_eq_true, decide_eq_true_eq]
      omega
  -- The same with the order turned round, as the places count down.
  | false =>
    apply (mergeSort_distinct _ _ distinct).imp
    · rintro a b ⟨ordered, different⟩
      simp only [decide_eq_true_eq, if_neg Bool.false_ne_true] at ordered ⊢
      omega
    · intro a b c first second
      simp only [decide_eq_true_eq] at *
      omega
    · intro a b
      simp only [Bool.or_eq_true, decide_eq_true_eq]
      omega

/-- The depths that are sorted are those of the members. -/
theorem mem_sortedDepths {shallowFirst : Bool} {members : List (Tagged α)} {depth : Nat} :
    depth ∈ sortedDepths shallowFirst members ↔ ∃ member ∈ members, member.depth = depth := by
  unfold sortedDepths
  cases shallowFirst <;> simp [List.mem_mergeSort, List.mem_eraseDups]

/-- The parts of a bucket ascend by what it is split by, and inside them the members by name and
place. -/
theorem Division.parts_parted (specifier : α → String) (algorithm : String) (division : Division)
    {members : List (Tagged α)} (some_member : members ≠ [])
    (ascending : members.Pairwise fun a b => a.order < b.order) :
    Parted (fun a b => division.part specifier members a < division.part specifier members b)
      (fun a b => division.part specifier members a = division.part specifier members b)
      (fun a b =>
        NaturalKey.le (nameOf specifier algorithm b) (nameOf specifier algorithm a) = false ∨
        NaturalKey.le (nameOf specifier algorithm a) (nameOf specifier algorithm b) = true ∧
        NaturalKey.le (nameOf specifier algorithm b) (nameOf specifier algorithm a) = true ∧
        a.order < b.order)
      members (division.parts specifier algorithm members) := by
  -- What is kept of a list in order is in order.
  have sorted : ∀ keep : Tagged α → Bool, _ := fun keep =>
    sortTagged_sorted specifier algorithm (ascending.filter keep)
  cases division with
  | whole =>
    -- There is one part, and it is filled because the bucket is.
    refine ⟨?_, ?_, ?_, List.pairwise_singleton ..⟩
    · intro part found empty
      rw [List.mem_singleton.mp found] at empty
      have none_left := sortTagged_perm specifier algorithm members
      rw [empty] at none_left
      exact some_member none_left.symm.eq_nil
    · simpa [Division.parts] using sortTagged_perm specifier algorithm members
    · intro part found
      rw [List.mem_singleton.mp found]
      apply (sortTagged_sorted specifier algorithm ascending).imp
      intro a b ordered
      exact ⟨rfl, ordered⟩
  | depths shallowFirst =>
    exact Parted.of_values Tagged.depth (depthPlace shallowFirst) (sortTagged specifier algorithm)
      (sortTagged_perm specifier algorithm) (fun v => sorted _)
      (sortedDepths_ascending shallowFirst members) fun v => mem_sortedDepths
  | keys key =>
    apply Parted.of_values (fun tagged : Tagged α => key (specifier tagged.item))
      (fun found => (members.findIdx fun other => key (specifier other.item) == found : Int))
      (sortTagged specifier algorithm) (sortTagged_perm specifier algorithm)
    · exact fun v => sorted _
    · -- The index of a finding among the findings is that of the first member with it.
      apply (eraseDups_ascending _).imp
      intro v w less
      simpa [List.findIdx_map, Function.comp_def] using less
    · intro v
      rw [List.mem_eraseDups, List.mem_map]

end ImportOrder.Sorter
