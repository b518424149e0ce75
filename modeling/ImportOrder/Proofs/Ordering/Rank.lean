import ImportOrder.Proofs.Ordering.Division

/-! The order of a sort. Every import has a rank: the place of its bucket, its part of the bucket,
its name, and its place in the source. The groups of a sort are the imports in the order of their
ranks, with a new group wherever the bucket or the part changes. -/

namespace ImportOrder.Sorter

variable {α : Type}

/-- What imports are ordered by. -/
structure Rank where
  bucket : Nat
  part : Int
  name : NaturalKey
  order : Nat

namespace Rank

/-- The rank of an earlier group: the bucket decides, and inside a bucket the part. -/
def Ahead (a b : Rank) : Prop := a.bucket < b.bucket ∨ a.bucket = b.bucket ∧ a.part < b.part

/-- Whether two ranks belong to one group. -/
def together (a b : Rank) : Bool := a.bucket == b.bucket && a.part == b.part

/-- A name in front of another, or the same place in the order of names and an earlier place in the
source. -/
def Named (a b : Rank) : Prop :=
  NaturalKey.le b.name a.name = false ∨
    NaturalKey.le a.name b.name = true ∧ NaturalKey.le b.name a.name = true ∧ a.order < b.order

/-- The order of ranks, in which the first difference decides: bucket, part, name, place. -/
def Before (a b : Rank) : Prop := a.Ahead b ∨ a.together b = true ∧ a.Named b

/-- Ranks are together if they agree in bucket and part. -/
theorem together_iff {a b : Rank} :
    a.together b = true ↔ a.bucket = b.bucket ∧ a.part = b.part := by
  simp [together]

/-- Ranks of different groups are not together. -/
theorem Ahead.not_together {a b : Rank} (ahead : a.Ahead b) : a.together b = false := by
  rw [← Bool.not_eq_true, together_iff]
  unfold Ahead at ahead
  omega

/-- No two ranks are in front of each other. -/
theorem Before.asymm {a b : Rank} (before : a.Before b) : ¬ b.Before a := by
  -- Both orders are told by their first difference, so the two first differences are compared.
  unfold Before Ahead Named at *
  rw [together_iff] at *
  rintro (ahead | ⟨joined, named⟩)
  · omega
  · rcases before with ahead | ⟨-, named'⟩
    · omega
    · -- Names in front of each other would both not be behind each other.
      rcases named with first | ⟨first, second, less⟩
      · rcases named' with first' | ⟨less', -, -⟩
        · rw [NaturalKey.le_of_not_le first] at first'
          contradiction
        · rw [less'] at first
          contradiction
      · rcases named' with first' | ⟨-, -, less'⟩
        · rw [first] at first'
          contradiction
        · omega

end Rank

section Ranks

variable (specifier : α → String) (options : Options) (key : Option (String → String))

/-- The way in which a bucket in use is ordered. -/
def algorithmIn (bucket : String) : String :=
  ((effectiveGroups options.groups).find? fun group => group.bucket == bucket).elim ""
    Group.algorithm

/-- The rank of a member of a list. -/
def rankIn (tagged : List (Tagged α)) (member : Tagged α) : Rank where
  bucket := (bucketsIn options).findIdx (· == bucketIn options member)
  part := (divisionOf options key (bucketIn options member)).part specifier
    (tagged.filter fun other => bucketIn options other == bucketIn options member) member
  name := nameOf specifier (algorithmIn options (bucketIn options member)) member
  order := member.order

/-- Groups of a list in order: none is empty, together they hold the list, their members ascend from
the first to the last, and a group ends exactly where the next member is not together with it. -/
structure Ordered (tagged : List (Tagged α)) (groups : List (List (Tagged α))) : Prop where
  filled : ∀ group ∈ groups, group ≠ []
  exactly : groups.flatten.Perm tagged
  ascending : groups.flatten.Pairwise fun a b =>
    (rankIn specifier options key tagged a).Before (rankIn specifier options key tagged b)
  bounds : (groups.flatten.splitBy fun a b =>
    (rankIn specifier options key tagged a).together (rankIn specifier options key tagged b)) =
      groups

/-- Members of a list in parts that ascend by rank. -/
def RankedParts (tagged members : List (Tagged α)) (parts : List (List (Tagged α))) : Prop :=
  Parted
    (fun a b =>
      (rankIn specifier options key tagged a).Ahead (rankIn specifier options key tagged b))
    (fun a b =>
      (rankIn specifier options key tagged a).together
        (rankIn specifier options key tagged b) = true)
    (fun a b =>
      (rankIn specifier options key tagged a).Named (rankIn specifier options key tagged b))
    members parts

/-- The groups of a list, with the tags of their members. -/
def arrangeTagged (tagged : List (Tagged α)) : List (List (Tagged α)) :=
  (effectiveGroups options.groups).flatMap fun group =>
    let members := tagged.filter fun other => bucketIn options other == group.bucket
    if members.isEmpty then []
    else (divisionOf options key group.bucket).parts specifier group.algorithm members

end Ranks

section Arrangement

variable {specifier : α → String} {options : Options} {key : Option (String → String)}

/-- The groups of items are those of their tags. -/
theorem arrange_eq (classifier : Classifier) (items : List α) :
    arrange classifier specifier options key items =
      (arrangeTagged specifier options key (tagFrom classifier specifier 0 items)).map
        (List.map Tagged.item) := by
  unfold arrange arrangeTagged
  rw [List.map_flatMap]
  -- The groups are the same lists, one bucket at a time.
  apply List.flatMap_congr
  intro group _
  exact groupsOf_eq specifier options key group _

/-- Every group in use is found by its bucket. -/
theorem algorithmIn_of_mem {group : Group} (member : group ∈ effectiveGroups options.groups) :
    algorithmIn options group.bucket = group.algorithm := by
  have distinct : ((effectiveGroups options.groups).map Group.bucket).Nodup :=
    bucketsIn_nodup options
  unfold algorithmIn
  -- That no bucket is named twice is all that matters about the groups in use.
  generalize effectiveGroups options.groups = groups at member distinct ⊢
  induction groups with
  | nil => simp at member
  | cons first rest ih =>
    obtain ⟨fresh, distinct⟩ := List.nodup_cons.mp distinct
    rcases List.mem_cons.mp member with rfl | later
    · simp
    · -- The first group has another bucket than a later one.
      have other : (first.bucket == group.bucket) = false := by
        rw [beq_eq_false_iff_ne]
        intro same
        exact fresh (same ▸ List.mem_map_of_mem later)
      rw [List.find?_cons_of_neg (by simp [other])]
      exact ih later distinct

/-- The rank of a member of a bucket in use. -/
theorem rankIn_of_group {group : Group} (member : group ∈ effectiveGroups options.groups)
    {tagged : List (Tagged α)} {a : Tagged α}
    (inside : a ∈ tagged.filter fun other => bucketIn options other == group.bucket) :
    rankIn specifier options key tagged a =
      ⟨(bucketsIn options).findIdx (· == group.bucket),
        (divisionOf options key group.bucket).part specifier
          (tagged.filter fun other => bucketIn options other == group.bucket) a,
        nameOf specifier group.algorithm a, a.order⟩ := by
  -- The rank speaks of the bucket of the member, which is that of the group.
  have bucket : bucketIn options a = group.bucket := eq_of_beq (List.mem_filter.mp inside).2
  simp only [rankIn, bucket, algorithmIn_of_mem member]

/-- The buckets in use hold every member of a list once. -/
theorem buckets_exactly (tagged : List (Tagged α)) :
    ((effectiveGroups options.groups).flatMap fun group =>
      tagged.filter fun other => bucketIn options other == group.bucket).Perm tagged := by
  -- Every member has one bucket, and this is in use.
  have perm := flatMap_filter_perm (bucketIn options) (bucketsIn_nodup options)
    fun member (_ : member ∈ tagged) => bucketIn_mem options member
  rwa [bucketsIn, List.flatMap_map] at perm

/-- A bucket in use, unless it is empty, falls into parts that ascend by rank. -/
theorem groupParts_ranked {tagged : List (Tagged α)}
    (ascending : tagged.Pairwise fun a b => a.order < b.order) {group : Group}
    (member : group ∈ effectiveGroups options.groups) :
    RankedParts specifier options key tagged
      (tagged.filter fun other => bucketIn options other == group.bucket)
      (if (tagged.filter fun other => bucketIn options other == group.bucket).isEmpty then []
      else (divisionOf options key group.bucket).parts specifier group.algorithm
        (tagged.filter fun other => bucketIn options other == group.bucket)) := by
  split
  · -- An empty bucket has no part at all, not an empty one.
    rename_i empty
    rw [List.isEmpty_iff.mp empty]
    exact ⟨by simp, .refl _, by simp, .nil⟩
  · rename_i some_member
    apply (Division.parts_parted specifier group.algorithm (divisionOf options key group.bucket)
      (by simpa using some_member) (ascending.filter _)).imp
    intro a in_a b in_b
    -- Inside a bucket the parts decide, then the names and places.
    rw [rankIn_of_group member in_a, rankIn_of_group member in_b]
    refine ⟨fun less => .inr ⟨rfl, less⟩, ?_, fun named => named⟩
    intro same
    exact Rank.together_iff.mpr ⟨rfl, same⟩

/-- The members of an earlier bucket are ahead of those of a later one. -/
theorem groups_ahead (tagged : List (Tagged α)) :
    (effectiveGroups options.groups).Pairwise fun group other =>
      ∀ a ∈ tagged.filter fun item => bucketIn options item == group.bucket,
      ∀ b ∈ tagged.filter fun item => bucketIn options item == other.bucket,
        (rankIn specifier options key tagged a).Ahead (rankIn specifier options key tagged b) := by
  -- The buckets in use are different, so their places ascend.
  have places := findIdx_ascending (bucketsIn_nodup options)
  unfold bucketsIn at places
  rw [List.pairwise_map] at places
  apply List.Pairwise.imp_of_mem _ places
  intro group other in_groups in_others less a in_a b in_b
  rw [rankIn_of_group in_groups in_a, rankIn_of_group in_others in_b]
  -- The bucket alone decides between members of different groups.
  exact .inl less

/-- The groups of a list are parts that ascend by rank. -/
theorem arrangeTagged_ranked {tagged : List (Tagged α)}
    (ascending : tagged.Pairwise fun a b => a.order < b.order) :
    RankedParts specifier options key tagged tagged
      (arrangeTagged specifier options key tagged) := by
  -- One bucket after the other: each is in parts, and the buckets are ahead of each other.
  have parted : RankedParts specifier options key tagged
      ((effectiveGroups options.groups).flatMap fun group =>
        tagged.filter fun other => bucketIn options other == group.bucket)
      (arrangeTagged specifier options key tagged) :=
    Parted.flatMap (fun group member => groupParts_ranked ascending member) (groups_ahead tagged)
  -- Only what the parts hold has to be turned into the whole list.
  exact ⟨parted.filled, parted.exactly.trans (buckets_exactly tagged), parted.level, parted.across⟩

/-- The groups of a list are in order. -/
theorem arrangeTagged_ordered {tagged : List (Tagged α)}
    (ascending : tagged.Pairwise fun a b => a.order < b.order) :
    Ordered specifier options key tagged (arrangeTagged specifier options key tagged) := by
  have parted : RankedParts specifier options key tagged tagged
      (arrangeTagged specifier options key tagged) := arrangeTagged_ranked ascending
  refine ⟨parted.filled, parted.exactly, parted.ascending, ?_⟩
  -- A group ends where the next member is ahead, and ranks that are ahead are not together.
  exact parted.bounds (fun a _ b _ joined => joined) fun a _ b _ ahead => ahead.not_together

/-- The groups of items hold the items. -/
theorem arrange_perm (classifier : Classifier) (items : List α) :
    (arrange classifier specifier options key items).flatten.Perm items := by
  have ordered : Ordered specifier options key (tagFrom classifier specifier 0 items) _ :=
    arrangeTagged_ordered (tagFrom_ascending 0 items)
  -- Without the tags the members of the groups are the items.
  have perm := ordered.exactly.map Tagged.item
  rwa [tagFrom_items, List.map_flatten, ← arrange_eq] at perm

end Arrangement

/-- What a sort splits the local bucket by: nothing, unless the options have a pattern that can be
read. -/
def splitKey (options : Options) : Option (String → String) :=
  match splitPattern options with
  | .ok pattern => pattern.map partitionKey
  | .error _ => none

/-- A sort that comes to an end gives the groups of its items. -/
theorem process_eq_ok {classifier : Classifier} {specifier : α → String} {options : Options}
    (usable : ∀ excess, splitPattern options ≠ .error (.excess excess)) :
    ∃ warning, ∀ items : List α, process classifier specifier options items =
      .ok (arrange classifier specifier options (splitKey options) items, warning) := by
  unfold process splitKey
  -- A pattern that can be read and one with a fault differ in the warning only.
  cases split : splitPattern options with
  | ok pattern => exact ⟨_, fun items => rfl⟩
  | error refusal =>
    cases refusal with
    | fault fault => exact ⟨_, fun items => rfl⟩
    | excess excess => exact absurd split (usable excess)

/-- A sort fails exactly if its split pattern asks for too much. -/
theorem process_eq_error {classifier : Classifier} {specifier : α → String} {options : Options}
    {items : List α} {excess : Pattern.Excess} :
    process classifier specifier options items = .error excess ↔
      splitPattern options = .error (.excess excess) := by
  unfold process
  cases splitPattern options with
  | ok pattern => simp
  | error refusal => cases refusal <;> simp

/-- Local imports by their first folder. The way to order them is unknown, so they stay as they come.
-/
def folderPattern : Options := { groups := [⟨"local", "odd"⟩], splitPattern := "^(a|b)/" }

/-- Imports from two folders, and one from neither. -/
def folderItems : List String := ["b/x", "a/y", "b/w", "c", "a/b"]

end ImportOrder.Sorter
