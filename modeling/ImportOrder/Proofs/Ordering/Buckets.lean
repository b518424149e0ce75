import ImportOrder.Ordering.Sorter

/-! The buckets of a sort and the tags of its items: every item has one bucket among those in use,
and its tag says where it stood. -/

namespace ImportOrder.Sorter

variable {α : Type}

/-- The buckets in use under some options, in order. -/
def bucketsIn (options : Options) : List String :=
  (effectiveGroups options.groups).map Group.bucket

/-- The bucket of an item under some options. -/
def bucketIn (options : Options) (tagged : Tagged α) : String :=
  bucketOf (bucketsIn options) tagged

/-- The buckets kept are those named that were not seen before. -/
theorem mem_distinctFrom {seen : List String} {groups : List Group} {bucket : String} :
    bucket ∈ (distinctFrom seen groups).map Group.bucket ↔
      bucket ∈ groups.map Group.bucket ∧ bucket ∉ seen := by
  induction groups generalizing seen with
  | nil => simp [distinctFrom]
  | cons group rest ih =>
    unfold distinctFrom
    by_cases known : group.bucket ∈ seen
    · -- A group that is dropped names nothing new.
      rw [if_pos (List.contains_iff_mem.mpr known), ih, List.map_cons, List.mem_cons]
      constructor
      · exact fun found => ⟨.inr found.1, found.2⟩
      · rintro ⟨rfl | later, unseen⟩
        · exact absurd known unseen
        · exact ⟨later, unseen⟩
    · rw [if_neg (mt List.contains_iff_mem.mp known), List.map_cons, List.mem_cons, ih,
        List.map_cons, List.mem_cons, List.mem_cons, not_or]
      constructor
      · rintro (rfl | ⟨later, -, unseen⟩)
        · exact ⟨.inl rfl, known⟩
        · exact ⟨.inr later, unseen⟩
      · rintro ⟨found, unseen⟩
        -- The first of several groups of a bucket is the one that is kept.
        by_cases same : bucket = group.bucket
        · exact .inl same
        · exact .inr ⟨found.resolve_left same, same, unseen⟩

/-- The groups kept name no bucket twice. -/
theorem distinctFrom_nodup (seen : List String) (groups : List Group) :
    ((distinctFrom seen groups).map Group.bucket).Nodup := by
  -- What is seen grows along the list, so it stays general.
  induction groups generalizing seen with
  | nil => exact List.nodup_nil
  | cons group rest ih =>
    unfold distinctFrom
    split
    · exact ih seen
    · rw [List.map_cons, List.nodup_cons]
      refine ⟨?_, ih _⟩
      -- The bucket of a group that is kept is seen by all later ones.
      intro later
      exact (mem_distinctFrom.mp later).2 (List.mem_cons_self ..)

/-- No bucket in use is named twice. -/
theorem bucketsIn_nodup (options : Options) : (bucketsIn options).Nodup := by
  have distinct := distinctFrom_nodup [] options.groups
  unfold bucketsIn effectiveGroups
  dsimp only
  split
  · exact distinct
  · rename_i absent
    rw [List.map_append, List.nodup_append]
    refine ⟨distinct, by simp, ?_⟩
    -- The bucket for the rest is added only where no group names it.
    intro bucket member other last same
    obtain ⟨group, kept, named⟩ := List.mem_map.mp member
    apply absent
    rw [List.any_eq_true]
    refine ⟨group, kept, ?_⟩
    rw [named, same, List.mem_singleton.mp last]
    exact beq_self_eq_true _

/-- A bucket that a group names is in use. -/
theorem mem_bucketsIn {options : Options} {bucket : String}
    (named : bucket ∈ options.groups.map Group.bucket) : bucket ∈ bucketsIn options := by
  have kept : bucket ∈ (distinctFrom [] options.groups).map Group.bucket :=
    mem_distinctFrom.mpr ⟨named, List.not_mem_nil⟩
  unfold bucketsIn effectiveGroups
  dsimp only
  -- The bucket for the rest, if it is added, comes behind those that are named.
  split
  · exact kept
  · rw [List.map_append]
    exact List.mem_append_left _ kept

/-- There is always a bucket for the rest. -/
theorem rest_mem_bucketsIn (options : Options) : Bucket.rest ∈ bucketsIn options := by
  unfold bucketsIn effectiveGroups
  dsimp only
  split
  · rename_i present
    obtain ⟨group, kept, named⟩ := List.any_eq_true.mp present
    rw [← eq_of_beq named]
    exact List.mem_map_of_mem kept
  · simp

/-- The bucket of an item is one of those in use. -/
theorem bucketIn_mem (options : Options) (tagged : Tagged α) :
    bucketIn options tagged ∈ bucketsIn options := by
  have rest := rest_mem_bucketsIn options
  unfold bucketIn bucketOf
  -- Every bucket but the last resort is chosen only if it is in use.
  repeat' split
  all_goals simp_all

/-- An item is a package exactly if it is neither local nor has an extension, whatever other buckets
there are. -/
theorem bucketIn_eq_vendor_iff {options : Options} (used : Bucket.vendor ∈ bucketsIn options)
    (tagged : Tagged α) :
    bucketIn options tagged = Bucket.vendor ↔
      tagged.isLocal = false ∧ tagged.isStatic = false := by
  unfold bucketIn bucketOf
  rw [List.contains_iff_mem.mpr used]
  -- The only bucket asked for before takes what has an extension, and those asked for behind have
  -- other names.
  cases static : tagged.isStatic with
  | true =>
    simp only [Bool.true_and, Bool.not_true, Bool.and_false, Bool.false_and, Bool.true_eq_false,
      Bool.false_eq_true, if_false, and_false, iff_false]
    repeat' split
    all_goals decide
  | false =>
    simp only [Bool.false_and, Bool.not_false, Bool.and_true, Bool.false_eq_true, if_false,
      and_true]
    cases tagged.isLocal with
    | false => simp
    | true =>
      simp only [Bool.not_true, Bool.false_eq_true, if_false, Bool.true_eq_false, iff_false]
      repeat' split
      all_goals decide

/-- The tag of an item at a place. -/
def tag (classifier : Classifier) (specifier : α → String) (order : Nat) (item : α) : Tagged α where
  item := item
  order := order
  isLocal := classifier.isLocal (specifier item)
  isStatic := classifier.extension (specifier item) != ""
  depth := relativeDepth (specifier item)

section Tags

variable {classifier : Classifier} {specifier : α → String}

/-- Tagging goes through the items one by one. -/
theorem tagFrom_cons (order : Nat) (item : α) (rest : List α) :
    tagFrom classifier specifier order (item :: rest) =
      tag classifier specifier order item :: tagFrom classifier specifier (order + 1) rest := rfl

/-- Tags keep the items and their order. -/
theorem tagFrom_items (order : Nat) (items : List α) :
    (tagFrom classifier specifier order items).map Tagged.item = items := by
  induction items generalizing order with
  | nil => rfl
  | cons item rest ih =>
    rw [tagFrom_cons, List.map_cons, ih]
    rfl

/-- The items chosen by their tags, where the place has no say, are those chosen by themselves. -/
theorem filter_tagFrom_items {keep : Tagged α → Bool}
    (blind : ∀ order item, keep (tag classifier specifier order item) =
      keep (tag classifier specifier 0 item)) (order : Nat) (items : List α) :
    ((tagFrom classifier specifier order items).filter keep).map Tagged.item =
      items.filter fun item => keep (tag classifier specifier 0 item) := by
  -- The place moves on with every item, but the choice does not depend on it.
  induction items generalizing order with
  | nil => rfl
  | cons item rest ih =>
    rw [tagFrom_cons, List.filter_cons, List.filter_cons, blind, ← ih (order + 1)]
    split
    · rw [List.map_cons]
      rfl
    · rfl

/-- Every tag is that of its item, at a place not in front of the first one. -/
theorem mem_tagFrom {order : Nat} {items : List α} {tagged : Tagged α}
    (member : tagged ∈ tagFrom classifier specifier order items) :
    tagged = tag classifier specifier tagged.order tagged.item ∧ order ≤ tagged.order := by
  induction items generalizing order with
  | nil => simp [tagFrom] at member
  | cons item rest ih =>
    rw [tagFrom_cons, List.mem_cons] at member
    rcases member with rfl | later
    · exact ⟨rfl, Nat.le_refl _⟩
    · obtain ⟨same, behind⟩ := ih later
      exact ⟨same, by omega⟩

/-- The places in the tags ascend. -/
theorem tagFrom_ascending (order : Nat) (items : List α) :
    (tagFrom classifier specifier order items).Pairwise fun a b => a.order < b.order := by
  induction items generalizing order with
  | nil => exact List.Pairwise.nil
  | cons item rest ih =>
    rw [tagFrom_cons, List.pairwise_cons]
    refine ⟨?_, ih (order + 1)⟩
    intro other later
    -- All later items were tagged from the next place on.
    have behind := (mem_tagFrom later).2
    show order < other.order
    omega

end Tags

end ImportOrder.Sorter
