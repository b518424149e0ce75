import ImportOrder.Proofs.Ordering.Rank

/-! Sorting what a sort has given changes nothing. Places in the source, and with them the first
findings of a split pattern, are others in the second sort, but they are in the order that the first
sort has made. -/

namespace ImportOrder.Sorter

variable {α : Type}

/-- The index of the first member with a finding tells the finding. -/
theorem findIdx_inj {β γ : Type} [BEq β] [LawfulBEq β] {finding : γ → β} {members : List γ}
    {v w : β}
    (occurs : ∃ member ∈ members, finding member = v)
    (same : members.findIdx (fun member => finding member == v) =
      members.findIdx fun member => finding member == w) : v = w := by
  obtain ⟨member, inside, found⟩ := occurs
  -- The induction is on the members, up to the first one with the finding.
  induction members with
  | nil => simp at inside
  | cons first rest ih =>
    rw [List.findIdx_cons, List.findIdx_cons] at same
    by_cases is_v : finding first = v
    · by_cases is_w : finding first = w
      · rw [← is_v, is_w]
      · simp [beq_iff_eq.mpr is_v, beq_eq_false_iff_ne.mpr is_w] at same
    · -- The first member is not the one with the finding, so the rest decides.
      have behind : member ∈ rest := by
        rcases List.mem_cons.mp inside with rfl | behind
        · exact absurd found is_v
        · exact behind
      by_cases is_w : finding first = w
      · simp [beq_iff_eq.mpr is_w, beq_eq_false_iff_ne.mpr is_v] at same
      · simp only [beq_eq_false_iff_ne.mpr is_v, beq_eq_false_iff_ne.mpr is_w, cond_false] at same
        exact ih (by omega) behind

/-- In a list that `place` does not descend along, findings at a lower place come first. -/
theorem findIdx_lt_of_monotone {β γ : Type} [BEq β] [LawfulBEq β] {finding : γ → β}
    {place : γ → Int} {members : List γ} (rising : members.Pairwise fun a b => place a ≤ place b)
    (placed : ∀ a b, finding a = finding b → place a = place b) {a b : γ} (in_a : a ∈ members)
    (in_b : b ∈ members) (less : place a < place b) :
    members.findIdx (fun member => finding member == finding a) <
      members.findIdx fun member => finding member == finding b := by
  -- The induction is on the members, up to the first one with the lower finding.
  induction members with
  | nil => simp at in_a
  | cons first rest ih =>
    obtain ⟨later, rising⟩ := List.pairwise_cons.mp rising
    rw [List.findIdx_cons, List.findIdx_cons]
    by_cases is_a : finding first = finding a
    · -- The first member has the finding of `a`, hence not that of `b`.
      have not_b : finding first ≠ finding b := by
        intro is_b
        have same_a := placed first a is_a
        have same_b := placed first b is_b
        omega
      simp [beq_iff_eq.mpr is_a, beq_eq_false_iff_ne.mpr not_b]
    · have behind_a : a ∈ rest := by
        rcases List.mem_cons.mp in_a with rfl | behind
        · exact absurd rfl is_a
        · exact behind
      -- The first member is no further than `a`, so it cannot have the finding of `b`.
      have not_b : finding first ≠ finding b := by
        intro is_b
        have same_b := placed first b is_b
        have bound := later a behind_a
        omega
      have behind_b : b ∈ rest := by
        rcases List.mem_cons.mp in_b with rfl | behind
        · exact absurd rfl not_b
        · exact behind
      have order := ih rising behind_a behind_b
      simp only [beq_eq_false_iff_ne.mpr is_a, beq_eq_false_iff_ne.mpr not_b, cond_false]
      omega

/-- Whether two members of a bucket belong to the same part of it. -/
def Division.shares (specifier : α → String) (a b : Tagged α) : Division → Bool
  | .whole => true
  | .depths _ => a.depth == b.depth
  | .keys key => key (specifier a.item) == key (specifier b.item)

/-- Members share a part exactly if the numbers of their parts agree. -/
theorem Division.part_eq_iff {specifier : α → String} (division : Division)
    {members : List (Tagged α)} {a b : Tagged α}
    (known : ∃ member ∈ members, specifier member.item = specifier a.item) :
    division.part specifier members a = division.part specifier members b ↔
      division.shares specifier a b = true := by
  -- A bucket that is left whole has one part; the others are split by depths or by findings.
  cases division with
  | whole => simp [Division.part, Division.shares]
  | depths shallowFirst =>
    simp only [Division.part, Division.shares, depthPlace, beq_iff_eq]
    split
    · omega
    · omega
  | keys key =>
    simp only [Division.part, Division.shares, beq_iff_eq]
    constructor
    · -- The index tells the finding only if some member has it.
      intro same
      obtain ⟨member, inside, named⟩ := known
      exact findIdx_inj ⟨member, inside, by rw [named]⟩ (Int.ofNat_inj.mp same)
    · intro same
      rw [same]

/-- Whether two items under some options belong to one group. -/
def sharesGroup (classifier : Classifier) (specifier : α → String) (options : Options)
    (key : Option (String → String)) (x y : α) : Bool :=
  let a := tag classifier specifier 0 x
  let b := tag classifier specifier 0 y
  bucketIn options a == bucketIn options b &&
    (divisionOf options key (bucketIn options a)).shares specifier a b

section Again

variable {classifier : Classifier} {specifier : α → String} {options : Options}
  {key : Option (String → String)}

/-- Ranks with the same place of the bucket have the same bucket. -/
theorem bucketIn_of_rank {tagged : List (Tagged α)} {a b : Tagged α}
    (same : (rankIn specifier options key tagged a).bucket =
      (rankIn specifier options key tagged b).bucket) :
    bucketIn options a = bucketIn options b := by
  have occurs : ∃ bucket ∈ bucketsIn options, bucket = bucketIn options a :=
    ⟨_, bucketIn_mem options a, rfl⟩
  exact findIdx_inj occurs same

/-- Ranks in a list are together exactly if the items share a group, whatever else the list
holds. -/
theorem together_eq_sharesGroup {tagged : List (Tagged α)} {a b : Tagged α}
    (tag_a : a = tag classifier specifier a.order a.item)
    (tag_b : b = tag classifier specifier b.order b.item)
    (known : ∃ member ∈ tagged, bucketIn options member = bucketIn options a ∧
      specifier member.item = specifier a.item) :
    (rankIn specifier options key tagged a).together (rankIn specifier options key tagged b) =
      sharesGroup classifier specifier options key a.item b.item := by
  obtain ⟨member, inside, bucket, named⟩ := known
  -- The order in a tag has no say in bucket and part.
  have view : sharesGroup classifier specifier options key a.item b.item =
      (bucketIn options a == bucketIn options b &&
        (divisionOf options key (bucketIn options a)).shares specifier a b) := by
    rw [tag_a, tag_b]
    rfl
  have held : ∃ other ∈ tagged.filter fun other => bucketIn options other == bucketIn options a,
      specifier other.item = specifier a.item :=
    ⟨member, List.mem_filter.mpr ⟨inside, by simp [bucket]⟩, named⟩
  rw [view, Bool.eq_iff_iff, Rank.together_iff, Bool.and_eq_true, beq_iff_eq]
  constructor
  · rintro ⟨place, part⟩
    have same := bucketIn_of_rank place
    refine ⟨same, (Division.part_eq_iff _ held).mp ?_⟩
    simpa only [rankIn, same] using part
  · rintro ⟨same, shared⟩
    refine ⟨by simp only [rankIn, same], ?_⟩
    have part := (Division.part_eq_iff (b := b) _ held).mpr shared
    simpa only [rankIn, same] using part

/-- The groups of items end exactly where an item does not share a group with the next one. -/
theorem arrange_splitBy (items : List α) :
    (arrange classifier specifier options key items).flatten.splitBy
      (sharesGroup classifier specifier options key) =
        arrange classifier specifier options key items := by
  have ranked : RankedParts specifier options key (tagFrom classifier specifier 0 items) _ _ :=
    arrangeTagged_ranked (tagFrom_ascending 0 items)
  have view : ∀ a ∈ tagFrom classifier specifier 0 items,
      ∀ b ∈ tagFrom classifier specifier 0 items,
      (rankIn specifier options key (tagFrom classifier specifier 0 items) a).together
        (rankIn specifier options key (tagFrom classifier specifier 0 items) b) =
        sharesGroup classifier specifier options key a.item b.item := by
    intro a in_a b in_b
    exact together_eq_sharesGroup (mem_tagFrom in_a).1 (mem_tagFrom in_b).1 ⟨a, in_a, rfl, rfl⟩
  -- The bounds of the parts are told by their ranks, which are seen through the items.
  rw [arrange_eq]
  apply ranked.bounds_map
  · intro a in_a b in_b joined
    rw [← view a in_a b in_b]
    exact joined
  · intro a in_a b in_b ahead
    rw [← view a in_a b in_b]
    exact ahead.not_together

/-- What holds from tag to tag along a list holds of the new tags of its items. -/
theorem tagFrom_pairwise {before after : Tagged α → Tagged α → Prop} (order : Nat)
    {tagged : List (Tagged α)} (sorted : tagged.Pairwise before)
    (kept : ∀ a ∈ tagged, ∀ b ∈ tagged, before a b → ∀ i j, i < j →
      after (tag classifier specifier i a.item) (tag classifier specifier j b.item)) :
    (tagFrom classifier specifier order (tagged.map Tagged.item)).Pairwise after := by
  -- Places count up along the list, so the first one stays general.
  induction tagged generalizing order with
  | nil => exact List.Pairwise.nil
  | cons first rest ih =>
    obtain ⟨ahead, sorted⟩ := List.pairwise_cons.mp sorted
    rw [List.map_cons, tagFrom_cons, List.pairwise_cons]
    refine ⟨?_, ih (order + 1) sorted ?_⟩
    · intro moved found
      -- The new tag is that of an item behind the first one.
      obtain ⟨is_tag, behind⟩ := mem_tagFrom found
      have item : moved.item ∈ rest.map Tagged.item := by
        rw [← tagFrom_items (order + 1) (rest.map Tagged.item)]
        exact List.mem_map_of_mem found
      obtain ⟨old, in_rest, same⟩ := List.mem_map.mp item
      rw [is_tag, ← same]
      exact kept first (List.mem_cons_self ..) old (List.mem_cons_of_mem _ in_rest)
        (ahead old in_rest) order moved.order (by omega)
    · intro a in_a b in_b
      exact kept a (List.mem_cons_of_mem _ in_a) b (List.mem_cons_of_mem _ in_b)

/-- In a list that ascends by the ranks of another list, members of one bucket do not descend in
their parts. -/
theorem parts_rising {tagged other : List (Tagged α)}
    (sorted : other.Pairwise fun a b =>
      (rankIn specifier options key tagged a).Before (rankIn specifier options key tagged b))
    (bucket : String) :
    (other.filter fun member => bucketIn options member == bucket).Pairwise fun a b =>
      (divisionOf options key bucket).part specifier
          (tagged.filter fun member => bucketIn options member == bucket) a ≤
        (divisionOf options key bucket).part specifier
          (tagged.filter fun member => bucketIn options member == bucket) b := by
  -- Two members of the bucket have the same place of the bucket in their ranks.
  apply List.Pairwise.imp_of_mem _ (sorted.filter _)
  intro a b in_a in_b before
  have same_a := eq_of_beq (List.mem_filter.mp in_a).2
  have same_b := eq_of_beq (List.mem_filter.mp in_b).2
  -- The bucket does not tell the two apart, so the parts do, or nothing does.
  rcases before with (less | ⟨-, less⟩) | ⟨joined, -⟩
  · simp only [rankIn, same_a, same_b] at less
    omega
  · simp only [rankIn, same_a, same_b] at less
    omega
  · have part := (Rank.together_iff.mp joined).2
    simp only [rankIn, same_a, same_b] at part
    omega

/-- Where parts ascend by the ranks of another list along a list, they ascend by its own ranks. -/
theorem part_again {tagged other : List (Tagged α)}
    (sorted : other.Pairwise fun a b =>
      (rankIn specifier options key tagged a).Before (rankIn specifier options key tagged b))
    {a b : Tagged α} (in_a : a ∈ other) (in_b : b ∈ other)
    (same : bucketIn options a = bucketIn options b)
    (less : (rankIn specifier options key tagged a).part <
      (rankIn specifier options key tagged b).part) :
    (rankIn specifier options key other a).part < (rankIn specifier options key other b).part := by
  have rising := parts_rising sorted (bucketIn options b)
  simp only [rankIn, same] at less ⊢
  -- Only the parts of a split by findings depend on the list.
  cases division : divisionOf options key (bucketIn options b) with
  | whole => simp [division, Division.part] at less
  | depths shallowFirst => simpa [division, Division.part] using less
  | keys finding =>
    rw [division] at less rising
    have placed : ∀ x y : Tagged α, finding (specifier x.item) = finding (specifier y.item) →
        (Division.keys finding).part specifier
            (tagged.filter fun member => bucketIn options member == bucketIn options b) x =
          (Division.keys finding).part specifier
            (tagged.filter fun member => bucketIn options member == bucketIn options b) y := by
      intro x y found
      simp only [Division.part, found]
    exact Int.ofNat_lt.mpr (findIdx_lt_of_monotone rising placed
      (List.mem_filter.mpr ⟨in_a, by simp [same]⟩) (List.mem_filter.mpr ⟨in_b, by simp⟩) less)

/-- A list that ascends by the ranks of another list, which knows its items, ascends by its own
ranks. -/
theorem ascending_again {tagged other : List (Tagged α)}
    (sorted : other.Pairwise fun a b =>
      (rankIn specifier options key tagged a).Before (rankIn specifier options key tagged b))
    (tags : ∀ member ∈ other, member = tag classifier specifier member.order member.item)
    (known : ∀ member ∈ other, ∃ old ∈ tagged, bucketIn options old = bucketIn options member ∧
      specifier old.item = specifier member.item) :
    other.Pairwise fun a b =>
      (rankIn specifier options key other a).Before (rankIn specifier options key other b) := by
  -- The three ways of standing in front: an earlier bucket, an earlier part of it, or an earlier
  -- name in the part.
  apply List.Pairwise.imp_of_mem _ sorted
  intro a b in_a in_b before
  rcases before with (less | ⟨place, less⟩) | ⟨joined, named⟩
  · -- The place of a bucket is that in the options, not in the list.
    exact .inl (.inl less)
  · exact .inl (.inr ⟨place, part_again sorted in_a in_b (bucketIn_of_rank place) less⟩)
  · -- Both lists tell by the items who is together, and names and places are in the tags.
    refine .inr ⟨?_, named⟩
    rw [together_eq_sharesGroup (tags a in_a) (tags b in_b) (known a in_a)] at joined
    rw [together_eq_sharesGroup (tags a in_a) (tags b in_b) ⟨a, in_a, rfl, rfl⟩]
    exact joined

/-- The items of a sort, tagged anew in their order, ascend by the ranks of the sort. -/
theorem sorted_tags_ascend (items : List α) :
    (tagFrom classifier specifier 0
      (arrange classifier specifier options key items).flatten).Pairwise fun a b =>
        (rankIn specifier options key (tagFrom classifier specifier 0 items) a).Before
          (rankIn specifier options key (tagFrom classifier specifier 0 items) b) := by
  have ordered : Ordered specifier options key (tagFrom classifier specifier 0 items) _ :=
    arrangeTagged_ordered (tagFrom_ascending 0 items)
  rw [arrange_eq, ← List.map_flatten]
  apply tagFrom_pairwise 0 ordered.ascending
  intro a in_a b in_b before i j less
  -- The new places follow the order of the sort, and all else in a rank is that of the item.
  obtain ⟨tag_a, -⟩ := mem_tagFrom (ordered.exactly.mem_iff.mp in_a)
  obtain ⟨tag_b, -⟩ := mem_tagFrom (ordered.exactly.mem_iff.mp in_b)
  rw [tag_a, tag_b] at before
  rcases before with ahead | ⟨joined, named⟩
  · exact .inl ahead
  · refine .inr ⟨joined, ?_⟩
    rcases named with behind | ⟨first, second, -⟩
    · exact .inl behind
    · exact .inr ⟨first, second, less⟩

/-- Every item of a list has its tag among those of the list. -/
theorem tagFrom_knows {items : List α} {member : Tagged α}
    (is_tag : member = tag classifier specifier member.order member.item)
    (inside : member.item ∈ items) :
    ∃ old ∈ tagFrom classifier specifier 0 items,
      bucketIn options old = bucketIn options member ∧
        specifier old.item = specifier member.item := by
  have tags : (tagFrom classifier specifier 0 items).map Tagged.item = items :=
    tagFrom_items 0 items
  -- The item comes from the list, and its tag there has the same item.
  rw [← tags] at inside
  obtain ⟨old, in_tags, same⟩ := List.mem_map.mp inside
  refine ⟨old, in_tags, ?_, by rw [same]⟩
  rw [(mem_tagFrom in_tags).1, is_tag, same]
  rfl

/-- Sorting the items of a sort in their new order gives them in the same order. -/
theorem arrange_again_flatten (items : List α) :
    (arrange classifier specifier options key
      (arrange classifier specifier options key items).flatten).flatten =
        (arrange classifier specifier options key items).flatten := by
  have perm : (arrange classifier specifier options key items).flatten.Perm items :=
    arrange_perm classifier items
  have sorted : (tagFrom classifier specifier 0
      (arrange classifier specifier options key items).flatten).Pairwise _ :=
    sorted_tags_ascend items
  -- What the first sort was no longer matters, only that it kept the items and put them in order.
  generalize (arrange classifier specifier options key items).flatten = again at perm sorted ⊢
  -- The new tags ascend by their own ranks, so the second sort finds them in order.
  have own := ascending_again sorted (fun member found => (mem_tagFrom found).1) ?_
  · have ordered : Ordered specifier options key (tagFrom classifier specifier 0 again) _ :=
      arrangeTagged_ordered (tagFrom_ascending 0 again)
    -- A list has only one order that strictly ascends.
    have same := List.Perm.eq_of_pairwise (fun a b _ _ before behind => absurd behind before.asymm)
      ordered.ascending own ordered.exactly
    rw [arrange_eq, ← List.map_flatten, same, tagFrom_items]
  · intro member found
    have item : member.item ∈ (tagFrom classifier specifier 0 again).map Tagged.item :=
      List.mem_map_of_mem found
    rw [tagFrom_items] at item
    exact tagFrom_knows (mem_tagFrom found).1 (perm.mem_iff.mp item)

/-- Sorting the groups of a sort gives the same groups. -/
theorem arrange_again (items : List α) :
    arrange classifier specifier options key
      (arrange classifier specifier options key items).flatten =
        arrange classifier specifier options key items := by
  -- The items are in the same order, and who shares a group does not depend on the sort.
  rw [← arrange_splitBy (arrange classifier specifier options key items).flatten,
    arrange_again_flatten, arrange_splitBy]

end Again

/-- Sorting what a sort has given gives the same groups and the same warning. -/
theorem process_again {classifier : Classifier} {specifier : α → String} {options : Options}
    {items : List α} {groups : List (List α)} {warning : String}
    (done : process classifier specifier options items = .ok (groups, warning)) :
    process classifier specifier options groups.flatten = .ok (groups, warning) := by
  -- The first sort came to an end, so its pattern is no obstacle to the second.
  have usable : ∀ excess, splitPattern options ≠ .error (.excess excess) := by
    intro excess refused
    rw [process_eq_error.mpr refused] at done
    contradiction
  obtain ⟨warning', process_eq⟩ :
      ∃ warning, ∀ items, process classifier specifier options items = _ :=
    process_eq_ok usable
  rw [process_eq, Except.ok.injEq, Prod.mk.injEq] at done
  obtain ⟨rfl, rfl⟩ := done
  rw [process_eq, arrange_again]

/-- Local imports by their first folder and otherwise as they come, then relative ones. -/
def folderOptions : Options where
  groups := [⟨"local", "listed"⟩, ⟨"relative", "persist"⟩]
  splitPattern := "^(a|b)/"

/-- Two folders and two buckets are out of order, and the second sort meets them in order. -/
theorem process_again_folders :
    process ⟨fun _ => true, fun _ => ""⟩ id folderOptions ["b/x", "./r", "a/y", "b/z"] =
      .ok ([["b/x", "b/z"], ["a/y"], ["./r"]], "") ∧
    process ⟨fun _ => true, fun _ => ""⟩ id folderOptions
      [["b/x", "b/z"], ["a/y"], ["./r"]].flatten =
        .ok ([["b/x", "b/z"], ["a/y"], ["./r"]], "") := by
  have first : process ⟨fun _ => true, fun _ => ""⟩ id folderOptions ["b/x", "./r", "a/y", "b/z"] =
      .ok ([["b/x", "b/z"], ["a/y"], ["./r"]], "") := by decide +kernel
  exact ⟨first, process_again first⟩

end ImportOrder.Sorter
