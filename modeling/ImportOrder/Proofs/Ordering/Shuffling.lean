import ImportOrder.Proofs.Ordering.Thinning

/-! Natural order forgets how the imports stood in the source. Where every bucket is ordered by name
and different names have different keys, ranks without the place tell imports of different names
apart, so the order of the names is the same whatever order they come in. -/

namespace ImportOrder.Sorter

variable {α : Type}

namespace Rank

/-- The rank of an import whose place is not told. -/
def unplaced (rank : Rank) : Rank := { rank with order := 0 }

/-- An import in front of another does not fall behind it when the places are not told. -/
theorem Before.not_behind {a b : Rank} (before : a.Before b) : ¬ b.unplaced.Before a.unplaced := by
  intro behind
  apply before.asymm
  -- Bucket, part and name do not change, so they would decide with the places too.
  rcases behind with ahead | ⟨joined, named⟩
  · exact .inl ahead
  · refine .inr ⟨joined, ?_⟩
    rcases named with name | ⟨-, -, less⟩
    · exact .inl name
    · -- Places that are not told do not differ.
      exact absurd less (Nat.lt_irrefl 0)

/-- Ranks of which neither is in front of the other, places aside, have the same name. -/
theorem name_eq_of_tied {a b : Rank} (first : ¬ a.unplaced.Before b.unplaced)
    (second : ¬ b.unplaced.Before a.unplaced) : a.name = b.name := by
  unfold Before Ahead Named at first second
  rw [together_iff] at first second
  simp only [unplaced] at first second
  -- Neither bucket nor part decides, so the names are compared, in both directions.
  have bucket : a.bucket = b.bucket := by omega
  have part : a.part = b.part := by omega
  apply NaturalKey.le_antisymm
  · by_contra greater
    exact second (.inr ⟨⟨bucket.symm, part.symm⟩, .inl (Bool.not_eq_true _ ▸ greater)⟩)
  · by_contra greater
    exact first (.inr ⟨⟨bucket, part⟩, .inl (Bool.not_eq_true _ ▸ greater)⟩)

end Rank

section Names

variable {classifier : Classifier} {options : Options}

/-- The rank that a name has without a split pattern, its place not told. -/
def nameRank (classifier : Classifier) (options : Options) (name : String) : Rank :=
  rankIn id options none [] (tag classifier id 0 name)

/-- Without its place, the rank of an import is that of its name. -/
theorem unplaced_rankIn {tagged : List (Tagged String)} {a : Tagged String}
    (is_tag : a = tag classifier id a.order a.item) :
    (rankIn id options none tagged a).unplaced = nameRank classifier options a.item := by
  rw [rankIn_unsplit tagged [], is_tag]
  rfl

/-- Along the groups of names no name falls behind an earlier one. -/
theorem arrange_names_ascend (names : List String) :
    (arrange classifier id options none names).flatten.Pairwise fun s t =>
      ¬ (nameRank classifier options t).Before (nameRank classifier options s) := by
  -- The tags ascend strictly by rank; without the places this is weaker, but the names remain.
  have ordered : Ordered id options none (tagFrom classifier id 0 names) _ :=
    arrangeTagged_ordered (tagFrom_ascending 0 names)
  rw [arrange_eq, ← List.map_flatten, List.pairwise_map]
  apply List.Pairwise.imp_of_mem _ ordered.ascending
  intro a b in_a in_b before
  have is_tag := (mem_tagFrom (ordered.exactly.mem_iff.mp in_a)).1
  have is_tag' := (mem_tagFrom (ordered.exactly.mem_iff.mp in_b)).1
  rw [← unplaced_rankIn is_tag, ← unplaced_rankIn is_tag']
  exact before.not_behind

/-- Where all groups are ordered by name, every import is ranked by its name. -/
theorem nameRank_name
    (natural : ∀ group ∈ effectiveGroups options.groups, group.algorithm = Algorithm.natural)
    (name : String) : (nameRank classifier options name).name = naturalKey name := by
  -- The name has a bucket in use, and the group of that bucket is ordered by name.
  obtain ⟨group, used, named⟩ :=
    List.mem_map.mp (bucketIn_mem options (tag classifier id 0 name))
  have by_name : algorithmIn options (bucketIn options (tag classifier id 0 name)) =
      Algorithm.natural := by
    rw [← named, algorithmIn_of_mem used, natural group used]
  show nameOf id (algorithmIn options (bucketIn options (tag classifier id 0 name)))
    (tag classifier id 0 name) = naturalKey name
  rw [by_name]
  rfl

/-- Names with different keys fall into the same groups whatever order they come in. -/
theorem arrange_names_eq
    (natural : ∀ group ∈ effectiveGroups options.groups, group.algorithm = Algorithm.natural)
    {names shuffled : List String} (perm : shuffled.Perm names)
    (distinct : ∀ s ∈ names, ∀ t ∈ names, naturalKey s = naturalKey t → s = t) :
    arrange classifier id options none shuffled = arrange classifier id options none names := by
  -- Two lists of the same names that both ascend are equal where ties are equal names.
  have held : (arrange classifier id options none names).flatten.Perm names :=
    arrange_perm classifier names
  have held' : (arrange classifier id options none shuffled).flatten.Perm shuffled :=
    arrange_perm classifier shuffled
  have flat : (arrange classifier id options none shuffled).flatten =
      (arrange classifier id options none names).flatten := by
    apply List.Perm.eq_of_pairwise _ (arrange_names_ascend shuffled) (arrange_names_ascend names)
      (held'.trans (perm.trans held.symm))
    -- Names of which neither falls behind the other have the same key.
    intro s t in_shuffled in_names first second
    have keys := @Rank.name_eq_of_tied (nameRank classifier options s)
      (nameRank classifier options t) second first
    rw [nameRank_name natural, nameRank_name natural] at keys
    exact distinct s (perm.mem_iff.mp (held'.mem_iff.mp in_shuffled)) t (held.mem_iff.mp in_names)
      keys
  -- Who shares a group does not depend on the sort.
  rw [← arrange_splitBy shuffled, flat, arrange_splitBy]

end Names

/-- Where no split pattern is set and every group in use is ordered by name, imports of which
different names have different keys are sorted into groups of the same names, whatever order they
come in. -/
theorem process_shuffled (classifier : Classifier) (specifier : α → String) {options : Options}
    (unsplit : options.splitPattern = "")
    (natural : ∀ group ∈ effectiveGroups options.groups, group.algorithm = Algorithm.natural)
    {items shuffled : List α} (perm : shuffled.Perm items)
    (distinct : ∀ x ∈ items, ∀ y ∈ items,
      naturalKey (specifier x) = naturalKey (specifier y) → specifier x = specifier y) :
    ∃ groups groups',
      process classifier specifier options items = .ok (groups, "") ∧
      process classifier specifier options shuffled = .ok (groups', "") ∧
      groups'.map (List.map specifier) = groups.map (List.map specifier) := by
  refine ⟨_, _, process_unsplit classifier unsplit items,
    process_unsplit classifier unsplit shuffled, ?_⟩
  -- A sort of imports is a sort of their names.
  have by_name : ∀ list : List α, (arrange classifier specifier options none list).map
      (List.map specifier) = arrange classifier id options none (list.map specifier) := by
    intro list
    rw [arrange_map]
    rfl
  rw [by_name, by_name]
  apply arrange_names_eq natural (perm.map specifier)
  intro s in_s t in_t same
  obtain ⟨x, in_x, rfl⟩ := List.mem_map.mp in_s
  obtain ⟨y, in_y, rfl⟩ := List.mem_map.mp in_t
  exact distinct x in_x y in_y same

/-- Every import by its name, in one bucket or in that for the rest. -/
def allByName : Options := { groups := [⟨"relative", "natural"⟩, ⟨"rest", "natural"⟩] }

/-- Numbers of one and two digits, one name twice and two depths, in two orders. -/
theorem process_shuffled_numbers :
    (∀ group ∈ effectiveGroups allByName.groups, group.algorithm = Algorithm.natural) ∧
    ["../c", "./a9", "./a10", "./a9"].Perm ["./a10", "./a9", "../c", "./a9"] ∧
    ∃ groups groups',
      process ⟨fun _ => true, fun _ => ""⟩ id allByName ["./a10", "./a9", "../c", "./a9"] =
        .ok (groups, "") ∧
      process ⟨fun _ => true, fun _ => ""⟩ id allByName ["../c", "./a9", "./a10", "./a9"] =
        .ok (groups', "") ∧
      groups'.map (List.map id) = groups.map (List.map id) := by
  have natural : ∀ group ∈ effectiveGroups allByName.groups,
      group.algorithm = Algorithm.natural := by decide
  have perm : ["../c", "./a9", "./a10", "./a9"].Perm ["./a10", "./a9", "../c", "./a9"] := by
    decide
  have distinct : ∀ x ∈ ["./a10", "./a9", "../c", "./a9"],
      ∀ y ∈ ["./a10", "./a9", "../c", "./a9"],
      naturalKey (id x) = naturalKey (id y) → id x = id y := by decide +kernel
  exact ⟨natural, perm, process_shuffled ⟨fun _ => true, fun _ => ""⟩ id rfl natural perm distinct⟩

end ImportOrder.Sorter
