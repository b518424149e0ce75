import ImportOrder.Proofs.Ordering.Views

/-! Taking imports away, or adding some, leaves the others as they are. Without a split pattern the
rank of an import does not depend on the imports beside it, so a sort of some of the imports is the
sort of all of them with the others left out. -/

namespace ImportOrder.Sorter

variable {α γ : Type}

/-- What is left of parts of which only some members are kept; a part that loses all its members is
gone. -/
def thinned (keep : γ → Bool) (parts : List (List γ)) : List (List γ) :=
  (parts.map (List.filter keep)).filter fun part => !part.isEmpty

/-- Thinned parts hold the members kept, in their order. -/
theorem flatten_thinned (keep : γ → Bool) (parts : List (List γ)) :
    (thinned keep parts).flatten = parts.flatten.filter keep := by
  rw [thinned, List.flatten_filter_not_isEmpty, List.filter_flatten]

/-- Parts whose members are given others are thinned as before, if the same members are kept. -/
theorem map_thinned {δ : Type} (view : γ → δ) (keep : δ → Bool) (parts : List (List γ)) :
    (thinned (keep ∘ view) parts).map (List.map view) =
      thinned keep (parts.map (List.map view)) := by
  have kept : List.filter keep ∘ List.map view = List.map view ∘ List.filter (keep ∘ view) := by
    funext part
    exact List.filter_map
  symm
  rw [thinned, List.map_map, kept, ← List.map_map, List.filter_map]
  -- A part is empty exactly if its image is.
  simp only [thinned, Function.comp_def, List.isEmpty_map]

namespace Parted

variable {ahead together before : γ → γ → Prop} {members : List γ} {parts other : List (List γ)}

/-- Members in parts stay in parts when some of them are taken away. -/
theorem thin (parted : Parted ahead together before members parts) (keep : γ → Bool) :
    Parted ahead together before (members.filter keep) (thinned keep parts) := by
  refine ⟨?_, ?_, ?_, ?_⟩
  · intro part found
    simpa using (List.mem_filter.mp found).2
  · rw [flatten_thinned]
    exact parted.exactly.filter keep
  · intro part found
    obtain ⟨whole, is_part, rfl⟩ := List.mem_map.mp (List.mem_filter.mp found).1
    exact (parted.level whole is_part).filter keep
  · -- What holds from part to part holds of all their members, so also of those kept.
    apply List.Pairwise.filter
    rw [List.pairwise_map]
    apply parted.across.imp
    intro part next apart a in_part b in_next
    exact apart a (List.mem_filter.mp in_part).1 b (List.mem_filter.mp in_next).1

/-- Members fall into parts in only one way, if the order of the parts and in them is strict. -/
theorem unique (parted : Parted ahead together before members parts)
    (parted' : Parted ahead together before members other)
    (strict : ∀ a b, ahead a b ∨ together a b ∧ before a b →
      ¬ (ahead b a ∨ together b a ∧ before b a))
    {same : γ → γ → Bool} (joined : ∀ a b, together a b → same a b = true)
    (apart : ∀ a b, ahead a b → same a b = false) : parts = other := by
  -- The order is strict, so the same members can be lined up in one way only.
  have flat : parts.flatten = other.flatten :=
    List.Perm.eq_of_pairwise (fun a b _ _ first second => absurd second (strict a b first))
      parted.ascending parted'.ascending (parted.exactly.trans parted'.exactly.symm)
  -- The parts are told by who is together with whom.
  rw [← parted.bounds (fun a _ b _ => joined a b) fun a _ b _ => apart a b, flat]
  exact parted'.bounds (fun a _ b _ => joined a b) fun a _ b _ => apart a b

end Parted

section Unsplit

variable {specifier : α → String} {options : Options}

/-- Without a split pattern a rank does not depend on the list. -/
theorem rankIn_unsplit (tagged other : List (Tagged α)) :
    rankIn specifier options none tagged = rankIn specifier options none other := by
  funext a
  have part : ∀ members others : List (Tagged α),
      (divisionOf options none (bucketIn options a)).part specifier members a =
        (divisionOf options none (bucketIn options a)).part specifier others a := by
    intro members others
    unfold divisionOf
    -- Only a split by findings looks at the other members.
    split
    · rfl
    · split
      · contradiction
      · rfl
  unfold rankIn
  rw [part]

/-- Without a split pattern the groups of some members are those of all of them, thinned. -/
theorem arrangeTagged_filter {tagged : List (Tagged α)}
    (ascending : tagged.Pairwise fun a b => a.order < b.order) (keep : Tagged α → Bool) :
    arrangeTagged specifier options none (tagged.filter keep) =
      thinned keep (arrangeTagged specifier options none tagged) := by
  -- Both sides are the same members in parts of the same ranks, and there is only one such way.
  have all : RankedParts specifier options none tagged tagged _ := arrangeTagged_ranked ascending
  have some_ : RankedParts specifier options none (tagged.filter keep) (tagged.filter keep) _ :=
    arrangeTagged_ranked (ascending.filter keep)
  rw [RankedParts, rankIn_unsplit _ tagged] at some_
  exact some_.unique (all.thin keep) (fun a b before => Rank.Before.asymm before)
    (fun a b joined => joined) fun a b ahead => ahead.not_together

/-- Tags that do not tell their places are told by the items. -/
theorem map_unplaced {classifier : Classifier} {tagged : List (Tagged α)}
    (tags : ∀ a ∈ tagged, a = tag classifier specifier a.order a.item) :
    tagged.map unplaced = (tagged.map Tagged.item).map (tag classifier specifier 0) := by
  rw [List.map_map]
  apply List.map_congr_left
  intro a inside
  rw [tags a inside]
  rfl

/-- Without a split pattern the groups of some items are those of all of them, thinned. -/
theorem arrange_filter (classifier : Classifier) (keep : α → Bool) (items : List α) :
    arrange classifier specifier options none (items.filter keep) =
      thinned keep (arrange classifier specifier options none items) := by
  have ascending : (tagFrom classifier specifier 0 items).Pairwise fun a b => a.order < b.order :=
    tagFrom_ascending 0 items
  -- The items kept, tagged anew, have other places than among all items, but in the same order.
  have same : (tagFrom classifier specifier 0 (items.filter keep)).map unplaced =
      ((tagFrom classifier specifier 0 items).filter (keep ∘ Tagged.item)).map unplaced := by
    have chosen : ((tagFrom classifier specifier 0 items).filter (keep ∘ Tagged.item)).map
        Tagged.item = items.filter keep := filter_tagFrom_items (fun _ _ => rfl) 0 items
    rw [map_unplaced fun a inside => (mem_tagFrom inside).1,
      map_unplaced fun a inside => (mem_tagFrom (List.mem_filter.mp inside).1).1,
      tagFrom_items, chosen]
  rw [arrange_eq, arrange_eq, arrangeTagged_items_eq options none (tagFrom_ascending 0 _)
    (ascending.filter (keep ∘ Tagged.item)) same, arrangeTagged_filter ascending, map_thinned]

/-- A sort without a split pattern comes to an end and warns of nothing. -/
theorem process_unsplit (classifier : Classifier) (unsplit : options.splitPattern = "")
    (items : List α) :
    process classifier specifier options items =
      .ok (arrange classifier specifier options none items, "") := by
  unfold process splitPattern
  rw [unsplit]
  rfl

end Unsplit

/-- Without a split pattern, taking imports away leaves the others in their groups and in their
order. The marks tell which imports are kept; no sort looks at them, so the sort of the marked
imports shows where each one ends up. -/
theorem process_thinned (classifier : Classifier) (specifier : α → String) {options : Options}
    (unsplit : options.splitPattern = "") (marked : List (α × Bool)) :
    ∃ groups left,
      process classifier (specifier ∘ Prod.fst) options marked = .ok (groups, "") ∧
      process classifier specifier options (marked.map Prod.fst) =
        .ok (groups.map (List.map Prod.fst), "") ∧
      process classifier specifier options ((marked.filter Prod.snd).map Prod.fst) =
        .ok (left, "") ∧
      left = (thinned Prod.snd groups).map (List.map Prod.fst) ∧
      left.flatten = (groups.flatten.filter Prod.snd).map Prod.fst := by
  -- Marks are dropped by the change of items, and the others are left out by thinning.
  refine ⟨arrange classifier (specifier ∘ Prod.fst) options none marked, _,
    process_unsplit classifier unsplit _, ?_, process_unsplit classifier unsplit _, ?_, ?_⟩
  · rw [process_unsplit classifier unsplit, arrange_map]
  · rw [arrange_map, arrange_filter]
  · rw [arrange_map, arrange_filter, ← List.map_flatten, flatten_thinned]

/-- Relative imports by depth, and those of one depth by name. -/
def relativesByName : Options := { groups := [⟨"relative", "natural"⟩] }

/-- Imports of two depths; two names, one of them given twice, have the same place in the order of
names. The first of them is to be taken away. -/
def twins : List (String × Bool) :=
  [("./a1", false), ("../b", true), ("./a01", true), ("./a1", true)]

/-- The import that is given twice is taken away where it stood first, and the names that compare as
equal stay as they stood. -/
theorem process_thinned_twins :
    relativesByName.splitPattern = "" ∧
    ∃ groups left,
      process ⟨fun _ => true, fun _ => ""⟩ (id ∘ Prod.fst) relativesByName twins =
        .ok (groups, "") ∧
      process ⟨fun _ => true, fun _ => ""⟩ id relativesByName ["../b", "./a01", "./a1"] =
        .ok (left, "") ∧
      left.flatten = (groups.flatten.filter Prod.snd).map Prod.fst := by
  obtain ⟨groups, left, all, -, done, -, same⟩ :=
    process_thinned ⟨fun _ => true, fun _ => ""⟩ id (rfl : relativesByName.splitPattern = "") twins
  exact ⟨rfl, groups, left, all, done, same⟩

end ImportOrder.Sorter
