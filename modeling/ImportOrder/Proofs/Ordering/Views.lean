import ImportOrder.Proofs.Ordering.Settled

/-! What a sort sees of its items: their names, what decides on their buckets, and which of two
stands first. Items of the same names, and other places in the same order, give the same groups. -/

namespace ImportOrder.Sorter

variable {α β : Type}

/-- A change of tagged items that leaves the names and what decides on the buckets as they are. -/
structure Unseen (specifier : α → String) (specifier' : β → String)
    (view : Tagged α → Tagged β) : Prop where
  -- The place is not among them: it may change as long as the order stays.
  name : ∀ a, specifier' (view a).item = specifier a.item
  isLocal : ∀ a, (view a).isLocal = a.isLocal
  isStatic : ∀ a, (view a).isStatic = a.isStatic
  depth : ∀ a, (view a).depth = a.depth

/-- Members that stand in the order of their places, before a change as after it. -/
def InPlace (view : Tagged α → Tagged β) (members : List (Tagged α)) : Prop :=
  members.Pairwise fun a b => a.order ≤ b.order ∧ (view a).order ≤ (view b).order

section Views

variable {specifier : α → String} {specifier' : β → String} {view : Tagged α → Tagged β}
  {members : List (Tagged α)}

/-- A change that is not seen leaves the buckets as they are. -/
theorem Unseen.bucketIn_eq (unseen : Unseen specifier specifier' view) (options : Options)
    (a : Tagged α) : bucketIn options (view a) = bucketIn options a := by
  simp only [bucketIn, bucketOf, unseen.isLocal, unseen.isStatic, unseen.depth]

/-- Sorting a group and changing its members may be done in either order. -/
theorem sortTagged_map (unseen : Unseen specifier specifier' view) (algorithm : String)
    (inPlace : InPlace view members) :
    sortTagged specifier' algorithm (members.map view) =
      (sortTagged specifier algorithm members).map view := by
  -- There are three algorithms, and the last of them leaves the members as they are.
  unfold sortTagged
  split
  · -- By name, the members compare as before.
    symm
    apply List.map_mergeSort
    intro a _ b _
    rw [unseen.name, unseen.name]
  · split
    · -- By place, they are in order already, before the change as after it.
      rw [List.mergeSort_of_pairwise, List.mergeSort_of_pairwise]
      · apply inPlace.imp
        intro a b ordered
        exact decide_eq_true ordered.1
      · rw [List.pairwise_map]
        apply inPlace.imp
        intro a b ordered
        exact decide_eq_true ordered.2
    · rfl

/-- The members of one depth or one finding are those before the change. -/
theorem filter_map_view (keep : Tagged α → Bool) (keep' : Tagged β → Bool)
    (same : ∀ a, keep' (view a) = keep a) :
    (members.map view).filter keep' = (members.filter keep).map view := by
  rw [List.filter_map]
  congr 1
  apply List.filter_congr
  intro a _
  exact same a

/-- The parts of a bucket are changed with its members. -/
theorem Division.parts_map (unseen : Unseen specifier specifier' view) (algorithm : String)
    (division : Division) (inPlace : InPlace view members) :
    division.parts specifier' algorithm (members.map view) =
      (division.parts specifier algorithm members).map (List.map view) := by
  -- Every part is a choice of members, sorted; the choice is the same before and after the change.
  have part : ∀ keep : Tagged α → Bool, ∀ keep' : Tagged β → Bool,
      (∀ a, keep' (view a) = keep a) →
      sortTagged specifier' algorithm ((members.map view).filter keep') =
        (sortTagged specifier algorithm (members.filter keep)).map view := by
    intro keep keep' same
    rw [filter_map_view keep keep' same]
    exact sortTagged_map unseen algorithm (inPlace.filter keep)
  cases division with
  | whole =>
    simp only [Division.parts, sortTagged_map unseen algorithm inPlace, List.map_singleton]
  | depths shallowFirst =>
    -- The depths that occur are the same, and so is their order.
    have depths : sortedDepths shallowFirst (members.map view) =
        sortedDepths shallowFirst members := by
      simp only [sortedDepths, List.map_map, Function.comp_def, unseen.depth]
    simp only [Division.parts, depths, List.map_map]
    apply List.map_congr_left
    intro depth _
    apply part
    intro a
    rw [unseen.depth]
  -- The keys are found in the names, which have not changed.
  | keys key =>
    simp only [Division.parts, List.map_map, Function.comp_def, unseen.name]
    apply List.map_congr_left
    intro found _
    apply part
    intro a
    rw [unseen.name]

/-- The groups of a list are changed with its members. -/
theorem arrangeTagged_map (unseen : Unseen specifier specifier' view) (options : Options)
    (key : Option (String → String)) (inPlace : InPlace view members) :
    arrangeTagged specifier' options key (members.map view) =
      (arrangeTagged specifier options key members).map (List.map view) := by
  -- The buckets in use are those of the options, so only the members of each are to be compared.
  unfold arrangeTagged
  rw [List.map_flatMap]
  apply List.flatMap_congr
  intro group _
  dsimp only
  rw [filter_map_view (fun a => bucketIn options a == group.bucket) _ fun a => by
    rw [unseen.bucketIn_eq], List.isEmpty_map]
  split
  · rfl
  · exact Division.parts_map unseen _ _ (inPlace.filter _)

end Views

section Items

/-- The tag of another item of the same name. -/
def carry (f : α → β) (a : Tagged α) : Tagged β :=
  ⟨f a.item, a.order, a.isLocal, a.isStatic, a.depth⟩

/-- Items that are given others of the same names are tagged as before. -/
theorem tagFrom_map {classifier : Classifier} {specifier : β → String} (f : α → β) (order : Nat)
    (items : List α) :
    tagFrom classifier specifier order (items.map f) =
      (tagFrom classifier (specifier ∘ f) order items).map (carry f) := by
  -- The induction is on the items, for any place at which the first of them stands.
  induction items generalizing order with
  | nil => rfl
  | cons item rest ih =>
    rw [List.map_cons, tagFrom_cons, tagFrom_cons, List.map_cons, ih]
    rfl

/-- A sort does not look at its items but for their names. -/
theorem arrange_map (classifier : Classifier) (specifier : β → String) (options : Options)
    (key : Option (String → String)) (f : α → β) (items : List α) :
    arrange classifier specifier options key (items.map f) =
      (arrange classifier (specifier ∘ f) options key items).map (List.map f) := by
  -- Carrying over an item changes the item and nothing that a sort looks at.
  have unseen : Unseen (specifier ∘ f) specifier (carry f) :=
    ⟨fun _ => rfl, fun _ => rfl, fun _ => rfl, fun _ => rfl⟩
  have inPlace : InPlace (carry f) (tagFrom classifier (specifier ∘ f) 0 items) := by
    apply (tagFrom_ascending 0 items).imp
    intro a b less
    exact ⟨Nat.le_of_lt less, Nat.le_of_lt less⟩
  rw [arrange_eq, arrange_eq, tagFrom_map, arrangeTagged_map unseen options key inPlace]
  simp only [List.map_map, Function.comp_def]
  rfl

end Items

section Places

variable {specifier : α → String}

/-- A tag that does not tell the place. -/
def unplaced (a : Tagged α) : Tagged α := { a with order := 0 }

/-- A sort does not look at the places of its items but for their order. -/
theorem arrangeTagged_items_eq (options : Options) (key : Option (String → String))
    {tagged other : List (Tagged α)} (ascending : tagged.Pairwise fun a b => a.order < b.order)
    (ascending' : other.Pairwise fun a b => a.order < b.order)
    (same : tagged.map unplaced = other.map unplaced) :
    (arrangeTagged specifier options key tagged).map (List.map Tagged.item) =
      (arrangeTagged specifier options key other).map (List.map Tagged.item) := by
  have unseen : Unseen specifier specifier unplaced :=
    ⟨fun _ => rfl, fun _ => rfl, fun _ => rfl, fun _ => rfl⟩
  -- Without places both lists have the same groups.
  have forgets : ∀ list : List (Tagged α), (list.Pairwise fun a b => a.order < b.order) →
      (arrangeTagged specifier options key list).map (List.map Tagged.item) =
        (arrangeTagged specifier options key (list.map unplaced)).map (List.map Tagged.item) := by
    intro list ascends
    have inPlace : InPlace unplaced list := by
      apply ascends.imp
      intro a b less
      exact ⟨Nat.le_of_lt less, Nat.le_refl 0⟩
    rw [arrangeTagged_map unseen options key inPlace]
    simp only [List.map_map, Function.comp_def]
    rfl
  rw [forgets tagged ascending, forgets other ascending', same]

end Places

end ImportOrder.Sorter
