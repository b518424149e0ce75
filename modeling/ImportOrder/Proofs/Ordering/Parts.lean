import ImportOrder.Proofs.Ordering.Buckets
import ImportOrder.Proofs.Ordering.NaturalOrder
import Mathlib.Data.List.Perm.Basic
import Mathlib.Data.List.SplitBy

/-! The parts that a bucket falls into. A sort is stable, and the parts come in the order of what
the bucket is split by. -/

namespace ImportOrder.Sorter

variable {α γ : Type}

section Stable

variable {le : γ → γ → Bool} (trans : ∀ a b c, le a b = true → le b c = true → le a c = true)
  (total : ∀ a b, (le a b || le b a) = true)

include trans total

/-- A sort leaves the members that compare as equal to one of them in their order. -/
theorem mergeSort_filter_same (members : List γ) (one : γ) :
    (members.mergeSort le).filter (fun other => le one other && le other one) =
      members.filter (fun other => le one other && le other one) := by
  -- Members that compare as equal are in order already, so the sort does not touch them.
  have sorted : (members.filter fun other => le one other && le other one).Pairwise
      fun a b => le a b = true := by
    apply List.pairwise_of_forall_mem_list
    intro a in_left b in_right
    simp only [List.mem_filter, Bool.and_eq_true] at in_left in_right
    exact trans a one b in_left.2.2 in_right.2.1
  have kept := (List.sublist_mergeSort trans total sorted List.filter_sublist).filter
    fun other => le one other && le other one
  rw [List.filter_filter] at kept
  simp only [Bool.and_self] at kept
  -- The sort has no more members of the kind than there were.
  exact (kept.eq_of_length ((List.mergeSort_perm members le).filter _).length_eq.symm).symm

/-- In a sorted list members that compare as equal come as they came before. -/
theorem mergeSort_stable {members : List γ} {order : γ → Nat}
    (ascending : members.Pairwise fun a b => order a < order b) :
    (members.mergeSort le).Pairwise fun a b =>
      le b a = false ∨ le a b = true ∧ le b a = true ∧ order a < order b := by
  rw [List.pairwise_iff_forall_sublist]
  intro a b pair
  have less :=
    List.pairwise_iff_forall_sublist.mp (List.pairwise_mergeSort trans total members) pair
  cases equal : le b a with
  | false => exact .inl rfl
  | true =>
    refine .inr ⟨less, rfl, ?_⟩
    -- Both are equal to the first of them, so the sort left them in their order.
    have reflexive : le a a = true := trans a b a less equal
    have chosen := pair.filter fun other => le a other && le other a
    rw [mergeSort_filter_same trans total] at chosen
    simp only [List.filter_cons, List.filter_nil, reflexive, less, equal, Bool.and_self, if_true]
      at chosen
    exact List.pairwise_iff_forall_sublist.mp ascending (chosen.trans List.filter_sublist)

/-- A sorted list of distinct values ascends strictly. -/
theorem mergeSort_distinct {values : List γ} (distinct : values.Nodup) :
    (values.mergeSort le).Pairwise fun a b => le a b = true ∧ a ≠ b :=
  (List.pairwise_mergeSort trans total values).and
    ((List.mergeSort_perm values le).nodup_iff.mpr distinct)

end Stable

section First

variable {β : Type} [BEq β] [LawfulBEq β]

/-- Where a list first holds a value that a filter lets through compares as in the filtered list. -/
theorem findIdx_lt_of_filter (keep : β → Bool) {values : List β} {v w : β} (kept : keep v = true)
    (kept' : keep w = true)
    (less : (values.filter keep).findIdx (· == v) < (values.filter keep).findIdx (· == w)) :
    values.findIdx (· == v) < values.findIdx (· == w) := by
  -- The induction is on the values: one that is kept is at the front of both lists, and one that is
  -- dropped shifts both places.
  induction values with
  | nil => simp at less
  | cons x rest ih =>
    by_cases through : keep x = true
    · rw [List.filter_cons_of_pos through] at less
      simp only [List.findIdx_cons] at less ⊢
      cases first : x == v with
      | true => cases second : x == w <;> simp_all
      | false =>
        cases second : x == w with
        | true => simp_all
        | false =>
          simp only [first, second, cond_false] at less ⊢
          have later := ih (by omega)
          omega
    · rw [List.filter_cons_of_neg through] at less
      -- What the filter drops is neither of the two values.
      have not_v : (x == v) = false := by
        rw [beq_eq_false_iff_ne]
        rintro rfl
        exact through kept
      have not_w : (x == w) = false := by
        rw [beq_eq_false_iff_ne]
        rintro rfl
        exact through kept'
      have later := ih less
      simp only [List.findIdx_cons, not_v, not_w, cond_false]
      omega

/-- The different values of a list come in the order of their first places. -/
theorem eraseDups_ascending (values : List β) :
    values.eraseDups.Pairwise fun v w => values.findIdx (· == v) < values.findIdx (· == w) := by
  -- Each value drops its copies from the rest, so the induction is on the length.
  induction size : values.length using Nat.strongRecOn generalizing values with
  | ind n ih =>
    cases values with
    | nil => simp
    | cons x rest =>
      rw [List.eraseDups_cons, List.pairwise_cons]
      have others : ∀ v ∈ (rest.filter fun y => !y == x).eraseDups, (x == v) = false := by
        intro v member
        have dropped := (List.mem_filter.mp (List.mem_eraseDups.mp member)).2
        rw [beq_eq_false_iff_ne]
        rintro rfl
        simp at dropped
      refine ⟨?_, ?_⟩
      · -- The first value is at the first place, and no other one is.
        intro v member
        simp [List.findIdx_cons, others v member]
      · -- Places in the filtered rest compare as in the rest, and one place in front shifts both.
        have shorter : (rest.filter fun y => !y == x).length < n := by
          have bound := List.length_filter_le (fun y => !y == x) rest
          rw [← size, List.length_cons]
          omega
        have inner := ih _ shorter (rest.filter fun y => !y == x) rfl
        apply List.Pairwise.imp_of_mem _ inner
        intro v w in_v in_w less
        have not_v := others v in_v
        have not_w := others w in_w
        have kept : (!v == x) = true := (List.mem_filter.mp (List.mem_eraseDups.mp in_v)).2
        have kept' : (!w == x) = true := (List.mem_filter.mp (List.mem_eraseDups.mp in_w)).2
        have later := findIdx_lt_of_filter (fun y => !y == x) kept kept' less
        simp only [List.findIdx_cons, not_v, not_w, cond_false]
        omega

/-- No value is kept twice. -/
theorem eraseDups_nodup (values : List β) : values.eraseDups.Nodup := by
  apply List.Pairwise.imp _ (eraseDups_ascending values)
  rintro v _ less rfl
  exact Nat.lt_irrefl _ less

/-- Distinct values come in the order of their places. -/
theorem findIdx_ascending {values : List β} (distinct : values.Nodup) :
    values.Pairwise fun v w => values.findIdx (· == v) < values.findIdx (· == w) := by
  -- The first value is nowhere else, so its place is the first one and the others are one further
  -- on.
  induction values with
  | nil => exact List.Pairwise.nil
  | cons x rest ih =>
    obtain ⟨fresh, distinct⟩ := List.nodup_cons.mp distinct
    have others : ∀ v ∈ rest, (x == v) = false := by
      intro v member
      rw [beq_eq_false_iff_ne]
      rintro rfl
      exact fresh member
    rw [List.pairwise_cons]
    refine ⟨?_, ?_⟩
    · intro v member
      simp [List.findIdx_cons, others v member]
    · apply List.Pairwise.imp_of_mem _ (ih distinct)
      intro v w in_v in_w less
      simp only [List.findIdx_cons, others v in_v, others w in_w, cond_false]
      omega

/-- Members picked value by value are all the members, if every value is picked once. -/
theorem flatMap_filter_perm (value : γ → β) {values : List β} (distinct : values.Nodup)
    {members : List γ} (covered : ∀ member ∈ members, value member ∈ values) :
    (values.flatMap fun v => members.filter fun member => value member == v).Perm members := by
  -- The members that a value has picked are gone for the rest, so the members stay general.
  induction values generalizing members with
  | nil =>
    have empty : members = [] := List.eq_nil_iff_forall_not_mem.mpr fun member found => by
      simpa using covered member found
    simp [empty]
  | cons v rest ih =>
    obtain ⟨fresh, distinct⟩ := List.nodup_cons.mp distinct
    -- What has another value is picked from the rest of the members.
    have others : ∀ member ∈ members.filter fun member => !(value member == v),
        value member ∈ rest := by
      intro member found
      obtain ⟨inside, different⟩ := List.mem_filter.mp found
      rcases List.mem_cons.mp (covered member inside) with same | later
      · simp [same] at different
      · exact later
    -- The rest never picks a member of the first value, so it does not miss them.
    have same_picks : (rest.flatMap fun w => members.filter fun member => value member == w) =
        rest.flatMap fun w => (members.filter fun member => !(value member == v)).filter
          fun member => value member == w := by
      apply List.flatMap_congr
      intro w later
      rw [List.filter_filter]
      apply List.filter_congr
      intro member _
      cases found : value member == w with
      | false => rfl
      | true =>
        have different : (value member == v) = false := by
          rw [eq_of_beq found, beq_eq_false_iff_ne]
          rintro rfl
          exact fresh later
        simp [different]
    rw [List.flatMap_cons, same_picks]
    exact ((ih distinct others).append_left _).trans (List.filter_append_perm _ members)

end First

/-- Members in parts, one behind the other: `ahead` holds from part to part, and inside a part
`together` and `before` hold from member to member. -/
structure Parted (ahead together before : γ → γ → Prop) (members : List γ)
    (parts : List (List γ)) : Prop where
  -- No part is empty, so the parts can be read off their bounds.
  filled : ∀ part ∈ parts, part ≠ []
  exactly : parts.flatten.Perm members
  level : ∀ part ∈ parts, part.Pairwise fun a b => together a b ∧ before a b
  across : parts.Pairwise fun part other => ∀ a ∈ part, ∀ b ∈ other, ahead a b

namespace Parted

variable {ahead together before : γ → γ → Prop} {members : List γ} {parts : List (List γ)}

/-- A member of a part is one of the members. -/
theorem mem (parted : Parted ahead together before members parts) {part : List γ}
    (is_part : part ∈ parts) {a : γ} (inside : a ∈ part) : a ∈ members :=
  parted.exactly.mem_iff.mp (List.mem_flatten.mpr ⟨part, is_part, inside⟩)

/-- From one part to the next, or inside a part, the members ascend. -/
theorem ascending (parted : Parted ahead together before members parts) :
    parts.flatten.Pairwise fun a b => ahead a b ∨ together a b ∧ before a b := by
  -- Two members are in one part or in two.
  rw [List.pairwise_flatten]
  refine ⟨?_, ?_⟩
  · intro part member
    exact (parted.level part member).imp .inr
  · apply parted.across.imp
    intro part other ahead a in_part b in_other
    exact .inl (ahead a in_part b in_other)

/-- Seen through a view that tells who is together, the parts end exactly where a member is not
together with the next one. -/
theorem bounds_map {δ : Type} (parted : Parted ahead together before members parts) (view : γ → δ)
    {same : δ → δ → Bool}
    (joined : ∀ a ∈ members, ∀ b ∈ members, together a b → same (view a) (view b) = true)
    (apart : ∀ a ∈ members, ∀ b ∈ members, ahead a b → same (view a) (view b) = false) :
    (parts.map (List.map view)).flatten.splitBy same = parts.map (List.map view) := by
  apply List.splitBy_flatten
  · intro empty
    obtain ⟨part, is_part, nothing⟩ := List.mem_map.mp empty
    exact parted.filled part is_part (List.map_eq_nil_iff.mp nothing)
  · -- Inside a part all members are together, not only neighbours.
    intro image found
    obtain ⟨part, is_part, rfl⟩ := List.mem_map.mp found
    apply List.Pairwise.isChain
    rw [List.pairwise_map]
    apply List.Pairwise.imp_of_mem _ (parted.level part is_part)
    intro a b in_a in_b ordered
    exact joined a (parted.mem is_part in_a) b (parted.mem is_part in_b) ordered.1
  · apply List.Pairwise.isChain
    rw [List.pairwise_map]
    apply List.Pairwise.imp_of_mem _ parted.across
    intro part other is_part is_other ahead
    -- The last member of a part and the first of the next one belong to different parts.
    have last := List.getLast_mem (parted.filled part is_part)
    have first := List.head_mem (parted.filled other is_other)
    refine ⟨by simpa using parted.filled part is_part,
      by simpa using parted.filled other is_other, ?_⟩
    rw [List.getLast_map, List.head_map]
    exact apart _ (parted.mem is_part last) _ (parted.mem is_other first) (ahead _ last _ first)

/-- The parts end exactly where a member is not together with the next one. -/
theorem bounds (parted : Parted ahead together before members parts) {same : γ → γ → Bool}
    (joined : ∀ a ∈ members, ∀ b ∈ members, together a b → same a b = true)
    (apart : ∀ a ∈ members, ∀ b ∈ members, ahead a b → same a b = false) :
    parts.flatten.splitBy same = parts := by
  simpa using parted.bounds_map id joined apart

/-- Weaker relations hold of the same parts. -/
theorem imp {ahead' together' before' : γ → γ → Prop}
    (parted : Parted ahead together before members parts)
    (weaker : ∀ a ∈ members, ∀ b ∈ members, (ahead a b → ahead' a b) ∧
      (together a b → together' a b) ∧ (before a b → before' a b)) :
    Parted ahead' together' before' members parts := by
  refine ⟨parted.filled, parted.exactly, ?_, ?_⟩
  · intro part is_part
    apply List.Pairwise.imp_of_mem _ (parted.level part is_part)
    intro a b in_a in_b ordered
    obtain ⟨-, joined, sorted⟩ :=
      weaker a (parted.mem is_part in_a) b (parted.mem is_part in_b)
    exact ⟨joined ordered.1, sorted ordered.2⟩
  · apply List.Pairwise.imp_of_mem _ parted.across
    intro part other is_part is_other ahead a in_part b in_other
    exact (weaker a (parted.mem is_part in_part) b (parted.mem is_other in_other)).1
      (ahead a in_part b in_other)

/-- The parts of one list behind those of another. -/
theorem flatMap {δ : Type} {groups : List δ} {membersOf : δ → List γ}
    {partsOf : δ → List (List γ)}
    (each : ∀ group ∈ groups, Parted ahead together before (membersOf group) (partsOf group))
    (apart : groups.Pairwise fun group other =>
      ∀ a ∈ membersOf group, ∀ b ∈ membersOf other, ahead a b) :
    Parted ahead together before (groups.flatMap membersOf) (groups.flatMap partsOf) := by
  -- The four conditions are checked group by group; only the last one compares groups.
  refine ⟨?_, ?_, ?_, ?_⟩
  · intro part found
    obtain ⟨group, member, is_part⟩ := List.mem_flatMap.mp found
    exact (each group member).filled part is_part
  · rw [List.flatten_eq_flatMap, List.flatMap_assoc]
    apply List.Perm.flatMap_left
    intro group member
    rw [← List.flatten_eq_flatMap]
    exact (each group member).exactly
  · intro part found
    obtain ⟨group, member, is_part⟩ := List.mem_flatMap.mp found
    exact (each group member).level part is_part
  · rw [List.pairwise_flatMap]
    refine ⟨fun group member => (each group member).across, ?_⟩
    apply List.Pairwise.imp_of_mem _ apart
    intro group other in_groups in_others ahead part is_part next is_next a in_part b in_next
    exact ahead a ((each group in_groups).mem is_part in_part) b
      ((each other in_others).mem is_next in_next)

/-- Members picked value by value are in parts, if the values ascend and each of them occurs. -/
theorem of_values {β : Type} [BEq β] [LawfulBEq β] (value : γ → β) (place : β → Int)
    {values : List β} (sort : List γ → List γ) (perm : ∀ list, (sort list).Perm list)
    (sorted : ∀ v, (sort (members.filter fun member => value member == v)).Pairwise before)
    (rising : values.Pairwise fun v w => place v < place w)
    (occurs : ∀ v, v ∈ values ↔ ∃ member ∈ members, value member = v) :
    Parted (fun a b => place (value a) < place (value b))
      (fun a b => place (value a) = place (value b)) before members
      (values.map fun v => sort (members.filter fun member => value member == v)) := by
  -- What a part holds has the value of the part.
  have holds : ∀ v, ∀ a ∈ sort (members.filter fun member => value member == v), value a = v := by
    intro v a inside
    exact eq_of_beq (List.mem_filter.mp ((perm _).mem_iff.mp inside)).2
  -- What ascends strictly repeats nothing.
  have distinct : values.Nodup := by
    apply rising.imp
    rintro v _ less rfl
    exact Int.lt_irrefl _ less
  refine ⟨?_, ?_, ?_, ?_⟩
  · -- A value is listed because a member has it, and this member is in the part.
    intro part found
    obtain ⟨v, member, rfl⟩ := List.mem_map.mp found
    obtain ⟨a, inside, same⟩ := (occurs v).mp member
    intro empty
    have chosen : a ∈ members.filter fun member => value member == v :=
      List.mem_filter.mpr ⟨inside, by simp [same]⟩
    rw [← (perm _).mem_iff, empty] at chosen
    simp at chosen
  · -- Sorting aside, the members are picked value by value.
    rw [← List.flatMap_def]
    refine (List.Perm.flatMap_left _ fun v _ => perm _).trans ?_
    apply flatMap_filter_perm value distinct
    intro member inside
    exact (occurs _).mpr ⟨member, inside, rfl⟩
  · intro part found
    obtain ⟨v, member, rfl⟩ := List.mem_map.mp found
    apply List.Pairwise.imp_of_mem _ (sorted v)
    intro a b in_a in_b ordered
    exact ⟨by rw [holds v a in_a, holds v b in_b], ordered⟩
  · rw [List.pairwise_map]
    apply rising.imp
    intro v w less a in_v b in_w
    rw [holds v a in_v, holds w b in_w]
    exact less

end Parted

end ImportOrder.Sorter
