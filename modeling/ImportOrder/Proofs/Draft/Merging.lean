import ImportOrder.Proofs.Draft.Regions
import Mathlib.Data.Finset.Max
import Mathlib.Data.List.Dedup

/-! What spans merge into, told without the merging: a region is a longest stretch whose spans are
kept apart by blanks alone. -/

namespace ImportOrder

namespace Span

/-- The stretch between spans in front of `high`, where one of them starts: `low` is the furthest end
of those that start to the left. -/
structure Gap (spans : List Span) (low high : Nat) : Prop where
  ends : ∃ span ∈ spans, span.start < high ∧ span.stop = low
  starts : ∃ span ∈ spans, span.start = high
  furthest : ∀ span ∈ spans, span.start < high → span.stop ≤ low

/-- Of some spans one ends last. -/
theorem exists_furthest {spans : List Span} {test : Span → Prop}
    (some_span : ∃ span ∈ spans, test span) :
    ∃ span ∈ spans, test span ∧ ∀ other ∈ spans, test other → other.stop ≤ span.stop := by
  -- The spans that pass form a finite set, which is not empty.
  classical
  obtain ⟨span, member, passes⟩ := some_span
  obtain ⟨last, found, greatest⟩ := Finset.exists_max_image
    (spans.filter fun span => decide (test span)).toFinset Span.stop
    ⟨span, by simp [member, passes]⟩
  simp only [List.mem_toFinset, List.mem_filter, decide_eq_true_eq] at found greatest
  exact ⟨last, found.1, found.2, fun other member passes => greatest other ⟨member, passes⟩⟩

/-- Of some spans one starts first. -/
theorem exists_first {spans : List Span} {test : Span → Prop}
    (some_span : ∃ span ∈ spans, test span) :
    ∃ span ∈ spans, test span ∧ ∀ other ∈ spans, test other → span.start ≤ other.start := by
  classical
  obtain ⟨span, member, passes⟩ := some_span
  obtain ⟨first, found, least⟩ := Finset.exists_min_image
    (spans.filter fun span => decide (test span)).toFinset Span.start
    ⟨span, by simp [member, passes]⟩
  simp only [List.mem_toFinset, List.mem_filter, decide_eq_true_eq] at found least
  exact ⟨first, found.1, found.2, fun other member passes => least other ⟨member, passes⟩⟩

end Span

namespace Draft

/-- A region that spans merge into. It starts with a span and stops with one; every span lies in it,
or ink keeps the span away from it on one side; and every gap between spans inside it is blank. -/
structure Merged (text : Text) (spans : List Span) (region : Span) : Prop where
  starts : ∃ span ∈ spans, span.start = region.start
  stops : ∃ span ∈ spans, span.stop = region.stop
  fenced : ∀ span ∈ spans, region.start ≤ span.start ∧ span.stop ≤ region.stop ∨
    Text.InkBetween text span.stop region.start ∨ Text.InkBetween text region.stop span.start
  joined : ∀ low high, Span.Gap spans low high → region.start ≤ low → high ≤ region.stop →
    Text.BlankBetween text low high

/-- A span whose start lies in a merged region lies in it whole. -/
theorem Merged.holds {text : Text} {spans : List Span} {region span : Span}
    (merged : Merged text spans region) (member : span ∈ spans)
    (low : region.start ≤ span.start) (high : span.start ≤ region.stop) :
    span.stop ≤ region.stop := by
  have ordered := span.ordered
  rcases merged.fenced span member with inside | ⟨place, c, past, before, -⟩ | ⟨place, c, past, before, -⟩
  · exact inside.2
  -- Ink in front of the region or behind it would have to stand on the wrong side of the start.
  · omega
  · omega

/-- A span that starts in front of a merged region ends in front of it, with ink in between. -/
theorem Merged.before {text : Text} {spans : List Span} {region span : Span}
    (merged : Merged text spans region) (member : span ∈ spans)
    (early : span.start < region.start) : Text.InkBetween text span.stop region.start := by
  have ordered := region.ordered
  rcases merged.fenced span member with inside | ink | ⟨place, c, past, before, -⟩
  · omega
  · exact ink
  · omega

/-- A span that starts behind a merged region is kept away from it by ink. -/
theorem Merged.behind {text : Text} {spans : List Span} {region span : Span}
    (merged : Merged text spans region) (member : span ∈ spans)
    (late : region.stop < span.start) : Text.InkBetween text region.stop span.start := by
  have first := region.ordered
  have second := span.ordered
  rcases merged.fenced span member with inside | ⟨place, c, past, before, -⟩ | ink
  · omega
  · omega
  · exact ink

/-- Two merged regions that hold the same span do not start at different places. -/
theorem Merged.start_le {text : Text} {spans : List Span} {region other span : Span}
    (merged : Merged text spans region) (merged' : Merged text spans other)
    (inside : region.start ≤ span.start ∧ span.stop ≤ region.stop)
    (inside' : other.start ≤ span.start ∧ span.stop ≤ other.stop) :
    region.start ≤ other.start := by
  by_contra later
  have ordered := span.ordered
  -- The other region starts with a span in front of this one, and the last such span ends a gap.
  obtain ⟨early, inSpans, starts⟩ := merged'.starts
  obtain ⟨last, inSpans', before, furthest⟩ := Span.exists_furthest
    (show ∃ span ∈ spans, span.start < region.start from ⟨early, inSpans, by omega⟩)
  obtain ⟨first, inSpans'', starts'⟩ := merged.starts
  have gap : Span.Gap spans last.stop region.start :=
    ⟨⟨last, inSpans', before, rfl⟩, ⟨first, inSpans'', starts'⟩, furthest⟩
  -- The other region says that the gap is blank, and this one that it holds ink.
  have reach := furthest early inSpans (by omega)
  have bound := early.ordered
  have blank := merged'.joined _ _ gap (by omega) (by omega)
  exact Text.inkBetween_iff_not_blank.mp (merged.before inSpans' before) blank

/-- Two merged regions that hold the same span do not stop at different places. -/
theorem Merged.stop_le {text : Text} {spans : List Span} {region other span : Span}
    (merged : Merged text spans region) (merged' : Merged text spans other)
    (inside : region.start ≤ span.start ∧ span.stop ≤ region.stop)
    (inside' : other.start ≤ span.start ∧ span.stop ≤ other.stop) :
    other.stop ≤ region.stop := by
  by_contra longer
  have ordered := span.ordered
  -- The other region stops with a span behind this one, and the first such span starts behind a gap.
  obtain ⟨late, inSpans, stops⟩ := merged'.stops
  have behind : region.stop < late.start := by
    by_contra near
    by_cases early : late.start < region.start
    · obtain ⟨place, c, past, before, -⟩ := merged.before inSpans early
      omega
    · have := merged.holds inSpans (by omega) (by omega)
      omega
  obtain ⟨first, inSpans', after, least⟩ := Span.exists_first
    (show ∃ span ∈ spans, region.stop < span.start from ⟨late, inSpans, behind⟩)
  obtain ⟨last, inSpans'', stops'⟩ := merged.stops
  have gap : Span.Gap spans region.stop first.start := by
    have bound := last.ordered
    refine ⟨⟨last, inSpans'', by omega, stops'⟩, ⟨first, inSpans', rfl⟩, ?_⟩
    intro other member before
    -- What starts in front of the first span behind the region lies in the region or in front of it.
    have near : other.start ≤ region.stop := by
      by_contra far
      have := least other member (by omega)
      omega
    by_cases early : other.start < region.start
    · obtain ⟨place, c, past, before, -⟩ := merged.before member early
      have := region.ordered
      omega
    · exact merged.holds member (by omega) near
  have reach := least late inSpans behind
  have bound := late.ordered
  have blank := merged'.joined _ _ gap (by omega) (by omega)
  exact Text.inkBetween_iff_not_blank.mp (merged.behind inSpans' after) blank

/-- A span lies in one merged region only. -/
theorem Merged.unique {text : Text} {spans : List Span} {region other span : Span}
    (merged : Merged text spans region) (merged' : Merged text spans other)
    (inside : region.start ≤ span.start ∧ span.stop ≤ region.stop)
    (inside' : other.start ≤ span.start ∧ span.stop ≤ other.stop) : region = other := by
  -- Each of the four inequalities is one of the two lemmas, taken in one of two directions.
  have first := merged.start_le merged' inside inside'
  have second := merged'.start_le merged inside' inside
  have third := merged.stop_le merged' inside inside'
  have fourth := merged'.stop_le merged inside' inside
  obtain ⟨start, stop, ordered⟩ := region
  obtain ⟨start', stop', ordered'⟩ := other
  simp only [Span.mk.injEq] at *
  omega

/-- What an offset of a merged region is taken for: a span covers it, or it lies in a blank gap. -/
theorem Merged.covered {text : Text} {spans : List Span} {region : Span} {place : Nat}
    (merged : Merged text spans region) (low : region.start ≤ place) (high : place < region.stop) :
    (∃ span ∈ spans, span.start ≤ place ∧ place < span.stop) ∨
      ∃ low high, Span.Gap spans low high ∧ Text.BlankBetween text low high ∧ low ≤ place ∧
        place < high := by
  by_cases covered : ∃ span ∈ spans, span.start ≤ place ∧ place < span.stop
  · exact .inl covered
  right
  -- No span covers the offset, so each ends in front of it or starts behind it.
  have apart : ∀ span ∈ spans, span.start ≤ place → span.stop ≤ place := by
    intro span member before
    by_contra beyond
    exact covered ⟨span, member, before, by omega⟩
  obtain ⟨early, inSpans, starts⟩ := merged.starts
  obtain ⟨late, inSpans', stops⟩ := merged.stops
  have behind : place < late.start := by
    by_contra before
    have := apart late inSpans' (by omega)
    omega
  obtain ⟨last, inLast, before, furthest⟩ := Span.exists_furthest
    (show ∃ span ∈ spans, span.start ≤ place from ⟨early, inSpans, by omega⟩)
  obtain ⟨first, inFirst, after, least⟩ := Span.exists_first
    (show ∃ span ∈ spans, place < span.start from ⟨late, inSpans', behind⟩)
  -- The last of the former and the first of the latter bound the gap around the offset.
  have gap : Span.Gap spans last.stop first.start := by
    refine ⟨⟨last, inLast, by omega, rfl⟩, ⟨first, inFirst, rfl⟩, ?_⟩
    intro span member front
    apply furthest span member
    by_contra past
    have := least span member (by omega)
    omega
  refine ⟨_, _, gap, merged.joined _ _ gap ?_ ?_, apart last inLast before, after⟩
  · have := furthest early inSpans (by omega)
    have := early.ordered
    omega
  · have := least late inSpans' behind
    have := late.ordered
    omega

section Fold

variable {text : Text} {current span : Span} {rest : List Span}

/-- A span that blanks alone keep from the one in front of it may be joined to that one: the merged
regions stay merged. -/
theorem Merged.of_joined {grown region : Span}
    (sorted : (current :: span :: rest).Pairwise fun a b => a.start ≤ b.start)
    (gap : Text.BlankBetween text current.stop span.start)
    (starts : grown.start = current.start) (stops : grown.stop = max current.stop span.stop)
    (merged : Merged text (grown :: rest) region) :
    Merged text (current :: span :: rest) region := by
  obtain ⟨first, second⟩ := List.pairwise_cons.mp sorted
  obtain ⟨later, -⟩ := List.pairwise_cons.mp second
  have near := first span (by simp)
  constructor
  · obtain ⟨found, member, starts'⟩ := merged.starts
    rcases List.mem_cons.mp member with rfl | member
    · exact ⟨current, by simp, by omega⟩
    · exact ⟨found, by simp [member], starts'⟩
  · obtain ⟨found, member, stops'⟩ := merged.stops
    rcases List.mem_cons.mp member with rfl | member
    · -- The grown span stops where the longer one of its two parts does.
      rcases Nat.le_total current.stop span.stop with le | le
      · exact ⟨span, by simp, by omega⟩
      · exact ⟨current, by simp, by omega⟩
    · exact ⟨found, by simp [member], stops'⟩
  · intro part member
    -- Both parts of the grown span are where it is.
    have inGrown : part = current ∨ part = span →
        region.start ≤ part.start ∧ part.stop ≤ region.stop ∨
          Text.InkBetween text part.stop region.start ∨
          Text.InkBetween text region.stop part.start := by
      intro isPart
      have bounds : grown.start ≤ part.start ∧ part.stop ≤ grown.stop := by
        rcases isPart with rfl | rfl <;> omega
      rcases merged.fenced grown (by simp) with inside | ink | ink
      · exact .inl (by omega)
      · exact .inr (.inl (ink.mono (by omega) (Nat.le_refl _)))
      · exact .inr (.inr (ink.mono (Nat.le_refl _) (by omega)))
    rcases List.mem_cons.mp member with same | member
    · exact inGrown (.inl same)
    · rcases List.mem_cons.mp member with same | member
      · exact inGrown (.inr same)
      · exact merged.fenced part (by simp [member])
  · rintro low high ⟨⟨left, inLeft, before, ends⟩, ⟨right, inRight, begins⟩, furthest⟩ above below
    -- The gap is the one between the two parts, or it lies behind both.
    by_cases behind : span.start < high
    · have reach := furthest current (by simp) (by omega)
      have reach' := furthest span (by simp) behind
      apply merged.joined low high _ above below
      refine ⟨?_, ?_, ?_⟩
      · rcases List.mem_cons.mp inLeft with rfl | inLeft
        · exact ⟨grown, by simp, by omega, by omega⟩
        · rcases List.mem_cons.mp inLeft with rfl | inLeft
          · exact ⟨grown, by simp, by omega, by omega⟩
          · exact ⟨left, by simp [inLeft], before, ends⟩
      · refine ⟨right, ?_, begins⟩
        rcases List.mem_cons.mp inRight with rfl | inRight
        · omega
        · rcases List.mem_cons.mp inRight with rfl | inRight
          · omega
          · simp [inRight]
      · intro other member front
        rcases List.mem_cons.mp member with rfl | member
        · omega
        · exact furthest other (by simp [member]) front
    · -- Only the first part starts to the left of the gap, so the gap begins where that part ends.
      have only : left = current := by
        rcases List.mem_cons.mp inLeft with same | inLeft
        · exact same
        · rcases List.mem_cons.mp inLeft with rfl | inLeft
          · omega
          · have := later left inLeft
            omega
      have top : high = span.start := by
        rcases List.mem_cons.mp inRight with rfl | inRight
        · subst only
          omega
        · rcases List.mem_cons.mp inRight with rfl | inRight
          · omega
          · have := later right inRight
            omega
      subst only
      rw [← ends, top]
      exact gap

/-- The first of the spans to come starts where they all start, or in front of that. -/
theorem starts_from (later : ∀ other ∈ rest, span.start ≤ other.start) :
    ∀ other ∈ span :: rest, span.start ≤ other.start := by
  intro other member
  rcases List.mem_cons.mp member with rfl | member
  · exact Nat.le_refl _
  · exact later other member

/-- The open region is merged once ink keeps the next span away from it. -/
theorem Merged.closed (later : ∀ other ∈ rest, span.start ≤ other.start)
    (before : current.start ≤ span.start) (fence : Text.InkBetween text current.stop span.start) :
    Merged text (current :: span :: rest) current := by
  obtain ⟨place, c, past, front, -⟩ := id fence
  have after := starts_from later
  refine ⟨⟨current, by simp, rfl⟩, ⟨current, by simp, rfl⟩, ?_, ?_⟩
  · intro other member
    rcases List.mem_cons.mp member with rfl | member
    · exact .inl ⟨Nat.le_refl _, Nat.le_refl _⟩
    · exact .inr (.inr (fence.mono (Nat.le_refl _) (after other member)))
  · rintro low high ⟨⟨left, inLeft, early, -⟩, ⟨right, inRight, begins⟩, -⟩ above below
    -- No span but the first one starts inside it, so there is no gap.
    have ordered := current.ordered
    rcases List.mem_cons.mp inRight with rfl | inRight
    · rcases List.mem_cons.mp inLeft with rfl | inLeft
      · omega
      · have := after left inLeft
        omega
    · have := after right inRight
      omega

/-- A region that later spans merge into stays merged with a span in front of them that ink keeps
away. -/
theorem Merged.cons {region : Span} (later : ∀ other ∈ rest, span.start ≤ other.start)
    (before : current.start ≤ span.start) (fence : Text.InkBetween text current.stop span.start)
    (merged : Merged text (span :: rest) region) :
    Merged text (current :: span :: rest) region := by
  obtain ⟨place, c, past, front, -⟩ := id fence
  have after := starts_from later
  -- The region starts with one of the later spans, so the ink stands in front of it.
  obtain ⟨first, inFirst, starts⟩ := merged.starts
  have low : span.start ≤ region.start := by
    have := after first inFirst
    omega
  refine ⟨⟨first, List.mem_cons_of_mem _ inFirst, starts⟩, ?_, ?_, ?_⟩
  · obtain ⟨last, inLast, stops⟩ := merged.stops
    exact ⟨last, List.mem_cons_of_mem _ inLast, stops⟩
  · intro other member
    rcases List.mem_cons.mp member with rfl | member
    · exact .inr (.inl (fence.mono (Nat.le_refl _) low))
    · exact merged.fenced other member
  · rintro bottom high ⟨⟨left, inLeft, early, ends⟩, ⟨right, inRight, begins⟩, furthest⟩ above below
    apply merged.joined bottom high _ above below
    have ordered := current.ordered
    -- The span in front ends before the region, so it does not bound a gap inside it.
    have among : left ∈ span :: rest := by
      rcases List.mem_cons.mp inLeft with rfl | inLeft
      · omega
      · exact inLeft
    refine ⟨⟨left, among, early, ends⟩, ⟨right, ?_, begins⟩, ?_⟩
    · rcases List.mem_cons.mp inRight with rfl | inRight
      · have := after left among
        omega
      · exact inRight
    · intro other member front
      exact furthest other (List.mem_cons_of_mem _ member) front

/-- One step of the fold: the open region grows over the next span, or it is closed because ink keeps
that span away. -/
theorem mergeFrom_cons (text : Text) (current span : Span) (rest : List Span) :
    (∃ grown : Span, grown.start = current.start ∧ grown.stop = max current.stop span.stop ∧
      Text.BlankBetween text current.stop span.start ∧
      mergeFrom text current (span :: rest) = mergeFrom text grown rest) ∨
    Text.InkBetween text current.stop span.start ∧
      mergeFrom text current (span :: rest) = current :: mergeFrom text span rest := by
  have ordered := current.ordered
  -- The text between the two spans is blank or holds ink, and that is all the fold asks.
  by_cases blank : Text.allBlank (Text.slice text current.stop span.start) = true
  · left
    refine ⟨⟨current.start, max current.stop span.stop, by omega⟩, rfl, rfl,
      Text.allBlank_slice_iff.mp blank, ?_⟩
    simp only [mergeFrom, if_pos blank]
  · right
    refine ⟨?_, by simp only [mergeFrom, if_neg blank]⟩
    rwa [Text.inkBetween_iff_not_blank, ← Text.allBlank_slice_iff]

/-- A region that grows keeps its start, so the spans to come still start behind it. -/
theorem sorted_of_grown {grown : Span} (starts : grown.start = current.start)
    (sorted : (current :: span :: rest).Pairwise fun a b => a.start ≤ b.start) :
    (grown :: rest).Pairwise fun a b => a.start ≤ b.start := by
  obtain ⟨first, second⟩ := List.pairwise_cons.mp sorted
  refine List.pairwise_cons.mpr ⟨?_, (List.pairwise_cons.mp second).2⟩
  intro other member
  rw [starts]
  exact first other (by simp [member])

end Fold

/-- Whatever the fold gives is a merged region. -/
theorem merged_of_mem_mergeFrom {text : Text} {current region : Span} {spans : List Span}
    (sorted : (current :: spans).Pairwise fun a b => a.start ≤ b.start)
    (member : region ∈ mergeFrom text current spans) : Merged text (current :: spans) region := by
  -- The open region counts as a span of its own, so that it may grow from step to step.
  induction spans generalizing current with
  | nil =>
    obtain rfl : region = current := by simpa [mergeFrom] using member
    refine ⟨⟨region, by simp, rfl⟩, ⟨region, by simp, rfl⟩, ?_, ?_⟩
    · intro span inSpans
      obtain rfl := List.mem_singleton.mp inSpans
      exact .inl ⟨Nat.le_refl _, Nat.le_refl _⟩
    · rintro low high ⟨⟨left, inLeft, early, -⟩, ⟨right, inRight, begins⟩, -⟩
      obtain rfl := List.mem_singleton.mp inLeft
      obtain rfl := List.mem_singleton.mp inRight
      omega
  | cons span rest ih =>
    obtain ⟨first, second⟩ := List.pairwise_cons.mp sorted
    obtain ⟨later, -⟩ := List.pairwise_cons.mp second
    have before := first span (by simp)
    rcases mergeFrom_cons text current span rest with
      ⟨grown, starts, stops, gap, shape⟩ | ⟨fence, shape⟩
    · rw [shape] at member
      exact Merged.of_joined sorted gap starts stops (ih (sorted_of_grown starts sorted) member)
    · rw [shape] at member
      rcases List.mem_cons.mp member with rfl | member
      · exact Merged.closed later before fence
      · exact Merged.cons later before fence (ih second member)

/-- The fold loses no span, not even an empty one. -/
theorem mergeFrom_holds (text : Text) {current span : Span} {spans : List Span}
    (sorted : (current :: spans).Pairwise fun a b => a.start ≤ b.start)
    (member : span ∈ current :: spans) :
    ∃ region ∈ mergeFrom text current spans, region.start ≤ span.start ∧ span.stop ≤ region.stop := by
  -- The grown region stands for both of its parts, so the span looked for varies too.
  induction spans generalizing current span with
  | nil =>
    obtain rfl := List.mem_singleton.mp member
    exact ⟨span, by simp [mergeFrom], Nat.le_refl _, Nat.le_refl _⟩
  | cons next rest ih =>
    obtain ⟨first, second⟩ := List.pairwise_cons.mp sorted
    have before := first next (by simp)
    rcases mergeFrom_cons text current next rest with
      ⟨grown, starts, stops, -, shape⟩ | ⟨-, shape⟩
    · rw [shape]
      have sorted' := sorted_of_grown starts sorted
      -- Both parts of the grown region are inside it, and the others come later.
      by_cases inRest : span ∈ rest
      · exact ih sorted' (List.mem_cons_of_mem _ inRest)
      · have part : span = current ∨ span = next := by simpa [inRest] using member
        obtain ⟨region, found, low, high⟩ := ih sorted' (List.mem_cons_self ..)
        rcases part with rfl | rfl
        · exact ⟨region, found, by omega, by omega⟩
        · exact ⟨region, found, by omega, by omega⟩
    · rw [shape]
      rcases List.mem_cons.mp member with rfl | member
      · exact ⟨span, List.mem_cons_self .., Nat.le_refl _, Nat.le_refl _⟩
      · obtain ⟨region, found, bounds⟩ := ih second member
        exact ⟨region, List.mem_cons_of_mem _ found, bounds⟩

/-- What merging means does not depend on the order of the spans. -/
theorem Merged.perm {text : Text} {spans others : List Span} {region : Span}
    (perm : spans.Perm others) (merged : Merged text spans region) : Merged text others region := by
  have same : ∀ span, span ∈ spans ↔ span ∈ others := fun span => perm.mem_iff
  obtain ⟨⟨first, inFirst, starts⟩, ⟨last, inLast, stops⟩, fenced, joined⟩ := merged
  refine ⟨⟨first, (same _).mp inFirst, starts⟩, ⟨last, (same _).mp inLast, stops⟩,
    fun span member => fenced span ((same _).mpr member), ?_⟩
  rintro low high ⟨⟨left, inLeft, ends⟩, ⟨right, inRight, begins⟩, furthest⟩
  exact joined low high ⟨⟨left, (same _).mpr inLeft, ends⟩, ⟨right, (same _).mpr inRight, begins⟩,
    fun span member => furthest span ((same _).mp member)⟩

/-- The sorted spans merge into exactly the merged regions. -/
theorem mem_merge_iff {text : Text} {spans : List Span} {region : Span} :
    region ∈ merge text (spans.mergeSort Span.precedes) ↔ Merged text spans region := by
  have starts := mergeSort_starts spans
  have perm := List.mergeSort_perm spans Span.precedes
  cases sorted : spans.mergeSort Span.precedes with
  | nil =>
    rw [sorted] at perm
    constructor
    · intro member
      simp [merge] at member
    · intro merged
      obtain ⟨span, member, -⟩ := merged.starts
      rw [perm.symm.eq_nil] at member
      simp at member
  | cons first rest =>
    rw [sorted] at perm starts
    constructor
    · exact fun member => (merged_of_mem_mergeFrom starts member).perm perm
    · intro merged
      -- The fold has a region that holds the first span of this one, and there is only one.
      obtain ⟨span, member, begins⟩ := merged.starts
      obtain ⟨other, found, inside⟩ := mergeFrom_holds text starts (perm.mem_iff.mpr member)
      have whole := merged.holds member (by omega) (by have := region.ordered; omega)
      have same := merged.unique ((merged_of_mem_mergeFrom starts found).perm perm)
        (show region.start ≤ span.start ∧ span.stop ≤ region.stop from ⟨by omega, whole⟩) inside
      rw [same]
      exact found

/-- Every span lies in a merged region. -/
theorem exists_merged (text : Text) {spans : List Span} {span : Span} (member : span ∈ spans) :
    ∃ region, Merged text spans region ∧ region.start ≤ span.start ∧ span.stop ≤ region.stop := by
  -- The fold loses no span, and whatever it gives is a merged region.
  obtain ⟨first, rest, perm, sorted, -⟩ := regions_eq text (List.ne_nil_of_mem member)
  obtain ⟨region, found, inside⟩ := mergeFrom_holds text sorted (perm.mem_iff.mp member)
  exact ⟨region, (merged_of_mem_mergeFrom sorted found).perm perm.symm, inside⟩

/-- A blank gap lies in a merged region. -/
theorem merged_of_gap {text : Text} {spans : List Span} {low high : Nat}
    (gap : Span.Gap spans low high) (blank : Text.BlankBetween text low high) :
    ∃ region, Merged text spans region ∧ region.start ≤ low ∧ high ≤ region.stop := by
  obtain ⟨last, inLast, before, rfl⟩ := gap.ends
  obtain ⟨next, inNext, rfl⟩ := gap.starts
  obtain ⟨region, merged, starts, stops⟩ := exists_merged text inLast
  have ordered := last.ordered
  refine ⟨region, merged, by omega, ?_⟩
  -- If the region stopped in front of the next span, the ink between them would stand in the gap.
  by_contra short
  have ink := merged.behind inNext (by omega)
  exact Text.inkBetween_iff_not_blank.mp (ink.mono stops (Nat.le_refl _)) blank

end Draft

end ImportOrder
