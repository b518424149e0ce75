import ImportOrder.Proofs.Draft.Deletion
import Mathlib.Data.List.Sort

/-! A cut depends on nothing but what its spans cover: their order, repetitions and spans inside other
spans make no difference. -/

namespace ImportOrder

namespace Span

/-- A span that lies in another one. -/
def Within (part whole : Span) : Prop := whole.start ≤ part.start ∧ part.stop ≤ whole.stop

/-- A list of spans made from another one by changing the order, by repeating a span, and by adding a
span that lies in one of the list, as often as one likes. -/
inductive Recast : List Span → List Span → Prop
  | perm {spans others : List Span} (perm : spans.Perm others) : Recast spans others
  | again {spans : List Span} {span : Span} (member : span ∈ spans) : Recast spans (span :: spans)
  | inner {spans : List Span} {part whole : Span} (member : whole ∈ spans)
      (within : part.Within whole) : Recast spans (part :: spans)
  | trans {spans others more : List Span} (first : Recast spans others)
      (second : Recast others more) : Recast spans more

/-- Lists of spans that reach equally far: every span of one lies in a span of the other. -/
structure Alike (spans others : List Span) : Prop where
  left : ∀ span ∈ spans, ∃ other ∈ others, span.Within other
  right : ∀ other ∈ others, ∃ span ∈ spans, other.Within span

theorem Within.refl (span : Span) : span.Within span := ⟨Nat.le_refl _, Nat.le_refl _⟩

theorem Within.trans {a b c : Span} (first : a.Within b) (second : b.Within c) : a.Within c :=
  ⟨Nat.le_trans second.1 first.1, Nat.le_trans first.2 second.2⟩

theorem Alike.symm {spans others : List Span} (alike : Alike spans others) : Alike others spans :=
  ⟨alike.right, alike.left⟩

/-- A span that lies in one of a list adds nothing to it. -/
theorem Alike.inner {spans : List Span} {part whole : Span} (member : whole ∈ spans)
    (within : part.Within whole) : Alike spans (part :: spans) := by
  refine ⟨fun span inSpans => ⟨span, List.mem_cons_of_mem _ inSpans, .refl span⟩, ?_⟩
  intro other inOthers
  rcases List.mem_cons.mp inOthers with rfl | inSpans
  · exact ⟨whole, member, within⟩
  · exact ⟨other, inSpans, .refl other⟩

/-- A list made from another one reaches as far. -/
theorem Recast.alike {spans others : List Span} (recast : Recast spans others) :
    Alike spans others := by
  induction recast with
  | perm perm =>
    exact ⟨fun span member => ⟨span, perm.mem_iff.mp member, .refl span⟩,
      fun other member => ⟨other, perm.mem_iff.mpr member, .refl other⟩⟩
  | again member => exact .inner member (.refl _)
  | inner member within => exact .inner member within
  | trans first second alike alike' =>
    -- What lies in a span of the middle list lies in a span of either end.
    constructor
    · intro span member
      obtain ⟨middle, inMiddle, within⟩ := alike.left span member
      obtain ⟨other, inOthers, within'⟩ := alike'.left middle inMiddle
      exact ⟨other, inOthers, within.trans within'⟩
    · intro other member
      obtain ⟨middle, inMiddle, within⟩ := alike'.right other member
      obtain ⟨span, inSpans, within'⟩ := alike.right middle inMiddle
      exact ⟨span, inSpans, within.trans within'⟩

/-- Lists that reach equally far have the same gaps, where there is anything in them. -/
theorem Gap.alike {spans others : List Span} (alike : Alike spans others) {low high : Nat}
    (open_gap : low < high) (gap : Gap others low high) : Gap spans low high := by
  -- A span that starts in front of the gap lies in one of the other list that ends there too.
  have furthest : ∀ span ∈ spans, span.start < high → span.stop ≤ low := by
    intro span member before
    obtain ⟨other, inOthers, within⟩ := alike.left span member
    have bound := gap.furthest other inOthers (Nat.lt_of_le_of_lt within.1 before)
    exact Nat.le_trans within.2 bound
  refine ⟨?_, ?_, furthest⟩
  · obtain ⟨other, inOthers, before, ends⟩ := gap.ends
    obtain ⟨span, member, within⟩ := alike.right other inOthers
    -- It ends no earlier than what it holds, and no later than the gap begins.
    have start := Nat.lt_of_le_of_lt within.1 before
    have bound := furthest span member start
    exact ⟨span, member, start, Nat.le_antisymm bound (ends ▸ within.2)⟩
  · obtain ⟨other, inOthers, starts⟩ := gap.starts
    obtain ⟨span, member, within⟩ := alike.right other inOthers
    refine ⟨span, member, Nat.le_antisymm (starts ▸ within.1) ?_⟩
    -- A start inside the gap or in front of it would end the span in front of what it holds.
    by_contra early
    have bound := furthest span member (by omega)
    have ordered := other.ordered
    have reach := within.2
    omega

end Span

namespace Draft

/-- Lists of spans that reach equally far merge into the same regions. -/
theorem Merged.alike {text : Text} {spans others : List Span} {region : Span}
    (alike : Span.Alike spans others) (merged : Merged text spans region) :
    Merged text others region := by
  refine ⟨?_, ?_, ?_, ?_⟩
  · -- The first span lies in another one, and that in one again, which cannot start earlier.
    obtain ⟨first, member, starts⟩ := merged.starts
    obtain ⟨other, inOthers, within⟩ := alike.left first member
    obtain ⟨span, inSpans, within'⟩ := alike.right other inOthers
    refine ⟨other, inOthers, Nat.le_antisymm (starts ▸ within.1) ?_⟩
    by_contra early
    have start := within'.1
    obtain ⟨place, c, past, before, -⟩ := merged.before inSpans (by omega)
    have reach := within.2
    have reach' := within'.2
    have ordered := first.ordered
    omega
  · obtain ⟨last, member, stops⟩ := merged.stops
    obtain ⟨other, inOthers, within⟩ := alike.left last member
    obtain ⟨span, inSpans, within'⟩ := alike.right other inOthers
    refine ⟨other, inOthers, Nat.le_antisymm ?_ (stops ▸ within.2)⟩
    -- What holds the last span starts in the region or in front of it, so it ends with the region.
    have start := within.1
    have start' := within'.1
    have reach := within.2
    have reach' := within'.2
    have ordered := last.ordered
    by_cases early : span.start < region.start
    · obtain ⟨place, c, past, before, -⟩ := merged.before inSpans early
      have ordered' := region.ordered
      omega
    · have bound := merged.holds inSpans (by omega) (by omega)
      omega
  · -- A span is where the one is that holds it.
    intro other inOthers
    obtain ⟨span, member, within⟩ := alike.right other inOthers
    rcases merged.fenced span member with inside | ink | ink
    · exact .inl ⟨Nat.le_trans inside.1 within.1, Nat.le_trans within.2 inside.2⟩
    · exact .inr (.inl (ink.mono within.2 (Nat.le_refl _)))
    · exact .inr (.inr (ink.mono (Nat.le_refl _) within.1))
  · intro low high gap above below
    by_cases open_gap : low < high
    · exact merged.joined low high (gap.alike alike open_gap) above below
    · -- A gap that ends before it begins holds nothing.
      intro place c past before
      omega

/-- Regions in ascending order are known by their members. -/
theorem eq_of_ascending {regions others : List Span}
    (ascending : regions.Pairwise fun a b => a.stop < b.start)
    (ascending' : others.Pairwise fun a b => a.stop < b.start)
    (same : ∀ region, region ∈ regions ↔ region ∈ others) : regions = others := by
  -- A region that comes in front of another one is not behind it, nor in front of itself.
  have irrefl : Std.Irrefl fun a b : Span => a.stop < b.start :=
    ⟨fun span => Nat.not_lt.mpr span.ordered⟩
  have antisymm : Std.Antisymm fun a b : Span => a.stop < b.start := by
    refine ⟨fun a b before behind => ?_⟩
    have first := a.ordered
    have second := b.ordered
    omega
  exact ascending.eq_of_mem_iff ascending' same

/-- Lists of spans that reach equally far are cut as the same regions. -/
theorem regions_alike (text : Text) {spans others : List Span} (alike : Span.Alike spans others) :
    regions text spans = regions text others := by
  refine eq_of_ascending (regions_fenced text spans).ascending
    (regions_fenced text others).ascending ?_
  intro region
  unfold regions
  rw [List.mem_map, List.mem_map]
  -- The regions before they grow are the merged ones, which are the same.
  simp only [mem_merge_iff]
  constructor
  · rintro ⟨merged, isMerged, grown⟩
    exact ⟨merged, isMerged.alike alike, grown⟩
  · rintro ⟨merged, isMerged, grown⟩
    exact ⟨merged, isMerged.alike alike.symm, grown⟩

/-- Lists of spans that reach equally far leave the same draft, if they end inside it. -/
theorem remove_alike {draft : Draft} {spans others : List Span}
    (inside : ∀ span ∈ spans, span.stop ≤ draft.length) (alike : Span.Alike spans others) :
    draft.remove others = draft.remove spans := by
  by_cases empty : spans = []
  · -- A list that reaches as far as no span at all is empty too.
    have none_left : others = [] := by
      rw [List.eq_nil_iff_forall_not_mem]
      intro other member
      obtain ⟨span, inSpans, -⟩ := alike.right other member
      rw [empty] at inSpans
      exact absurd inSpans (List.not_mem_nil)
    rw [empty, none_left]
  · obtain ⟨span, member⟩ := List.exists_mem_of_ne_nil spans empty
    obtain ⟨other, inOthers, -⟩ := alike.left span member
    have inside' : ∀ other ∈ others, other.stop ≤ draft.length := by
      intro other member
      obtain ⟨span, inSpans, within⟩ := alike.right other member
      exact Nat.le_trans within.2 (inside span inSpans)
    rw [remove_eq_ok inside empty, remove_eq_ok inside' (List.ne_nil_of_mem inOthers),
      regions_alike draft.text alike]

/-- A cut in place is refused because of a span that ends beyond the draft, and leaves the draft as
it was. -/
theorem run_cutOut_refused {draft : Draft} {spans : List Span}
    (beyond : ∃ span ∈ spans, draft.length < span.stop) :
    ∃ span ∈ spans, draft.length < span.stop ∧
      (cutOut spans).run draft = (.error (.spanOutside span draft.length), draft) := by
  -- The search goes through the same spans in another order.
  obtain ⟨span, member, past⟩ := beyond
  rw [run_cutOut]
  cases found : (spans.mergeSort Span.precedes).find? fun span => draft.length < span.stop with
  | none =>
    have none_past := List.find?_eq_none.mp found span (List.mem_mergeSort.mpr member)
    exact absurd (by simpa using past) none_past
  | some first =>
    exact ⟨first, List.mem_mergeSort.mp (List.mem_of_find?_eq_some found),
      by simpa using List.find?_some found, rfl⟩

/-- A cut in place depends on nothing but what its spans cover: a list made from theirs by changing
the order, by repeating spans and by adding spans inside others leaves the same draft and gives the
same length, or no length either. The cut is refused exactly if a span ends beyond the draft, with
that span named, and a refused cut leaves the draft as it was. -/
theorem cutOut_covered (draft : Draft) (spans : List Span) :
    (∀ others, Span.Recast spans others →
      ((cutOut others).run draft).2 = ((cutOut spans).run draft).2 ∧
        ((cutOut others).run draft).1.toOption = ((cutOut spans).run draft).1.toOption) ∧
    ((∃ refusal, ((cutOut spans).run draft).1 = .error refusal) ↔
      ∃ span ∈ spans, draft.length < span.stop) ∧
    ∀ refusal, ((cutOut spans).run draft).1 = .error refusal →
      ((cutOut spans).run draft).2 = draft ∧
        ∃ span ∈ spans, draft.length < span.stop ∧ refusal = .spanOutside span draft.length := by
  by_cases beyond : ∃ span ∈ spans, draft.length < span.stop
  · obtain ⟨span, member, past, refused⟩ := run_cutOut_refused beyond
    rw [refused]
    refine ⟨?_, ⟨fun _ => ⟨span, member, past⟩, fun _ => ⟨_, rfl⟩⟩, ?_⟩
    · intro others recast
      -- The span beyond the draft lies in one of the others, which ends beyond it too.
      obtain ⟨other, inOthers, within⟩ := recast.alike.left span member
      obtain ⟨_, _, _, refused'⟩ :=
        run_cutOut_refused ⟨other, inOthers, Nat.lt_of_lt_of_le past within.2⟩
      rw [refused']
      exact ⟨rfl, rfl⟩
    · intro refusal same
      exact ⟨rfl, span, member, past, (Except.error.inj same).symm⟩
  · have inside : ∀ span ∈ spans, span.stop ≤ draft.length := by
      intro span member
      exact Nat.not_lt.mp fun past => beyond ⟨span, member, past⟩
    obtain ⟨rest, removed, -⟩ := remove_eq_outside inside
    have done := run_cutOut_of_remove removed
    refine ⟨?_, ⟨?_, fun past => absurd past beyond⟩, ?_⟩
    · intro others recast
      have done' := run_cutOut_of_remove ((remove_alike inside recast.alike).trans removed)
      rw [done, done']
      exact ⟨rfl, rfl⟩
    · rintro ⟨refusal, refused⟩
      rw [done] at refused
      contradiction
    · intro refusal refused
      rw [done] at refused
      contradiction

/-- Two spans given in the other order, the longer one twice and a part of it besides, cut the same
two lines. -/
theorem cutOut_covered_lines :
    Span.Recast [⟨0, 2, by decide⟩, ⟨5, 6, by decide⟩]
      [⟨1, 2, by decide⟩, ⟨5, 6, by decide⟩, ⟨0, 2, by decide⟩, ⟨0, 2, by decide⟩] ∧
    ((cutOut [⟨1, 2, by decide⟩, ⟨5, 6, by decide⟩, ⟨0, 2, by decide⟩, ⟨0, 2, by decide⟩]).run
        lines).2 =
      ((cutOut [⟨0, 2, by decide⟩, ⟨5, 6, by decide⟩]).run lines).2 := by
  have recast : Span.Recast [⟨0, 2, by decide⟩, ⟨5, 6, by decide⟩]
      [⟨1, 2, by decide⟩, ⟨5, 6, by decide⟩, ⟨0, 2, by decide⟩, ⟨0, 2, by decide⟩] := by
    refine .trans (@Span.Recast.again _ ⟨0, 2, by decide⟩ (by simp)) ?_
    refine .trans (.perm ?_)
      (@Span.Recast.inner _ _ ⟨0, 2, by decide⟩ (by simp) ⟨by decide, by decide⟩)
    decide
  exact ⟨recast, ((cutOut_covered _ _).1 _ recast).1⟩

end Draft

end ImportOrder
