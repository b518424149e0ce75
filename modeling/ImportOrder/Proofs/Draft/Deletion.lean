import ImportOrder.Proofs.Draft.Merging
import ImportOrder.Proofs.Draft.Removal

/-! Which characters a cut deletes: those of the spans, blank gaps between them, and what is left of
a line that a merged region starts. -/

namespace ImportOrder

namespace Text

/-- As many characters are kept as there are offsets to keep. -/
theorem length_keepWhere (keep : Nat → Bool) (text : Text) :
    (text.keepWhere keep 0).length = (List.range text.length).countP keep := by
  rw [keepWhere, List.length_map, ← List.countP_eq_length_filter, List.range_eq_range',
    ← List.zipIdx_map_snd 0 text, List.countP_map]
  rfl

/-- A line break with what follows it: a carriage return takes its line feed along. -/
def BreakBefore (mark behind : Text) : Prop :=
  mark = ['\r', '\n'] ∨ mark = ['\n'] ∨ mark = ['\r'] ∧ behind.head? ≠ some '\n'

/-- The rest of a line that holds nothing else: spaces and tabs up to the end of the text, or up to a
line break, which is part of it. -/
def BlankLineRest (text : Text) (stop : Nat) (tail : Text) : Prop :=
  ∃ blanks, (∀ c ∈ blanks, isInlineBlank c = true) ∧
    (text.drop stop = blanks ∧ tail = blanks ∨
      ∃ mark behind, BreakBefore mark behind ∧ text.drop stop = blanks ++ (mark ++ behind) ∧
        tail = blanks ++ mark)

/-- A text starts with a line break of some width exactly when it falls into that break and a rest. -/
theorem leadingBreak?_eq_some_iff {text : Text} {width : Nat} :
    leadingBreak? text = some width ↔
      ∃ mark behind, BreakBefore mark behind ∧ text = mark ++ behind ∧ width = mark.length := by
  constructor
  · -- The cases are those of the definition, the pair of two characters first.
    intro found
    unfold leadingBreak? at found
    split at found
    · cases found
      exact ⟨['\r', '\n'], _, .inl rfl, rfl, rfl⟩
    · cases found
      exact ⟨['\n'], _, .inr (.inl rfl), rfl, rfl⟩
    · rename_i rest alone
      cases found
      -- A line feed behind the carriage return would have made the first case.
      refine ⟨['\r'], rest, .inr (.inr ⟨rfl, ?_⟩), rfl, rfl⟩
      intro feed
      cases rest with
      | nil => simp at feed
      | cons c rest =>
        obtain rfl : c = '\n' := by simpa using feed
        exact alone _ rfl
    · cases found
  · rintro ⟨mark, behind, rfl | rfl | ⟨rfl, alone⟩, rfl, rfl⟩
    · rfl
    · rfl
    · cases behind with
      | nil => rfl
      | cons c rest =>
        have other : c ≠ '\n' := by simpa using alone
        simp [leadingBreak?, other]

/-- What stands behind a run of spaces and tabs that a line break ends. -/
theorem BreakBefore.behind_blanks {mark behind blanks : Text} (isBreak : BreakBefore mark behind)
    (inlineBlank : ∀ c ∈ blanks, isInlineBlank c = true) :
    (blanks ++ (mark ++ behind)).takeWhile isInlineBlank = blanks ∧
      (blanks ++ (mark ++ behind)).dropWhile isInlineBlank = mark ++ behind := by
  -- A line break is no space and no tab, so the run stops in front of it.
  have stops : (mark ++ behind).takeWhile isInlineBlank = [] ∧
      (mark ++ behind).dropWhile isInlineBlank = mark ++ behind := by
    rcases isBreak with rfl | rfl | ⟨rfl, -⟩ <;> exact ⟨rfl, rfl⟩
  rw [List.takeWhile_append_of_pos inlineBlank, List.dropWhile_append_of_pos inlineBlank, stops.1,
    stops.2, List.append_nil]
  exact ⟨rfl, rfl⟩

end Text

namespace Draft

/-- Where the rest of a line is blank, the line ends behind it. -/
theorem lineEnd_of_blankLineRest {text tail : Text} {stop : Nat}
    (rest : Text.BlankLineRest text stop tail) : lineEnd text stop = stop + tail.length := by
  -- The rest of the line is a run of spaces and tabs, and the two cases tell what stands behind the
  -- run.
  rw [lineEnd_eq]
  obtain ⟨blanks, inlineBlank, ⟨whole, rfl⟩ | ⟨mark, behind, isBreak, whole, rfl⟩⟩ := rest
  · -- The run reaches the end of the text.
    have size := congrArg List.length whole
    rw [List.length_drop] at size
    have nothing := @List.dropWhile_append_of_pos _ _ _ [] inlineBlank
    rw [List.append_nil] at nothing
    rw [whole, nothing]
    show max stop text.length = _
    omega
  · -- The run reaches a line break, which is taken along.
    obtain ⟨run, behindRun⟩ := isBreak.behind_blanks inlineBlank
    have width := Text.leadingBreak?_eq_some_iff.mpr ⟨mark, behind, isBreak, rfl, rfl⟩
    rw [whole, behindRun, run]
    split
    · rename_i nothing
      rw [nothing] at width
      cases width
    · rw [width, List.length_append]
      exact Nat.add_assoc ..

/-- A region that grows over the rest of its line grows over a blank one. -/
theorem exists_blankLineRest {text : Text} {stop : Nat} (grows : stop < lineEnd text stop) :
    ∃ tail, Text.BlankLineRest text stop tail := by
  rw [lineEnd_eq] at grows
  have whole := List.takeWhile_append_dropWhile (p := isInlineBlank) (l := text.drop stop)
  have inlineBlank : ∀ c ∈ (text.drop stop).takeWhile isInlineBlank, isInlineBlank c = true :=
    fun c member => List.all_eq_true.mp List.all_takeWhile c member
  -- Growing needs a run that reaches the end of the text or a line break; otherwise the line ends
  -- where the region does.
  split at grows
  · rename_i nothing
    rw [nothing, List.append_nil] at whole
    exact ⟨_, _, inlineBlank, .inl ⟨whole.symm, rfl⟩⟩
  · split at grows
    · rename_i width found
      obtain ⟨mark, behind, isBreak, shape, -⟩ := Text.leadingBreak?_eq_some_iff.mp found
      rw [shape] at whole
      exact ⟨_, _, inlineBlank, .inr ⟨mark, behind, isBreak, whole.symm, rfl⟩⟩
    · omega

/-- The offsets that a cut of spans takes. A span covers them; or they lie in a gap that is blank
from the furthest end of the spans to its left up to the start of the next one; or they belong to
the blank rest of a line behind a merged region that starts its line. -/
inductive Deleted (text : Text) (spans : List Span) (place : Nat) : Prop
  | inSpan (span : Span) (member : span ∈ spans) (low : span.start ≤ place)
      (high : place < span.stop)
  | inGap (start stop : Nat) (gap : Span.Gap spans start stop)
      (blank : Text.BlankBetween text start stop) (low : start ≤ place) (high : place < stop)
  | inLineRest (region : Span) (tail : Text) (merged : Merged text spans region)
      (begins : beginsLine text region.start = true)
      (rest : Text.BlankLineRest text region.stop tail) (low : region.stop ≤ place)
      (high : place < region.stop + tail.length)

/-- A region of the cut holds every offset of a merged region, and those of the blank rest of its
line. -/
theorem regions_cover_merged {text : Text} {spans : List Span} {region : Span} {place : Nat}
    (merged : Merged text spans region) (low : region.start ≤ place)
    (high : place < (extend text region).stop) :
    Span.anyCovers (regions text spans) place = true := by
  -- A merged region is grown into a region of the cut, which starts where it does.
  apply Span.anyCovers_iff.mpr
  refine ⟨extend text region, List.mem_map_of_mem (mem_merge_iff.mpr merged), ?_⟩
  exact Span.covers_iff.mpr ⟨by rwa [extend_start], high⟩

/-- The regions of a cut cover exactly the offsets that it deletes. -/
theorem regions_cover_iff {text : Text} {spans : List Span} {place : Nat} :
    Span.anyCovers (regions text spans) place = true ↔ Deleted text spans place := by
  constructor
  · -- A covered offset lies in a merged region or in what that region has grown by.
    intro covered
    obtain ⟨grown, member, inside⟩ := Span.anyCovers_iff.mp covered
    obtain ⟨region, found, rfl⟩ := List.mem_map.mp member
    have merged := mem_merge_iff.mp found
    obtain ⟨low, high⟩ := Span.covers_iff.mp inside
    rw [extend_start] at low
    by_cases core : place < region.stop
    · -- Inside the merged region there are spans and blank gaps.
      rcases merged.covered low core with ⟨span, member, bounds⟩ | ⟨start, stop, gap, blank, bounds⟩
      · exact .inSpan span member bounds.1 bounds.2
      · exact .inGap start stop gap blank bounds.1 bounds.2
    · -- Behind it the region has grown, which it does at the start of a line only.
      have begins : beginsLine text region.start = true := by
        by_contra inLine
        rw [extend_of_not_begins (Bool.not_eq_true _ ▸ inLine)] at high
        exact core high
      rw [extend_stop_of_begins begins] at high
      obtain ⟨tail, rest⟩ :=
        exists_blankLineRest (show region.stop < lineEnd text region.stop by omega)
      rw [lineEnd_of_blankLineRest rest] at high
      exact .inLineRest region tail merged begins rest (by omega) high
  · rintro (⟨span, member, low, high⟩ | ⟨start, stop, gap, blank, low, high⟩ |
      ⟨region, tail, merged, begins, rest, low, high⟩)
    · exact regions_covers
        (Span.anyCovers_iff.mpr ⟨span, member, Span.covers_iff.mpr ⟨low, high⟩⟩)
    · -- The merged region of the span in front of the gap goes on behind the gap.
      obtain ⟨region, merged, below, above⟩ := merged_of_gap gap blank
      have grows := le_extend_stop text region
      exact regions_cover_merged merged (by omega) (by omega)
    · have ordered := region.ordered
      refine regions_cover_merged merged (by omega) ?_
      rw [extend_stop_of_begins begins, lineEnd_of_blankLineRest rest]
      exact high

/-- Cutting spans inside a draft leaves what stands outside the regions. -/
theorem remove_eq_outside {draft : Draft} {spans : List Span}
    (inside : ∀ span ∈ spans, span.stop ≤ draft.text.length) :
    ∃ rest : Draft, draft.remove spans = .ok rest ∧
      rest.text = draft.text.outside (regions draft.text spans) := by
  by_cases none : spans = []
  · -- Without spans there are no regions, and the draft is left alone.
    subst none
    have whole : draft.text.outside [] = draft.text :=
      Text.keepWhere_eq_self fun _ _ _ => by simp [Span.anyCovers]
    exact ⟨draft, by simp [remove, run_cutOut, regions, merge],
      by simpa [regions, merge] using whole.symm⟩
  · exact ⟨_, remove_eq_ok inside none, keepFrom_regions draft.text spans⟩

/-- Spans inside a draft can always be cut. What is left holds, in their order, exactly the
characters whose offsets are not deleted; its length is their number, and the cut in place tells that
number. What is cut are regions in ascending order that do not touch. -/
theorem remove_exact (draft : Draft) (spans : List Span)
    (inside : ∀ span ∈ spans, span.stop ≤ draft.length) :
    ∃ rest : Draft, draft.remove spans = .ok rest ∧
      (∃ keep : Nat → Bool, (∀ place, keep place = false ↔ Deleted draft.text spans place) ∧
        rest.text = draft.text.keepWhere keep 0 ∧
        rest.length = (List.range draft.length).countP keep ∧
        (cutOut spans).run draft = (.ok ((List.range draft.length).countP keep), rest)) ∧
      rest.text = draft.text.outside (regions draft.text spans) ∧
      (regions draft.text spans).Pairwise (fun a b => a.stop < b.start) ∧
      (∀ region ∈ regions draft.text spans, region.stop ≤ draft.length) := by
  have ascending := (regions_fenced draft.text spans).ascending
  have bounded : ∀ region ∈ regions draft.text spans, region.stop ≤ draft.length :=
    fun region member => regions_stop_le inside member
  -- An offset is kept if no region covers it.
  have kept : ∀ place, (!Span.anyCovers (regions draft.text spans) place) = false ↔
      Deleted draft.text spans place := by
    intro place
    rw [Bool.not_eq_false', regions_cover_iff]
  -- The number comes from what is left: its length counts the offsets that are kept.
  obtain ⟨rest, done, outside⟩ := remove_eq_outside inside
  have count : rest.length = (List.range draft.length).countP
      fun place => !Span.anyCovers (regions draft.text spans) place := by
    rw [length, outside]
    exact Text.length_keepWhere _ _
  refine ⟨rest, done, ⟨_, kept, outside, count, ?_⟩, outside, ascending, bounded⟩
  rw [← count]
  exact run_cutOut_of_remove done

/-- Two lines and a bit of a third. -/
def lines : Draft := ⟨"ab\r\n c \r\nxde".toList, false⟩

/-- Spans that overlap, repeat and touch, one of them empty, in no order. -/
def tangle : List Span :=
  [⟨5, 6, by decide⟩, ⟨0, 2, by decide⟩, ⟨1, 2, by decide⟩, ⟨0, 2, by decide⟩, ⟨10, 10, by decide⟩,
    ⟨10, 11, by decide⟩]

/-- The first two lines go with the line break between them and the blanks behind them, and of the
last line one character. -/
theorem remove_exact_tangle :
    (∀ span ∈ tangle, span.stop ≤ lines.length) ∧
    ∃ rest : Draft, lines.remove tangle = .ok rest ∧
      ∃ keep : Nat → Bool, (∀ place, keep place = false ↔ Deleted lines.text tangle place) ∧
        rest.text = lines.text.keepWhere keep 0 ∧
        (cutOut tangle).run lines = (.ok ((List.range lines.length).countP keep), rest) := by
  refine ⟨by decide, ?_⟩
  obtain ⟨rest, done, ⟨keep, exactly, kept, -, told⟩, -⟩ := remove_exact lines tangle (by decide)
  exact ⟨rest, done, keep, exactly, kept, told⟩

end Draft

end ImportOrder
